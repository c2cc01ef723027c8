import Mathlib.Data.List.FinRange
import Hysim.Lib.Gather
import Hysim.Lib.Refine
import Hysim.Decode
import Hysim.Shared

/-!
The bytes of a datagram with the pad state, as `telemetry_send_padstate` puts them together.

Headers and bodies are variables of the function and the message is an array of pointers to
them, two for each packet. What is gathered from there are the bytes of the packets, whatever
was on the stack before.
-/

namespace Hysim.PadMessage

open Hysim.Lib.Program Hysim.Lib.Gather Hysim.Lib.Refine Hysim.Packets Hysim.Actuators
open Hysim.State Hysim.Telemetry Hysim.Publish Hysim.Decode

/-! ### The function on its variables -/

inductive PadLoc
  | armHdr | armBody | connHdr | connBody
  | headers (i : ActIdx)
  | bodies (i : ActIdx)

/-- The variables of `telemetry_send_padstate`. Until they are set they hold anything. -/
structure PadVars where
  armHdr : HeaderP
  connHdr : HeaderP
  armBody : ArmStateP
  connBody : ConnStatusP
  headers : ActIdx → HeaderP
  bodies : ActIdx → ActStateP
  pkt : Fin ((numActuators + 2) * 2) → Iovec PadLoc

def PadVars.mem (v : PadVars) : PadLoc → List UInt8
  | .armHdr => v.armHdr.bytes
  | .armBody => (Packet.arm v.armBody).body
  | .connHdr => v.connHdr.bytes
  | .connBody => (Packet.conn v.connBody).body
  | .headers i => (v.headers i).bytes
  | .bodies i => (Packet.act (v.bodies i)).body

def headerEntry (i : ActIdx) : Fin ((numActuators + 2) * 2) := ⟨4 + i * 2, by omega⟩
def bodyEntry (i : ActIdx) : Fin ((numActuators + 2) * 2) := ⟨4 + i * 2 + 1, by omega⟩

/-- The packets of the arming level and of the connection status. -/
def PadVars.putState (v : PadVars) (timeMs : UInt32) (level status : CEnum) : PadVars :=
  { v with
    armHdr := packetHeaderInit .telem TelemSubtype.arm.val
    armBody := packetArmStateInit timeMs level
    connHdr := packetHeaderInit .telem TelemSubtype.conn.val
    connBody := packetConnInit timeMs status
    pkt := Function.update (Function.update (Function.update (Function.update v.pkt
      0 ⟨.armHdr, headerSize⟩) 1 ⟨.armBody, bodySize .arm⟩)
      2 ⟨.connHdr, headerSize⟩) 3 ⟨.connBody, bodySize .conn⟩ }

/-- One round of the loop over the actuators. -/
def PadVars.putAct (v : PadVars) (timeMs : UInt32) (i : ActIdx) (actState : Bool) : PadVars :=
  { v with
    headers := Function.update v.headers i (packetHeaderInit .telem TelemSubtype.act.val)
    bodies := Function.update v.bodies i
      (packetActStateInit (UInt8.ofNat i) timeMs actState)
    pkt := Function.update (Function.update v.pkt
      (headerEntry i) ⟨.headers i, headerSize⟩) (bodyEntry i) ⟨.bodies i, bodySize .act⟩ }

def putActs (timeMs : UInt32) : List ActIdx → PadVars → PadM PadVars
  | [], v => return v
  | i :: is, v => do
    let actState ← padstateGetActstate i
    putActs timeMs is (v.putAct timeMs i actState)

/-- `telemetry_send_padstate` up to the bytes it hands to `sendmsg`. -/
def padstateMessage (v : PadVars) : PadM (List UInt8) := do
  let timeMs ← clock
  let level ← padstateGetLevel
  let status ← padstateGetConnstatus
  let v ← putActs timeMs (List.finRange numActuators) (v.putState timeMs level status)
  return gather v.mem v.pkt ((numActuators + 2) * 2)

/-! ### What the message holds -/

/-- The variables that are set when `k` actuators are done. -/
def InUse (k : ℕ) : PadLoc → Prop
  | .headers i | .bodies i => i.1 < k
  | .armHdr | .armBody | .connHdr | .connBody => True

/-- The message so far: the packets of `k` actuators after the first two. -/
def Filled (k : ℕ) (v : PadVars) (ps : List Packet) : Prop :=
  Holds (InUse k) v.mem v.pkt (4 + k * 2) (encode ps)

lemma filled_putState (v : PadVars) (timeMs : UInt32) (level status : CEnum) :
    Filled 0 (v.putState timeMs level status)
      [.arm (packetArmStateInit timeMs level), .conn (packetConnInit timeMs status)] := by
  have hnone : Holds (InUse 0) (v.putState timeMs level status).mem v.pkt 0 [] := holds_zero
  have harm := hnone.pushTwo (by decide) (fun _ _ => rfl) (fun _ hl => hl)
    (v := ⟨.armHdr, headerSize⟩) (w := ⟨.armBody, bodySize .arm⟩) trivial trivial
  exact harm.pushTwo (by decide) (fun _ _ => rfl) (fun _ hl => hl)
    (v := ⟨.connHdr, headerSize⟩) (w := ⟨.connBody, bodySize .conn⟩) trivial trivial

lemma filled_putAct {i : ActIdx} {v : PadVars} {ps : List Packet} (h : Filled i v ps)
    (timeMs : UInt32) (actState : Bool) :
    Filled (i + 1) (v.putAct timeMs i actState)
      (ps ++ [.act (packetActStateInit (UInt8.ofNat i) timeMs actState)]) := by
  have hkeep : ∀ l, InUse i l → (v.putAct timeMs i actState).mem l = v.mem l := by
    intro l hl
    cases l with
    | headers j | bodies j =>
      -- what is in use belongs to earlier actuators
      have hne : j ≠ i := fun hji => absurd hl (by rw [hji]; exact lt_irrefl i.1)
      simp [PadVars.mem, PadVars.putAct, hne]
    | armHdr | armBody | connHdr | connBody => rfl
  have hmore : ∀ l, InUse i l → InUse (i + 1) l := by
    intro l hl
    cases l with
    | headers j | bodies j => exact Nat.lt_succ_of_lt hl
    | armHdr | armBody | connHdr | connBody => trivial
  have htwo := h.pushTwo (bodyEntry i).isLt hkeep hmore
    (v := ⟨.headers i, headerSize⟩) (w := ⟨.bodies i, bodySize .act⟩)
    (Nat.lt_succ_self _) (Nat.lt_succ_self _)
  have hbytes : (⟨.headers i, headerSize⟩ : Iovec PadLoc).bytes (v.putAct timeMs i actState).mem ++
      (⟨.bodies i, bodySize .act⟩ : Iovec PadLoc).bytes (v.putAct timeMs i actState).mem =
      Packet.bytes (.act (packetActStateInit (UInt8.ofNat i) timeMs actState)) := by
    simp [Iovec.bytes, PadVars.mem, PadVars.putAct]
    rfl
  have hcount : 4 + (i.1 + 1) * 2 = 4 + i.1 * 2 + 2 := by omega
  unfold Filled
  rw [encode_append, encode_cons, encode_nil, List.append_nil, hcount, ← hbytes]
  exact htwo

lemma putActs_refines (timeMs : UInt32) {k : ℕ} {v : PadVars} {ps : List Packet}
    (h : Filled k v ps) {is : List ActIdx} (his : is = (List.finRange numActuators).drop k)
    (hk : k ≤ numActuators) :
    Refines (fun v' qs => Filled numActuators v' (ps ++ qs)) (putActs timeMs is v)
      (actPackets timeMs is) := by
  induction is generalizing k v ps with
  | nil =>
    have hlen := congrArg List.length his
    rw [List.length_drop, List.length_finRange, List.length_nil] at hlen
    obtain rfl : k = numActuators := by omega
    exact .ret (by rwa [List.append_nil])
  | cons i is ih =>
    have hlen := congrArg List.length his
    rw [List.length_drop, List.length_finRange, List.length_cons] at hlen
    have hlt : k < numActuators := by omega
    rw [List.drop_eq_getElem_cons (by rwa [List.length_finRange])] at his
    obtain ⟨hi, his⟩ := List.cons.inj his
    obtain rfl : i.1 = k := by rw [hi, List.getElem_finRange]; rfl
    refine Refines.after (padstateGetActstate i) fun actState => ?_
    have hrest := ih (filled_putAct h timeMs actState) his hlt
    rw [← bind_pure (putActs timeMs is (v.putAct timeMs i actState))]
    refine hrest.bind fun v' qs hv => .pure ?_
    rwa [List.append_assoc] at hv

/-- `telemetry_send_padstate` up to the packets it sends. -/
def padstatePackets : PadM Datagram := do
  let timeMs ← clock
  let level ← padstateGetLevel
  let status ← padstateGetConnstatus
  let acts ← actPackets timeMs (List.finRange numActuators)
  return .arm (packetArmStateInit timeMs level) :: .conn (packetConnInit timeMs status) :: acts

lemma telemetrySendPadstate_eq : telemetrySendPadstate = padstatePackets >>= publish := by
  simp only [telemetrySendPadstate, padstatePackets, bind_assoc, pure_bind]

/-- **The arrays hold the packets.** Whatever is answered, and whatever was on the stack, the
bytes handed to `sendmsg` are those of the packets. -/
lemma padstateMessage_eq (v : PadVars) : padstateMessage v = encode <$> padstatePackets := by
  rw [← bind_pure_comp]
  simp only [padstateMessage, padstatePackets, bind_assoc, pure_bind]
  refine (Refines.after clock fun timeMs => Refines.after padstateGetLevel fun level =>
    Refines.after padstateGetConnstatus fun status => ?_).eq
  refine (putActs_refines timeMs (filled_putState v timeMs level status) rfl
    (Nat.zero_le _)).bind fun v' qs hv => .pure ?_
  exact hv.sends

/-! ### Sending an unchanging pad state -/

/-- A pad state that does not change, with every lock call succeeding. -/
def still (time : UInt32) : Device PadOp PadOp.Ans PadState where
  ans
    | .rdlock, _ | .wrlock, _ | .mutexLock, _ | .condSignal, _ | .condReacquire, _ => (0 : Int)
    | .drive _ _, _ => (0 : Int)
    | .loadLevel, pad => pad.armLevel
    | .loadConn, pad => pad.connStatus
    | .loadAct act, pad => (pad.actuators act).state
    | .loadUpdate, pad => pad.updateRecorded
    | .clock, _ => time
    | .rwUnlock, _ | .mutexUnlock, _ | .condRelease, _ | .storeLevel _, _ | .storeConn _, _
    | .storeAct _ _, _ | .storeUpdate _, _ | .publish _, _ => ()
  eff _ pad := pad

lemma run_actPackets (time : UInt32) (acts : List ActIdx) (pad : PadState) :
    run (still time) (actPackets time acts) pad = (acts.map (actPacket time pad), pad) := by
  induction acts with
  | nil => rfl
  | cons act acts ih =>
    simp only [actPackets, run_bind, padstateGetActstate, run_op]
    have heff : (still time).eff (PadOp.loadAct act) pad = pad := rfl
    rw [heff, ih]
    rfl

lemma run_padstatePackets (time : UInt32) (pad : PadState) :
    (run (still time) padstatePackets pad).1 = padDatagram time pad := by
  have hclock : run (still time) clock pad = (time, pad) := rfl
  have hlevel : run (still time) padstateGetLevel pad = (pad.armLevel.val, pad) := rfl
  have hstatus : run (still time) padstateGetConnstatus pad = (pad.connStatus.val, pad) := rfl
  simp only [padstatePackets, run_bind, hclock, hlevel, hstatus, run_actPackets, run_pure]
  rfl

def sent (v : PadVars) (time : UInt32) (pad : PadState) : List UInt8 :=
  (run (still time) (padstateMessage v) pad).1

lemma sent_eq (v : PadVars) (time : UInt32) (pad : PadState) :
    sent v time pad = encode (padDatagram time pad) := by
  rw [sent, padstateMessage_eq, run_map, run_padstatePackets]

lemma padDatagram_isTelem (time : UInt32) (pad : PadState) :
    ∀ p ∈ padDatagram time pad, IsTelem p := by
  intro p hp
  simp only [padDatagram, List.mem_cons, List.mem_map] at hp
  rcases hp with rfl | rfl | ⟨act, -, rfl⟩ <;> rfl

lemma toUInt8_armLvl_inj {a b : ArmLvl} : a.val.toUInt8 = b.val.toUInt8 ↔ a = b := by
  cases a <;> cases b <;> decide

lemma toUInt8_connStatus_inj {a b : ConnStatus} : a.val.toUInt8 = b.val.toUInt8 ↔ a = b := by
  cases a <;> cases b <;> decide

lemma actPacket_inj {time : UInt32} {pad pad' : PadState} {act : ActIdx} :
    actPacket time pad act = actPacket time pad' act ↔
      (pad.actuators act).state = (pad'.actuators act).state := by
  cases h : (pad.actuators act).state <;> cases h' : (pad'.actuators act).state <;>
    simp [actPacket, h, h']

lemma padDatagram_inj {time time' : UInt32} {pad pad' : PadState} :
    padDatagram time pad = padDatagram time' pad' ↔
      time = time' ∧ pad.armLevel = pad'.armLevel ∧ pad.connStatus = pad'.connStatus ∧
        ∀ act, (pad.actuators act).state = (pad'.actuators act).state := by
  constructor
  · intro h
    have harm := (List.cons.inj h).1
    have hconn := (List.cons.inj (List.cons.inj h).2).1
    have hacts := (List.cons.inj (List.cons.inj h).2).2
    obtain ⟨htime, hlevel⟩ := ArmStateP.mk.inj (Packet.arm.inj harm)
    obtain ⟨-, hstatus⟩ := ConnStatusP.mk.inj (Packet.conn.inj hconn)
    subst htime
    refine ⟨rfl, toUInt8_armLvl_inj.mp hlevel, toUInt8_connStatus_inj.mp hstatus, fun act => ?_⟩
    exact actPacket_inj.mp (List.map_inj_left.mp hacts act (List.mem_finRange act))
  · rintro ⟨rfl, hlevel, hstatus, hacts⟩
    have hmap : (List.finRange numActuators).map (actPacket time pad) =
        (List.finRange numActuators).map (actPacket time pad') :=
      List.map_congr_left fun act _ => actPacket_inj.mpr (hacts act)
    rw [padDatagram, padDatagram, hlevel, hstatus, hmap]

/-- **The pad state can be read from its datagram.** Walking the bytes sent gives the packet of
the level, that of the connection status and one for each actuator in the order of their ids,
and datagrams are equal only for equal times and pad states. -/
theorem padstate_message (v : PadVars) (time : UInt32) (pad : PadState) :
    walk (sent v time pad) = some (padDatagram time pad) ∧
      ∀ (v' : PadVars) (time' : UInt32) (pad' : PadState),
        sent v time pad = sent v' time' pad' ↔
          time = time' ∧ pad.armLevel = pad'.armLevel ∧ pad.connStatus = pad'.connStatus ∧
            ∀ act, (pad.actuators act).state = (pad'.actuators act).state := by
  constructor
  · rw [sent_eq]
    exact walk_encode (padDatagram_isTelem time pad)
  · intro v' time' pad'
    rw [sent_eq, sent_eq, encode_inj (padDatagram_isTelem _ _) (padDatagram_isTelem _ _)]
    exact padDatagram_inj

end Hysim.PadMessage
