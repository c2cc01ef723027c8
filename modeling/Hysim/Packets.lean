import Mathlib.Order.Lattice
import Mathlib.Order.Nat
import Mathlib.Tactic.Common

/-!
The packets of `packet.h`, as records and as the bytes that go over the wire.

All the structs are packed, so a packet is its two header bytes followed by the fields of
its body without padding. Multi-byte fields are in the byte order of the machine, which is
little-endian on both targets.
-/

namespace Hysim.Packets

/-! ### Enumerations -/

inductive PacketType
  | cntrl | telem
  deriving DecidableEq, Repr

def PacketType.val : PacketType → UInt8
  | .cntrl => 0
  | .telem => 1

inductive CntrlSubtype
  | actReq | actAck | armReq | armAck
  deriving DecidableEq, Repr

def CntrlSubtype.val : CntrlSubtype → UInt8
  | .actReq => 0
  | .actAck => 1
  | .armReq => 2
  | .armAck => 3

inductive TelemSubtype
  | temp | pressure | mass | thrust | arm | act | warn | cont | conn
  deriving DecidableEq, Repr

def TelemSubtype.val : TelemSubtype → UInt8
  | .temp => 0
  | .pressure => 1
  | .mass => 2
  | .thrust => 3
  | .arm => 4
  | .act => 5
  | .warn => 6
  | .cont => 7
  | .conn => 8

inductive ArmLvl
  | armedPad | armedValves | armedIgnition | armedDisconnected | armedLaunch
  deriving DecidableEq, Repr

inductive ConnStatus
  | connConnected | connReconnecting | connDisconnected
  deriving DecidableEq, Repr

/-- A variable of an enumeration type: an `unsigned int`, since no enumerator is negative,
which may hold a value that is no enumerator. -/
abbrev CEnum := UInt32

def ArmLvl.val : ArmLvl → CEnum
  | .armedPad => 0
  | .armedValves => 1
  | .armedIgnition => 2
  | .armedDisconnected => 3
  | .armedLaunch => 4

def ConnStatus.val : ConnStatus → CEnum
  | .connConnected => 0
  | .connReconnecting => 1
  | .connDisconnected => 2

/-- The level an `arm_lvl_e` variable stands for, when it holds an enumerator. -/
def ArmLvl.ofVal (v : CEnum) : ArmLvl :=
  if v = 0 then .armedPad
  else if v = 1 then .armedValves
  else if v = 2 then .armedIgnition
  else if v = 3 then .armedDisconnected
  else .armedLaunch

/-- `act_ack_status_e`, as the `int` that `pad_actuate` returns. -/
def actOk : Int := 0
def actDenied : Int := 1
def actDne : Int := 2
def actInv : Int := 3

/-- `arm_ack_status_e`, as the `int` that `padstate_change_level` returns. -/
def armOk : Int := 0
def armDenied : Int := 1
def armInv : Int := 2

/-! ### Bodies -/

structure HeaderP where
  type : UInt8
  subtype : UInt8
  deriving DecidableEq, Repr

structure ActReqP where
  id : UInt8
  state : UInt8
  deriving DecidableEq, Repr

structure ActAckP where
  id : UInt8
  status : UInt8
  deriving DecidableEq, Repr

structure ArmReqP where
  level : UInt8
  deriving DecidableEq, Repr

structure ArmAckP where
  status : UInt8
  deriving DecidableEq, Repr

structure TempP where
  time : UInt32
  temperature : Int32
  id : UInt8
  deriving DecidableEq

structure PressureP where
  time : UInt32
  pressure : Int32
  id : UInt8
  deriving DecidableEq

structure MassP where
  time : UInt32
  mass : Int32
  id : UInt8
  deriving DecidableEq

structure ThrustP where
  time : UInt32
  thrust : UInt32
  id : UInt8
  deriving DecidableEq

structure ArmStateP where
  time : UInt32
  state : UInt8
  deriving DecidableEq

structure ActStateP where
  time : UInt32
  id : UInt8
  state : UInt8
  deriving DecidableEq

structure WarnP where
  time : UInt32
  type : UInt8
  deriving DecidableEq

structure ContinuityStateP where
  time : UInt32
  state : UInt8
  deriving DecidableEq

structure ConnStatusP where
  time : UInt32
  status : UInt8
  deriving DecidableEq

/-! ### Packets -/

/-- A packet: the kind its header announces, and the body of that kind. -/
inductive Packet
  | actReq (p : ActReqP)
  | actAck (p : ActAckP)
  | armReq (p : ArmReqP)
  | armAck (p : ArmAckP)
  | temp (p : TempP)
  | pressure (p : PressureP)
  | mass (p : MassP)
  | thrust (p : ThrustP)
  | arm (p : ArmStateP)
  | act (p : ActStateP)
  | warn (p : WarnP)
  | cont (p : ContinuityStateP)
  | conn (p : ConnStatusP)
  deriving DecidableEq

def le32 (x : UInt32) : List UInt8 :=
  [x.toUInt8, (x >>> 8).toUInt8, (x >>> 16).toUInt8, (x >>> 24).toUInt8]

def HeaderP.bytes (h : HeaderP) : List UInt8 := [h.type, h.subtype]

/-- `packet_header_init`. -/
def packetHeaderInit (type : PacketType) (subtype : UInt8) : HeaderP := ⟨type.val, subtype⟩

def Packet.header : Packet → HeaderP
  | .actReq _ => packetHeaderInit .cntrl CntrlSubtype.actReq.val
  | .actAck _ => packetHeaderInit .cntrl CntrlSubtype.actAck.val
  | .armReq _ => packetHeaderInit .cntrl CntrlSubtype.armReq.val
  | .armAck _ => packetHeaderInit .cntrl CntrlSubtype.armAck.val
  | .temp _ => packetHeaderInit .telem TelemSubtype.temp.val
  | .pressure _ => packetHeaderInit .telem TelemSubtype.pressure.val
  | .mass _ => packetHeaderInit .telem TelemSubtype.mass.val
  | .thrust _ => packetHeaderInit .telem TelemSubtype.thrust.val
  | .arm _ => packetHeaderInit .telem TelemSubtype.arm.val
  | .act _ => packetHeaderInit .telem TelemSubtype.act.val
  | .warn _ => packetHeaderInit .telem TelemSubtype.warn.val
  | .cont _ => packetHeaderInit .telem TelemSubtype.cont.val
  | .conn _ => packetHeaderInit .telem TelemSubtype.conn.val

def Packet.body : Packet → List UInt8
  | .actReq p => [p.id, p.state]
  | .actAck p => [p.id, p.status]
  | .armReq p => [p.level]
  | .armAck p => [p.status]
  | .temp p => le32 p.time ++ le32 p.temperature.toUInt32 ++ [p.id]
  | .pressure p => le32 p.time ++ le32 p.pressure.toUInt32 ++ [p.id]
  | .mass p => le32 p.time ++ le32 p.mass.toUInt32 ++ [p.id]
  | .thrust p => le32 p.time ++ le32 p.thrust ++ [p.id]
  | .arm p => le32 p.time ++ [p.state]
  | .act p => le32 p.time ++ [p.id, p.state]
  | .warn p => le32 p.time ++ [p.type]
  | .cont p => le32 p.time ++ [p.state]
  | .conn p => le32 p.time ++ [p.status]

def Packet.bytes (p : Packet) : List UInt8 := p.header.bytes ++ p.body

def encode (ps : List Packet) : List UInt8 := ps.flatMap Packet.bytes

@[simp] lemma encode_nil : encode [] = [] := rfl
@[simp] lemma encode_cons (p : Packet) (ps : List Packet) :
    encode (p :: ps) = p.bytes ++ encode ps := rfl
@[simp] lemma encode_append (ps qs : List Packet) : encode (ps ++ qs) = encode ps ++ encode qs := by
  simp [encode]

lemma Packet.body_ne_nil (p : Packet) : p.body ≠ [] := by
  cases p <;> simp [Packet.body]

/-! ### Arming levels in order -/

def ArmLvl.toNat : ArmLvl → ℕ
  | .armedPad => 0
  | .armedValves => 1
  | .armedIgnition => 2
  | .armedDisconnected => 3
  | .armedLaunch => 4

lemma ArmLvl.toNat_injective : Function.Injective ArmLvl.toNat := by
  intro a b h
  cases a <;> cases b <;> first | rfl | exact absurd h (by simp [ArmLvl.toNat])

instance : LinearOrder ArmLvl := LinearOrder.lift' ArmLvl.toNat ArmLvl.toNat_injective

lemma ArmLvl.le_def {a b : ArmLvl} : a ≤ b ↔ a.toNat ≤ b.toNat := Iff.rfl
lemma ArmLvl.lt_def {a b : ArmLvl} : a < b ↔ a.toNat < b.toNat := Iff.rfl

lemma ArmLvl.armedPad_le (a : ArmLvl) : ArmLvl.armedPad ≤ a := Nat.zero_le _
lemma ArmLvl.le_armedLaunch (a : ArmLvl) : a ≤ ArmLvl.armedLaunch := by cases a <;> decide

@[simp] lemma ArmLvl.ofVal_val (a : ArmLvl) : ArmLvl.ofVal a.val = a := by
  cases a <;> rfl

lemma ArmLvl.val_inj {a b : ArmLvl} : a.val = b.val ↔ a = b :=
  ⟨fun h => by rw [← ArmLvl.ofVal_val a, h, ArmLvl.ofVal_val], fun h => h ▸ rfl⟩

lemma ArmLvl.val_lt_iff {a b : ArmLvl} : a.val < b.val ↔ a < b := by
  cases a <;> cases b <;> decide

lemma ArmLvl.exists_of_le {v : CEnum} (h : ¬ v > ArmLvl.armedLaunch.val) :
    ∃ a : ArmLvl, v = a.val := by
  have hv : v.toNat ≤ 4 := by simpa [UInt32.lt_iff_toNat_lt, ArmLvl.val] using h
  have hcases : v.toNat = 0 ∨ v.toNat = 1 ∨ v.toNat = 2 ∨ v.toNat = 3 ∨ v.toNat = 4 := by omega
  rcases hcases with h | h | h | h | h
  · exact ⟨.armedPad, UInt32.toNat_inj.mp h⟩
  · exact ⟨.armedValves, UInt32.toNat_inj.mp h⟩
  · exact ⟨.armedIgnition, UInt32.toNat_inj.mp h⟩
  · exact ⟨.armedDisconnected, UInt32.toNat_inj.mp h⟩
  · exact ⟨.armedLaunch, UInt32.toNat_inj.mp h⟩

end Hysim.Packets
