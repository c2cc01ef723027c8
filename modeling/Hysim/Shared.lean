import Hysim.Lib.Threads
import Hysim.Serve
import Hysim.Telemetry

/-!
The memory the controller and the telemetry thread share, and the system of the two.

Every operation on the pad state is one step, and an operation on a lock waits until it can
succeed.
-/

namespace Hysim.Publish

open Hysim.Lib.Program Hysim.Lib.Threads Hysim.Packets Hysim.Actuators Hysim.State
open Hysim.Serve Hysim.Telemetry

/-! ### The shared memory -/

inductive Who
  | controller | telemetry
  deriving DecidableEq, Repr

/-- `rw_lock`. -/
inductive RwLock
  | free
  | reading (readers : ℕ)
  | writing
  deriving DecidableEq, Repr

def RwLock.addReader : RwLock → RwLock
  | .free => .reading 1
  | .reading n => .reading (n + 1)
  | .writing => .writing

def RwLock.release : RwLock → RwLock
  | .reading (n + 2) => .reading (n + 1)
  | _ => .free

/-- The pad state with its locks, the datagrams published, and whether the state was ever
changed. -/
structure Shared where
  pad : PadState
  mutex : Option Who
  rwLock : RwLock
  published : List Datagram
  changed : Bool

/-- An operation on a lock waits until it can succeed. -/
def Shared.Enabled (s : Shared) : PadOp → Prop
  | .rdlock => s.rwLock ≠ .writing
  | .wrlock => s.rwLock = .free
  | .mutexLock | .condReacquire => s.mutex = none
  | _ => True

instance (s : Shared) : (o : PadOp) → Decidable (s.Enabled o)
  | .rdlock => inferInstanceAs (Decidable (s.rwLock ≠ .writing))
  | .wrlock => inferInstanceAs (Decidable (s.rwLock = .free))
  | .mutexLock | .condReacquire => inferInstanceAs (Decidable (s.mutex = none))
  | .rwUnlock | .mutexUnlock | .condSignal | .condRelease | .loadLevel | .storeLevel _
  | .loadConn | .storeConn _ | .loadAct _ | .storeAct _ _ | .loadUpdate | .storeUpdate _
  | .drive _ _ | .clock | .publish _ => .isTrue trivial

/-- Lock calls succeed. A wait may end for any reason, and a driver may answer anything. -/
def Shared.Answers (s : Shared) : (o : PadOp) → o.Ans → Prop
  | .rdlock, r | .wrlock, r | .mutexLock, r => r = 0
  | .loadLevel, r => r = s.pad.armLevel
  | .loadConn, r => r = s.pad.connStatus
  | .loadAct act, r => r = (s.pad.actuators act).state
  | .loadUpdate, r => r = s.pad.updateRecorded
  | _, _ => True

def Shared.eff (s : Shared) (who : Who) : PadOp → Shared
  | .rdlock => { s with rwLock := s.rwLock.addReader }
  | .wrlock => { s with rwLock := .writing }
  | .rwUnlock => { s with rwLock := s.rwLock.release }
  | .mutexLock | .condReacquire => { s with mutex := some who }
  | .mutexUnlock | .condRelease => { s with mutex := none }
  | .storeLevel level => { s with pad := (PadOp.storeLevel level).effect s.pad, changed := true }
  | .storeConn status => { s with pad := (PadOp.storeConn status).effect s.pad, changed := true }
  | .storeAct act b => { s with pad := (PadOp.storeAct act b).effect s.pad, changed := true }
  | .storeUpdate b => { s with pad := (PadOp.storeUpdate b).effect s.pad }
  | .publish msg => { s with published := s.published ++ [msg] }
  | _ => s

def memory : Memory Who PadOp Shared PadOp.Ans where
  enabled _ o s := s.Enabled o
  answers o s r := s.Answers o r
  eff who o s := s.eff who o

/-- What the threads run: the controller handles requests and connection events in any
order. -/
def Blocks : Who → Label → PadM Label → Prop
  | .controller, l, p =>
    (∃ req, p = handle req >>= fun _ => pure l) ∨
      ∃ status, p = padstateSetConnstatus status >>= fun _ => pure l
  | .telemetry, l, p => p = telemetryUpdatePadstate l

abbrev System := Config Who PadOp Shared Label PadOp.Ans

def system (state : PadState) : System where
  shared := ⟨padstateInit state, none, .free, [], false⟩
  prog
    | .controller => .ret .idle
    | .telemetry => .ret .outer

/-- The controller is not inside an operation on the pad state. -/
def Idle (c : System) : Prop := ∃ l, c.prog .controller = .ret l

def actPacket (time : UInt32) (pad : PadState) (act : ActIdx) : Packet :=
  .act ⟨time, UInt8.ofNat act, if (pad.actuators act).state then 1 else 0⟩

def padDatagram (time : UInt32) (pad : PadState) : Datagram :=
  .arm ⟨time, pad.armLevel.val.toUInt8⟩ :: .conn ⟨time, pad.connStatus.val.toUInt8⟩ ::
    (List.finRange numActuators).map (actPacket time pad)

/-- The last datagram carries the pad state. -/
def Shown (s : Shared) : Prop := ∃ time, s.published.getLast? = some (padDatagram time s.pad)

def Expects : (o : PadOp) → o.Ans → Prop
  | .rdlock, r | .wrlock, r | .mutexLock, r => r = 0
  | _, _ => True

end Hysim.Publish
