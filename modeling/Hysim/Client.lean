import Hysim.Controller

/-!
The commands of the control client, from `switch.c`: what a switch sends and what the answer
is taken for.
-/

namespace Hysim.Client

open Hysim.Packets Hysim.Serve Hysim.Controller

/-- The `errno` values an answer is turned into. -/
def eperm : Int := 1
def enodev : Int := 19
def einval : Int := 22

structure Switch where
  actId : UInt8
  kind : CntrlSubtype
  state : Bool

/-- The new state is marked before anything is sent. -/
def Switch.mark (sw : Switch) (newstate : Bool) : Switch := { sw with state := newstate }

/-- The request `switch_callback` sends, for a switch of a valid kind. An arming switch that
is turned off goes back a level. -/
def switchRequest (sw : Switch) (newstate : Bool) : Option Request :=
  match sw.kind with
  | .actReq => some (.act ⟨sw.actId, if (sw.mark newstate).state then 1 else 0⟩)
  | .armReq => some (.arm ⟨if newstate then sw.actId else sw.actId - 1⟩)
  | .actAck => none
  | .armAck => none

def armErrno (status : UInt8) : Int :=
  if status = UInt8.ofInt armOk then 0
  else if status = UInt8.ofInt armDenied then eperm
  else if status = UInt8.ofInt armInv then einval
  else 0

def actErrno (status : UInt8) : Int :=
  if status = UInt8.ofInt actOk then 0
  else if status = UInt8.ofInt actDenied then eperm
  else if status = UInt8.ofInt actDne then enodev
  else if status = UInt8.ofInt actInv then einval
  else 0

/-- `check_arm_response`: only an error of `recv` is noticed; what was not received is taken
from the stack. -/
def checkArmResponse (stale : ℕ → UInt8) : Recv → Int
  | .error errno => errno
  | .ok bytes => armErrno (bytes.getD 0 (stale 0))

/-- `check_act_response`, which does not look at the id. -/
def checkActResponse (stale : ℕ → UInt8) : Recv → Int
  | .error errno => errno
  | .ok bytes => actErrno (bytes.getD 1 (stale 1))

def checkResponse : Request → (ℕ → UInt8) → Recv → Int
  | .act _ => checkActResponse
  | .arm _ => checkArmResponse

def ackSize : Request → ℕ
  | .act _ => 2
  | .arm _ => 1

/-- What an acknowledgement received whole is taken for. -/
def ackErrno : Ack → Int
  | .act ack => actErrno ack.status
  | .arm ack => armErrno ack.status

end Hysim.Client
