import Hysim.PadClient

/-!
What the operator is told, against what the pad answered.

`switch_callback` notices a failure of `send` and of `recv`, and the statuses that refuse. All
else it takes for a success: the end of the stream, an answer cut short, a status that is none,
and the answer to a command for another actuator.
-/

namespace Hysim.Success

open Hysim.Lib.Program Hysim.Packets Hysim.Actuators Hysim.Serve Hysim.Controller Hysim.Client
open Hysim.ControlBox Hysim.PadClient

/-- The acknowledgement that a request was carried out. -/
def okAck : Request → Ack
  | .act req => .act ⟨req.id, UInt8.ofInt actOk⟩
  | .arm _ => .arm ⟨UInt8.ofInt armOk⟩

/-- The request was sent, and its acknowledgement received whole. -/
def Acknowledged (sw : Switch) (newstate : Bool) (calls : Calls) : Prop :=
  ∃ req bytes, switchRequest sw newstate = some req ∧ calls.sendmsg = none ∧
    calls.recv = .ok bytes ∧ bytes.take (ackSize req) = (okAck req).bytes

/-- The byte the status is taken from, received or not, and the statuses that refuse. -/
def statusByte (stale : ℕ → UInt8) (bytes : List UInt8) : Request → UInt8
  | .act _ => bytes.getD 1 (stale 1)
  | .arm _ => bytes.getD 0 (stale 0)

def refusals : Request → List UInt8
  | .act _ => [UInt8.ofInt actDenied, UInt8.ofInt actDne, UInt8.ofInt actInv]
  | .arm _ => [UInt8.ofInt armDenied, UInt8.ofInt armInv]

/-- Nothing can be sent or received, or the status that is looked at refuses. -/
def Failed (sw : Switch) (newstate : Bool) (calls : Calls) : Prop :=
  switchRequest sw newstate = none ∨ calls.sendmsg ≠ none ∨ (∃ err, calls.recv = .error err) ∨
    ∃ req bytes, switchRequest sw newstate = some req ∧ calls.recv = .ok bytes ∧
      statusByte calls.stack bytes req ∈ refusals req

lemma actErrno_eq_zero_iff (status : UInt8) :
    actErrno status = 0 ↔
      status ∉ [UInt8.ofInt actDenied, UInt8.ofInt actDne, UInt8.ofInt actInv] := by
  unfold actErrno
  split_ifs with hok hdenied hdne hinv
  · subst hok
    exact iff_of_true rfl (by decide)
  · exact iff_of_false (by decide) (by simp [hdenied])
  · exact iff_of_false (by decide) (by simp [hdne])
  · exact iff_of_false (by decide) (by simp [hinv])
  · exact iff_of_true rfl (by simp [hdenied, hdne, hinv])

lemma armErrno_eq_zero_iff (status : UInt8) :
    armErrno status = 0 ↔ status ∉ [UInt8.ofInt armDenied, UInt8.ofInt armInv] := by
  unfold armErrno
  split_ifs with hok hdenied hinv
  · subst hok
    exact iff_of_true rfl (by decide)
  · exact iff_of_false (by decide) (by simp [hdenied])
  · exact iff_of_false (by decide) (by simp [hinv])
  · exact iff_of_true rfl (by simp [hdenied, hinv])

/-- Whatever is received counts as a success unless it refuses. -/
lemma checkResponse_eq_zero_iff (req : Request) (stale : ℕ → UInt8) (bytes : List UInt8) :
    checkResponse req stale (.ok bytes) = 0 ↔ statusByte stale bytes req ∉ refusals req := by
  cases req with
  | act req => exact actErrno_eq_zero_iff _
  | arm req => exact armErrno_eq_zero_iff _

lemma result_eq_zero_iff (sw : Switch) (newstate : Bool) (calls : Calls) :
    calls.result sw newstate = 0 ↔ ¬ Failed sw newstate calls := by
  unfold Calls.result Failed
  rcases hreq : switchRequest sw newstate with _ | req
  · simp [einval]
  rcases hsend : calls.sendmsg with _ | err
  · rcases hrecv : calls.recv with err | bytes
    · simp [Received.toRecv, checkResponse_error, err.pos.ne']
    · simp [Received.toRecv, checkResponse_eq_zero_iff]
  · simp [err.pos.ne']

/-- **When success is real**: a success that `switch_callback` reports was acknowledged exactly
if there is a failure to report or the acknowledgement was received whole. -/
theorem success_iff (sw : Switch) (i : SwitchIdx) (newstate : Bool) (calls : Calls) (m : Memory) :
    ((run (calling calls) (switchCallback sw i newstate) m).1 = 0 →
        Acknowledged sw newstate calls) ↔
      Failed sw newstate calls ∨ Acknowledged sw newstate calls := by
  rw [switchCallback_run, result_eq_zero_iff, not_imp_comm, or_iff_not_imp_right]

/-- The pad closes the connection before it has answered, and the buffer holds zeros. -/
theorem not_success :
    ¬ ∀ (sw : Switch) (i : SwitchIdx) (newstate : Bool) (calls : Calls) (m : Memory),
      (run (calling calls) (switchCallback sw i newstate) m).1 = 0 →
        Acknowledged sw newstate calls := by
  intro h
  obtain ⟨req, bytes, hreq, -, hrecv, hbytes⟩ := h ⟨idDump, .actReq, false⟩ 13 true
    ⟨.ok 3, .ok true, none, none, none, .ok [], none, fun _ => 0, .ok 4, .ok false, none, none⟩
    ⟨3, fun _ => false⟩ rfl
  obtain rfl : bytes = [] := by cases hrecv; rfl
  cases hreq
  cases hbytes

end Hysim.Success
