import Hysim.Connection
import Hysim.ControlBox

/-!
The control client call by call, from `pad.c`, `switch.c` and `control_client_main.c`.

Every system call is one operation of a program, and so is every access to `pad.sock` and to
the recorded state of a switch. What a call answers is left open. The two builds of the client
differ in the loop they run once they are connected.
-/

namespace Hysim.PadClient

open Hysim.Lib.Program Hysim.Packets Hysim.Actuators Hysim.Serve Hysim.Controller
open Hysim.Client Hysim.ControlBox
open Hysim.Connection (Errno SockOpt keepaliveNProbes keepaliveIntervalSecs)

/-! ### System calls -/

/-- The operations of the client. A `sendmsg` is told by the switch its request is for, and
`stack` is what a buffer holds that was not initialised. -/
inductive BoxOp
  | socket
  | setRcvtimeo (fd : Int)
  | inetPton
  | setsockopt (fd : Int) (opt : SockOpt) (value : ℕ)
  | connect (fd : Int)
  | sendmsg (fd : Int) (i : SwitchIdx) (req : Request)
  | recv (fd : Int) (n : ℕ)
  | close (fd : Int)
  | stack
  | loadSock | storeSock (fd : Int)
  | loadState (i : SwitchIdx) | storeState (i : SwitchIdx) (state : Bool)
  | openDev (dev : String) | gpiocRead (fd : ℕ) | closeDev (fd : ℕ)
  | sigwaitinfo
  | getc
  deriving DecidableEq

/-- What `recv` returns: `[]` at the end of the stream. -/
abbrev Received := Except Errno (List UInt8)

/-- `inet_pton` tells whether the address is one, `gpioc_read` whether the pin is high, and
`getc` nothing at the end of the file. -/
@[reducible] def BoxOp.Ans : BoxOp → Type
  | .socket => Except Errno ℕ
  | .inetPton => Except Errno Bool
  | .setRcvtimeo _ | .setsockopt _ _ _ | .connect _ | .sendmsg _ _ _ | .close _ => Option Errno
  | .recv _ _ => Received
  | .stack => ℕ → UInt8
  | .loadSock => Int
  | .loadState _ => Bool
  | .storeSock _ | .storeState _ _ => Unit
  | .openDev _ => Except Errno ℕ
  | .gpiocRead _ => Except Errno Bool
  | .closeDev _ | .sigwaitinfo => Option Errno
  | .getc => Option UInt8

abbrev BoxM := Prog BoxOp BoxOp.Ans

abbrev socket : BoxM (Except Errno ℕ) := .op BoxOp.socket
abbrev setRcvtimeo (fd : Int) : BoxM (Option Errno) := .op (BoxOp.setRcvtimeo fd)
abbrev inetPton : BoxM (Except Errno Bool) := .op BoxOp.inetPton
abbrev setsockopt (fd : Int) (opt : SockOpt) (value : ℕ) : BoxM (Option Errno) :=
  .op (BoxOp.setsockopt fd opt value)
abbrev connect (fd : Int) : BoxM (Option Errno) := .op (BoxOp.connect fd)
abbrev sendmsg (fd : Int) (i : SwitchIdx) (req : Request) : BoxM (Option Errno) :=
  .op (BoxOp.sendmsg fd i req)
abbrev recv (fd : Int) (n : ℕ) : BoxM Received := .op (BoxOp.recv fd n)
abbrev close (fd : Int) : BoxM (Option Errno) := .op (BoxOp.close fd)
abbrev stack : BoxM (ℕ → UInt8) := .op BoxOp.stack
abbrev loadSock : BoxM Int := .op BoxOp.loadSock
abbrev storeSock (fd : Int) : BoxM Unit := .op (BoxOp.storeSock fd)
abbrev loadState (i : SwitchIdx) : BoxM Bool := .op (BoxOp.loadState i)
abbrev storeState (i : SwitchIdx) (state : Bool) : BoxM Unit := .op (BoxOp.storeState i state)
abbrev openDev (dev : String) : BoxM (Except Errno ℕ) := .op (BoxOp.openDev dev)
abbrev gpiocRead (fd : ℕ) : BoxM (Except Errno Bool) := .op (BoxOp.gpiocRead fd)
abbrev closeDev (fd : ℕ) : BoxM (Option Errno) := .op (BoxOp.closeDev fd)
abbrev sigwaitinfo : BoxM (Option Errno) := .op BoxOp.sigwaitinfo
abbrev getc : BoxM (Option UInt8) := .op BoxOp.getc

/-! ### The connection to the pad -/

def etimedout : Int := 110
def enetunreach : Int := 101

/-- `setsock_keepalive`: the error, `0` if there is none. -/
def setsockKeepalive (sockfd : Int) : BoxM Int := do
  if let some err ← setsockopt sockfd .keepalive 1 then return err.val
  if let some err ← setsockopt sockfd .keepidle keepaliveIntervalSecs then return err.val
  if let some err ← setsockopt sockfd .keepintvl keepaliveIntervalSecs then return err.val
  if let some err ← setsockopt sockfd .keepcnt keepaliveNProbes then return err.val
  return 0

/-- `pad_init`. A build that keeps no time sets no timeout; that is the same as setting it
without an error. -/
def padInit : BoxM Int := do
  match ← socket with
  | .error err =>
    storeSock (-1)
    return err.val
  | .ok fd =>
    storeSock fd
    if let some err ← setRcvtimeo fd then return err.val
    match ← inetPton with
    | .error err => return err.val
    | .ok false => return einval
    | .ok true => return 0

/-- `pad_connect`. -/
def padConnect : BoxM Int := do
  let sock ← loadSock
  if let some err ← connect sock then return err.val
  let sock ← loadSock
  setsockKeepalive sock

/-- The errors after which `pad_connect_forever` tries again. -/
def triesAgain (status : Int) : Bool :=
  status = econnrefused ∨ status = etimedout ∨ status = enotconn ∨ status = enetunreach

/-- `pad_send`. -/
def padSend (i : SwitchIdx) (req : Request) : BoxM (Option Errno) := do
  let sock ← loadSock
  sendmsg sock i req

/-- `pad_recv`. -/
def padRecv (n : ℕ) : BoxM Received := do
  let sock ← loadSock
  recv sock n

/-- `pad_disconnect`. -/
def padDisconnect : BoxM Int := do
  let sock ← loadSock
  if sock ≥ 0 then
    match ← close sock with
    | some err => return err.val
    | none =>
      storeSock (-1)
      return 0
  else return 0

/-! ### One switch -/

/-- What `pad_recv` hands to its caller, with the error as a number. -/
def Received.toRecv : Received → Recv
  | .error err => .error err.val
  | .ok bytes => .ok bytes

/-- `check_act_response` or `check_arm_response`, with what its buffer holds at first. -/
def checkReply (req : Request) : BoxM Int := do
  let stale ← stack
  let reply ← padRecv (ackSize req)
  return checkResponse req stale reply.toRecv

lemma checkResponse_error (req : Request) (stale : ℕ → UInt8) (errno : Int) :
    checkResponse req stale (.error errno) = errno := by
  cases req <;> rfl

lemma checkResponse_ok (req : Request) (stale : ℕ → UInt8) (bytes : List UInt8) :
    let err := checkResponse req stale (.ok bytes)
    ¬ (err = enotconn ∨ err = econnaborted ∨ err = econnrefused) := by
  cases req with
  | act req =>
    simp only [checkResponse, checkActResponse, actErrno]
    split_ifs <;> decide
  | arm req =>
    simp only [checkResponse, checkArmResponse, armErrno]
    split_ifs <;> decide

/-- `switch_callback`, for a switch whose state is at index `i`. -/
def switchCallback (sw : Switch) (i : SwitchIdx) (newstate : Bool) : BoxM Int := do
  storeState i newstate
  match switchRequest sw newstate with
  | none => return -einval
  | some req =>
    match ← padSend i req with
    | some err => return err.val
    | none => checkReply req

/-! ### The program -/

/-- Where the program is: at `reconnect`, in the loop of `pad_connect_forever`, in the loop it
runs when it is connected, or at its end. -/
inductive Label (Loop : Type)
  | reconnect
  | connecting
  | loop (l : Loop)
  | exited

/-- `main` from one label to the next, with the loop of the build. -/
def mainFrom {Loop : Type} (first : Loop) (body : Loop → BoxM (Label Loop)) :
    Label Loop → BoxM (Label Loop)
  | .reconnect => do
    let err ← padInit
    if err ≠ 0 then return .exited else return .connecting
  | .connecting => do
    let status ← padConnect
    if triesAgain status then return .connecting
    else if status ≠ 0 then return .exited
    else return .loop first
  | .loop l => body l
  | .exited => return .exited

/-- The loop of the build with GPIO pins: waiting for an interrupt, or at a switch of a pass. -/
inductive Scan
  | waiting
  | visiting (k i : SwitchIdx)
  deriving DecidableEq

/-- Where the two loops over the switches go next. -/
def Scan.advance (k i : SwitchIdx) : Scan :=
  if h : i.val + 1 < numSwitches then .visiting k ⟨i.val + 1, h⟩
  else if h : k.val + 1 < numSwitches then .visiting ⟨k.val + 1, h⟩ 0
  else .waiting

/-- The call of `switch_callback` in a pass, and what its result leads to. -/
def report (k i : SwitchIdx) (value : Bool) : BoxM (Label Scan) := do
  let err ← switchCallback (switchTable.get i) i value
  if err = enotconn ∨ err = econnaborted ∨ err = econnrefused then
    let _ ← padDisconnect
    return .reconnect
  else return .loop (.advance k i)

/-- A switch of a pass, at the position read. -/
def compare (k i : SwitchIdx) (value : Bool) : BoxM (Label Scan) := do
  let state ← loadState i
  if value = state then return .loop (.advance k i)
  if turningOffIgnition (switchTable.get i) value then
    let key ← loadState valveArmingSwitchIdx
    if !key then return .loop (.advance k i)
    report k i value
  else report k i value

def visit (k i : SwitchIdx) : BoxM (Label Scan) :=
  match gpioDev (switchTable.get i) with
  | none => return .loop (.advance k i)
  | some dev => do
    match ← openDev dev with
    | .error _ => return .loop (.advance k i)
    | .ok fd =>
      match ← gpiocRead fd with
      | .error _ =>
        let _ ← closeDev fd
        return .loop (.advance k i)
      | .ok high =>
        let _ ← closeDev fd
        compare k i (!high)

def scanFrom : Scan → BoxM (Label Scan)
  | .waiting => do
    match ← sigwaitinfo with
    | some _ => return .loop .waiting
    | none => return .loop (.visiting 0 0)
  | .visiting k i => visit k i

def controlBox : Label Scan → BoxM (Label Scan) := mainFrom .waiting scanFrom

/-! ### The program on its own -/

/-- `pad.sock` and the recorded states of the switches. -/
structure Memory where
  sock : Int
  state : SwitchIdx → Bool

def Memory.eff (m : Memory) : BoxOp → Memory
  | .storeSock fd => { m with sock := fd }
  | .storeState i state => { m with state := Function.update m.state i state }
  | _ => m

structure Calls where
  socket : Except Errno ℕ
  inetPton : Except Errno Bool
  setsockopt : Option Errno
  connect : Option Errno
  sendmsg : Option Errno
  recv : Received
  close : Option Errno
  stack : ℕ → UInt8
  openDev : Except Errno ℕ
  gpiocRead : Except Errno Bool
  sigwaitinfo : Option Errno
  getc : Option UInt8

def Memory.ans (calls : Calls) : (o : BoxOp) → Memory → o.Ans
  | .socket, _ => calls.socket
  | .inetPton, _ => calls.inetPton
  | .setRcvtimeo _, _ | .setsockopt _ _ _, _ => calls.setsockopt
  | .connect _, _ => calls.connect
  | .sendmsg _ _ _, _ => calls.sendmsg
  | .recv _ _, _ => calls.recv
  | .close _, _ => calls.close
  | .stack, _ => calls.stack
  | .loadSock, m => m.sock
  | .loadState i, m => m.state i
  | .storeSock _, _ | .storeState _ _, _ => ()
  | .openDev _, _ => calls.openDev
  | .gpiocRead _, _ => calls.gpiocRead
  | .closeDev _, _ => calls.close
  | .sigwaitinfo, _ => calls.sigwaitinfo
  | .getc, _ => calls.getc

def calling (calls : Calls) : Device BoxOp BoxOp.Ans Memory :=
  ⟨Memory.ans calls, fun o m => m.eff o⟩

section Calling

variable (calls : Calls)

@[simp] lemma calling_ans (o : BoxOp) (m : Memory) : (calling calls).ans o m = m.ans calls o := rfl
@[simp] lemma calling_eff (o : BoxOp) (m : Memory) : (calling calls).eff o m = m.eff o := rfl

attribute [simp] Memory.ans Memory.eff

@[simp] lemma checkReply_run (req : Request) (m : Memory) :
    run (calling calls) (checkReply req) m =
      (checkResponse req calls.stack calls.recv.toRecv, m) := by
  simp [checkReply, padRecv]

def Calls.result (sw : Switch) (newstate : Bool) : Int :=
  match switchRequest sw newstate, calls.sendmsg with
  | none, _ => -einval
  | some _, some err => err.val
  | some req, none => checkResponse req calls.stack calls.recv.toRecv

lemma switchCallback_run (sw : Switch) (i : SwitchIdx) (newstate : Bool) (m : Memory) :
    run (calling calls) (switchCallback sw i newstate) m =
      (calls.result sw newstate, { m with state := Function.update m.state i newstate }) := by
  unfold switchCallback padSend Calls.result
  rcases switchRequest sw newstate with _ | req
  · simp
  · rcases hsend : calls.sendmsg with _ | err <;> simp [hsend]

lemma padDisconnect_state (m : Memory) :
    (run (calling calls) padDisconnect m).2.state = m.state := by
  by_cases h : m.sock ≥ 0
  · rcases hc : calls.close with _ | err <;> simp [padDisconnect, h, hc]
  · simp [padDisconnect, h]

end Calling

/-! ### The control box as a state machine -/

def Label.place : Label Scan → Place
  | .reconnect | .connecting => .reconnect
  | .loop .waiting => .waiting
  | .loop (.visiting k i) => .visiting k i
  | .exited => .exited

lemma place_advance (k i : SwitchIdx) :
    (Label.loop (Scan.advance k i)).place = Place.advance k i := by
  unfold Scan.advance Place.advance
  split_ifs <;> rfl

def Calls.gpio (calls : Calls) : Gpio :=
  match calls.openDev, calls.gpiocRead with
  | .error err, _ => .openFails err.val
  | .ok _, .error err => .readFails err.val
  | .ok _, .ok high => .value high

/-- A visit as the steps of the box: a look, and the reply if there is one to wait for. -/
def visited (b : Box) (calls : Calls) : Box :=
  let looked := (b.step (.look calls.gpio (calls.sendmsg.map fun err => (err.val : Int)))).1
  (looked.step (.reply calls.stack calls.recv.toRecv)).1

lemma reply_advance (b : Box) (k i : SwitchIdx) (stale : ℕ → UInt8) (r : Recv) :
    (({ b with place := .advance k i } : Box).step (.reply stale r)).1 =
      { b with place := .advance k i } := by
  unfold Place.advance
  split_ifs <;> rfl

lemma reply_finish (b : Box) (k i : SwitchIdx) (err : Int) (stale : ℕ → UInt8) (r : Recv) :
    ((b.finish k i err).step (.reply stale r)).1 = b.finish k i err := by
  unfold Box.finish
  split_ifs with herr
  · rfl
  · exact reply_advance b k i stale r

section Visit

variable {b : Box} {k i : SwitchIdx} (calls : Calls) (sock : Int)

lemma visited_eq (hplace : b.place = .visiting k i) : visited b calls =
    ((b.visit k i calls.gpio (calls.sendmsg.map fun err => (err.val : Int))).1.step
      (.reply calls.stack calls.recv.toRecv)).1 := by
  simp [visited, Box.step, hplace]

lemma visited_callback (value : Bool) :
    ((b.callback k i value (calls.sendmsg.map fun err => (err.val : Int))).1.step
      (.reply calls.stack calls.recv.toRecv)).1 =
        ({ b with state := Function.update b.state i value } : Box).finish k i
          (calls.result (switchTable.get i) value) := by
  have hreq : switchRequest (b.switch i) value = switchRequest (switchTable.get i) value := rfl
  unfold Box.callback Calls.result
  rw [hreq]
  rcases switchRequest (switchTable.get i) value with _ | req
  · exact reply_finish _ k i _ _ _
  · rcases calls.sendmsg with _ | err
    · rfl
    · exact reply_finish _ k i _ _ _

/-- A label and the memory it comes with are where the box is. -/
def Agrees (out : Label Scan × Memory) (b : Box) : Prop :=
  out.1.place = b.place ∧ out.2.state = b.state

lemma report_run (value : Bool) :
    Agrees (run (calling calls) (report k i value) ⟨sock, b.state⟩)
      (({ b with state := Function.update b.state i value } : Box).finish k i
        (calls.result (switchTable.get i) value)) := by
  unfold report
  rw [run_bind, switchCallback_run]
  dsimp only
  unfold Box.finish
  split_ifs with herr
  · rw [run_bind]
    exact ⟨rfl, padDisconnect_state calls _⟩
  · exact ⟨place_advance k i, rfl⟩

lemma compare_run (value : Bool) :
    Agrees (run (calling calls) (compare k i value) ⟨sock, b.state⟩)
      (if b.reports i value then ({ b with state := Function.update b.state i value } : Box).finish
          k i (calls.result (switchTable.get i) value)
        else { b with place := .advance k i }) := by
  have hreports : b.reports i value = (value != b.state i &&
      !(turningOffIgnition (switchTable.get i) value && !b.state valveArmingSwitchIdx)) := rfl
  unfold compare
  rw [run_bind, run_op]
  change Agrees (run (calling calls) (if value = b.state i then _ else _) ⟨sock, b.state⟩) _
  by_cases hsame : value = b.state i
  · have hno : b.reports i value = false := by
      rw [hreports, hsame, bne_self_eq_false, Bool.false_and]
    rw [hno, if_pos hsame]
    exact ⟨place_advance k i, rfl⟩
  rw [if_neg hsame]
  by_cases hoff : turningOffIgnition (switchTable.get i) value = true
  · rw [if_pos hoff, run_bind, run_op]
    change Agrees (run (calling calls) (if (!b.state valveArmingSwitchIdx) = true then _ else _)
      ⟨sock, b.state⟩) _
    by_cases hkey : b.state valveArmingSwitchIdx = true
    · have hyes : b.reports i value = true := by simp [hreports, hsame, hkey]
      rw [if_pos hyes, if_neg (by simp [hkey])]
      exact report_run calls sock value
    · have hno : b.reports i value = false := by simp [hreports, hoff, hkey]
      rw [hno, if_pos (by simp [hkey])]
      exact ⟨place_advance k i, rfl⟩
  · have hyes : b.reports i value = true := by simp [hreports, hsame, hoff]
    rw [if_neg hoff, if_pos hyes]
    exact report_run calls sock value

/-- **A visit of the program** is a look of the box and the reply to what it sent, if it sent
anything. -/
theorem controlBox_visit (hplace : b.place = .visiting k i) :
    Agrees (run (calling calls) (controlBox (.loop (.visiting k i))) ⟨sock, b.state⟩)
      (visited b calls) := by
  rw [visited_eq calls hplace]
  change Agrees (run (calling calls) (visit k i) ⟨sock, b.state⟩) _
  have hdev : gpioDev (b.switch i) = gpioDev (switchTable.get i) := rfl
  unfold visit Box.visit
  rw [hdev]
  rcases gpioDev (switchTable.get i) with _ | dev
  · rw [reply_advance]
    exact ⟨place_advance k i, rfl⟩
  dsimp only
  rw [run_bind, run_op]
  unfold Calls.gpio
  rcases hopen : calls.openDev with err | fd
  · rw [reply_advance]
    simp only [calling_ans, Memory.ans, hopen]
    exact ⟨place_advance k i, rfl⟩
  simp only [calling_ans, Memory.ans, hopen]
  rw [run_bind, run_op]
  rcases hread : calls.gpiocRead with err | high
  · rw [reply_advance]
    simp only [calling_ans, Memory.ans, hread]
    exact ⟨place_advance k i, rfl⟩
  simp only [calling_ans, Memory.ans, hread]
  rw [run_bind]
  have hcompare := compare_run (b := b) (k := k) (i := i) calls sock (!high)
  split_ifs at hcompare ⊢ with hrep
  · rw [visited_callback]
    exact hcompare
  · rw [reply_advance]
    exact hcompare

/-- A wait that ends with an error is started again. -/
theorem controlBox_wait (hplace : b.place = .waiting) :
    Agrees (run (calling calls) (controlBox (.loop .waiting)) ⟨sock, b.state⟩)
      (if calls.sigwaitinfo = none then (b.step .interrupt).1 else b) := by
  change Agrees (run (calling calls) (scanFrom .waiting) ⟨sock, b.state⟩) _
  unfold scanFrom
  rw [run_bind, run_op]
  rcases hwait : calls.sigwaitinfo with _ | err
  · simp only [calling_ans, Memory.ans, hwait, Box.step, hplace, if_true]
    exact ⟨rfl, rfl⟩
  · simp only [calling_ans, Memory.ans, hwait, reduceCtorEq, if_false]
    exact ⟨hplace.symm, rfl⟩

lemma padConnect_memory (m : Memory) : (run (calling calls) padConnect m).2 = m := by
  unfold padConnect setsockKeepalive
  rcases hconn : calls.connect with _ | err
  · rcases hopt : calls.setsockopt with _ | err <;> simp [hconn, hopt]
  · simp [hconn]

/-- As long as the connection is refused the box stays where it is. -/
theorem controlBox_connect (hplace : b.place = .reconnect) :
    let status := (run (calling calls) padConnect ⟨sock, b.state⟩).1
    Agrees (run (calling calls) (controlBox .connecting) ⟨sock, b.state⟩)
      (if triesAgain status then b else (b.step (.connect status)).1) := by
  intro status
  change Agrees (run (calling calls) (padConnect >>= _) ⟨sock, b.state⟩) _
  rw [run_bind, padConnect_memory]
  change Agrees (run (calling calls) (if triesAgain status then _ else _) _) _
  split_ifs with hagain hstatus
  · exact ⟨hplace.symm, rfl⟩
  · simp only [Box.step, hplace]
    exact ⟨(if_neg hstatus).symm, rfl⟩
  · simp only [Box.step, hplace]
    exact ⟨(if_pos (not_not.mp hstatus)).symm, rfl⟩

end Visit

end Hysim.PadClient
