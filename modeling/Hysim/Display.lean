import Hysim.History

/-!
What the operator is shown of the measurements.

Datagrams with measurements and datagrams with the pad state come to the telemetry client on one
socket. Of each it reports the first packet: nothing is lost of a datagram that holds one packet
only, and the rest of any other is.
-/

namespace Hysim.Display

open Hysim.Packets Hysim.State Hysim.Publish Hysim.TelemClient Hysim.Channel Hysim.History

instance (p : Packet) : Decidable (IsSensor p) :=
  match p with
  | .temp _ | .pressure _ | .mass _ | .thrust _ | .cont _ => isTrue trivial
  | .actReq _ | .actAck _ | .armReq _ | .armAck _ | .arm _ | .act _ | .warn _ | .conn _ =>
    isFalse id

def measured (reports : List Packet) : List Packet := reports.filter (IsSensor ·)

/-- A datagram that arrives: with the measurements of `x`, or with the pad state. -/
inductive Entry (γ : Type)
  | sensors (x : γ)
  | padstate (time : UInt32) (pad : PadState)

variable {γ : Type}

def Entry.Bytes (sent : γ → List (List UInt8)) : Entry γ → List UInt8 → Prop
  | .sensors x, bytes => sent x = [bytes]
  | .padstate time pad, bytes => bytes = encode (padDatagram time pad)

def fromSensors (entries : List (Entry γ)) : List γ :=
  entries.filterMap fun
    | .sensors x => some x
    | .padstate _ _ => none

/-- What is published starts with a measurement. -/
def Measures (sent : γ → List (List UInt8)) (f : γ → Datagram) : Prop :=
  ∀ x bytes, sent x = [bytes] →
    bytes = encode (f x) ∧ ∃ p ps, f x = p :: ps ∧ IsSensor p

variable {sent : γ → List (List UInt8)} {f : γ → Datagram}

lemma exists_datagrams (hf : Measures sent f) {entries : List (Entry γ)}
    {queue : List (List UInt8)} (hqueue : List.Forall₂ (Entry.Bytes sent) entries queue) :
    ∃ q : List Datagram, queue = q.map encode ∧ (∀ msg ∈ q, Heads msg) ∧
      ∀ n, (measured (firsts (q.take n))).map some =
        (fromSensors (entries.take n)).map fun x => (f x).head? := by
  induction hqueue with
  | nil => exact ⟨[], rfl, by simp, fun n => by simp [firsts, fromSensors, measured]⟩
  | @cons entry bytes entries queue hentry _ ih =>
    obtain ⟨q, rfl, hheads, hsaid⟩ := ih
    cases entry with
    | sensors x =>
      obtain ⟨rfl, p, ps, hp, hsensor⟩ := hf x bytes hentry
      refine ⟨f x :: q, rfl, ?_, fun n => ?_⟩
      · rw [hp]
        exact List.forall_mem_cons.mpr ⟨⟨p, ps, rfl, IsSensor.shown hsensor⟩, hheads⟩
      · cases n with
        | zero => rfl
        | succ n =>
          have hfirst : measured (firsts ((f x :: q).take (n + 1))) =
              p :: measured (firsts (q.take n)) := by
            rw [List.take_succ_cons, hp, firsts_cons, measured,
              List.filter_cons_of_pos (by simpa using hsensor)]
            rfl
          rw [hfirst, List.map_cons, hsaid n, List.take_succ_cons]
          simp [fromSensors, hp]
    | padstate time pad =>
      obtain rfl := hentry
      refine ⟨padDatagram time pad :: q, rfl, ?_, fun n => ?_⟩
      · exact List.forall_mem_cons.mpr ⟨⟨_, _, rfl, trivial⟩, hheads⟩
      · cases n with
        | zero => rfl
        | succ n => exact hsaid n

/-- **The measurements reported** are the first of each datagram with measurements that has been
read, whatever else is read in between. -/
lemma measured_reports (hf : Measures sent f) {entries : List (Entry γ)}
    {queue : List (List UInt8)} (hqueue : List.Forall₂ (Entry.Bytes sent) entries queue)
    {client : Client} (hnone : client.reports = []) (n : ℕ) :
    (measured (iterations n { client with queue := queue, running := true }).reports).map some =
      (fromSensors (entries.take n)).map fun x => (f x).head? := by
  obtain ⟨q, rfl, hheads, hsaid⟩ := exists_datagrams hf hqueue
  obtain ⟨d, hd, hreports⟩ := iterations_heads n client hheads
  have hshown : (iterations n { client with queue := q.map encode, running := true }).reports =
      firsts (q.take n) := by
    change (iterations n (waiting client q)).reports = _
    rw [hd]
    simpa [waiting, hnone] using hreports
  rw [hshown, hsaid n]

end Hysim.Display
