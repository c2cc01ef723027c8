import Mathlib.Data.List.Nodup
import Mathlib.Data.List.Induction
import Hysim.Lib.Steps
import Hysim.TelemClient

/-!
The receive loop of the telemetry client.

To peek at a datagram consumes nothing, and each case of the `switch` consumes it by itself.
A datagram whose subtype has no case stays where it is, with all those after it.
-/

namespace Hysim.Progress

open Hysim.Packets Hysim.TelemClient Hysim.Lib.Steps

/-- A datagram arrives, or the client goes through its loop once. -/
inductive Event
  | arrival (datagram : List UInt8)
  | iteration (calls : Calls)

/-- The client with the number of datagrams it has consumed, and the numbers of the datagrams
it has peeked at. -/
structure Session where
  client : Client
  consumed : ℕ
  peeks : List ℕ

def Peeks (calls : Calls) (c : Client) : Prop :=
  c.running = true ∧ calls.peek = none ∧ c.queue ≠ []

instance (calls : Calls) (c : Client) : Decidable (Peeks calls c) := by
  unfold Peeks; infer_instance

def Session.event (s : Session) : Event → Session
  | .arrival datagram =>
    { s with client := { s.client with queue := s.client.queue ++ [datagram] } }
  | .iteration calls =>
    { client := iterate calls s.client
      consumed := s.consumed + (s.client.queue.length - (iterate calls s.client).queue.length)
      peeks := if Peeks calls s.client then s.peeks ++ [s.consumed] else s.peeks }

def Session.events (s : Session) (es : List Event) : Session := es.foldl Session.event s

lemma Session.events_concat (s : Session) (es : List Event) (e : Event) :
    s.events (es ++ [e]) = (s.events es).event e := by
  simp [Session.events, List.foldl_append]

def session (c : Client) : Session := ⟨c, 0, []⟩

/-- With a datagram waiting, an iteration consumes it and no other, or ends the program. -/
def Progresses (c : Client) : Event → Prop
  | .arrival _ => True
  | .iteration calls => c.running = true → c.queue ≠ [] →
      (iterate calls c).running = false ∨ ∃ datagram, c.queue = datagram :: (iterate calls c).queue

/-- What ends the program when a datagram is peeked at. -/
def Ends (calls : Calls) (c : Client) (datagram : List UInt8) : Prop :=
  calls.peek ≠ none ∨ datagram = [] ∨ (c.peeked datagram).hdr.type ≠ PacketType.telem.val

/-- The datagram waiting ends the program, or its subtype is one of those before `TELEM_CONN`
and it can be received. -/
def Cased (c : Client) : Event → Prop
  | .arrival _ => True
  | .iteration calls => c.running = true → ∀ datagram rest, c.queue = datagram :: rest →
      Ends calls c datagram ∨
        (c.peeked datagram).hdr.subtype < TelemSubtype.conn.val ∧ calls.recv = none

/-! ### One iteration -/

lemma telemCase_isSome_iff (subtype : UInt8) :
    (telemCase subtype).isSome ↔ subtype < TelemSubtype.conn.val := by
  rw [UInt8.lt_iff_toNat_lt]
  unfold telemCase
  split_ifs with h0 h1 h2 h3 h4 h5 h6 h7
  all_goals simp only [TelemSubtype.val, ← UInt8.toNat_inj] at *
  all_goals simp at *
  all_goals omega

lemma report_queue (calls : Calls) {c : Client} {datagram : List UInt8}
    {rest : List (List UInt8)} (hq : c.queue = datagram :: rest) :
    (report calls c).queue =
      if (telemCase c.hdr.subtype).isSome ∧ calls.recv = none then rest
      else datagram :: rest := by
  unfold report
  rcases telemCase c.hdr.subtype with _ | ⟨n, packet⟩
  · simp [hq]
  · rcases hrecv : calls.recv with _ | e
    · simp [streamRecv, hq, hrecv]
    · simp [streamRecv, hq, hrecv]

lemma report_running (calls : Calls) (c : Client) : (report calls c).running = c.running := by
  unfold report
  rcases telemCase c.hdr.subtype with _ | ⟨n, packet⟩
  · rfl
  · dsimp only
    unfold streamRecv
    split
    · rfl
    · split_ifs <;> rfl

lemma iterate_ends {calls : Calls} {c : Client} {datagram : List UInt8}
    {rest : List (List UInt8)} (hq : c.queue = datagram :: rest) (h : Ends calls c datagram) :
    (iterate calls c).running = false := by
  unfold iterate
  split_ifs with hrun hpeek
  · exact hrun
  · rfl
  rw [hq]
  dsimp only
  split_ifs with hempty htype
  · rfl
  · rfl
  · rcases h with hp | hd | ht
    · exact absurd (Option.isSome_iff_ne_none.mpr hp) hpeek
    · exact absurd hd hempty
    · exact absurd ht htype

lemma iterate_not_ends {calls : Calls} {c : Client} {datagram : List UInt8}
    {rest : List (List UInt8)} (hrun : c.running = true) (hq : c.queue = datagram :: rest)
    (h : ¬ Ends calls c datagram) : iterate calls c = report calls (c.peeked datagram) := by
  simp only [Ends, not_or, not_not] at h
  obtain ⟨hpeek, hempty, htype⟩ := h
  simp [iterate, hrun, hq, hpeek, hempty, htype]

lemma running_of_iterate {calls : Calls} {c : Client} (h : (iterate calls c).running = true) :
    c.running = true := by
  by_contra hoff
  rw [iterate, if_pos (Bool.eq_false_iff.mpr hoff)] at h
  exact hoff h

lemma progresses_iff (c : Client) (e : Event) : Progresses c e ↔ Cased c e := by
  cases e with
  | arrival datagram => exact Iff.rfl
  | iteration calls =>
    refine imp_congr_right fun hrun => ?_
    rcases hq : c.queue with _ | ⟨datagram, rest⟩
    · simp
    have hhead : (∀ d r, datagram :: rest = d :: r → Ends calls c d ∨
          (c.peeked d).hdr.subtype < TelemSubtype.conn.val ∧ calls.recv = none) ↔
        Ends calls c datagram ∨
          (c.peeked datagram).hdr.subtype < TelemSubtype.conn.val ∧ calls.recv = none := by
      refine ⟨fun h => h datagram rest rfl, fun h d r hd => ?_⟩
      obtain ⟨rfl, -⟩ := List.cons.inj hd
      exact h
    rw [hhead]
    by_cases hends : Ends calls c datagram
    · exact iff_of_true (fun _ => .inl (iterate_ends hq hends)) (.inl hends)
    have hnext := iterate_not_ends hrun hq hends
    have hqueue := report_queue calls (c := c.peeked datagram) hq
    have hon : (iterate calls c).running = true := by
      rw [hnext, report_running]
      exact hrun
    by_cases hcase : (c.peeked datagram).hdr.subtype < TelemSubtype.conn.val ∧ calls.recv = none
    · rw [if_pos ⟨(telemCase_isSome_iff _).mpr hcase.1, hcase.2⟩] at hqueue
      refine iff_of_true (fun _ => .inr ⟨datagram, ?_⟩) (.inr hcase)
      rw [hnext, hqueue]
    · -- no case for it, or it is not received: it stays the first of the queue
      rw [if_neg fun h => hcase ⟨(telemCase_isSome_iff _).mp h.1, h.2⟩] at hqueue
      refine iff_of_false (fun h => ?_) (not_or.mpr ⟨hends, hcase⟩)
      rcases h (List.cons_ne_nil _ _) with hoff | ⟨d, hd⟩
      · rw [hon] at hoff
        cases hoff
      · rw [hnext, hqueue] at hd
        exact absurd (congrArg List.length hd) (by simp)

/-! ### Runs -/

/-- As long as every iteration makes progress, the datagrams peeked at are distinct, and all
of them consumed if the client is still running. -/
structure Once (s : Session) : Prop where
  nodup : s.peeks.Nodup
  past : s.client.running = true → ∀ n ∈ s.peeks, n < s.consumed

lemma once_event {s : Session} (h : Once s) {e : Event} (hprog : Progresses s.client e) :
    Once (s.event e) := by
  cases e with
  | arrival datagram => exact ⟨h.nodup, h.past⟩
  | iteration calls =>
    by_cases hpeeks : Peeks calls s.client
    · have hpeek : (s.event (.iteration calls)).peeks = s.peeks ++ [s.consumed] := if_pos hpeeks
      obtain ⟨hrun, -, hne⟩ := hpeeks
      constructor
      · rw [hpeek, List.nodup_append]
        refine ⟨h.nodup, List.nodup_singleton _, fun n hn m hm => ?_⟩
        rw [List.mem_singleton.mp hm]
        exact (h.past hrun n hn).ne
      · intro hon n hn
        have hone : s.consumed < (s.event (.iteration calls)).consumed := by
          rcases hprog hrun hne with hoff | ⟨d, hd⟩
          · exact absurd (hon.symm.trans hoff) (by decide)
          · have hlen : s.client.queue.length = (iterate calls s.client).queue.length + 1 := by
              rw [hd, List.length_cons]
            simp only [Session.event]
            omega
        rw [hpeek] at hn
        rcases List.mem_append.mp hn with hn | hn
        · exact (h.past hrun n hn).trans hone
        · rw [List.mem_singleton.mp hn]
          exact hone
    · have hpeek : (s.event (.iteration calls)).peeks = s.peeks := if_neg hpeeks
      refine ⟨hpeek ▸ h.nodup, fun hon n hn => ?_⟩
      rw [hpeek] at hn
      have hrun : s.client.running = true := running_of_iterate hon
      exact (h.past hrun n hn).trans_le (Nat.le_add_right _ _)

lemma once_events (c : Client) {es : List Event}
    (hprog : ∀ past e, past ++ [e] <+: es → Progresses ((session c).events past).client e) :
    Once ((session c).events es) := by
  induction es using List.reverseRecOn with
  | nil => exact ⟨List.nodup_nil, by simp [session, Session.events]⟩
  | append_singleton es e ih =>
    obtain ⟨hpre, hlast⟩ := forall_prefix_concat.mp hprog
    rw [Session.events_concat]
    exact once_event (ih hpre) hlast

/-- **When the telemetry client makes progress**: with each of its iterations, and so without
peeking at a datagram a second time, exactly when each datagram that is next in line ends the
program or has a case and is received. -/
theorem progress_iff (c : Client) (es : List Event) :
    ((∀ past e, past ++ [e] <+: es → Progresses ((session c).events past).client e) ∧
        ((session c).events es).peeks.Nodup) ↔
      ∀ past e, past ++ [e] <+: es → Cased ((session c).events past).client e := by
  constructor
  · intro h past e hpast
    exact (progresses_iff _ e).mp (h.1 past e hpast)
  · intro h
    have hprog := fun past e hpast => (progresses_iff _ e).mpr (h past e hpast)
    exact ⟨hprog, (once_events c hprog).nodup⟩

/-- A datagram with the connection status alone, and then with a measurement behind it. -/
theorem not_progress :
    ¬ ∀ (c : Client) (es : List Event),
      (∀ past e, past ++ [e] <+: es → Progresses ((session c).events past).client e) ∧
        ((session c).events es).peeks.Nodup := by
  intro h
  have hnodup := (h ⟨[[PacketType.telem.val, TelemSubtype.conn.val]], ⟨0, 0⟩, fun _ => 0, [], true⟩
    [.iteration received, .iteration received]).2
  exact absurd hnodup (by decide)

/-! ### What waits behind it -/

/-- A datagram of telemetry without a case. -/
structure Uncased (datagram : List UInt8) : Prop where
  type : datagram[0]? = some PacketType.telem.val
  subtype : ∃ s, datagram[1]? = some s ∧ TelemSubtype.conn.val ≤ s

lemma iterate_uncased {datagram : List UInt8} (h : Uncased datagram) (calls : Calls) {c : Client}
    {rest : List (List UInt8)} (hq : c.queue = datagram :: rest) :
    (iterate calls c).queue = c.queue ∧ (iterate calls c).reports = c.reports := by
  obtain ⟨s, hs, hle⟩ := h.subtype
  have hsubtype : (c.peeked datagram).hdr.subtype = s := by
    simp [Client.peeked, List.getD_eq_getElem?_getD, hs]
  have hnone : telemCase (c.peeked datagram).hdr.subtype = none := by
    rw [← Option.not_isSome_iff_eq_none, telemCase_isSome_iff, hsubtype]
    exact UInt8.not_lt.mpr hle
  unfold iterate
  split_ifs with hrun hpeek
  · exact ⟨rfl, rfl⟩
  · exact ⟨rfl, rfl⟩
  rw [hq]
  dsimp only
  split_ifs with hempty htype
  · exact ⟨rfl, rfl⟩
  · exact ⟨hq, rfl⟩
  · rw [report, hnone]
    exact ⟨hq, rfl⟩

/-- A datagram without a case, once it is the next in line, keeps the client from all others:
it stays there, and nothing is reported any more. -/
theorem blocked {datagram : List UInt8} (h : Uncased datagram) {c : Client}
    {rest : List (List UInt8)} (hq : c.queue = datagram :: rest) (es : List Event) :
    (∃ more, ((session c).events es).client.queue = datagram :: more) ∧
      ((session c).events es).client.reports = c.reports := by
  induction es using List.reverseRecOn with
  | nil => exact ⟨⟨rest, hq⟩, rfl⟩
  | append_singleton es e ih =>
    obtain ⟨⟨more, hmore⟩, hreports⟩ := ih
    rw [Session.events_concat]
    cases e with
    | arrival d => exact ⟨⟨more ++ [d], by simp [Session.event, hmore]⟩, hreports⟩
    | iteration calls =>
      obtain ⟨hqueue, hsame⟩ := iterate_uncased h calls hmore
      exact ⟨⟨more, hqueue.trans hmore⟩, hsame.trans hreports⟩

end Hysim.Progress
