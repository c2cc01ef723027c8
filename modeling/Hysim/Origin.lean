import Hysim.Lib.Steps
import Hysim.Progress
import Hysim.Units

/-!
Where the bytes come from that the telemetry client prints.

Each byte of the two buffers of the client has the number of the datagram it was received in,
or none. The body of a packet is printed from the buffer whatever `stream_recv` has returned,
and a level or a warning is looked up in its table without a check.
-/

namespace Hysim.Origin

open Hysim.Packets Hysim.TelemClient Hysim.Progress Hysim.Units Hysim.Lib.Steps

/-! ### The lines -/

/-- `ARMING_STR`. -/
def armingStr : List String :=
  ["Pad armed", "Valves armed", "Armed for ignition", "Quick disconnect disconnected",
    "Armed for launch"]

/-- `WARNING_STR`. -/
def warningTexts : List String := ["High pressure", "High temperature"]

/-- `arm_state_str`, unless the index is outside the table. -/
def armStateStr (state : UInt8) : Option String := armingStr[state.toNat]?

/-- `warning_str`, unless the index is outside the table. -/
def warningStr (warning : UInt8) : Option String := warningTexts[warning.toNat]?

/-- The line printed for a packet of telemetry. -/
def line : Packet → Option String
  | .temp p => some s!"Thermocouple #{p.id}: {shownDegrees p.temperature} C @ {p.time} ms"
  | .pressure p =>
    some s!"Pressure transducer #{p.id}: {(p.pressure / 1000).toUInt32} PSI @ {p.time} ms"
  | .mass p => some s!"Load cell #{p.id}: {p.mass / 1000} kg @ {p.time} ms"
  | .thrust p => some s!"Thrust sensor #{p.id}: {p.thrust.toInt32} N @ {p.time} ms"
  | .act p =>
    let state := if p.state ≠ 0 then "on" else "off"
    some s!"Actuator #{p.id}: {state} @ {p.time} ms"
  | .arm p => (armStateStr p.state).map fun str => s!"Arming state: {str} # {p.time} ms"
  | .warn p => (warningStr p.type).map fun str => s!"WARNING: {str} # {p.time} ms"
  | .cont p => some s!"Continuity sensor: {continuityStr p.state} # {p.time} ms"
  | .actReq _ | .actAck _ | .armReq _ | .armAck _ | .conn _ => none

/-- What is printed while a datagram is the next in line, and which datagrams the bytes are
from. There is no line when a text is looked up outside its table. -/
structure Print where
  datagram : ℕ
  sources : List (Option ℕ)
  line : Option String
  deriving DecidableEq

/-- Only this datagram is printed, and nothing from outside a table. -/
def Print.Safe (p : Print) : Prop := (∀ o ∈ p.sources, o = some p.datagram) ∧ p.line.isSome

/-! ### Origins -/

/-- A session with the datagrams that the bytes of the two buffers are from. -/
structure Trace where
  session : Session
  hdrFrom : Fin 2 → Option ℕ
  bufferFrom : Fin 50 → Option ℕ
  prints : List Print

def mark {n : ℕ} (origin : Fin n → Option ℕ) (received datagram : ℕ) : Fin n → Option ℕ :=
  fun i => if i.val < received then some datagram else origin i

def typeByte : Fin 2 := ⟨0, Nat.zero_lt_two⟩

/-- The bytes of a buffer that a packet is printed from, when so many are to be received. -/
def body (n : ℕ) : List (Fin 50) := (List.finRange 50).filter fun i => 2 ≤ i.val ∧ i.val < n

def Trace.print (t : Trace) (p : Print) : Trace := { t with prints := t.prints ++ [p] }

/-- `stream_recv` leaves as much of a datagram, unless it fails. -/
def Trace.recv (calls : Calls) (t : Trace) (received datagram : ℕ) : Trace :=
  { t with bufferFrom :=
      if calls.recv.isSome then t.bufferFrom else mark t.bufferFrom received datagram }

/-- One iteration of the loop, in the steps of `iterate`. -/
def Trace.iteration (calls : Calls) (t : Trace) : Trace :=
  let c := t.session.client
  let number := t.session.consumed
  let t := { t with session := t.session.event (.iteration calls) }
  if c.running = false ∨ calls.peek.isSome then t
  else
    match c.queue with
    | [] => t
    | datagram :: _ =>
      if datagram = [] then t
      else
        let t := { t with hdrFrom := mark t.hdrFrom datagram.length number }
        let hdr := (c.peeked datagram).hdr
        if hdr.type ≠ PacketType.telem.val then
          t.print ⟨number, [t.hdrFrom typeByte],
            some s!"Received non-telemetry message: {hdr.type}"⟩
        else
          match telemCase hdr.subtype with
          | none => t
          | some (n, packet) =>
            let t := t.recv calls (min n datagram.length) number
            t.print ⟨number, (body n).map t.bufferFrom, line (packet t.session.client.buffer)⟩

def Trace.event (t : Trace) : Event → Trace
  | .arrival datagram => { t with session := t.session.event (.arrival datagram) }
  | .iteration calls => t.iteration calls

def trace (c : Client) : Trace := ⟨session c, fun _ => none, fun _ => none, []⟩

def Trace.events (t : Trace) (es : List Event) : Trace := es.foldl Trace.event t

/-- A datagram that is printed is received, with all bytes of its packet, and its arming level
or warning is one that there is. -/
def Complete (c : Client) : Event → Prop
  | .arrival _ => True
  | .iteration calls => c.running = true → ∀ datagram rest, c.queue = datagram :: rest →
      ¬ Ends calls c datagram →
      ∀ n packet, telemCase (c.peeked datagram).hdr.subtype = some (n, packet) →
        calls.recv = none ∧ n ≤ datagram.length ∧
          ((c.peeked datagram).hdr.subtype = TelemSubtype.arm.val → datagram.getD 6 0 < 5) ∧
          ((c.peeked datagram).hdr.subtype = TelemSubtype.warn.val → datagram.getD 6 0 < 2)

/-! ### One iteration -/

lemma telemCase_bounds {subtype : UInt8} {n : ℕ} {packet : (Fin 50 → UInt8) → Packet}
    (h : telemCase subtype = some (n, packet)) : 7 ≤ n ∧ n ≤ 11 := by
  unfold telemCase at h
  split_ifs at h
  all_goals
    obtain ⟨rfl, -⟩ := Prod.mk.inj (Option.some.inj h)
    omega

lemma mem_body {n : ℕ} {i : Fin 50} : i ∈ body n ↔ 2 ≤ i.val ∧ i.val < n := by
  simp [body]

lemma packet_congr {subtype : UInt8} {n : ℕ} {packet : (Fin 50 → UInt8) → Packet}
    (h : telemCase subtype = some (n, packet)) {b b' : Fin 50 → UInt8}
    (hsame : ∀ i ∈ body n, b i = b' i) : packet b = packet b' := by
  have hbody : ∀ i : Fin 50, 2 ≤ i.val → i.val < n → b i = b' i := fun i hlow hhigh =>
    hsame i (mem_body.mpr ⟨hlow, hhigh⟩)
  unfold telemCase at h
  split_ifs at h
  all_goals
    obtain ⟨rfl, rfl⟩ := Prod.mk.inj (Option.some.inj h)
    simp (disch := decide) only [hbody]

lemma armStateStr_isSome (state : UInt8) : (armStateStr state).isSome ↔ state < 5 := by
  simp [armStateStr, armingStr, UInt8.lt_iff_toNat_lt]

lemma warningStr_isSome (warning : UInt8) : (warningStr warning).isSome ↔ warning < 2 := by
  simp [warningStr, warningTexts, UInt8.lt_iff_toNat_lt]

lemma line_isSome_iff {subtype : UInt8} {n : ℕ} {packet : (Fin 50 → UInt8) → Packet}
    (h : telemCase subtype = some (n, packet)) (b : Fin 50 → UInt8) :
    (line (packet b)).isSome ↔
      (subtype = TelemSubtype.arm.val → b 6 < 5) ∧ (subtype = TelemSubtype.warn.val → b 6 < 2) := by
  unfold telemCase at h
  split_ifs at h with h0 h1 h2 h3 h4 h5 h6 h7
  all_goals
    obtain ⟨rfl, rfl⟩ := Prod.mk.inj (Option.some.inj h)
    subst subtype
    simp [line, armStateStr_isSome, warningStr_isSome, TelemSubtype.val]

lemma fill_take {k : ℕ} {buf : Fin k → UInt8} {datagram : List UInt8} {n : ℕ} {i : Fin k}
    (hn : i.val < n) (hlen : i.val < datagram.length) :
    fill buf (datagram.take n) i = datagram.getD i 0 := by
  have hget : (datagram.take n)[i.val]? = some datagram[i.val] := by
    rw [List.getElem?_take_of_lt hn, List.getElem?_eq_getElem hlen]
  have hget' : datagram[i.val]? = some datagram[i.val] := List.getElem?_eq_getElem hlen
  rw [fill, List.getD_eq_getElem?_getD, List.getD_eq_getElem?_getD, hget, hget']
  rfl

/-- The client comes to a case of the `switch`. -/
structure Switches (calls : Calls) (c : Client) (datagram : List UInt8) (n : ℕ)
    (packet : (Fin 50 → UInt8) → Packet) : Prop where
  running : c.running = true
  queue : ∃ rest, c.queue = datagram :: rest
  goesOn : ¬ Ends calls c datagram
  case : telemCase (c.peeked datagram).hdr.subtype = some (n, packet)

def receivedFrom (calls : Calls) (t : Trace) (n : ℕ) (datagram : List UInt8) :
    Fin 50 → Option ℕ :=
  (t.recv calls (min n datagram.length) t.session.consumed).bufferFrom

lemma receivedFrom_apply (calls : Calls) (t : Trace) (n : ℕ) (datagram : List UInt8)
    (i : Fin 50) :
    receivedFrom calls t n datagram i =
      if calls.recv = none ∧ i.val < n ∧ i.val < datagram.length then some t.session.consumed
      else t.bufferFrom i := by
  unfold receivedFrom Trace.recv mark
  rcases calls.recv with _ | err
  · simp
  · simp

def receivedBytes (calls : Calls) (c : Client) (n : ℕ) (datagram : List UInt8) : Fin 50 → UInt8 :=
  if calls.recv.isSome then c.buffer else fill c.buffer (datagram.take n)

lemma iteration_switches {calls : Calls} {t : Trace} {datagram : List UInt8} {n : ℕ}
    {packet : (Fin 50 → UInt8) → Packet}
    (h : Switches calls t.session.client datagram n packet) :
    (t.iteration calls).bufferFrom = receivedFrom calls t n datagram ∧
      (t.iteration calls).prints = t.prints ++ [⟨t.session.consumed,
        (body n).map (receivedFrom calls t n datagram),
        line (packet (receivedBytes calls t.session.client n datagram))⟩] := by
  obtain ⟨hrun, ⟨rest, hq⟩, hends, hcase⟩ := h
  have hnext := iterate_not_ends hrun hq hends
  simp only [Ends, not_or, not_not] at hends
  obtain ⟨hpeek, hempty, htype⟩ := hends
  have hbuffer : (iterate calls t.session.client).buffer =
      receivedBytes calls t.session.client n datagram := by
    rw [hnext, report, hcase]
    dsimp only
    unfold streamRecv receivedBytes
    simp only [Client.peeked, hq]
    split_ifs <;> rfl
  have hon : ¬ (t.session.client.running = false ∨ calls.peek.isSome = true) := by
    simp [hrun, hpeek]
  unfold Trace.iteration
  simp only [if_neg hon, hq, if_neg hempty, htype, hcase, Session.event, Trace.print, Trace.recv,
    hbuffer]
  exact ⟨rfl, rfl⟩

lemma iteration_other {calls : Calls} {t : Trace}
    (h : ∀ datagram n packet, ¬ Switches calls t.session.client datagram n packet) :
    (t.iteration calls).bufferFrom = t.bufferFrom ∧
      ∃ more, (t.iteration calls).prints = t.prints ++ more ∧ ∀ p ∈ more, p.Safe := by
  unfold Trace.iteration
  dsimp only
  split_ifs with hoff
  · exact ⟨rfl, [], by simp, by simp⟩
  rcases hq : t.session.client.queue with _ | ⟨datagram, rest⟩
  · exact ⟨rfl, [], by simp, by simp⟩
  dsimp only
  split_ifs with hempty htype
  · exact ⟨rfl, [], by simp, by simp⟩
  · -- a first byte was received, so the type is from this datagram
    have hfrom : mark t.hdrFrom datagram.length t.session.consumed typeByte =
        some t.session.consumed := if_pos (List.length_pos_iff.mpr hempty)
    refine ⟨rfl, [_], rfl, fun p hp => ?_⟩
    rw [List.mem_singleton.mp hp]
    exact ⟨by simp [hfrom], rfl⟩
  · rcases hcase : telemCase (t.session.client.peeked datagram).hdr.subtype with _ | ⟨n, packet⟩
    · exact ⟨rfl, [], by simp, by simp⟩
    · rw [not_or] at hoff
      refine absurd ⟨?_, ⟨rest, hq⟩, ?_, hcase⟩ (h datagram n packet)
      · simpa using hoff.1
      · simp only [Ends, not_or, not_not]
        exact ⟨by simpa using hoff.2, hempty, not_not.mp htype⟩

lemma iteration_session (calls : Calls) (t : Trace) :
    (t.iteration calls).session = t.session.event (.iteration calls) := by
  unfold Trace.iteration
  dsimp only
  split_ifs
  · rfl
  rcases t.session.client.queue with _ | ⟨datagram, rest⟩
  · rfl
  dsimp only
  split_ifs
  · rfl
  · rfl
  · rcases telemCase (t.session.client.peeked datagram).hdr.subtype with _ | ⟨n, packet⟩
    · rfl
    · rfl

lemma event_session (t : Trace) (e : Event) : (t.event e).session = t.session.event e := by
  cases e with
  | arrival datagram => rfl
  | iteration calls => exact iteration_session calls t

lemma events_session (t : Trace) (es : List Event) :
    (t.events es).session = t.session.events es := by
  induction es using List.reverseRecOn with
  | nil => rfl
  | append_singleton es e ih =>
    have hlast : t.events (es ++ [e]) = (t.events es).event e := by
      simp [Trace.events, List.foldl_append]
    rw [hlast, event_session, ih, Session.events_concat]

/-! ### Runs -/

/-- The bytes in the buffer are from datagrams that are gone. -/
def Past (t : Trace) : Prop := ∀ i o, t.bufferFrom i = some o → o < t.session.consumed

lemma consumed_switches {calls : Calls} {s : Session} {datagram : List UInt8} {n : ℕ}
    {packet : (Fin 50 → UInt8) → Packet} (h : Switches calls s.client datagram n packet)
    (hrecv : calls.recv = none) : (s.event (.iteration calls)).consumed = s.consumed + 1 := by
  obtain ⟨hrun, ⟨rest, hq⟩, hends, hcase⟩ := h
  have hqueue : (iterate calls s.client).queue = rest := by
    rw [iterate_not_ends hrun hq hends, report_queue calls (c := s.client.peeked datagram) hq,
      hcase, if_pos ⟨rfl, hrecv⟩]
  simp only [Session.event, hqueue, hq, List.length_cons]
  omega

lemma past_event {t : Trace} (h : Past t) (e : Event) : Past (t.event e) := by
  cases e with
  | arrival datagram => exact h
  | iteration calls =>
    have hle : ∀ i o, t.bufferFrom i = some o →
        o < (t.event (.iteration calls)).session.consumed := by
      intro i o hio
      rw [event_session]
      exact (h i o hio).trans_le (Nat.le_add_right _ _)
    intro i o hio
    by_cases hswitches : ∃ datagram n packet, Switches calls t.session.client datagram n packet
    · obtain ⟨datagram, n, packet, hs⟩ := hswitches
      rw [Trace.event, (iteration_switches hs).1] at hio
      rw [receivedFrom_apply] at hio
      split_ifs at hio with hnew
      · obtain rfl := Option.some.inj hio
        rw [event_session, consumed_switches hs hnew.1]
        omega
      · exact hle i o hio
    · simp only [not_exists] at hswitches
      rw [Trace.event, (iteration_other hswitches).1] at hio
      exact hle i o hio

lemma receivedFrom_iff {calls : Calls} {t : Trace} (h : Past t) {n : ℕ} (hlow : 7 ≤ n)
    (hhigh : n ≤ 11) (datagram : List UInt8) :
    (∀ i ∈ body n, receivedFrom calls t n datagram i = some t.session.consumed) ↔
      calls.recv = none ∧ n ≤ datagram.length := by
  have hold : ∀ i, t.bufferFrom i ≠ some t.session.consumed := fun i hi =>
    (h i _ hi).ne rfl
  constructor
  · intro hall
    have hlast : 2 ≤ n - 1 ∧ n - 1 < n := by omega
    have hfrom := hall ⟨n - 1, by omega⟩ (mem_body.mpr hlast)
    rw [receivedFrom_apply] at hfrom
    split_ifs at hfrom with hnew
    · have hlen : n - 1 < datagram.length := hnew.2.2
      exact ⟨hnew.1, by omega⟩
    · exact absurd hfrom (hold _)
  · rintro ⟨hrecv, hlen⟩ i hi
    have hin := mem_body.mp hi
    rw [receivedFrom_apply, if_pos ⟨hrecv, hin.2, by omega⟩]

lemma packet_received {calls : Calls} {c : Client} {subtype : UInt8} {datagram : List UInt8}
    {n : ℕ} {packet : (Fin 50 → UInt8) → Packet} (hcase : telemCase subtype = some (n, packet))
    (hrecv : calls.recv = none) (hlen : n ≤ datagram.length) :
    packet (receivedBytes calls c n datagram) = packet fun i => datagram.getD i 0 := by
  refine packet_congr hcase fun i hi => ?_
  have hin := mem_body.mp hi
  rw [receivedBytes, if_neg (by simp [hrecv])]
  exact fill_take hin.2 (by omega)

lemma complete_iff {calls : Calls} {c : Client} {datagram : List UInt8} {n : ℕ}
    {packet : (Fin 50 → UInt8) → Packet} (h : Switches calls c datagram n packet) :
    Complete c (.iteration calls) ↔
      (calls.recv = none ∧ n ≤ datagram.length) ∧
        ((c.peeked datagram).hdr.subtype = TelemSubtype.arm.val → datagram.getD 6 0 < 5) ∧
        ((c.peeked datagram).hdr.subtype = TelemSubtype.warn.val → datagram.getD 6 0 < 2) := by
  rw [and_assoc]
  constructor
  · intro hcomplete
    obtain ⟨rest, hq⟩ := h.queue
    exact hcomplete h.running datagram rest hq h.goesOn n packet h.case
  · intro hcond _ datagram' rest' hq' _ n' packet' hcase'
    obtain ⟨rest, hq⟩ := h.queue
    obtain ⟨rfl, -⟩ := List.cons.inj (hq.symm.trans hq')
    obtain ⟨rfl, -⟩ := Prod.mk.inj (Option.some.inj (h.case.symm.trans hcase'))
    exact hcond

lemma print_safe_iff {calls : Calls} {t : Trace} (h : Past t) {datagram : List UInt8} {n : ℕ}
    {packet : (Fin 50 → UInt8) → Packet}
    (hs : Switches calls t.session.client datagram n packet) :
    Print.Safe ⟨t.session.consumed, (body n).map (receivedFrom calls t n datagram),
        line (packet (receivedBytes calls t.session.client n datagram))⟩ ↔
      Complete t.session.client (.iteration calls) := by
  obtain ⟨hlow, hhigh⟩ := telemCase_bounds hs.case
  have hsources : (∀ o ∈ (body n).map (receivedFrom calls t n datagram),
      o = some t.session.consumed) ↔ calls.recv = none ∧ n ≤ datagram.length := by
    rw [List.forall_mem_map, receivedFrom_iff h hlow hhigh]
  rw [complete_iff hs, Print.Safe]
  refine (and_congr_left' hsources).trans (and_congr_right fun hreceived => ?_)
  rw [packet_received hs.case hreceived.1 hreceived.2, line_isSome_iff hs.case]
  rfl

lemma safe_event {t : Trace} (h : Past t) (e : Event) :
    (∀ p ∈ (t.event e).prints, p.Safe) ↔
      (∀ p ∈ t.prints, p.Safe) ∧ Complete t.session.client e := by
  cases e with
  | arrival datagram => exact (and_iff_left trivial).symm
  | iteration calls =>
    by_cases hswitches : ∃ datagram n packet, Switches calls t.session.client datagram n packet
    · obtain ⟨datagram, n, packet, hs⟩ := hswitches
      rw [Trace.event, (iteration_switches hs).2, List.forall_mem_append, List.forall_mem_singleton,
        print_safe_iff h hs]
    · simp only [not_exists] at hswitches
      obtain ⟨more, hprints, hsafe⟩ := (iteration_other hswitches).2
      have hcomplete : Complete t.session.client (.iteration calls) := by
        intro hrun datagram rest hq hends n packet hcase
        exact absurd ⟨hrun, ⟨rest, hq⟩, hends, hcase⟩ (hswitches datagram n packet)
      rw [Trace.event, hprints, List.forall_mem_append]
      exact and_congr_right fun _ => iff_of_true hsafe hcomplete

/-- **When the telemetry client prints only what it has received**, and looks nothing up outside
a table: exactly when each datagram that it prints is received as a whole packet, with a level
or warning that there is. -/
theorem safe_iff (c : Client) (es : List Event) :
    (∀ p ∈ ((trace c).events es).prints, p.Safe) ↔
      ∀ past e, past ++ [e] <+: es → Complete ((session c).events past).client e := by
  have hpast : Past (trace c) := by
    intro i o hio
    cases hio
  have hrun := foldl_iff (fun t : Trace => ∀ p ∈ t.prints, p.Safe)
    (fun t e => Complete t.session.client e) (fun t e ht => past_event ht e)
    (fun t e ht => safe_event ht e) hpast es
  have hnone : ∀ p ∈ (trace c).prints, p.Safe := by simp [trace]
  rw [Trace.events, hrun, and_iff_right hnone]
  refine forall₃_congr fun past e _ => ?_
  have hsession := events_session (trace c) past
  rw [Trace.events] at hsession
  rw [hsession]
  rfl

def blank : Client := ⟨[], ⟨0, 0⟩, fun _ => 0, [], true⟩

/-- The level that the server sends when it cannot lock its state. -/
theorem not_safe :
    ¬ ∀ (c : Client) (es : List Event), ∀ p ∈ ((trace c).events es).prints, p.Safe := by
  intro h
  have hsafe := h blank [.arrival [PacketType.telem.val, TelemSubtype.arm.val, 0, 0, 0, 0, 255],
    .iteration received] ⟨0, List.replicate 5 (some 0), none⟩ (by decide)
  exact absurd hsafe.2 (by decide)

/-- A header alone is printed as a temperature, of which no byte was ever received. -/
example :
    ((trace blank).events [.arrival [PacketType.telem.val, TelemSubtype.temp.val],
      .iteration received]).prints.map Print.sources = [List.replicate 9 none] := by
  decide

end Hysim.Origin
