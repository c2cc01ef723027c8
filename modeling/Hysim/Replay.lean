import Mathlib.Data.List.Induction
import Hysim.Lib.Lines
import Hysim.Lib.Tokens
import Hysim.Packets

/-!
The replay of a telemetry file, from `mock_telemetry` in `telemetry.c`.

An iteration of the loop reads a line into a buffer, takes two fields from it and publishes
them as the time stamp and the value of a pressure; behind the last line it starts over. What
`strtok_r` returns is given to `strtoul` unchecked, and where that is `NULL` nothing is known
of what follows.
-/

namespace Hysim.Replay

open Hysim.Lib.Lines Hysim.Lib.Tokens Hysim.Packets

def newline : UInt8 := 10
def comma : UInt8 := 44

/-- What the platform decides: the size of `buffer` and the bits of an `unsigned long`. -/
structure Platform where
  bufsiz : ℕ
  ulong : ℕ
  bufsiz_ge : 256 ≤ bufsiz
  ulong_ge : 32 ≤ ulong

lemma Platform.one_lt_bufsiz (platform : Platform) : 1 < platform.bufsiz := by
  have := platform.bufsiz_ge
  omega

/-- The desktop build. -/
def desktop : Platform := ⟨8192, 64, by decide, by decide⟩

inductive Status
  | running | returned | undefined
  deriving DecidableEq

/-- An iteration that obtained a line: what it gave to `strtoul` and to `telemetry_publish`, and
where the thread is then. -/
structure Round where
  line : List UInt8
  parsed : List (Option (List UInt8))
  published : Option Packet
  status : Status
  deriving DecidableEq

variable (platform : Platform)

/-- `uint32_t time = strtoul(time_str, NULL, 10)`, and `pressure` alike. -/
def number (s : List UInt8) : UInt32 := UInt32.ofNat (strtoul platform.ulong s)

def pressurePacket (timeStr pstr : List UInt8) : Packet :=
  .pressure ⟨number platform timeStr, (number platform pstr).toInt32, 1⟩

/-- The body of the loop behind `fgets`. -/
def publishLine (line : List UInt8) : Round :=
  let (timeStr, rest) := strtokR (· == comma) (cString line)
  match timeStr with
  | none => ⟨line, [none], none, .undefined⟩
  | some timeStr =>
    match (strtokR (· == comma) rest).1 with
    | none => ⟨line, [some timeStr, none], none, .undefined⟩
    | some pstr =>
      ⟨line, [some timeStr, some pstr], some (pressurePacket platform timeStr pstr), .running⟩

/-- The thread, with the iterations that obtained a line and what went out to the network. -/
structure Playback where
  data : Stream UInt8
  status : Status
  rounds : List Round
  sent : List Packet

structure Calls where
  fgets : Bool
  publish : Bool

/-- The file cannot be opened, or the loop is about to start. -/
def mockTelemetry : Option (List UInt8) → Playback
  | none => ⟨fopen [], .returned, [], []⟩
  | some content => ⟨fopen content, .running, [], []⟩

/-- One iteration of the loop of `mock_telemetry`. Nothing looks at the result of
`telemetry_publish`. -/
def iterate (s : Playback) (fails : Calls) : Playback :=
  if s.status ≠ .running then s
  else if s.data.error then { s with status := .returned }
  else
    -- `feof` with `rewind`, and `fgets`
    match s.data.next newline platform.bufsiz fails.fgets with
    | (none, data) => { s with data := data }
    | (some line, data) =>
      let round := publishLine platform line
      { data := data
        status := round.status
        rounds := s.rounds ++ [round]
        sent := s.sent ++ (if fails.publish then none else round.published).toList }

def replay (file : Option (List UInt8)) (calls : List Calls) : Playback :=
  calls.foldl (iterate platform) (mockTelemetry file)

/-! ### Fields -/

/-- A line without its newline, as far as it is a string. -/
def text (line : List UInt8) : List UInt8 := line.takeWhile fun b => b != 0 && b != newline

def fields (line : List UInt8) : List (List UInt8) := (text line).splitOn comma

/-- A field of a line; one that is missing is empty. -/
def field (line : List UInt8) (i : ℕ) : List UInt8 := (fields line).getD i []

/-- Two fields of the line are not empty. -/
def TwoFields (line : List UInt8) : Prop := 2 ≤ ((fields line).filter (!·.isEmpty)).length

/-- The pieces of a file as they are read into `buffer`. -/
abbrev filePieces (content : List UInt8) : List (List UInt8) :=
  pieces newline (platform.bufsiz - 1) content

lemma cString_piece {line : List UInt8} (h : newline ∉ line.dropLast) :
    cString line = text line ∨ cString line = text line ++ [newline] := by
  induction line with
  | nil => exact .inl rfl
  | cons b line ih =>
    by_cases hzero : b = 0
    · exact .inl (by simp [cString, text, hzero])
    · by_cases hb : b = newline
      · subst hb
        cases line with
        | nil => exact .inr rfl
        | cons c line => simp at h
      · have hrest : newline ∉ line.dropLast := by
          intro hmem
          cases line with
          | nil => simp at hmem
          | cons c line => exact h (List.mem_cons_of_mem b hmem)
        have hcString : cString (b :: line) = b :: cString line := by simp [cString, hzero]
        have htext : text (b :: line) = b :: text line := by simp [text, hzero, hb]
        rw [hcString, htext]
        rcases ih hrest with heq | heq
        · exact .inl (by rw [heq])
        · exact .inr (by rw [heq]; rfl)

lemma field_parsed {line : List UInt8} (h : newline ∉ line.dropLast) {i : ℕ} {t : List UInt8}
    (ht : (tokens (· == comma) (text line))[i]? = some t) :
    ∃ t', (tokens (· == comma) (cString line))[i]? = some t' ∧
      number platform t' = number platform t := by
  rcases cString_piece h with heq | heq
  · exact ⟨t, by rw [heq, ht], rfl⟩
  · rcases tokens_concat (c := newline) (by decide) ht with ht' | ht'
    · exact ⟨t, by rw [heq, ht'], rfl⟩
    · refine ⟨t ++ [newline], by rw [heq, ht'], ?_⟩
      rw [number, number, strtoul_concat platform.ulong (by decide) (by decide)]

/-- What the body of the loop does with a line: with two tokens it publishes, otherwise it gives
`NULL` to `strtoul`. -/
lemma publishLine_cases (line : List UInt8) :
    (∃ t u, (tokens (· == comma) (cString line))[0]? = some t ∧
      (tokens (· == comma) (cString line))[1]? = some u ∧ publishLine platform line =
        ⟨line, [some t, some u], some (pressurePacket platform t u), .running⟩) ∨
    (tokens (· == comma) (cString line)).length < 2 ∧ ∃ parsed, none ∈ parsed ∧
      publishLine platform line = ⟨line, parsed, none, .undefined⟩ := by
  rcases strtokR_cases (· == comma) (cString line) with ⟨h, htokens⟩ | ⟨t, rest, h, htokens⟩
  · exact .inr ⟨by simp [htokens], [none], by simp, by simp [publishLine, h]⟩
  · rcases strtokR_cases (· == comma) rest with ⟨h', htokens'⟩ | ⟨u, _, h', htokens'⟩
    · refine .inr ⟨by simp [htokens, htokens'], [some t, none], by simp, ?_⟩
      simp [publishLine, h, h']
    · refine .inl ⟨t, u, by simp [htokens], by simp [htokens, htokens'], ?_⟩
      simp [publishLine, h, h']

@[simp] lemma publishLine_line (line : List UInt8) : (publishLine platform line).line = line := by
  rcases publishLine_cases platform line with ⟨t, u, -, -, h⟩ | ⟨-, parsed, -, h⟩
  · rw [h]
  · rw [h]

lemma published_of_running {line : List UInt8}
    (hrunning : (publishLine platform line).status = .running) :
    (publishLine platform line).published ≠ none := by
  rcases publishLine_cases platform line with ⟨t, u, -, -, h⟩ | ⟨-, parsed, -, h⟩
  · simp [h]
  · rw [h] at hrunning
    cases hrunning

lemma running_of_parsed {line : List UInt8}
    (hparsed : ∀ s ∈ (publishLine platform line).parsed, s ≠ none) :
    (publishLine platform line).status = .running := by
  rcases publishLine_cases platform line with ⟨t, u, -, -, h⟩ | ⟨-, parsed, hnone, h⟩
  · rw [h]
  · rw [h] at hparsed
    exact absurd rfl (hparsed none hnone)

lemma parsed_iff {line : List UInt8} :
    (∀ s ∈ (publishLine platform line).parsed, s ≠ none) ↔
      2 ≤ (tokens (· == comma) (cString line)).length := by
  rcases publishLine_cases platform line with ⟨t, u, -, hu, h⟩ | ⟨hfew, parsed, hnone, h⟩
  · have hlen := (List.getElem?_eq_some_iff.mp hu).1
    rw [h]
    exact iff_of_true (by simp) hlen
  · rw [h]
    exact iff_of_false (fun hparsed => hparsed none hnone rfl) (by omega)

lemma publishLine_of_twoFields {line t u : List UInt8} (h : newline ∉ line.dropLast)
    (ht : (tokens (· == comma) (text line))[0]? = some t)
    (hu : (tokens (· == comma) (text line))[1]? = some u) :
    ∃ t' u', publishLine platform line =
      ⟨line, [some t', some u'], some (pressurePacket platform t u), .running⟩ := by
  obtain ⟨t', ht', htime⟩ := field_parsed platform h ht
  obtain ⟨u', hu', hpressure⟩ := field_parsed platform h hu
  rcases publishLine_cases platform line with ⟨t'', u'', ht'', hu'', hround⟩ | ⟨hfew, -⟩
  · obtain rfl : t' = t'' := Option.some.inj (ht'.symm.trans ht'')
    obtain rfl : u' = u'' := Option.some.inj (hu'.symm.trans hu'')
    have hpacket : pressurePacket platform t' u' = pressurePacket platform t u := by
      rw [pressurePacket, pressurePacket, htime, hpressure]
    exact ⟨t', u', by rw [hround, hpacket]⟩
  · have hlen := (List.getElem?_eq_some_iff.mp hu').1
    omega

/-- The line is skipped if it has no two fields, and nothing but fields is given to `strtoul`. -/
def Round.Tolerated (r : Round) : Prop :=
  (∀ s ∈ r.parsed, s ≠ none) ∧ (¬ TwoFields r.line → r.published = none ∧ r.status = .running)

lemma tolerated_iff {line : List UInt8} (h : newline ∉ line.dropLast) :
    (publishLine platform line).Tolerated ↔ TwoFields line := by
  constructor
  · rintro ⟨-, hskip⟩
    rw [publishLine_line] at hskip
    by_contra htwo
    obtain ⟨hnone, hrunning⟩ := hskip htwo
    exact published_of_running platform hrunning hnone
  · intro htwo
    have hlen : 2 ≤ (tokens (· == comma) (text line)).length := htwo
    obtain ⟨t', u', hround⟩ := publishLine_of_twoFields platform h
      (List.getElem?_eq_getElem (by omega)) (List.getElem?_eq_getElem (by omega))
    rw [hround]
    exact ⟨by simp, fun hno => absurd htwo hno⟩

/-! ### Runs -/

variable {platform}

lemma iterate_stopped {s : Playback} (h : s.status ≠ .running) (fails : Calls) :
    iterate platform s fails = s :=
  if_pos h

lemma iterate_error {s : Playback} (h : s.status = .running) (herror : s.data.error = true)
    (fails : Calls) : iterate platform s fails = { s with status := .returned } := by
  simp [iterate, h, herror]

lemma iterate_none {s : Playback} {fails : Calls} {data : Stream UInt8} (h : s.status = .running)
    (herror : s.data.error = false)
    (hread : s.data.next newline platform.bufsiz fails.fgets = (none, data)) :
    iterate platform s fails = { s with data := data } := by
  simp [iterate, h, herror, hread]

lemma iterate_line {s : Playback} {fails : Calls} {line : List UInt8} {data : Stream UInt8}
    (h : s.status = .running) (herror : s.data.error = false)
    (hread : s.data.next newline platform.bufsiz fails.fgets = (some line, data)) :
    iterate platform s fails =
      { data := data
        status := (publishLine platform line).status
        rounds := s.rounds ++ [publishLine platform line]
        sent := s.sent ++
          (if fails.publish then none else (publishLine platform line).published).toList } := by
  simp [iterate, h, herror, hread]

variable (platform) in
/-- Whatever fails, what the iterations obtain are pieces of the file. -/
structure Reading (content : List UInt8) (s : Playback) : Prop where
  file : s.data.content = content
  position : ∃ i, s.data.At newline platform.bufsiz i
  rounds : ∀ r ∈ s.rounds, ∃ line ∈ filePieces platform content, r = publishLine platform line

lemma reading_step {content : List UInt8} {s : Playback} (h : Reading platform content s)
    (fails : Calls) : Reading platform content (iterate platform s fails) := by
  by_cases hrunning : s.status = .running
  · rcases herror : s.data.error with _ | _
    · obtain ⟨i, hi⟩ := h.position
      obtain ⟨hat, hcontent, hmem⟩ := hi.next_mem platform.one_lt_bufsiz fails.fgets
      rcases hread : s.data.next newline platform.bufsiz fails.fgets with ⟨_ | line, data⟩
      · rw [iterate_none hrunning herror hread]
        rw [hread] at hat hcontent
        exact ⟨hcontent.trans h.file, hat, h.rounds⟩
      · rw [iterate_line hrunning herror hread]
        rw [hread, h.file] at hmem
        rw [hread] at hat hcontent
        refine ⟨hcontent.trans h.file, hat, fun r hr => ?_⟩
        rcases List.mem_append.mp hr with hr | hr
        · exact h.rounds r hr
        · exact ⟨line, hmem line rfl, List.mem_singleton.mp hr⟩
    · rw [iterate_error hrunning herror]
      exact ⟨h.file, h.position, h.rounds⟩
  · rw [iterate_stopped hrunning]
    exact h

lemma reading_replay (content : List UInt8) (calls : List Calls) :
    Reading platform content (replay platform (some content) calls) := by
  induction calls using List.reverseRecOn with
  | nil => exact ⟨rfl, ⟨0, at_fopen newline content⟩, by simp [replay, mockTelemetry]⟩
  | append_singleton calls fails ih =>
    rw [replay, List.foldl_append]
    exact reading_step ih fails

/-! ### Passes over the file -/

def allSucceed : Calls := ⟨false, false⟩

variable (platform) in
/-- While nothing fails, the iterations that obtain a line go round the file, and at least every
other iteration is one. -/
structure Cycling (content : List UInt8) (count : ℕ) (s : Playback) : Prop where
  running : s.status = .running
  error : s.data.error = false
  file : s.data.content = content
  position : ∃ i, s.data.At newline platform.bufsiz i ∧
    s.rounds.length % (filePieces platform content).length =
      i % (filePieces platform content).length
  rounds : ∀ k < s.rounds.length, ∃ line,
    (filePieces platform content)[k % (filePieces platform content).length]? = some line ∧
      s.rounds[k]? = some (publishLine platform line)
  sent : s.sent.map some = s.rounds.map Round.published
  count : count ≤ 2 * s.rounds.length + if s.data.eof then 1 else 0

lemma cycling_start {content : List UInt8} :
    Cycling platform content 0 (mockTelemetry (some content)) :=
  ⟨rfl, rfl, rfl, ⟨0, at_fopen newline content, rfl⟩, by simp [mockTelemetry], rfl, Nat.zero_le _⟩

lemma cycling_step {content : List UInt8} {count : ℕ} {s : Playback}
    (h : Cycling platform content count s) (hne : content ≠ [])
    (hrounds : ∀ r ∈ (iterate platform s allSucceed).rounds, r.status = .running) :
    Cycling platform content (count + 1) (iterate platform s allSucceed) := by
  obtain ⟨i, hat, hi⟩ := h.position
  have hcount := h.count
  have hnext := hat.next platform.one_lt_bufsiz
  rw [h.file] at hnext
  rcases hnext with ⟨line, data, hline, hread, hafter, hcontent, herror⟩ |
    ⟨heof, data, hread, hafter, hend, hcontent, herror⟩
  · rw [iterate_line h.running h.error hread] at hrounds ⊢
    have hstatus : (publishLine platform line).status = .running := hrounds _ (by simp)
    have hsome := published_of_running platform hstatus
    obtain ⟨packet, hpacket⟩ := Option.ne_none_iff_exists'.mp hsome
    refine ⟨hstatus, herror h.error, hcontent, ⟨_, hafter, ?_⟩, fun k hk => ?_, ?_, ?_⟩
    · rw [List.length_append, List.length_singleton, ← Nat.mod_add_mod, hi]
    · simp only [List.length_append, List.length_singleton] at hk
      rcases Nat.lt_or_ge k s.rounds.length with hlt | hge
      · rw [List.getElem?_append_left hlt]
        exact h.rounds k hlt
      · obtain rfl : k = s.rounds.length := by omega
        rw [hi]
        exact ⟨line, hline, by simp⟩
    · simp [h.sent, hpacket, allSucceed]
    · simp only [List.length_append, List.length_singleton]
      split_ifs at hcount ⊢ <;> omega
  · rw [iterate_none h.running h.error hread]
    rw [if_neg (by simp [heof hne])] at hcount
    refine ⟨h.running, herror h.error, hcontent, ⟨i, hafter, hi⟩, h.rounds, h.sent, ?_⟩
    simp only [hend, if_true]
    omega

lemma rounds_grow (s : Playback) (fails : Calls) :
    ∃ more, (iterate platform s fails).rounds = s.rounds ++ more := by
  by_cases hrunning : s.status = .running
  · rcases herror : s.data.error with _ | _
    · rcases hread : s.data.next newline platform.bufsiz fails.fgets with ⟨_ | line, data⟩
      · exact ⟨[], by simp [iterate_none hrunning herror hread]⟩
      · exact ⟨[publishLine platform line], by rw [iterate_line hrunning herror hread]⟩
    · exact ⟨[], by simp [iterate_error hrunning herror]⟩
  · exact ⟨[], by simp [iterate_stopped hrunning]⟩

lemma cycling_replay {content : List UInt8} (hne : content ≠ []) (count : ℕ)
    (hrounds : ∀ r ∈ (replay platform (some content) (List.replicate count allSucceed)).rounds,
      r.status = .running) :
    Cycling platform content count
      (replay platform (some content) (List.replicate count allSucceed)) := by
  induction count with
  | zero => exact cycling_start
  | succ count ih =>
    rw [List.replicate_succ', replay, List.foldl_append] at hrounds ⊢
    obtain ⟨more, hmore⟩ := @rounds_grow platform
      (replay platform (some content) (List.replicate count allSucceed)) allSucceed
    refine cycling_step (ih fun r hr => hrounds r ?_) hne hrounds
    exact hmore ▸ List.mem_append_left more hr

/-- What keeps the thread running holds of all rounds exactly if it holds of the one for each
piece of the file: unless the thread stops before, every piece is read. -/
lemma rounds_iff {P : Round → Prop} (content : List UInt8)
    (hrunning : ∀ line, P (publishLine platform line) →
      (publishLine platform line).status = .running) :
    (∀ calls, ∀ r ∈ (replay platform (some content) calls).rounds, P r) ↔
      ∀ piece ∈ filePieces platform content, P (publishLine platform piece) := by
  constructor
  · intro h piece hpiece
    have hne : content ≠ [] := by
      rintro rfl
      cases hpiece
    obtain ⟨k, hk⟩ := List.getElem?_of_mem hpiece
    have hlt : k < (filePieces platform content).length := (List.getElem?_eq_some_iff.mp hk).1
    have hcycling : Cycling platform content (2 * k + 2) _ := cycling_replay hne _ fun r hr => by
      obtain ⟨line, -, rfl⟩ := (reading_replay content _).rounds r hr
      exact hrunning line (h _ _ hr)
    have hcount := hcycling.count
    obtain ⟨line, hline, hround⟩ := hcycling.rounds k (by split_ifs at hcount <;> omega)
    rw [Nat.mod_eq_of_lt hlt, hk] at hline
    obtain rfl := Option.some.inj hline
    exact h _ _ (List.mem_of_getElem? hround)
  · intro h calls r hr
    obtain ⟨line, hline, rfl⟩ := (reading_replay content calls).rounds r hr
    exact h line hline

/-- The thread gives `NULL` to `strtoul` in no run exactly if every piece of the file has two
tokens. The newline counts here: `1,` with a newline has two. -/
theorem parses_iff (platform : Platform) (content : List UInt8) :
    (∀ calls, ∀ r ∈ (replay platform (some content) calls).rounds, ∀ s ∈ r.parsed, s ≠ none) ↔
      ∀ piece ∈ filePieces platform content, 2 ≤ (tokens (· == comma) (cString piece)).length := by
  rw [rounds_iff content fun line => running_of_parsed platform]
  simp only [parsed_iff]

/-- **The replay tolerates a file exactly if every piece of it has two fields.** In every run each
iteration that obtains a line gives nothing but strings to `strtoul` and skips a line without two
fields, if and only if no piece of the file lacks them. -/
theorem tolerates_iff (platform : Platform) (content : List UInt8) :
    (∀ calls, ∀ r ∈ (replay platform (some content) calls).rounds, r.Tolerated) ↔
      ∀ piece ∈ filePieces platform content, TwoFields piece := by
  rw [rounds_iff content fun line h => running_of_parsed platform h.1]
  constructor
  · intro h piece hpiece
    exact (tolerated_iff platform (nl_notMem_of_mem_piecesFrom hpiece)).mp (h piece hpiece)
  · intro h piece hpiece
    exact (tolerated_iff platform (nl_notMem_of_mem_piecesFrom hpiece)).mpr (h piece hpiece)

/-- A blank line. -/
theorem blank_line : ¬ ∀ (platform : Platform) (content : List UInt8) (calls : List Calls),
    ∀ r ∈ (replay platform (some content) calls).rounds, r.Tolerated := by
  intro h
  have hround : (⟨[newline], [some [newline], none], none, .undefined⟩ : Round) ∈
      (replay desktop (some [newline]) [allSucceed]).rounds := by decide
  obtain ⟨hparsed, -⟩ := h _ _ _ _ hround
  exact hparsed none (by simp) rfl

/-! ### What is published -/

/-- What is built from a line: its first field is the time stamp, its second the pressure. -/
def packetOf (platform : Platform) (line : List UInt8) : Packet :=
  let time := UInt32.ofNat (strtoul platform.ulong (field line 0))
  let pressure := UInt32.ofNat (strtoul platform.ulong (field line 1))
  .pressure ⟨time, pressure.toInt32, 1⟩

lemma tokens_of_fields {line : List UInt8} (h0 : field line 0 ≠ []) (h1 : field line 1 ≠ []) :
    (tokens (· == comma) (text line))[0]? = some (field line 0) ∧
      (tokens (· == comma) (text line))[1]? = some (field line 1) := by
  have htokens : tokens (· == comma) (text line) = (fields line).filter (!·.isEmpty) := rfl
  rw [htokens]
  rw [field] at h0 h1
  rcases hfields : fields line with _ | ⟨f, _ | ⟨g, rest⟩⟩
  · simp [hfields] at h0
  · simp [hfields] at h1
  · simp only [hfields, List.getD_cons_zero, List.getD_cons_succ] at h0 h1
    simp [field, hfields, h0, h1]

lemma publishLine_of_fields {platform : Platform} {line : List UInt8}
    (h : newline ∉ line.dropLast) (h0 : field line 0 ≠ []) (h1 : field line 1 ≠ []) :
    (publishLine platform line).published = some (packetOf platform line) ∧
      (publishLine platform line).status = .running := by
  obtain ⟨ht, hu⟩ := tokens_of_fields h0 h1
  obtain ⟨t', u', hround⟩ := publishLine_of_twoFields platform h ht hu
  rw [hround]
  exact ⟨rfl, rfl⟩

lemma sent_of_cycling {platform : Platform} {content : List UInt8} {count : ℕ} {s : Playback}
    (h : Cycling platform content count s) :
    s.sent.length = s.rounds.length ∧ ∀ (k : ℕ) (r : Round) (packet : Packet),
      s.rounds[k]? = some r → r.published = some packet → s.sent[k]? = some packet := by
  refine ⟨by simpa using congrArg List.length h.sent, fun k r packet hr hpacket => ?_⟩
  have hk := congrArg (fun packets => packets[k]?) h.sent
  simpa [hr, hpacket] using hk

/-- **The replay of a file goes round its lines.** If all lines fit into the buffer, their first
two fields are not empty and nothing fails, the thread goes on and publishes at least every
other iteration; and what it publishes is built from the lines of the file in order, over and
over, whether or not the last of them ends with a newline. -/
theorem replays_lines (platform : Platform) (content : List UInt8) (calls : List Calls)
    (hne : content ≠ []) (hfit : ∀ line ∈ lines newline content, line.length < platform.bufsiz)
    (hfields : ∀ line ∈ lines newline content, field line 0 ≠ [] ∧ field line 1 ≠ [])
    (hcalls : ∀ fails ∈ calls, fails = allSucceed) :
    let s := replay platform (some content) calls
    s.status = .running ∧ calls.length ≤ 2 * s.sent.length + 1 ∧
      ∀ k < s.sent.length, ∃ line,
        (lines newline content)[k % (lines newline content).length]? = some line ∧
          s.sent[k]? = some (packetOf platform line) := by
  intro s
  have hsize := platform.one_lt_bufsiz
  have hlines : filePieces platform content = lines newline content :=
    pieces_eq_lines (by omega) fun line hline => by
      have := hfit line hline
      omega
  have hend : ∀ line ∈ lines newline content, newline ∉ line.dropLast := by
    rw [← hlines]
    exact fun line hline => nl_notMem_of_mem_piecesFrom hline
  have hs : s = replay platform (some content) (List.replicate calls.length allSucceed) :=
    congrArg (replay platform (some content)) (List.eq_replicate_of_mem hcalls)
  have hcycling : Cycling platform content calls.length s := by
    rw [hs]
    refine cycling_replay hne calls.length fun r hr => ?_
    obtain ⟨line, hline, rfl⟩ := (reading_replay content _).rounds r hr
    rw [hlines] at hline
    obtain ⟨h0, h1⟩ := hfields line hline
    exact (publishLine_of_fields (hend line hline) h0 h1).2
  obtain ⟨hlength, hsent⟩ := sent_of_cycling hcycling
  have hcount := hcycling.count
  refine ⟨hcycling.running, by split_ifs at hcount <;> omega, fun k hk => ?_⟩
  obtain ⟨line, hline, hround⟩ := hcycling.rounds k (by omega)
  rw [hlines] at hline
  have hmem := List.mem_of_getElem? hline
  obtain ⟨h0, h1⟩ := hfields line hmem
  exact ⟨line, hline, hsent k _ _ hround (publishLine_of_fields (hend line hmem) h0 h1).1⟩

/-- Two lines, the last without a newline: `1,2` and `3,4`. -/
def twoLines : List UInt8 := [49, 44, 50, 10, 51, 44, 52]

theorem replays_twoLines :
    let s := replay desktop (some twoLines) (List.replicate 5 allSucceed)
    s.status = .running ∧ (List.replicate 5 allSucceed).length ≤ 2 * s.sent.length + 1 ∧
      ∀ k < s.sent.length, ∃ line,
        (lines newline twoLines)[k % (lines newline twoLines).length]? = some line ∧
          s.sent[k]? = some (packetOf desktop line) :=
  replays_lines desktop twoLines (List.replicate 5 allSucceed) (by decide) (by decide) (by decide)
    (by simp)

end Hysim.Replay
