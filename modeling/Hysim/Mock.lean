import Hysim.Display
import Hysim.Replay

/-!
Mock telemetry to the operator: `random_data` in `telemetry.c`, and the replay of a file.

A message holds one packet, whose header is put together on the stack. So the telemetry client
reports every measurement that arrives, and the operator is shown those of the server in their
order, but for the datagrams that are lost.
-/

namespace Hysim.Mock

open Hysim.Lib.Program Hysim.Packets Hysim.TelemClient Hysim.Display

/-! ### Random data -/

structure RandMax where
  val : ℕ
  val_ge : 32767 ≤ val

inductive RandomOp
  | clock
  | rand
  | publish (msg : List UInt8)

/-- `clock_gettime` in milliseconds, and `rand` up to `RAND_MAX`. -/
@[reducible] def RandomOp.Ans (randMax : RandMax) : RandomOp → Type
  | .clock => UInt32
  | .rand => Fin (randMax.val + 1)
  | .publish _ => Unit

variable {randMax : RandMax}

abbrev RandomM (randMax : RandMax) := Prog RandomOp (RandomOp.Ans randMax)

abbrev clock : RandomM randMax UInt32 := .op RandomOp.clock
abbrev rand : RandomM randMax (Fin (randMax.val + 1)) := .op RandomOp.rand
abbrev publish (msg : List UInt8) : RandomM randMax Unit := .op (RandomOp.publish msg)

/-- `(uint32_t)(1000 * (rand() / RAND_MAX))`, a quotient of integers. -/
def randomPressure (r : Fin (randMax.val + 1)) : Int32 := Int32.ofNat (1000 * (r / randMax.val))

/-- `rand() % 2`, as it is put in the packet. -/
def randomState (r : Fin (randMax.val + 1)) : UInt8 := UInt8.ofNat (r % 2)

def sendPressure (hdr : HeaderP) (timeMs : UInt32) (i : ℕ) : RandomM randMax Unit := do
  let r ← rand
  publish (hdr.bytes ++ (Packet.pressure ⟨timeMs, randomPressure r, UInt8.ofNat i⟩).body)

/-- One iteration of the loop, with the header it finds on the stack and the one it leaves. -/
def randomRound (_ : HeaderP) : RandomM randMax HeaderP := do
  let timeMs ← clock
  let hdr : HeaderP := ⟨PacketType.telem.val, TelemSubtype.pressure.val⟩
  forM (List.range 6) (sendPressure hdr timeMs)
  let hdr := { hdr with subtype := TelemSubtype.cont.val }
  let r ← rand
  publish (hdr.bytes ++ (Packet.cont ⟨timeMs, randomState r⟩).body)
  return hdr

/-- `random_data`, as far as some iterations of its loop. -/
def randomData : ℕ → HeaderP → RandomM randMax HeaderP
  | 0, hdr => return hdr
  | n + 1, hdr => do
    let hdr ← randomData n hdr
    randomRound hdr

/-- What the clock says in each iteration, and what `rand` returns one time after the other. -/
structure Chance (randMax : RandMax) where
  times : ℕ → UInt32
  rands : ℕ → Fin (randMax.val + 1)

structure Air where
  iteration : ℕ
  draws : ℕ
  published : List (List UInt8)

def air (chance : Chance randMax) : Device RandomOp (RandomOp.Ans randMax) Air where
  ans
    | .clock, s => chance.times s.iteration
    | .rand, s => chance.rands s.draws
    | .publish _, _ => ()
  eff
    | .clock, s => { s with iteration := s.iteration + 1 }
    | .rand, s => { s with draws := s.draws + 1 }
    | .publish msg, s => { s with published := s.published ++ [msg] }

def randomPublished (chance : Chance randMax) (hdr : HeaderP) (n : ℕ) : List (List UInt8) :=
  (run (air chance) (randomData n hdr) ⟨0, 0, []⟩).2.published

/-- The `j`th packet. Transducer by transducer and then the continuity, seven in an iteration; a
pressure is nothing, or 1000 if `rand` returned its maximum. -/
def randomPacket (chance : Chance randMax) (j : ℕ) : Packet :=
  if j % 7 < 6 then
    .pressure ⟨chance.times (j / 7), if (chance.rands j).val = randMax.val then 1000 else 0,
      UInt8.ofNat (j % 7)⟩
  else .cont ⟨chance.times (j / 7), UInt8.ofNat ((chance.rands j).val % 2)⟩

variable (chance : Chance randMax)

lemma randomPressure_eq (r : Fin (randMax.val + 1)) :
    randomPressure r = if r.val = randMax.val then 1000 else 0 := by
  have hpos : 0 < randMax.val := by
    have := randMax.val_ge
    omega
  unfold randomPressure
  split_ifs with hmax
  · rw [hmax, Nat.div_self hpos]
    rfl
  · rw [Nat.div_eq_of_lt (by have := r.isLt; omega)]
    rfl

lemma randomPacket_pressure {n i : ℕ} (hi : i < 6) :
    randomPacket chance (7 * n + i) =
      .pressure ⟨chance.times n, randomPressure (chance.rands (7 * n + i)), UInt8.ofNat i⟩ := by
  have hmod : (7 * n + i) % 7 = i := by omega
  have hdiv : (7 * n + i) / 7 = n := by omega
  rw [randomPacket, hmod, hdiv, if_pos hi, randomPressure_eq]

lemma randomPacket_cont (n : ℕ) :
    randomPacket chance (7 * n + 6) =
      .cont ⟨chance.times n, randomState (chance.rands (7 * n + 6))⟩ := by
  have hmod : (7 * n + 6) % 7 = 6 := by omega
  have hdiv : (7 * n + 6) / 7 = n := by omega
  rw [randomPacket, hmod, hdiv, if_neg (by omega)]
  rfl

lemma run_sendPressure (n i : ℕ) (hi : i < 6) (sent : List (List UInt8)) :
    (run (air chance) (sendPressure ⟨PacketType.telem.val, TelemSubtype.pressure.val⟩
      (chance.times n) i) ⟨n + 1, 7 * n + i, sent⟩).2 =
      ⟨n + 1, 7 * n + (i + 1), sent ++ [(randomPacket chance (7 * n + i)).bytes]⟩ := by
  rw [randomPacket_pressure chance hi]
  rfl

lemma run_pressures (n : ℕ) (sent : List (List UInt8)) {k : ℕ} (hk : k ≤ 6) :
    (run (air chance) (forM (List.range k)
      (sendPressure ⟨PacketType.telem.val, TelemSubtype.pressure.val⟩ (chance.times n)))
      ⟨n + 1, 7 * n, sent⟩).2 =
      ⟨n + 1, 7 * n + k,
        sent ++ (List.range k).map fun i => (randomPacket chance (7 * n + i)).bytes⟩ := by
  induction k with
  | zero => simp
  | succ k ih =>
    rw [List.range_succ, List.forM_append, run_bind, ih (by omega), List.map_append,
      ← List.append_assoc]
    exact run_sendPressure chance n k hk _

lemma run_randomRound (n : ℕ) (hdr : HeaderP) (sent : List (List UInt8)) :
    (run (air chance) (randomRound hdr) ⟨n, 7 * n, sent⟩).2 =
      ⟨n + 1, 7 * (n + 1),
        sent ++ (List.range 7).map fun i => (randomPacket chance (7 * n + i)).bytes⟩ := by
  have hround : ∀ s : Air,
      s = (run (air chance) (forM (List.range 6)
        (sendPressure ⟨PacketType.telem.val, TelemSubtype.pressure.val⟩ (chance.times n)))
        ⟨n + 1, 7 * n, sent⟩).2 →
      (run (air chance) (randomRound hdr) ⟨n, 7 * n, sent⟩).2 =
        ⟨s.iteration, s.draws + 1, s.published ++
          [(Packet.cont ⟨chance.times n, randomState (chance.rands s.draws)⟩).bytes]⟩ := by
    rintro _ rfl
    simp only [randomRound, run_bind]
    rfl
  have hseven : List.range 7 = List.range 6 ++ [6] := rfl
  rw [hround _ (run_pressures chance n sent le_rfl).symm, ← randomPacket_cont, hseven,
    List.map_append, List.append_assoc]
  rfl

lemma run_randomData (hdr : HeaderP) (n : ℕ) :
    (run (air chance) (randomData n hdr) ⟨0, 0, []⟩).2 =
      ⟨n, 7 * n, (List.range (7 * n)).map fun j => (randomPacket chance j).bytes⟩ := by
  induction n with
  | zero => rfl
  | succ n ih =>
    rw [randomData, run_bind, ih, run_randomRound, Nat.mul_succ, List.range_add, List.map_append,
      List.map_map]
    rfl

/-! ### What the operator is shown -/

lemma shown_of_one {γ : Type} {sent : γ → List (List UInt8)} {packet : γ → Option Packet}
    (hsent : ∀ x bytes, sent x = [bytes] →
      ∃ p, packet x = some p ∧ bytes = p.bytes ∧ Channel.IsSensor p)
    {entries : List (Entry γ)} {queue : List (List UInt8)}
    (hqueue : List.Forall₂ (Entry.Bytes sent) entries queue) {client : Client}
    (hnone : client.reports = []) (n : ℕ) :
    (measured (iterations n { client with queue := queue, running := true }).reports).map some =
      (fromSensors (entries.take n)).map packet := by
  have hmeasures : Measures sent fun x => (packet x).toList := by
    intro x bytes h
    obtain ⟨p, hp, rfl, hsensor⟩ := hsent x bytes h
    exact ⟨by simp [hp], p, [], by simp [hp], hsensor⟩
  refine (measured_reports hmeasures hqueue hnone n).trans (List.map_congr_left fun x _ => ?_)
  cases packet x <;> rfl

def nth (msgs : List (List UInt8)) (j : ℕ) : List (List UInt8) := msgs[j]?.toList

lemma randomPacket_isSensor (j : ℕ) : Channel.IsSensor (randomPacket chance j) := by
  unfold randomPacket
  split_ifs <;> trivial

/-- **Random data to the operator.** Whatever `rand` and the clock return, however many iterations
the server has made, and whichever of its messages arrive in whatever order: the telemetry client
reports each of those it has read, and the `j`th of them is the pressure of a transducer, which is
nothing unless `rand` returned its maximum, or the continuity. -/
theorem random_shown (hdr : HeaderP) (m : ℕ) {entries : List (Entry ℕ)}
    {queue : List (List UInt8)}
    (hqueue : List.Forall₂ (Entry.Bytes (nth (randomPublished chance hdr m))) entries queue)
    (client : Client) (hnone : client.reports = []) (n : ℕ) :
    measured (iterations n { client with queue := queue, running := true }).reports =
      (fromSensors (entries.take n)).map (randomPacket chance) := by
  have hpublished : randomPublished chance hdr m = _ :=
    congrArg Air.published (run_randomData chance hdr m)
  have hsent : ∀ j bytes, nth (randomPublished chance hdr m) j = [bytes] →
      ∃ p, some (randomPacket chance j) = some p ∧ bytes = p.bytes ∧ Channel.IsSensor p := by
    intro j bytes hj
    refine ⟨_, rfl, ?_, randomPacket_isSensor chance j⟩
    rw [nth, hpublished] at hj
    rcases Nat.lt_or_ge j (7 * m) with hlt | hge
    · simpa [List.getElem?_range hlt] using hj.symm
    · simp [hge] at hj
  have hshown := shown_of_one hsent hqueue hnone n
  refine List.map_injective_iff.mpr (Option.some_injective Packet) (hshown.trans ?_)
  rw [List.map_map]
  rfl

def smallest : RandMax := ⟨32767, le_rfl⟩

/-- `rand` returns its maximum on the first call only. -/
def once : Chance smallest where
  times n := UInt32.ofNat (100 * n)
  rands j := if j = 0 then ⟨32767, by decide⟩ else ⟨5, by decide⟩

/-- Of an iteration the first message comes behind the last one, and the others are lost. -/
theorem random_shown_once : ∃ entries queue,
    List.Forall₂ (Entry.Bytes (nth (randomPublished once ⟨0, 0⟩ 1))) entries queue ∧
      (fromSensors (entries.take 2)).map (randomPacket once) =
        [.cont ⟨0, 1⟩, .pressure ⟨0, 1000, 0⟩] ∧
      measured (iterations 2 { History.started with queue := queue, running := true }).reports =
        (fromSensors (entries.take 2)).map (randomPacket once) := by
  have hqueue : List.Forall₂ (Entry.Bytes (nth (randomPublished once ⟨0, 0⟩ 1)))
      [.sensors 6, .sensors 0] [_, _] := .cons rfl (.cons rfl .nil)
  exact ⟨_, _, hqueue, rfl, random_shown once ⟨0, 0⟩ 1 hqueue History.started rfl 2⟩

/-! ### The replay of a file -/

section Replay

open Hysim.Lib.Lines
open Hysim.Replay hiding iterate Calls

/-- The packets were sent one after the other in the rounds `ks`. -/
structure SentIn (rounds : List Round) (ks : List ℕ) (sent : List Packet) : Prop where
  rising : ks.Pairwise (· < ·)
  lt : ∀ k ∈ ks, k < rounds.length
  packets : List.Forall₂ (fun k p => ∃ r, rounds[k]? = some r ∧ r.published = some p) ks sent

lemma SentIn.round {rounds : List Round} {ks : List ℕ} {sent : List Packet}
    (h : SentIn rounds ks sent) (r : Round) (lost : Bool) : ∃ ks', SentIn (rounds ++ [r]) ks'
      (sent ++ (if lost then none else r.published).toList) := by
  have hpackets : List.Forall₂
      (fun k p => ∃ r', (rounds ++ [r])[k]? = some r' ∧ r'.published = some p) ks sent := by
    refine h.packets.imp fun k p ⟨r', hr', hp⟩ => ⟨r', ?_, hp⟩
    rw [List.getElem?_append_left (List.getElem?_eq_some_iff.mp hr').1, hr']
  have hlt : ∀ k ∈ ks, k < (rounds ++ [r]).length := fun k hk => by
    rw [List.length_append]
    exact Nat.lt_add_right _ (h.lt k hk)
  rcases hsent : (if lost then none else r.published) with _ | p
  · exact ⟨ks, h.rising, hlt, by simpa using hpackets⟩
  · have hp : r.published = some p := by
      cases lost with
      | true => cases hsent
      | false => exact hsent
    refine ⟨ks ++ [rounds.length], ?_, ?_, ?_⟩
    · refine List.pairwise_append.mpr ⟨h.rising, List.pairwise_singleton _ _, fun k hk j hj => ?_⟩
      rw [List.mem_singleton.mp hj]
      exact h.lt k hk
    · intro k hk
      rcases List.mem_append.mp hk with hk | hk
      · exact hlt k hk
      · rw [List.mem_singleton.mp hk]
        simp
    · exact List.rel_append hpackets (.cons ⟨r, by simp, hp⟩ .nil)

variable {platform : Platform} {content : List UInt8}

variable (platform content) in
/-- The `k`th of the pieces of the file, read over and over. -/
def around (k : ℕ) : Option (List UInt8) :=
  (filePieces platform content)[k % (filePieces platform content).length]?

variable (platform content) in
/-- Whatever fails, the rounds go round the file in order: after a read that fails there is none
any more. -/
structure Rolling (s : Playback) : Prop where
  file : s.data.content = content
  position : s.status = .running → s.data.error = false →
    ∃ i, s.data.At newline platform.bufsiz i ∧
      s.rounds.length % (filePieces platform content).length =
        i % (filePieces platform content).length
  rounds : ∀ k < s.rounds.length, ∃ line, around platform content k = some line ∧
    s.rounds[k]? = some (publishLine platform line)
  sent : ∃ ks, SentIn s.rounds ks s.sent

lemma next_fails (size : ℕ) (s : Stream UInt8) :
    ∃ data, s.next newline size true = (none, data) ∧ data.error = true ∧
      data.content = s.content := by
  unfold Stream.next
  cases s.eof with
  | false => exact ⟨_, rfl, rfl, rfl⟩
  | true => exact ⟨_, rfl, rfl, rfl⟩

lemma rolling_step {s : Playback} (h : Rolling platform content s) (fails : Replay.Calls) :
    Rolling platform content (Replay.iterate platform s fails) := by
  by_cases hstopped : s.status ≠ .running
  · rw [iterate_stopped hstopped]
    exact h
  have hrunning : s.status = .running := not_not.mp hstopped
  by_cases hended : s.data.error = true
  · rw [iterate_error hrunning hended]
    exact ⟨h.file, fun hno => (nomatch hno), h.rounds, h.sent⟩
  have herror : s.data.error = false := Bool.eq_false_iff.mpr hended
  by_cases hreads : fails.fgets = true
  · obtain ⟨data, hread, hstop, hcontent⟩ := next_fails platform.bufsiz s.data
    rw [iterate_none hrunning herror (hreads ▸ hread)]
    exact ⟨hcontent.trans h.file, fun _ hno => absurd (hstop.symm.trans hno) (by decide),
      h.rounds, h.sent⟩
  have hfails : fails.fgets = false := Bool.eq_false_iff.mpr hreads
  obtain ⟨i, hat, hi⟩ := h.position hrunning herror
  have hnext := hat.next platform.one_lt_bufsiz
  rw [h.file] at hnext
  rcases hnext with ⟨line, data, hline, hread, hafter, hcontent, -⟩ |
    ⟨-, data, hread, hafter, -, hcontent, -⟩
  · rw [iterate_line hrunning herror (hfails ▸ hread)]
    obtain ⟨ks, hks⟩ := h.sent
    refine ⟨hcontent, fun _ _ => ⟨_, hafter, ?_⟩, fun k hk => ?_, hks.round _ _⟩
    · rw [List.length_append, List.length_singleton, ← Nat.mod_add_mod, hi]
    · simp only [List.length_append, List.length_singleton] at hk
      rcases Nat.lt_or_ge k s.rounds.length with hlt | hge
      · rw [List.getElem?_append_left hlt]
        exact h.rounds k hlt
      · obtain rfl : k = s.rounds.length := by omega
        refine ⟨line, ?_, by simp⟩
        rw [around, hi]
        exact hline
  · rw [iterate_none hrunning herror (hfails ▸ hread)]
    exact ⟨hcontent, fun _ _ => ⟨i, hafter, hi⟩, h.rounds, h.sent⟩

variable (platform content) in
lemma rolling_replay (calls : List Replay.Calls) :
    Rolling platform content (replay platform (some content) calls) := by
  induction calls using List.reverseRecOn with
  | nil =>
    refine ⟨rfl, fun _ _ => ⟨0, at_fopen newline content, rfl⟩, by simp [replay, mockTelemetry],
      [], .nil, by simp, .nil⟩
  | append_singleton calls fails ih =>
    rw [replay, List.foldl_append]
    exact rolling_step ih fails

variable (platform content) in
/-- The packet of the `k`th line read. -/
def OfLine (k : ℕ) (p : Packet) : Prop :=
  ∃ line, around platform content k = some line ∧ (publishLine platform line).published = some p

lemma OfLine.isSensor {k : ℕ} {p : Packet} (h : OfLine platform content k p) :
    Channel.IsSensor p := by
  obtain ⟨line, -, hp⟩ := h
  rcases publishLine_cases platform line with ⟨t, u, -, -, hround⟩ | ⟨-, parsed, -, hround⟩
  · rw [hround] at hp
    obtain rfl := Option.some.inj hp
    trivial
  · rw [hround] at hp
    cases hp

lemma isSensor_of_lines {ks : List ℕ} {sent : List Packet}
    (h : List.Forall₂ (OfLine platform content) ks sent) : ∀ p ∈ sent, Channel.IsSensor p := by
  induction h with
  | nil => simp
  | cons hline _ ih => exact List.forall_mem_cons.mpr ⟨hline.isSensor, ih⟩

lemma Rolling.lines {s : Playback} (h : Rolling platform content s) :
    ∃ ks, ks.Pairwise (· < ·) ∧ List.Forall₂ (OfLine platform content) ks s.sent := by
  obtain ⟨ks, hks⟩ := h.sent
  refine ⟨ks, hks.rising, hks.packets.imp fun k p ⟨r, hr, hp⟩ => ?_⟩
  obtain ⟨line, hline, hround⟩ := h.rounds k (List.getElem?_eq_some_iff.mp hr).1
  obtain rfl := Option.some.inj (hr.symm.trans hround)
  exact ⟨line, hline, hp⟩

/-- **A file to the operator.** Whatever the file holds, whichever reads and sends fail, and
whichever messages arrive in whatever order: the telemetry client reports each of those it has
read, and they are those of pieces of the file as `fgets` reads it, in order and over and over. A
piece is a line, or a part of one that is longer than the buffer. -/
theorem replay_shown (platform : Platform) (content : List UInt8) (calls : List Replay.Calls)
    {entries : List (Entry ℕ)} {queue : List (List UInt8)}
    (hqueue : List.Forall₂ (Entry.Bytes
      (nth ((replay platform (some content) calls).sent.map Packet.bytes))) entries queue)
    (client : Client) (hnone : client.reports = []) (n : ℕ) :
    (measured (iterations n { client with queue := queue, running := true }).reports).map some =
        (fromSensors (entries.take n)).map
          (fun j => (replay platform (some content) calls).sent[j]?) ∧
      ∃ ks, ks.Pairwise (· < ·) ∧
        List.Forall₂ (OfLine platform content) ks (replay platform (some content) calls).sent := by
  have hrolling := rolling_replay platform content calls
  refine ⟨shown_of_one (fun j bytes hj => ?_) hqueue hnone n, hrolling.lines⟩
  obtain ⟨ks, -, hlines⟩ := hrolling.lines
  rw [nth, List.getElem?_map] at hj
  rcases hp : (replay platform (some content) calls).sent[j]? with _ | p
  · simp [hp] at hj
  · exact ⟨p, rfl, by simpa [hp] using hj.symm,
      isSensor_of_lines hlines p (List.mem_of_getElem? hp)⟩

/-- Of three messages of `twoLines` the first is lost, and the other two change places. -/
theorem replay_shown_twoLines : ∃ entries queue, List.Forall₂ (Entry.Bytes
      (nth ((replay desktop (some twoLines) (List.replicate 5 allSucceed)).sent.map Packet.bytes)))
      entries queue ∧ fromSensors entries = [2, 1] ∧
    (measured (iterations 2 { History.started with queue := queue, running := true }).reports).map
        some =
      (fromSensors (entries.take 2)).map
        (fun j => (replay desktop (some twoLines) (List.replicate 5 allSucceed)).sent[j]?) ∧
      ∃ ks, ks.Pairwise (· < ·) ∧ List.Forall₂ (OfLine desktop twoLines) ks
        (replay desktop (some twoLines) (List.replicate 5 allSucceed)).sent := by
  have hqueue : List.Forall₂ (Entry.Bytes (nth
      ((replay desktop (some twoLines) (List.replicate 5 allSucceed)).sent.map Packet.bytes)))
      [.sensors 2, .sensors 1] [_, _] := .cons rfl (.cons rfl .nil)
  exact ⟨_, _, hqueue, rfl, replay_shown desktop twoLines _ hqueue History.started rfl 2⟩

end Replay

end Hysim.Mock
