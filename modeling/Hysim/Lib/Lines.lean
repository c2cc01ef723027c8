import Mathlib.Data.List.Basic
import Mathlib.Tactic.Common

/-!
Files that are read line by line.

A line ends with an end mark, or with the file. Read into a buffer, a line that is too long
comes in several pieces, each as long as there is room for. A stream goes through a file and
remembers whether it came to its end: it does not know before it tries to read past it.
-/

namespace Hysim.Lib.Lines

variable {α : Type} [DecidableEq α] (nl : α)

/-- The lines of a file, each with its end mark; the last line may lack it. -/
def lines : List α → List (List α)
  | [] => []
  | b :: bs =>
    if b = nl then [b] :: lines bs
    else match lines bs with
      | [] => [[b]]
      | l :: ls => (b :: l) :: ls

/-- The pieces of a file whose lines are cut where they are longer than `n`; the first piece
has room for `r`. -/
def piecesFrom (n : ℕ) : ℕ → List α → List (List α)
  | _, [] => []
  | r, b :: bs =>
    if b = nl ∨ r ≤ 1 then [b] :: piecesFrom n n bs
    else match piecesFrom n (r - 1) bs with
      | [] => [[b]]
      | l :: ls => (b :: l) :: ls

def pieces (n : ℕ) (bs : List α) : List (List α) := piecesFrom nl n n bs

/-- What is read with room for `n`, what is left, and whether the end was met. -/
def readLine : ℕ → List α → List α × List α × Bool
  | 0, bs => ([], bs, false)
  | _ + 1, [] => ([], [], true)
  | n + 1, b :: bs =>
    if b = nl then ([b], bs, false)
    else
      let r := readLine n bs
      (b :: r.1, r.2)

/-! ### Streams -/

/-- An open file: its content, what is still to be read of it and its two indicators. -/
structure Stream (α : Type) where
  content : List α
  rest : List α
  eof : Bool
  error : Bool

def fopen (content : List α) : Stream α := ⟨content, content, false, false⟩

def Stream.rewind (s : Stream α) : Stream α := fopen s.content

/-- `fgets` into a buffer of `size`, at least two: the last place is for the terminator. -/
def Stream.fgets (size : ℕ) (fails : Bool) (s : Stream α) : Option (List α) × Stream α :=
  if fails then (none, { s with error := true })
  else
    let (line, rest, atEnd) := readLine nl (size - 1) s.rest
    (if line = [] then none else some line, { s with rest := rest, eof := s.eof || atEnd })

/-- A read that starts over once the end was met. -/
def Stream.next (size : ℕ) (fails : Bool) (s : Stream α) : Option (List α) × Stream α :=
  (if s.eof then s.rewind else s).fgets nl size fails

/-! ### Pieces -/

variable {nl}

lemma readLine_eof {n : ℕ} {bs : List α} (h : (readLine nl n bs).2.2 = true) :
    (readLine nl n bs).2.1 = [] := by
  induction n generalizing bs with
  | zero => simp [readLine] at h
  | succ n ih =>
    cases bs with
    | nil => rfl
    | cons b bs =>
      by_cases hb : b = nl
      · simp [readLine, hb] at h
      · simp only [readLine, if_neg hb] at h ⊢
        exact ih h

lemma readLine_ne_nil {n : ℕ} {bs : List α} (hn : 0 < n) (hbs : bs ≠ []) :
    (readLine nl n bs).1 ≠ [] := by
  obtain ⟨b, bs, rfl⟩ := List.exists_cons_of_ne_nil hbs
  cases n with
  | zero => omega
  | succ n => by_cases hb : b = nl <;> simp [readLine, hb]

lemma piecesFrom_readLine (n : ℕ) {r : ℕ} {bs : List α} (hr : 0 < r) (hbs : bs ≠ []) :
    piecesFrom nl n r bs = (readLine nl r bs).1 :: pieces nl n (readLine nl r bs).2.1 := by
  induction bs generalizing r with
  | nil => exact absurd rfl hbs
  | cons b bs ih =>
    by_cases hb : b = nl
    · obtain ⟨r, rfl⟩ : ∃ r', r = r' + 1 := ⟨r - 1, by omega⟩
      simp [piecesFrom, readLine, pieces, hb]
    · match r, hr with
      | 1, _ => simp [piecesFrom, readLine, pieces, hb]
      | r + 2, _ =>
        have hroom : ¬ (b = nl ∨ r + 2 ≤ 1) := by simp [hb]
        rw [piecesFrom, if_neg hroom, readLine, if_neg hb]
        by_cases hne : bs = []
        · subst hne
          simp [piecesFrom, readLine, pieces]
        · rw [show r + 2 - 1 = r + 1 from rfl, ih (Nat.succ_pos r) hne]

@[simp] lemma pieces_nil (n : ℕ) : pieces nl n [] = [] := rfl

lemma pieces_eq_nil {n : ℕ} {bs : List α} (hn : 0 < n) : pieces nl n bs = [] ↔ bs = [] := by
  constructor
  · intro h
    by_contra hbs
    rw [pieces, piecesFrom_readLine n hn hbs] at h
    cases h
  · rintro rfl
    rfl

lemma nl_notMem_of_mem_piecesFrom {n r : ℕ} {bs l : List α} (h : l ∈ piecesFrom nl n r bs) :
    nl ∉ l.dropLast := by
  induction bs generalizing r l with
  | nil => simp [piecesFrom] at h
  | cons b bs ih =>
    by_cases hcut : b = nl ∨ r ≤ 1
    · simp only [piecesFrom, if_pos hcut, List.mem_cons] at h
      rcases h with rfl | h
      · simp
      · exact ih h
    · have hb : nl ≠ b := fun heq => hcut (.inl heq.symm)
      rcases hrest : piecesFrom nl n (r - 1) bs with _ | ⟨first, ls⟩
      · simp only [piecesFrom, if_neg hcut, hrest, List.mem_singleton] at h
        subst h
        simp
      · simp only [piecesFrom, if_neg hcut, hrest, List.mem_cons] at h
        have hfirst := ih (r := r - 1) (l := first) (by simp [hrest])
        rcases h with rfl | h
        · cases first with
          | nil => simp
          | cons c first => simpa [hb] using hfirst
        · exact ih (r := r - 1) (by simp [hrest, h])

lemma lines_eq_nil {bs : List α} : lines nl bs = [] ↔ bs = [] := by
  cases bs with
  | nil => simp [lines]
  | cons b bs =>
    by_cases hb : b = nl
    · simp [lines, hb]
    · rcases hls : lines nl bs with _ | ⟨first, ls⟩ <;> simp [lines, hb, hls]

lemma ne_nil_of_mem_lines {bs l : List α} (h : l ∈ lines nl bs) : l ≠ [] := by
  induction bs generalizing l with
  | nil => simp [lines] at h
  | cons b bs ih =>
    by_cases hb : b = nl
    · simp only [lines, if_pos hb, List.mem_cons] at h
      rcases h with rfl | h
      · simp
      · exact ih h
    · rcases hls : lines nl bs with _ | ⟨first, ls⟩
      · simp only [lines, if_neg hb, hls, List.mem_singleton] at h
        simp [h]
      · simp only [lines, if_neg hb, hls, List.mem_cons] at h
        rcases h with rfl | h
        · simp
        · exact ih (by simp [hls, h])

lemma piecesFrom_eq_lines {n r : ℕ} {bs : List α} (hn : 0 < n) (hr : 0 < r)
    (hfirst : ∀ l ∈ (lines nl bs).head?, l.length ≤ r)
    (hfit : ∀ l ∈ (lines nl bs).tail, l.length ≤ n) : piecesFrom nl n r bs = lines nl bs := by
  induction bs generalizing r with
  | nil => rfl
  | cons b bs ih =>
    by_cases hb : b = nl
    · simp only [lines, if_pos hb, List.tail_cons] at hfit ⊢
      rw [piecesFrom, if_pos (.inl hb), ih hn (fun l hl => hfit l (List.mem_of_mem_head? hl))
        (fun l hl => hfit l (List.mem_of_mem_tail hl))]
    · rcases hls : lines nl bs with _ | ⟨first, ls⟩
      · obtain rfl := lines_eq_nil.mp hls
        simp [piecesFrom, lines, hb]
      · simp only [lines, if_neg hb, hls, List.head?_cons, Option.mem_some_iff, forall_eq',
          List.length_cons, List.tail_cons] at hfirst hfit ⊢
        have hmem : first ∈ lines nl bs := by simp [hls]
        have hne : 0 < first.length := List.length_pos_iff.mpr (ne_nil_of_mem_lines hmem)
        have hcut : ¬ (b = nl ∨ r ≤ 1) := by
          rintro (heq | hle)
          · exact hb heq
          · omega
        have hrest : piecesFrom nl n (r - 1) bs = first :: ls := by
          rw [← hls]
          apply ih (by omega)
          · intro l hl
            obtain rfl : first = l := by simpa [hls] using hl
            omega
          · simpa [hls] using hfit
        rw [piecesFrom, if_neg hcut, hrest]

lemma pieces_eq_lines {n : ℕ} {bs : List α} (hn : 0 < n)
    (hfit : ∀ l ∈ lines nl bs, l.length ≤ n) : pieces nl n bs = lines nl bs :=
  piecesFrom_eq_lines hn hn (fun l hl => hfit l (List.mem_of_mem_head? hl))
    (fun l hl => hfit l (List.mem_of_mem_tail hl))

/-! ### Where a stream stands -/

section Position

variable {size : ℕ} {s : Stream α} {i : ℕ}

variable (nl) in
/-- The stream has `i` pieces of its file behind it, and has met the end at the last only. -/
structure Stream.At (size : ℕ) (s : Stream α) (i : ℕ) : Prop where
  le : i ≤ (pieces nl (size - 1) s.content).length
  rest : pieces nl (size - 1) s.rest = (pieces nl (size - 1) s.content).drop i
  eof : s.eof = true → i = (pieces nl (size - 1) s.content).length

variable (nl) in
lemma at_fopen (content : List α) : (fopen content).At nl size 0 :=
  ⟨Nat.zero_le _, rfl, by simp [fopen]⟩

lemma Stream.At.fgets (h : s.At nl size i) (hsize : 1 < size)
    (hi : i < (pieces nl (size - 1) s.content).length) :
    ∃ s', s.fgets nl size false = (some (pieces nl (size - 1) s.content)[i], s') ∧
      s'.At nl size (i + 1) ∧ s'.content = s.content ∧ s'.error = s.error := by
  have hroom : 0 < size - 1 := by omega
  have hdrop := List.drop_eq_getElem_cons hi
  have hne : s.rest ≠ [] := by
    intro hnil
    have hrest := h.rest
    rw [hdrop, hnil] at hrest
    cases hrest
  have hrest := h.rest
  rw [pieces, piecesFrom_readLine _ hroom hne, hdrop, List.cons.injEq] at hrest
  obtain ⟨hline, hafter⟩ := hrest
  have heof : s.eof = false := by
    by_contra heof
    have := h.eof (by simpa using heof)
    omega
  refine ⟨{ s with rest := (readLine nl (size - 1) s.rest).2.1
                   eof := s.eof || (readLine nl (size - 1) s.rest).2.2 }, ?_, ⟨hi, hafter, ?_⟩,
    rfl, rfl⟩
  · have hread : (readLine nl (size - 1) s.rest).1 ≠ [] := readLine_ne_nil hroom hne
    rw [hline] at hread
    simp [Stream.fgets, hline, hread]
  · intro hend
    have hend : (readLine nl (size - 1) s.rest).2.2 = true := by simpa [heof] using hend
    rw [readLine_eof hend, pieces_nil] at hafter
    have hover := List.drop_eq_nil_iff.mp hafter.symm
    simp only at hover ⊢
    omega

lemma Stream.At.fgets_end (h : s.At nl size i) (hsize : 1 < size)
    (hi : i = (pieces nl (size - 1) s.content).length) :
    ∃ s', s.fgets nl size false = (none, s') ∧ s'.At nl size i ∧ s'.eof = true ∧
      s'.content = s.content ∧ s'.error = s.error := by
  have hroom : 0 < size - 1 := by omega
  have hnil : pieces nl (size - 1) s.rest = [] := by rw [h.rest, hi, List.drop_length]
  have hrest : s.rest = [] := (pieces_eq_nil hroom).mp hnil
  obtain ⟨room, hsucc⟩ : ∃ room, size - 1 = room + 1 := ⟨size - 1 - 1, by omega⟩
  refine ⟨{ s with eof := true }, ?_, ⟨h.le, h.rest, fun _ => hi⟩, rfl, rfl, rfl⟩
  simp [Stream.fgets, hrest, hsucc, readLine]

/-- Reading goes round: behind the last piece comes the first one. The end of a file may take
one more read to be met. -/
lemma Stream.At.next (h : s.At nl size i) (hsize : 1 < size) :
    let ps := pieces nl (size - 1) s.content
    (∃ piece s', ps[i % ps.length]? = some piece ∧ s.next nl size false = (some piece, s') ∧
        s'.At nl size (i % ps.length + 1) ∧ s'.content = s.content ∧
        (s.error = false → s'.error = false)) ∨
      (s.content ≠ [] → s.eof = false) ∧ ∃ s', s.next nl size false = (none, s') ∧
        s'.At nl size i ∧ s'.eof = true ∧ s'.content = s.content ∧
        (s.error = false → s'.error = false) := by
  intro ps
  rcases heof : s.eof with _ | _
  · have hnext : s.next nl size false = s.fgets nl size false := by simp [Stream.next, heof]
    rw [hnext]
    rcases Nat.lt_or_ge i ps.length with hi | hi
    · obtain ⟨s', hread, hat, hcontent, herror⟩ := h.fgets hsize hi
      rw [Nat.mod_eq_of_lt hi]
      exact .inl ⟨_, s', List.getElem?_eq_getElem hi, hread, hat, hcontent,
        fun hs => herror.trans hs⟩
    · obtain ⟨s', hread, hat, hend, hcontent, herror⟩ :=
        h.fgets_end hsize (Nat.le_antisymm h.le hi)
      exact .inr ⟨fun _ => rfl, s', hread, hat, hend, hcontent, fun hs => herror.trans hs⟩
  · have hnext : s.next nl size false = (fopen s.content).fgets nl size false := by
      simp [Stream.next, heof, Stream.rewind]
    have hi : i = ps.length := h.eof heof
    rw [hnext, hi, Nat.mod_self]
    rcases Nat.eq_zero_or_pos ps.length with hnil | hpos
    · obtain ⟨s', hread, hat, hend, hcontent, herror⟩ :=
        (at_fopen nl s.content).fgets_end hsize hnil.symm
      have hempty : s.content = [] :=
        (pieces_eq_nil (by omega)).mp (List.length_eq_zero_iff.mp hnil)
      exact .inr ⟨fun hne => absurd hempty hne, s', hread, by rwa [hnil], hend, hcontent,
        fun _ => herror⟩
    · obtain ⟨s', hread, hat, hcontent, herror⟩ := (at_fopen nl s.content).fgets hsize hpos
      exact .inl ⟨_, s', List.getElem?_eq_getElem hpos, hread, hat, hcontent, fun _ => herror⟩

lemma Stream.At.next_mem (h : s.At nl size i) (hsize : 1 < size) (fails : Bool) :
    (∃ j, (s.next nl size fails).2.At nl size j) ∧
      (s.next nl size fails).2.content = s.content ∧
      ∀ piece ∈ (s.next nl size fails).1, piece ∈ pieces nl (size - 1) s.content := by
  cases fails with
  | false =>
    rcases h.next hsize with ⟨piece, s', hpiece, hread, hat, hcontent, -⟩ |
      ⟨-, s', hread, hat, -, hcontent, -⟩
    · rw [hread]
      exact ⟨⟨_, hat⟩, hcontent, by simpa using List.mem_of_getElem? hpiece⟩
    · rw [hread]
      exact ⟨⟨_, hat⟩, hcontent, by simp⟩
  | true =>
    rcases heof : s.eof with _ | _
    · simp only [Stream.next, heof, Stream.fgets]
      exact ⟨⟨i, h.le, h.rest, h.eof⟩, rfl, by simp⟩
    · have hat : (fopen s.content).At nl size 0 := at_fopen nl s.content
      simp only [Stream.next, heof, Stream.fgets]
      exact ⟨⟨0, hat.le, hat.rest, hat.eof⟩, rfl, by simp⟩

end Position

end Hysim.Lib.Lines
