import Mathlib.Algebra.Ring.Nat
import Mathlib.Data.List.Basic
import Mathlib.Tactic.Common

/-!
Taking a string apart, as the C library does it.

`strtok_r` skips delimiters before a token and cuts the string at the one behind it, so the
tokens are what is not empty between delimiters. `strtoul` skips white space, takes a sign and
the digits that follow, and does not look at what comes after them.
-/

namespace Hysim.Lib.Tokens

/-- The string in a buffer: it ends before the first zero byte. -/
def cString (bytes : List UInt8) : List UInt8 := bytes.takeWhile (· != 0)

/-! ### Tokens -/

section Tokens

variable {α : Type} (delim : α → Bool)

/-- `strtok_r`: the token if there is one, and what is left of the string. -/
def strtokR (s : List α) : Option (List α) × List α :=
  let s := s.dropWhile delim
  if s.isEmpty then (none, [])
  else (some (s.takeWhile (!delim ·)), (s.dropWhile (!delim ·)).tail)

def tokens (s : List α) : List (List α) := (s.splitOnP delim).filter (!·.isEmpty)

variable {delim} {s : List α}

@[simp] lemma tokens_nil : tokens delim [] = [] := by simp [tokens]

lemma tokens_cons_of_delim {a : α} (ha : delim a) : tokens delim (a :: s) = tokens delim s := by
  simp [tokens, List.splitOnP_cons_eq_if_modifyHead, ha]

lemma tokens_dropWhile (s : List α) : tokens delim (s.dropWhile delim) = tokens delim s := by
  induction s with
  | nil => rfl
  | cons a s ih =>
    by_cases ha : delim a
    · rw [List.dropWhile_cons_of_pos ha, ih, tokens_cons_of_delim ha]
    · rw [List.dropWhile_cons_of_neg ha]

lemma splitOnP_eq_cons (s : List α) : s.splitOnP delim = s.takeWhile (!delim ·) ::
    match s.dropWhile (!delim ·) with
    | [] => []
    | _ :: rest => rest.splitOnP delim := by
  induction s with
  | nil => rfl
  | cons a s ih => by_cases ha : delim a <;> simp [List.splitOnP_cons_eq_if_modifyHead, ha, ih]

lemma tokens_cons {a : α} (ha : ¬ delim a) : tokens delim (a :: s) =
    (a :: s).takeWhile (!delim ·) :: tokens delim ((a :: s).dropWhile (!delim ·)).tail := by
  rw [tokens, splitOnP_eq_cons]
  rcases (a :: s).dropWhile (!delim ·) with _ | ⟨sep, rest⟩ <;> simp [tokens, ha]

variable (delim) in
/-- `strtok_r` takes the first token and leaves the others. -/
lemma strtokR_cases (s : List α) :
    strtokR delim s = (none, []) ∧ tokens delim s = [] ∨
      ∃ t rest, strtokR delim s = (some t, rest) ∧ tokens delim s = t :: tokens delim rest := by
  rw [← tokens_dropWhile, strtokR]
  rcases hs : s.dropWhile delim with _ | ⟨a, rest⟩
  · exact .inl (by simp)
  · have ha : ¬ delim a := by
      have hhead := List.head?_dropWhile_not delim s
      simpa [hs] using hhead
    exact .inr ⟨_, _, rfl, tokens_cons ha⟩

lemma splitOnP_concat {c : α} (hc : delim c = false) (s : List α) :
    ∃ init last, s.splitOnP delim = init ++ [last] ∧
      (s ++ [c]).splitOnP delim = init ++ [last ++ [c]] := by
  induction s with
  | nil => exact ⟨[], [], rfl, by simp [List.splitOnP_cons_eq_if_modifyHead, hc]⟩
  | cons a s ih =>
    obtain ⟨init, last, hs, hconcat⟩ := ih
    by_cases ha : delim a
    · refine ⟨[] :: init, last, ?_, ?_⟩ <;>
        simp [List.splitOnP_cons_eq_if_modifyHead, ha, hs, hconcat]
    · cases init with
      | nil =>
        refine ⟨[], a :: last, ?_, ?_⟩ <;>
          simp [List.splitOnP_cons_eq_if_modifyHead, ha, hs, hconcat]
      | cons first init =>
        refine ⟨(a :: first) :: init, last, ?_, ?_⟩ <;>
          simp [List.splitOnP_cons_eq_if_modifyHead, ha, hs, hconcat]

lemma tokens_concat {c : α} (hc : delim c = false) {i : ℕ} {t : List α}
    (h : (tokens delim s)[i]? = some t) :
    (tokens delim (s ++ [c]))[i]? = some t ∨ (tokens delim (s ++ [c]))[i]? = some (t ++ [c]) := by
  obtain ⟨init, last, hs, hconcat⟩ := splitOnP_concat hc s
  rw [tokens, hs, List.filter_append] at h
  rw [tokens, hconcat, List.filter_append]
  by_cases hi : i < (init.filter (!·.isEmpty)).length
  · rw [List.getElem?_append_left hi] at h
    exact .inl (by rw [List.getElem?_append_left hi, h])
  · have hi : (init.filter (!·.isEmpty)).length ≤ i := by omega
    rw [List.getElem?_append_right hi] at h ⊢
    cases last with
    | nil => simp at h
    | cons a last =>
      obtain ⟨hi0, rfl⟩ : i - (init.filter (!·.isEmpty)).length = 0 ∧ a :: last = t := by
        simpa [List.getElem?_singleton] using h
      exact .inr (by simp [hi0])

end Tokens

/-! ### Numbers -/

def isspace (b : UInt8) : Bool := b == 32 || (9 ≤ b && b ≤ 13)

def isdigit (b : UInt8) : Bool := 48 ≤ b && b ≤ 57

def plus : UInt8 := 43
def minus : UInt8 := 45

def decimal (digits : List UInt8) : ℕ := digits.foldl (fun v b => 10 * v + (b.toNat - 48)) 0

def unsigned (s : List UInt8) : List UInt8 :=
  if s.head? = some plus ∨ s.head? = some minus then s.tail else s

/-- What `strtoul` makes of a string behind the white space. -/
def convert (width : ℕ) (s : List UInt8) : ℕ :=
  let v := decimal ((unsigned s).takeWhile isdigit)
  if 2 ^ width ≤ v then 2 ^ width - 1
  else if s.head? = some minus then (2 ^ width - v) % 2 ^ width
  else v

/-- `strtoul` in base ten, where an `unsigned long` has `width` bits: what is too large gives the
largest value, and a minus sign negates in the unsigned type. -/
def strtoul (width : ℕ) (s : List UInt8) : ℕ := convert width (s.dropWhile isspace)

lemma takeWhile_concat {p : UInt8 → Bool} {c : UInt8} (hc : p c = false) (s : List UInt8) :
    (s ++ [c]).takeWhile p = s.takeWhile p := by
  induction s with
  | nil => simp [hc]
  | cons a s ih => by_cases ha : p a <;> simp [ha, ih]

lemma dropWhile_concat {p : UInt8 → Bool} {c : UInt8} (hc : p c = true) (s : List UInt8) :
    (s ++ [c]).dropWhile p = if s.dropWhile p = [] then [] else s.dropWhile p ++ [c] := by
  induction s with
  | nil => simp [hc]
  | cons a s ih => by_cases ha : p a <;> simp [ha, ih]

lemma unsigned_concat (c a : UInt8) (rest : List UInt8) :
    unsigned (a :: rest ++ [c]) = unsigned (a :: rest) ++ [c] := by
  by_cases ha : a = plus ∨ a = minus <;> simp [unsigned, ha]

/-- White space behind a number makes no difference. -/
lemma strtoul_concat (width : ℕ) {c : UInt8} (hspace : isspace c = true)
    (hdigit : isdigit c = false) (s : List UInt8) :
    strtoul width (s ++ [c]) = strtoul width s := by
  rw [strtoul, strtoul, dropWhile_concat hspace]
  rcases s.dropWhile isspace with _ | ⟨a, rest⟩
  · rfl
  · have hhead : (a :: rest ++ [c]).head? = (a :: rest).head? := rfl
    rw [if_neg (List.cons_ne_nil a rest), convert, convert, unsigned_concat,
      takeWhile_concat hdigit, hhead]

end Hysim.Lib.Tokens
