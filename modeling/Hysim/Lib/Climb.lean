import Mathlib.Data.List.Chain
import Mathlib.Data.List.DropRight

/-!
Sequences of heights that rise by at most one at a time.

Such a sequence may fall as far as it likes, but between ground and height `n` it cannot
miss a height: since it was last on the ground it has been at `1, 2, …, n` in this order.
-/

namespace Hysim.Lib.Climb

/-- The sequence rises by at most one at a time. -/
abbrev Gentle (hs : List ℕ) : Prop := hs.IsChain fun a b => b ≤ a + 1

/-- Since it was last on the ground, the sequence has been at every height from one up to
where it is now, in increasing order. -/
def Climbed (hs : List ℕ) : Prop :=
  ∀ h ∈ hs.getLast?, (List.range' 1 h).Sublist (hs.rtakeWhile (· ≠ 0))

lemma Gentle.append {hs ks : List ℕ} {h : ℕ} (h₁ : Gentle (hs ++ [h])) (h₂ : Gentle (h :: ks)) :
    Gentle (hs ++ h :: ks) := by
  have h₃ : ([h] ++ ks).IsChain fun a b => b ≤ a + 1 := h₂
  simpa using h₁.append_overlap h₃ (by simp)

lemma Gentle.of_append {hs ks : List ℕ} (h : Gentle (hs ++ ks)) : Gentle hs :=
  h.left_of_append

lemma climbed_snoc {hs : List ℕ} {a b : ℕ} (ha : a ∈ hs.getLast?) (hab : b ≤ a + 1)
    (h : Climbed hs) : Climbed (hs ++ [b]) := by
  intro x hx
  obtain rfl : b = x := by simpa using hx
  rcases b with _ | b
  · simp
  · -- the heights below `b + 1` were passed on the way to `a`
    have hlow : (List.range' 1 b).Sublist (List.range' 1 a) := by
      obtain ⟨d, rfl⟩ : ∃ d, a = b + d := ⟨a - b, by omega⟩
      rw [← List.range'_append_1]
      exact List.sublist_append_left _ _
    rw [List.range'_concat, List.rtakeWhile_concat_pos _ _ _ (by simp)]
    have hlast : 1 + 1 * b = b + 1 := by omega
    rw [hlast]
    exact (hlow.trans (h a ha)).append (List.Sublist.refl _)

/-- **A gentle sequence that starts on the ground has climbed.** -/
theorem climbed_of_gentle {hs : List ℕ} (hg : Gentle hs) (h0 : ∀ h ∈ hs.head?, h = 0) :
    Climbed hs := by
  induction hs using List.reverseRecOn with
  | nil => intro h hh; simp at hh
  | append_singleton hs b ih =>
    rcases List.eq_nil_or_concat hs with rfl | ⟨ks, a, rfl⟩
    · obtain rfl : b = 0 := h0 b (by simp)
      intro h hh
      obtain rfl : 0 = h := by simpa using hh
      simp
    · simp only [List.concat_eq_append] at hg ih h0 ⊢
      have hab : b ≤ a + 1 := by
        have h := List.isChain_append.mp hg
        exact h.2.2 a (by simp) b (by simp)
      refine climbed_snoc (a := a) (by simp) hab (ih hg.of_append fun h hh => h0 h ?_)
      cases ks <;> simpa using hh

end Hysim.Lib.Climb
