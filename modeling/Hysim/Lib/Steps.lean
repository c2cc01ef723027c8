import Mathlib.Data.List.Induction

/-!
Runs that are lists of events.

The steps of a run are its prefixes that are not empty: the last event of one, and the state
that the events before it have led to.
-/

namespace Hysim.Lib.Steps

variable {σ ε : Type}

lemma forall_prefix_nil (P : List ε → ε → Prop) :
    ∀ past e, past ++ [e] <+: [] → P past e := by
  intro past e hpast
  simp at hpast

lemma forall_prefix_concat {P : List ε → ε → Prop} {es : List ε} {d : ε} :
    (∀ past e, past ++ [e] <+: es ++ [d] → P past e) ↔
      (∀ past e, past ++ [e] <+: es → P past e) ∧ P es d := by
  simp only [List.prefix_concat_iff]
  constructor
  · intro h
    exact ⟨fun past e hpast => h past e (.inr hpast), h es d (.inl rfl)⟩
  · rintro ⟨hpre, hlast⟩ past e (heq | hpast)
    · obtain ⟨rfl, he⟩ := List.append_inj' heq rfl
      obtain rfl : e = d := by simpa using he
      exact hlast
    · exact hpre past e hpast

/-- What a step keeps exactly under a condition, a run keeps exactly when the condition is met
at each of its steps. -/
lemma foldl_iff {step : σ → ε → σ} {Inv : σ → Prop} (Good : σ → Prop) (Meets : σ → ε → Prop)
    (hinv : ∀ s e, Inv s → Inv (step s e))
    (hstep : ∀ s e, Inv s → (Good (step s e) ↔ Good s ∧ Meets s e))
    {s : σ} (hs : Inv s) (es : List ε) :
    Good (es.foldl step s) ↔
      Good s ∧ ∀ past e, past ++ [e] <+: es → Meets (past.foldl step s) e := by
  have hall : ∀ es : List ε, Inv (es.foldl step s) := by
    intro es
    induction es using List.reverseRecOn with
    | nil => exact hs
    | append_singleton es e ih =>
      rw [List.foldl_append]
      exact hinv _ e ih
  induction es using List.reverseRecOn with
  | nil => exact (and_iff_left (forall_prefix_nil _)).symm
  | append_singleton es e ih =>
    rw [List.foldl_append, forall_prefix_concat, ← and_assoc]
    exact (hstep _ e (hall es)).trans (and_congr_left' ih)

end Hysim.Lib.Steps
