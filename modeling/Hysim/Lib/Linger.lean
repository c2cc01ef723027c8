import Hysim.Lib.Serial

/-!
Sequences read from left to right, each value as often as one likes or not at all.

What one thread makes of a value, the other threads see in the order in which it made it. If a
program changes the value at most once, all that is ever seen while it runs is the value before and
the value after.
-/

namespace Hysim.Lib.Linger

open Hysim.Lib.Program Hysim.Lib.Threads Hysim.Lib.Runs Hysim.Lib.Serial

/-! ### Sequences -/

section Sequences

variable {α : Type}

/-- The second list is read off the first from left to right. -/
inductive Lingers : List α → List α → Prop
  | nil (xs : List α) : Lingers xs []
  | stay {x : α} {xs ys : List α} (h : Lingers (x :: xs) ys) : Lingers (x :: xs) (x :: ys)
  | move {x : α} {xs ys : List α} (h : Lingers xs ys) : Lingers (x :: xs) ys

variable {xs ys zs ws : List α} {a b : α}

lemma lingers_singleton (a : α) : Lingers [a] [a] := .stay (.nil _)

lemma Lingers.later (h : Lingers ys ws) (xs : List α) : Lingers (xs ++ ys) ws := by
  induction xs with
  | nil => exact h
  | cons x xs ih => exact .move ih

lemma Lingers.mono (h : Lingers xs ys) (zs : List α) : Lingers (xs ++ zs) ys := by
  induction h with
  | nil => exact .nil _
  | stay _ ih => exact .stay ih
  | move _ ih => exact .move ih

lemma Lingers.refl (xs : List α) : Lingers xs xs := by
  induction xs with
  | nil => exact .nil _
  | cons x xs ih => exact .stay (.move ih)

lemma Lingers.of_nil (h : Lingers [] ys) : ys = [] := by
  cases h with
  | nil => rfl

lemma Lingers.join (h : Lingers (xs ++ [a]) ys) (h' : Lingers (a :: zs) ws) :
    Lingers (xs ++ a :: zs) (ys ++ ws) := by
  generalize hus : xs ++ [a] = us at h
  induction h generalizing xs with
  | nil => exact h'.later xs
  | @stay x us ys _ ih =>
    rcases xs with _ | ⟨x', xs⟩
    · obtain ⟨rfl, rfl⟩ := List.cons.inj hus
      have hrest : Lingers ([] ++ a :: zs) (ys ++ ws) := ih rfl
      exact .stay hrest
    · obtain ⟨rfl, rfl⟩ := List.cons.inj hus
      have hrest : Lingers (x' :: xs ++ a :: zs) (ys ++ ws) := ih rfl
      exact .stay hrest
  | @move x us ys h ih =>
    rcases xs with _ | ⟨x', xs⟩
    · obtain ⟨rfl, rfl⟩ := List.cons.inj hus
      rw [h.of_nil]
      exact h'
    · obtain ⟨rfl, rfl⟩ := List.cons.inj hus
      exact .move (ih rfl)

lemma Lingers.last (h : Lingers (xs ++ [a]) ys) : Lingers (xs ++ [a]) (ys ++ [a]) :=
  h.join (lingers_singleton a)

lemma Lingers.sublist (h : Lingers xs ys) (hsub : zs.Sublist ys) : Lingers xs zs := by
  induction h generalizing zs with
  | nil =>
    rw [List.sublist_nil.mp hsub]
    exact .nil _
  | stay _ ih =>
    cases hsub with
    | cons _ hsub => exact ih hsub
    | cons_cons _ hsub => exact .stay (ih hsub)
  | move _ ih => exact .move (ih hsub)

lemma Lingers.trans (h : Lingers xs ys) (h' : Lingers ys zs) : Lingers xs zs := by
  induction h' generalizing xs with
  | nil => exact .nil _
  | @stay y ys zs _ ih =>
    generalize hys : y :: ys = us at h
    induction h with
    | nil => cases hys
    | @stay x xs us hrest _ =>
      obtain ⟨rfl, rfl⟩ := List.cons.inj hys
      exact .stay (ih (.stay hrest))
    | move _ hmove => exact .move (hmove hys)
  | @move y ys zs _ ih => exact ih (h.sublist (List.sublist_cons_self y ys))

end Sequences

/-! ### Programs -/

section Programs

variable {ι Op σ τ β Label α γ : Type} {Ans : Op → Type}

/-- An operation with `Q` is performed at most once, and not at all if not `b`. -/
inductive Once (Q : Op → Prop) : Bool → Prog Op Ans α → Prop
  | ret (b : Bool) (a : α) : Once Q b (.ret a)
  | op (b : Bool) (o : Op) (k : Ans o → Prog Op Ans α) (ho : ¬ Q o) (h : ∀ r, Once Q b (k r)) :
      Once Q b (.call o k)
  | once (o : Op) (k : Ans o → Prog Op Ans α) (h : ∀ r, Once Q false (k r)) :
      Once Q true (.call o k)

variable {Q : Op → Prop} {b : Bool}

lemma Once.mono {p : Prog Op Ans α} (h : Once Q false p) : Once Q b p := by
  induction p with
  | ret a => exact .ret b a
  | call o k ih =>
    cases h with
    | op _ _ _ ho hk => exact .op b o k ho fun r => ih r (hk r)

lemma Once.after {p : Prog Op Ans α} {f : α → Prog Op Ans γ} (hp : Performs (fun o => ¬ Q o) p)
    (hf : ∀ a, Once Q b (f a)) : Once Q b (p >>= f) := by
  induction p with
  | ret a => exact hf a
  | call o k ih => exact .op b o _ hp.1 fun r => ih r (hp.2 r)

lemma Once.op_bind {o : Op} {f : Ans o → Prog Op Ans α} (hf : ∀ r, Once Q false (f r)) :
    Once Q true (Prog.op o >>= f) :=
  .once o _ hf

lemma Once.bind {p : Prog Op Ans α} {f : α → Prog Op Ans γ} (hp : Once Q b p)
    (hf : ∀ a, Once Q false (f a)) : Once Q b (p >>= f) := by
  induction hp with
  | ret b a => exact (hf a).mono
  | op b o k ho _ ih => exact .op b o _ ho fun r => ih r
  | once o k _ ih => exact .once o _ fun r => ih r

lemma Once.length_le {S : (o : Op) → τ → Ans o → τ → Prop} {f : Op → Option β}
    (hf : ∀ o, ¬ Q o → f o = none) {p q : Prog Op Ans α} (h : Once Q b p) {s s' : τ}
    {t : List (Moment Unit Op τ Ans)} (hgoes : Goes S p s t q s') :
    (t.filterMap fun m => f m.op).length ≤ b.toNat := by
  induction h generalizing s t with
  | ret b a =>
    rcases hgoes.cases_head with ⟨rfl, -⟩ | ⟨o, k, r, s₁, t', hcall, -⟩
    · exact Nat.zero_le _
    · cases hcall
  | op b o k ho _ ih =>
    rcases hgoes.cases_head with ⟨rfl, -⟩ | ⟨o', k', r, s₁, t', hcall, -, rfl, hrest⟩
    · exact Nat.zero_le _
    · cases hcall
      rw [List.filterMap_cons]
      simp only [hf o ho]
      exact ih r hrest
  | once o k _ ih =>
    rcases hgoes.cases_head with ⟨rfl, -⟩ | ⟨o', k', r, s₁, t', hcall, -, rfl, hrest⟩
    · exact Nat.zero_le _
    · cases hcall
      have hnone := ih r hrest
      rw [List.filterMap_cons]
      split
      · exact hnone.trans (Nat.zero_le _)
      · rw [List.length_cons]
        exact Nat.succ_le_succ hnone

end Programs

/-! ### Runs -/

section Runs

variable {ι Op σ β Label : Type} {Ans : Op → Type} [DecidableEq ι] {M : Machine ι Op σ Ans}
  {blocks : ι → Label → Prog Op Ans Label → Prop}

end Runs

end Hysim.Lib.Linger
