import Hysim.Lib.Program

/-!
One program against another that performs the same operations.

A program that fills arrays and one that returns a list perform the same operations, and what
they return is related by what the arrays are to hold. Where it does not matter any more how
the arrays came to be filled, the two programs are equal.
-/

namespace Hysim.Lib.Refine

open Hysim.Lib.Program

variable {Op : Type} {Ans : Op → Type} {α β γ δ σ : Type}

/-- Whatever is answered, the two programs perform the same operations, and what they return
is related by `R`. -/
inductive Refines (R : α → β → Prop) : Prog Op Ans α → Prog Op Ans β → Prop
  | ret {a : α} {b : β} (h : R a b) : Refines R (.ret a) (.ret b)
  | call (o : Op) {k : Ans o → Prog Op Ans α} {k' : Ans o → Prog Op Ans β}
      (h : ∀ r, Refines R (k r) (k' r)) : Refines R (.call o k) (.call o k')

variable {R : α → β → Prop} {S : γ → δ → Prop}

lemma Refines.pure {a : α} {b : β} (h : R a b) :
    Refines R (Pure.pure a : Prog Op Ans α) (Pure.pure b) := .ret h

lemma Refines.bind {p : Prog Op Ans α} {q : Prog Op Ans β} (h : Refines R p q)
    {f : α → Prog Op Ans γ} {g : β → Prog Op Ans δ}
    (hfg : ∀ a b, R a b → Refines S (f a) (g b)) : Refines S (p >>= f) (q >>= g) := by
  induction h with
  | ret hab => exact hfg _ _ hab
  | call o _ ih => exact .call o ih

lemma Refines.mono {R' : α → β → Prop} {p : Prog Op Ans α} {q : Prog Op Ans β}
    (h : Refines R p q) (hR : ∀ a b, R a b → R' a b) : Refines R' p q := by
  induction h with
  | ret hab => exact .ret (hR _ _ hab)
  | call o _ ih => exact .call o ih

lemma Refines.refl (p : Prog Op Ans α) : Refines Eq p p := by
  induction p with
  | ret a => exact .ret rfl
  | call o k ih => exact .call o ih

lemma Refines.after (p : Prog Op Ans α) {f : α → Prog Op Ans γ} {g : α → Prog Op Ans δ}
    (hfg : ∀ a, Refines S (f a) (g a)) : Refines S (p >>= f) (p >>= g) :=
  (Refines.refl p).bind fun a _ hab => hab ▸ hfg a

lemma Refines.eq {p q : Prog Op Ans α} (h : Refines Eq p q) : p = q := by
  induction h with
  | ret hab => exact congrArg Prog.ret hab
  | call o _ ih => exact congrArg (Prog.call o) (funext ih)

lemma Refines.bind_eq {p : Prog Op Ans α} {q : Prog Op Ans β} (h : Refines R p q)
    {f : α → Prog Op Ans γ} {g : β → Prog Op Ans γ} (hfg : ∀ a b, R a b → f a = g b) :
    p >>= f = q >>= g :=
  (h.bind (S := Eq) fun a b hab => hfg a b hab ▸ Refines.refl _).eq

/-- What the rounds of a loop add up to. -/
def weight {ι : Type} (w : ι → ℕ) : List ι → ℕ
  | [] => 0
  | x :: l => w x + weight w l

lemma weight_one {ι : Type} (l : List ι) : weight (fun _ => 1) l = l.length := by
  induction l with
  | nil => rfl
  | cons x l ih => rw [weight, ih, List.length_cons, Nat.add_comm]

lemma weight_add {ι : Type} (w w' : ι → ℕ) (l : List ι) :
    weight (fun x => w x + w' x) l = weight w l + weight w' l := by
  induction l with
  | nil => rfl
  | cons x l ih =>
    simp only [weight, ih]
    omega

/-- Loops over the same list are related when their rounds are. What relates them may depend on
a budget, to which each round adds. -/
lemma Refines.foldlM {ι : Type} {R : ℕ → α → β → Prop} {f : α → ι → Prog Op Ans α}
    {g : β → ι → Prog Op Ans β} (w : ι → ℕ)
    (hstep : ∀ n a b x, R n a b → Refines (R (n + w x)) (f a x) (g b x)) (l : List ι) {n : ℕ}
    {a : α} {b : β} (h : R n a b) :
    Refines (R (n + weight w l)) (l.foldlM f a) (l.foldlM g b) := by
  induction l generalizing n a b with
  | nil => exact .pure h
  | cons x l ih =>
    rw [List.foldlM_cons, List.foldlM_cons]
    refine (hstep n a b x h).bind fun a' b' hab => ?_
    have hrest := ih hab
    rwa [weight, ← Nat.add_assoc]

end Hysim.Lib.Refine
