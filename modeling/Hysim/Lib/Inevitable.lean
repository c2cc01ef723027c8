import Hysim.Lib.Runs

/-!
What one thread brings about while the others rest.

Something is brought about if every way to go on leads to it, and there is a way to go on until it
is there. A thread that comes to an operation as a program brings that about in the system, if no
operation on the way has to wait and the answers are those the program was followed for.
-/

namespace Hysim.Lib.Inevitable

open Hysim.Lib.Program Hysim.Lib.Threads Hysim.Lib.Runs

/-- Whichever steps are taken, `P` holds sooner or later, and no state before is a dead end. -/
inductive Eventually {σ : Type} (R : σ → σ → Prop) (P : σ → Prop) : σ → Prop
  | now {s : σ} (h : P s) : Eventually R P s
  | next {s : σ} (hex : ∃ s', R s s') (h : ∀ s', R s s' → Eventually R P s') : Eventually R P s

section Steps

variable {σ : Type} {R : σ → σ → Prop} {P Q : σ → Prop}

lemma Eventually.trans {s : σ} (h : Eventually R P s) (hPQ : ∀ s, P s → Eventually R Q s) :
    Eventually R Q s := by
  induction h with
  | now h => exact hPQ _ h
  | next hex _ ih => exact .next hex ih

end Steps

variable {ι Op σ Label : Type} {Ans : Op → Type} [DecidableEq ι] (M : Machine ι Op σ Ans)
  (blocks : ι → Label → Prog Op Ans Label → Prop)

inductive StepOf (i : ι) : Config ι Op σ Label Ans → Config ι Op σ Label Ans → Prop
  | start {c : Config ι Op σ Label Ans} {l : Label} {p : Prog Op Ans Label}
    (hret : c.prog i = .ret l) (hp : blocks i l p) :
    StepOf i c ⟨c.shared, Function.update c.prog i p⟩
  | call {c : Config ι Op σ Label Ans} {o : Op} {k : Ans o → Prog Op Ans Label} {r : Ans o}
    {s : σ} (hcall : c.prog i = .call o k) (hstep : M i o c.shared r s) :
    StepOf i c ⟨s, Function.update c.prog i (k r)⟩

variable {M blocks}

/-- **From programs to the system**: an operation the thread comes to is brought about, if until
then its operations keep the configuration one in which the next can be performed. -/
theorem eventually_of_comes {i : ι} {expects : (o : Op) → Ans o → Prop} {Q : Op → Prop}
    (G : Config ι Op σ Label Ans → Prop)
    (hstart : ∀ c l p, G c → c.prog i = .ret l → blocks i l p →
      G ⟨c.shared, Function.update c.prog i p⟩)
    (hcall : ∀ c o k, G c → c.prog i = .call o k → ¬ Q o → (∃ r s, M i o c.shared r s) ∧
      ∀ r s, M i o c.shared r s → expects o r ∧ G ⟨s, Function.update c.prog i (k r)⟩)
    {p : Prog Op Ans Label} (hcomes : Comes expects (blocks i) Q p)
    {c : Config ι Op σ Label Ans} (hc : G c) (hp : c.prog i = p) :
    Eventually (StepOf M blocks i) (fun d => G d ∧ ∃ o k, d.prog i = .call o k ∧ Q o) c := by
  induction hcomes generalizing c with
  | @here o k hQ => exact .now ⟨hc, o, k, hp, hQ⟩
  | @after o k _ ih =>
    by_cases hQ : Q o
    · exact .now ⟨hc, o, k, hp, hQ⟩
    obtain ⟨⟨r, s, hstep⟩, hall⟩ := hcall c o k hc hp hQ
    refine .next ⟨_, .call hp hstep⟩ fun d hd => ?_
    cases hd with
    | start hret =>
      rw [hp] at hret
      cases hret
    | @call o' k' r' s' hcall' hstep' =>
      rw [hp] at hcall'
      cases hcall'
      obtain ⟨hr, hG⟩ := hall r' s' hstep'
      exact ih r' hr hG (Function.update_self i _ _)
  | @start l hex _ ih =>
    obtain ⟨p, hblock⟩ := hex
    refine .next ⟨_, .start hp hblock⟩ fun d hd => ?_
    cases hd with
    | @start l' p' hret hblock' =>
      rw [hp] at hret
      cases hret
      exact ih p' hblock' (hstart c l p' hc hp hblock') (Function.update_self i _ _)
    | call hcall' _ =>
      rw [hp] at hcall'
      cases hcall'

lemma comes_bind {α : Type} {expects : (o : Op) → Ans o → Prop}
    {blocks : Label → Prog Op Ans Label → Prop} {Q : Op → Prop} {p : Prog Op Ans α}
    {f : α → Prog Op Ans Label} (h : ∀ a, Comes expects blocks Q (f a)) :
    Comes expects blocks Q (p >>= f) := by
  induction p with
  | ret a => exact h a
  | call o k ih => exact .after fun r _ => ih r

end Hysim.Lib.Inevitable
