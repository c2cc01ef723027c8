import Mathlib.Data.List.Chain
import Hysim.Lib.Runs

/-!
What a run looks like to one of its threads.

If the others leave alone what the thread works on, it runs as if it were the only one, and its
programs follow one another: one program after the other, and the last one perhaps under way.
-/

namespace Hysim.Lib.Serial

open Hysim.Lib.Program Hysim.Lib.Threads Hysim.Lib.Runs

variable {ι Op σ τ Label : Type} {Ans : Op → Type}

/-! ### Programs under way -/

section Goes

variable (S : (o : Op) → τ → Ans o → τ → Prop) {α : Type}

/-- From one point of a program to another, with what happened in between. -/
inductive Goes (p : Prog Op Ans α) (s : τ) :
    List (Moment Unit Op τ Ans) → Prog Op Ans α → τ → Prop
  | refl : Goes p s [] p s
  | call {t : List (Moment Unit Op τ Ans)} {o : Op} {k : Ans o → Prog Op Ans α} {r : Ans o}
    {s' s'' : τ} (h : Goes p s t (.call o k) s') (hstep : S o s' r s'') :
    Goes p s (t ++ [⟨(), o, r, s'⟩]) (k r) s''

variable {S}

lemma Goes.head {o : Op} {k : Ans o → Prog Op Ans α} {r : Ans o} {s s' s'' : τ}
    {t : List (Moment Unit Op τ Ans)} {q : Prog Op Ans α} (hstep : S o s r s')
    (h : Goes S (k r) s' t q s'') : Goes S (.call o k) s (⟨(), o, r, s⟩ :: t) q s'' := by
  induction h with
  | refl => exact .call .refl hstep
  | call _ hlast ih => exact ih.call hlast

lemma Goes.trans {p q q' : Prog Op Ans α} {s s' s'' : τ} {t u : List (Moment Unit Op τ Ans)}
    (h : Goes S p s t q s') (h' : Goes S q s' u q' s'') : Goes S p s (t ++ u) q' s'' := by
  induction h' with
  | refl => rwa [List.append_nil]
  | call _ hlast ih =>
    rw [← List.append_assoc]
    exact ih.call hlast

lemma Goes.cases_head {p : Prog Op Ans α} {s s' : τ} {t : List (Moment Unit Op τ Ans)}
    {q : Prog Op Ans α} (h : Goes S p s t q s') :
    (t = [] ∧ q = p ∧ s' = s) ∨ ∃ o k r s₁ t', p = .call o k ∧ S o s r s₁ ∧
      t = ⟨(), o, r, s⟩ :: t' ∧ Goes S (k r) s₁ t' q s' := by
  induction h with
  | refl => exact .inl ⟨rfl, rfl, rfl⟩
  | call _ hlast ih =>
    rcases ih with ⟨rfl, rfl, rfl⟩ | ⟨o, k, r, s₁, t', rfl, hstep, rfl, hrest⟩
    · exact .inr ⟨_, _, _, _, [], rfl, hlast, rfl, .refl⟩
    · exact .inr ⟨o, k, r, s₁, _, rfl, hstep, rfl, hrest.call hlast⟩

lemma Goes.head_found {p q : Prog Op Ans α} {s s' : τ} {t : List (Moment Unit Op τ Ans)}
    (h : Goes S p s t q s') : (t.map Moment.found ++ [s']).head? = some s := by
  rcases h.cases_head with ⟨rfl, -, rfl⟩ | ⟨o, k, r, s₁, t', -, -, rfl, -⟩
  · rfl
  · rfl

lemma exists_goes_ret (htotal : ∀ o s, ∃ r s', S o s r s') (p : Prog Op Ans α) (s : τ) :
    ∃ t a s', Goes S p s t (.ret a) s' := by
  induction p generalizing s with
  | ret a => exact ⟨[], a, s, .refl⟩
  | call o k ih =>
    obtain ⟨r, s', hstep⟩ := htotal o s
    obtain ⟨t, a, s'', hrest⟩ := ih r s'
    exact ⟨_, a, s'', hrest.head hstep⟩

end Goes

/-! ### Programs one after the other -/

section Serial

variable (S : (o : Op) → τ → Ans o → τ → Prop) (blocks : Label → Prog Op Ans Label → Prop)

/-- Whole programs, each started where the one before ended. -/
inductive InTurn (l : Label) (s : τ) : List (Moment Unit Op τ Ans) → Label → τ → Prop
  | nil : InTurn l s [] l s
  | block {t u : List (Moment Unit Op τ Ans)} {l' l'' : Label} {s' s'' : τ}
    {p : Prog Op Ans Label} (h : InTurn l s t l' s') (hp : blocks l' p)
    (hgoes : Goes S p s' u (.ret l'') s'') : InTurn l s (t ++ u) l'' s''

/-- Whole programs, and then one from which the thread has come to `q`. -/
def Under (l : Label) (s : τ) (t : List (Moment Unit Op τ Ans)) (q : Prog Op Ans Label) (s' : τ) :
    Prop :=
  ∃ t₀ t₁ l₁ s₁ p, t = t₀ ++ t₁ ∧ InTurn S blocks l s t₀ l₁ s₁ ∧ (p = .ret l₁ ∨ blocks l₁ p) ∧
    Goes S p s₁ t₁ q s'

variable {S blocks} {l : Label} {s s' : τ} {t : List (Moment Unit Op τ Ans)}
  {q : Prog Op Ans Label}

lemma Under.serial {l' : Label} (h : Under S blocks l s t (.ret l') s') :
    InTurn S blocks l s t l' s' := by
  obtain ⟨t₀, t₁, l₁, s₁, p, rfl, hserial, rfl | hp, hgoes⟩ := h
  · rcases hgoes.cases_head with ⟨rfl, hret, rfl⟩ | ⟨o, k, r, s₂, t', hcall, -⟩
    · obtain rfl : l' = l₁ := Prog.ret.inj hret
      rwa [List.append_nil]
    · cases hcall
  · exact hserial.block hp hgoes

/-- The last program may be thought of as going on to its end, from where it is. -/
lemma Under.exists_serial (htotal : ∀ o s, ∃ r s', S o s r s') (h : Under S blocks l s t q s') :
    ∃ u l' s'', InTurn S blocks l s (t ++ u) l' s'' ∧
      (u.map Moment.found ++ [s'']).head? = some s' := by
  obtain ⟨t₀, t₁, l₁, s₁, p, rfl, hserial, hp, hgoes⟩ := h
  obtain ⟨u, l', s'', hrest⟩ := exists_goes_ret htotal q s'
  have hall : Under S blocks l s (t₀ ++ (t₁ ++ u)) (.ret l') s'' :=
    ⟨t₀, _, l₁, s₁, p, rfl, hserial, hp, hgoes.trans hrest⟩
  rw [← List.append_assoc] at hall
  exact ⟨u, l', s'', hall.serial, hrest.head_found⟩

end Serial

/-! ### One thread of a run -/

variable [DecidableEq ι] {M : Machine ι Op σ Ans} {blocks : ι → Label → Prog Op Ans Label → Prop}

/-- The moments of one thread, with the part of the state it works on. -/
def own (i : ι) (f : σ → τ) (t : List (Moment ι Op σ Ans)) : List (Moment Unit Op τ Ans) :=
  (t.filter fun m => m.who = i).map fun m => ⟨(), m.op, m.ans, f m.found⟩

@[simp] lemma own_append (i : ι) (f : σ → τ) (t u : List (Moment ι Op σ Ans)) :
    own i f (t ++ u) = own i f t ++ own i f u := by
  simp [own]

lemma own_singleton (i : ι) (f : σ → τ) (o : Op) (r : Ans o) (s : σ) :
    own i f [⟨i, o, r, s⟩] = [⟨(), o, r, f s⟩] := by
  simp [own]

lemma own_singleton_of_ne {i j : ι} (h : j ≠ i) (f : σ → τ) (o : Op) (r : Ans o) (s : σ) :
    own i f [⟨j, o, r, s⟩] = [] := by
  simp [own, h]

lemma performs_of_run {Q : ι → Op → Prop} (hblocks : ∀ j l p, blocks j l p → Performs (Q j) p)
    {c d : Config ι Op σ Label Ans} {t : List (Moment ι Op σ Ans)}
    (hstart : ∀ j, Performs (Q j) (c.prog j)) (hrun : Run M blocks c t d) (j : ι) :
    Performs (Q j) (d.prog j) := by
  induction hrun with
  | refl => exact hstart j
  | @start t d i l p _ _ hp ih =>
    change Performs (Q j) (Function.update d.prog i p j)
    by_cases hj : j = i
    · subst hj
      rw [Function.update_self]
      exact hblocks j l p hp
    · rw [Function.update_of_ne hj]
      exact ih
  | @call t d i o k r s _ hcall _ ih =>
    change Performs (Q j) (Function.update d.prog i (k r) j)
    by_cases hj : j = i
    · subst hj
      rw [Function.update_self]
      rw [hcall] at ih
      exact ih.2 r
    · rw [Function.update_of_ne hj]
      exact ih

lemma performed_of_run {Q : ι → Op → Prop} (hblocks : ∀ j l p, blocks j l p → Performs (Q j) p)
    {c d : Config ι Op σ Label Ans} {t : List (Moment ι Op σ Ans)}
    (hstart : ∀ j, Performs (Q j) (c.prog j)) (hrun : Run M blocks c t d) :
    ∀ m ∈ t, Q m.who m.op := by
  induction hrun with
  | refl => simp
  | start _ _ _ ih => exact ih
  | @call t d i o k r s hrun hcall _ ih =>
    have hperf := performs_of_run hblocks hstart hrun i
    rw [hcall] at hperf
    intro m hm
    rcases List.mem_append.mp hm with hm | hm
    · exact ih m hm
    · obtain rfl := List.mem_singleton.mp hm
      exact hperf.1

lemma isChain_of_run {R : σ → σ → Prop} (hstep : ∀ i o s r s', M i o s r s' → R s s')
    {c d : Config ι Op σ Label Ans} {t : List (Moment ι Op σ Ans)} (hrun : Run M blocks c t d) :
    (t.map Moment.found ++ [d.shared]).IsChain R := by
  induction hrun with
  | refl => exact .singleton _
  | start _ _ _ ih => exact ih
  | call _ _ hlast ih =>
    rw [List.map_append]
    refine List.isChain_append.mpr ⟨ih, .singleton _, ?_⟩
    simpa using hstep _ _ _ _ _ hlast

lemma head_of_run {c d : Config ι Op σ Label Ans} {t : List (Moment ι Op σ Ans)}
    (hrun : Run M blocks c t d) : (t.map Moment.found ++ [d.shared]).head? = some c.shared := by
  induction hrun with
  | refl => rfl
  | start _ _ _ ih => exact ih
  | call _ _ _ ih =>
    rw [List.map_append, List.head?_append]
    exact Option.or_eq_some_iff.mpr (.inl ih)

/-- **From a run to one of its threads**: if nothing another thread does changes the part of the
state this one works on, its moments are those of its programs run one after the other. -/
theorem under_of_run {i : ι} {f : σ → τ} {S : (o : Op) → τ → Ans o → τ → Prop}
    {Q : ι → Op → Prop} (hown : ∀ o s r s', Q i o → M i o s r s' → S o (f s) r (f s'))
    (hothers : ∀ j o s r s', j ≠ i → Q j o → M j o s r s' → f s' = f s)
    (hblocks : ∀ j l p, blocks j l p → Performs (Q j) p)
    {c d : Config ι Op σ Label Ans} {t : List (Moment ι Op σ Ans)}
    (hstart : ∀ j, Performs (Q j) (c.prog j)) {l : Label} (hret : c.prog i = .ret l)
    (hrun : Run M blocks c t d) :
    Under S (blocks i) l (f c.shared) (own i f t) (d.prog i) (f d.shared) := by
  induction hrun with
  | refl => exact ⟨[], [], l, _, .ret l, rfl, .nil, .inl rfl, hret ▸ .refl⟩
  | @start t d j l' p _ hret' hp hunder =>
    change Under S _ l _ _ (Function.update d.prog j p i) _
    by_cases hj : i = j
    · subst hj
      rw [hret'] at hunder
      rw [Function.update_self]
      exact ⟨_, [], l', _, p, (List.append_nil _).symm, hunder.serial, .inr hp, .refl⟩
    · rwa [Function.update_of_ne hj]
  | @call t d j o k r s' hrun hcall hstep hunder =>
    change Under S _ l _ _ (Function.update d.prog j (k r) i) _
    have hperf := performs_of_run hblocks hstart hrun j
    rw [hcall] at hperf
    by_cases hj : i = j
    · subst hj
      rw [hcall] at hunder
      obtain ⟨t₀, t₁, l₁, s₁, p, hsplit, hserial, hp, hgoes⟩ := hunder
      rw [Function.update_self, own_append, hsplit, own_singleton, List.append_assoc]
      exact ⟨t₀, _, l₁, s₁, p, rfl, hserial, hp, hgoes.call (hown o _ r _ hperf.1 hstep)⟩
    · have hsame := hothers j o _ r _ (Ne.symm hj) hperf.1 hstep
      rw [own_append, own_singleton_of_ne (Ne.symm hj), List.append_nil, Function.update_of_ne hj]
      exact hsame.symm ▸ hunder

end Hysim.Lib.Serial
