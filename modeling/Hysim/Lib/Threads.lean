import Mathlib.Logic.Relation
import Mathlib.Logic.Function.Basic
import Hysim.Lib.Program

/-!
Threads that interleave, one operation at a time.

A thread runs one program after another; between two of them it stands at a label. Each
thread has a monitor that follows its operations, and a program keeps to the monitor if
every operation it can perform is one the monitor allows. An invariant of the shared state
and the monitors is then proved operation by operation, and the programs are followed
apart from it.
-/

namespace Hysim.Lib.Threads

open Hysim.Lib.Program Relation

variable {ι Op σ Label : Type} {Ans : Op → Type}

/-- The operations as they act on the shared state: when they can be performed, what they
may answer and what they do. -/
structure Memory (ι Op σ : Type) (Ans : Op → Type) where
  enabled : ι → Op → σ → Prop
  answers : (o : Op) → σ → Ans o → Prop
  eff : ι → Op → σ → σ

/-- The shared state, and for each thread the program it is still to run. -/
structure Config (ι Op σ Label : Type) (Ans : Op → Type) where
  shared : σ
  prog : ι → Prog Op Ans Label

variable [DecidableEq ι] (M : Memory ι Op σ Ans) (blocks : ι → Label → Prog Op Ans Label → Prop)

/-- A thread starts one of its programs, or performs an operation. -/
inductive Step : Config ι Op σ Label Ans → Config ι Op σ Label Ans → Prop
  | start {c : Config ι Op σ Label Ans} {i : ι} {l : Label} {p : Prog Op Ans Label}
    (hret : c.prog i = .ret l) (hp : blocks i l p) :
    Step c ⟨c.shared, Function.update c.prog i p⟩
  | call {c : Config ι Op σ Label Ans} {i : ι} {o : Op} {k : Ans o → Prog Op Ans Label}
    {r : Ans o} (hcall : c.prog i = .call o k) (hen : M.enabled i o c.shared)
    (hans : M.answers o c.shared r) :
    Step c ⟨M.eff i o c.shared, Function.update c.prog i (k r)⟩

/-- The configurations some interleaving reaches. -/
abbrev Reach := ReflTransGen (Step M blocks)

/-! ### Monitors -/

/-- What follows the operations of a thread: the answers it takes into account, and the
steps it allows. -/
structure Monitor (Op : Type) (Ans : Op → Type) (μ : Type) where
  expects : (o : Op) → Ans o → Prop
  step : μ → (o : Op) → Ans o → μ → Prop

variable {α β μ : Type} (m : Monitor Op Ans μ)

/-- Whatever is answered, the program performs allowed operations only and ends in `post`. -/
def Follows : Prog Op Ans α → (α → μ → Prop) → μ → Prop
  | .ret a, post, x => post a x
  | .call o k, post, x => ∀ r, m.expects o r → ∃ y, m.step x o r y ∧ Follows (k r) post y

variable {m}

@[simp] lemma follows_pure (a : α) (post : α → μ → Prop) (x : μ) :
    Follows m (pure a) post x ↔ post a x := Iff.rfl

lemma follows_op {o : Op} {post : Ans o → μ → Prop} {x : μ}
    (h : ∀ r, m.expects o r → ∃ y, m.step x o r y ∧ post r y) :
    Follows m (Prog.op o : Prog Op Ans (Ans o)) post x := h

lemma Follows.bind {p : Prog Op Ans α} {f : α → Prog Op Ans β} {post : β → μ → Prop} {x : μ}
    (h : Follows m p (fun a y => Follows m (f a) post y) x) : Follows m (p >>= f) post x := by
  induction p generalizing x with
  | ret a => exact h
  | call o k ih =>
    intro r hr
    obtain ⟨y, hstep, hrest⟩ := h r hr
    exact ⟨y, hstep, ih r hrest⟩

lemma Follows.mono {p : Prog Op Ans α} {post post' : α → μ → Prop} {x : μ}
    (h : Follows m p post x) (himp : ∀ a y, post a y → post' a y) : Follows m p post' x := by
  induction p generalizing x with
  | ret a => exact himp a x h
  | call o k ih =>
    intro r hr
    obtain ⟨y, hstep, hrest⟩ := h r hr
    exact ⟨y, hstep, ih r hrest⟩

lemma Follows.op_bind {o : Op} {f : Ans o → Prog Op Ans β} {post : β → μ → Prop} {x : μ}
    (h : ∀ r, m.expects o r → ∃ y, m.step x o r y ∧ Follows m (f r) post y) :
    Follows m (Prog.op o >>= f) post x :=
  Follows.bind (follows_op h)

lemma Follows.simulate {ν : Type} {m' : Monitor Op Ans ν} {R : μ → ν → Prop}
    (hexpects : ∀ o r, m'.expects o r → m.expects o r)
    (hstep : ∀ x o r y x', m.step x o r y → R x x' → ∃ y', m'.step x' o r y' ∧ R y y')
    {p : Prog Op Ans α} {post : α → μ → Prop} {x : μ} {x' : ν} (h : Follows m p post x)
    (hx : R x x') : Follows m' p (fun a y' => ∃ y, post a y ∧ R y y') x' := by
  induction p generalizing x x' with
  | ret a => exact ⟨x, h, hx⟩
  | call o k ih =>
    intro r hr
    obtain ⟨y, hy, hrest⟩ := h r (hexpects o r hr)
    obtain ⟨y', hy', hR⟩ := hstep x o r y x' hy hx
    exact ⟨y', hy', ih r hrest hR⟩

/-! ### What a thread comes to -/

/-- Whatever is answered, the thread performs an operation with `Q` sooner or later, if it is
not kept from going on. -/
inductive Comes (expects : (o : Op) → Ans o → Prop) (blocks : Label → Prog Op Ans Label → Prop)
    (Q : Op → Prop) : Prog Op Ans Label → Prop
  | here {o : Op} {k : Ans o → Prog Op Ans Label} (h : Q o) : Comes expects blocks Q (.call o k)
  | after {o : Op} {k : Ans o → Prog Op Ans Label}
      (h : ∀ r, expects o r → Comes expects blocks Q (k r)) : Comes expects blocks Q (.call o k)
  | start {l : Label} (hex : ∃ p, blocks l p)
      (h : ∀ p, blocks l p → Comes expects blocks Q p) : Comes expects blocks Q (.ret l)

/-- What only an operation with `Q` ends, and does not hold where the thread may rest, the
thread comes to end. -/
lemma Follows.comes {blocks : Label → Prog Op Ans Label → Prop} {Q : Op → Prop} {I : μ → Prop}
    (hstep : ∀ x o r y, m.step x o r y → I x → Q o ∨ I y) {rest : Label → μ → Prop}
    (hrest : ∀ l x, rest l x → I x → Comes m.expects blocks Q (.ret l))
    {p : Prog Op Ans Label} {x : μ} (h : Follows m p rest x) (hx : I x) :
    Comes m.expects blocks Q p := by
  induction p generalizing x with
  | ret l => exact hrest l x h hx
  | call o k ih =>
    by_cases hQ : Q o
    · exact .here hQ
    · refine .after fun r hr => ?_
      obtain ⟨y, hy, hafter⟩ := h r hr
      exact ih r hafter ((hstep x o r y hy hx).resolve_left hQ)

/-! ### Invariants -/

section Invariant

variable {μ : ι → Type} (mon : (i : ι) → Monitor Op Ans (μ i))
  (rest : (i : ι) → Label → μ i → Prop) (J : σ → ((i : ι) → μ i) → Prop)

/-- The shared state and the monitors satisfy the invariant, and every thread keeps to its
monitor from where it is. -/
def Good (c : Config ι Op σ Label Ans) : Prop :=
  ∃ x, J c.shared x ∧ ∀ i, Follows (mon i) (c.prog i) (rest i) (x i)

variable {M blocks mon rest J}

lemma follows_start {prog : ι → Prog Op Ans Label} {x : (i : ι) → μ i}
    (hfollows : ∀ j, Follows (mon j) (prog j) (rest j) (x j)) {i : ι} {p : Prog Op Ans Label}
    (hp : Follows (mon i) p (rest i) (x i)) (j : ι) :
    Follows (mon j) (Function.update prog i p j) (rest j) (x j) := by
  by_cases hj : j = i
  · subst hj
    rw [Function.update_self]
    exact hp
  · rw [Function.update_of_ne hj]
    exact hfollows j

lemma follows_call {prog : ι → Prog Op Ans Label} {x : (i : ι) → μ i}
    (hfollows : ∀ j, Follows (mon j) (prog j) (rest j) (x j)) {i : ι} {o : Op}
    {k : Ans o → Prog Op Ans Label} (hcall : prog i = .call o k) {r : Ans o}
    (hr : (mon i).expects o r) :
    ∃ y, (mon i).step (x i) o r y ∧ ∀ j,
      Follows (mon j) (Function.update prog i (k r) j) (rest j) (Function.update x i y j) := by
  have hi := hfollows i
  rw [hcall] at hi
  obtain ⟨y, hy, hrest⟩ := hi r hr
  refine ⟨y, hy, fun j => ?_⟩
  by_cases hj : j = i
  · subst hj
    rw [Function.update_self, Function.update_self]
    exact hrest
  · rw [Function.update_of_ne hj, Function.update_of_ne hj]
    exact hfollows j

lemma good_step (hexpects : ∀ i o s r, M.answers o s r → (mon i).expects o r)
    (hblocks : ∀ i l p x, blocks i l p → rest i l x → Follows (mon i) p (rest i) x)
    (hJ : ∀ i o s r x y, J s x → M.enabled i o s → M.answers o s r → (mon i).step (x i) o r y →
      J (M.eff i o s) (Function.update x i y))
    {c c' : Config ι Op σ Label Ans} (h : Good mon rest J c) (hstep : Step M blocks c c') :
    Good mon rest J c' := by
  obtain ⟨x, hx, hfollows⟩ := h
  cases hstep with
  | @start i l p hret hp =>
    have hrest : rest i l (x i) := by
      have hi := hfollows i
      rw [hret] at hi
      exact hi
    exact ⟨x, hx, follows_start hfollows (hblocks i l p (x i) hp hrest)⟩
  | @call i o k r hcall hen hans =>
    obtain ⟨y, hy, hafter⟩ := follows_call hfollows hcall (hexpects i o _ r hans)
    exact ⟨Function.update x i y, hJ i o _ r x y hx hen hans hy, hafter⟩

/-- **The invariant rule**: what every allowed operation keeps, every interleaving keeps. -/
theorem good_of_reach (hexpects : ∀ i o s r, M.answers o s r → (mon i).expects o r)
    (hblocks : ∀ i l p x, blocks i l p → rest i l x → Follows (mon i) p (rest i) x)
    (hJ : ∀ i o s r x y, J s x → M.enabled i o s → M.answers o s r → (mon i).step (x i) o r y →
      J (M.eff i o s) (Function.update x i y))
    {c c' : Config ι Op σ Label Ans} (h : Good mon rest J c) (hreach : Reach M blocks c c') :
    Good mon rest J c' := by
  induction hreach with
  | refl => exact h
  | tail _ hstep ih => exact good_step hexpects hblocks hJ ih hstep

end Invariant

/-! ### One thread at a time -/

variable {M blocks}

lemma reach_run {D : Device Op Ans σ} {i : ι} (hans : ∀ o s, M.answers o s (D.ans o s))
    (heff : ∀ o s, M.eff i o s = D.eff o s) {p : Prog Op Ans Label} {s : σ}
    (hen : Along D (fun s o => M.enabled i o s) p s) (others : ι → Prog Op Ans Label) :
    Reach M blocks ⟨s, Function.update others i p⟩
      ⟨(run D p s).2, Function.update others i (.ret (run D p s).1)⟩ := by
  induction p generalizing s with
  | ret a => exact .refl
  | call o k ih =>
    have hrest : Along D (fun s o => M.enabled i o s) (k (D.ans o s)) (D.eff o s) :=
      fun x hx => hen x (List.mem_cons_of_mem _ hx)
    refine .head ?_ (ih _ hrest)
    have hstep : Step M blocks ⟨s, Function.update others i (.call o k)⟩
        ⟨M.eff i o s, Function.update (Function.update others i (.call o k)) i (k (D.ans o s))⟩ :=
      .call (Function.update_self i _ others) (hen (s, o) List.mem_cons_self) (hans o s)
    rwa [Function.update_idem, heff] at hstep

lemma reach_block {D : Device Op Ans σ} {i : ι} (hans : ∀ o s, M.answers o s (D.ans o s))
    (heff : ∀ o s, M.eff i o s = D.eff o s) {p : Prog Op Ans Label} {l : Label}
    (hp : blocks i l p) {c : Config ι Op σ Label Ans} (hret : c.prog i = .ret l)
    (hen : Along D (fun s o => M.enabled i o s) p c.shared) :
    Reach M blocks c ⟨(run D p c.shared).2, Function.update c.prog i (.ret (run D p c.shared).1)⟩ :=
  .head (.start hret hp) (reach_run hans heff hen c.prog)

end Hysim.Lib.Threads
