import Hysim.Lib.Threads

/-!
Runs of threads, with what happened in them.

A machine says what an operation of a thread may answer and leave, the answer included. A
run keeps every operation with its answer and the state it found, so that a property of a
run as a whole is an invariant of the run so far, the shared state and the monitors.
-/

namespace Hysim.Lib.Runs

open Hysim.Lib.Program Hysim.Lib.Threads Relation

variable {ι Op σ Label : Type} {Ans : Op → Type}

/-- The steps an operation of a thread may take. -/
abbrev Machine (ι Op σ : Type) (Ans : Op → Type) :=
  ι → (o : Op) → σ → Ans o → σ → Prop

/-- An operation that was performed, and the state it found. -/
structure Moment (ι Op σ : Type) (Ans : Op → Type) where
  who : ι
  op : Op
  ans : Ans op
  found : σ

variable [DecidableEq ι] (M : Machine ι Op σ Ans) (blocks : ι → Label → Prog Op Ans Label → Prop)

inductive Run (c : Config ι Op σ Label Ans) :
    List (Moment ι Op σ Ans) → Config ι Op σ Label Ans → Prop
  | refl : Run c [] c
  | start {t : List (Moment ι Op σ Ans)} {d : Config ι Op σ Label Ans} {i : ι} {l : Label}
    {p : Prog Op Ans Label} (h : Run c t d) (hret : d.prog i = .ret l) (hp : blocks i l p) :
    Run c t ⟨d.shared, Function.update d.prog i p⟩
  | call {t : List (Moment ι Op σ Ans)} {d : Config ι Op σ Label Ans} {i : ι} {o : Op}
    {k : Ans o → Prog Op Ans Label} {r : Ans o} {s : σ} (h : Run c t d)
    (hcall : d.prog i = .call o k) (hstep : M i o d.shared r s) :
    Run c (t ++ [⟨i, o, r, d.shared⟩]) ⟨s, Function.update d.prog i (k r)⟩

variable {M blocks}

lemma Run.restrict {P : Moment ι Op σ Ans → Prop} {c d : Config ι Op σ Label Ans}
    {t : List (Moment ι Op σ Ans)} (hrun : Run M blocks c t d) (h : ∀ m ∈ t, P m) :
    Run (fun i o s r s' => M i o s r s' ∧ P ⟨i, o, r, s⟩) blocks c t d := by
  induction hrun with
  | refl => exact .refl
  | start hrun hret hp ih => exact (ih h).start hret hp
  | @call t d i o k r s hrun hcall hstep ih =>
    refine (ih fun m hm => h m (List.mem_append_left _ hm)).call hcall ⟨hstep, ?_⟩
    exact h ⟨i, o, r, d.shared⟩ (by simp)

def relabel {Label' : Type} (f : Label → Label') (c : Config ι Op σ Label Ans) :
    Config ι Op σ Label' Ans := ⟨c.shared, fun i => f <$> c.prog i⟩

lemma relabel_update {Label' : Type} (f : Label → Label') (c : Config ι Op σ Label Ans) (s : σ)
    (i : ι) (p : Prog Op Ans Label) :
    relabel f ⟨s, Function.update c.prog i p⟩ =
      ⟨s, Function.update (relabel f c).prog i (f <$> p)⟩ :=
  congrArg (Config.mk s) (Function.comp_update (f <$> ·) c.prog i p)

lemma Run.relabel {Label' : Type} {f : Label → Label'}
    {blocks' : ι → Label' → Prog Op Ans Label' → Prop}
    (hblocks : ∀ i l p, blocks i l p → blocks' i (f l) (f <$> p)) {c d : Config ι Op σ Label Ans}
    {t : List (Moment ι Op σ Ans)} (hrun : Run M blocks c t d) :
    Run M blocks' (relabel f c) t (relabel f d) := by
  induction hrun with
  | refl => exact .refl
  | @start t d i l p _ hret hp ih =>
    have hret' : (Runs.relabel f d).prog i = .ret (f l) := congrArg (f <$> ·) hret
    rw [relabel_update]
    exact ih.start hret' (hblocks i l p hp)
  | @call t d i o k r s _ hcall hstep ih =>
    have hcall' : (Runs.relabel f d).prog i = .call o fun r => f <$> k r :=
      congrArg (f <$> ·) hcall
    rw [relabel_update]
    exact ih.call hcall' hstep

variable (M blocks)

/-! ### Invariants -/

section Invariant

variable {μ : ι → Type} (mon : (i : ι) → Monitor Op Ans (μ i))
  (rest : (i : ι) → Label → μ i → Prop)
  (J : List (Moment ι Op σ Ans) → σ → ((i : ι) → μ i) → Prop)

/-- The run so far, the shared state and the monitors satisfy the invariant, and every thread
keeps to its monitor from where it is. -/
def Tracks (t : List (Moment ι Op σ Ans)) (c : Config ι Op σ Label Ans) : Prop :=
  ∃ x, J t c.shared x ∧ ∀ i, Follows (mon i) (c.prog i) (rest i) (x i)

variable {M blocks mon rest J}

/-- **The invariant rule** for runs: what every allowed operation keeps, every run keeps. -/
theorem tracks_of_run (hexpects : ∀ i o s r s', M i o s r s' → (mon i).expects o r)
    (hblocks : ∀ i l p x, blocks i l p → rest i l x → Follows (mon i) p (rest i) x)
    (hJ : ∀ t i o s r s' x y, J t s x → M i o s r s' → (mon i).step (x i) o r y →
      J (t ++ [⟨i, o, r, s⟩]) s' (Function.update x i y))
    {c d : Config ι Op σ Label Ans} {t : List (Moment ι Op σ Ans)} (h : Tracks mon rest J [] c)
    (hrun : Run M blocks c t d) : Tracks mon rest J t d := by
  induction hrun with
  | refl => exact h
  | @start t d i l p hrun hret hp ih =>
    obtain ⟨x, hx, hfollows⟩ := ih
    have hrest : rest i l (x i) := by
      have hi := hfollows i
      rw [hret] at hi
      exact hi
    exact ⟨x, hx, follows_start hfollows (hblocks i l p (x i) hp hrest)⟩
  | @call t d i o k r s hrun hcall hstep ih =>
    obtain ⟨x, hx, hfollows⟩ := ih
    obtain ⟨y, hy, hafter⟩ := follows_call hfollows hcall (hexpects i o _ r s hstep)
    exact ⟨Function.update x i y, hJ t i o _ r s x y hx hstep hy, hafter⟩

end Invariant

/-! ### One thread -/

section Alone

variable (S : (o : Op) → σ → Ans o → σ → Prop) (due : σ → Op → Prop) {α β : Type}

/-- Whatever is answered, the state the program finds at every operation is one the operation
is due in, and it ends in `post`. -/
def Wp : Prog Op Ans α → (α → σ → Prop) → σ → Prop
  | .ret a, post, s => post a s
  | .call o k, post, s => due s o ∧ ∀ r s', S o s r s' → Wp (k r) post s'

variable {S due}

lemma Wp.bind {p : Prog Op Ans α} {f : α → Prog Op Ans β} {post : β → σ → Prop} {s : σ}
    (h : Wp S due p (fun a s' => Wp S due (f a) post s') s) : Wp S due (p >>= f) post s := by
  induction p generalizing s with
  | ret a => exact h
  | call o k ih => exact ⟨h.1, fun r s' hs => ih r (h.2 r s' hs)⟩

lemma Wp.mono {p : Prog Op Ans α} {post post' : α → σ → Prop} {s : σ}
    (h : Wp S due p post s) (himp : ∀ a s', post a s' → post' a s') : Wp S due p post' s := by
  induction p generalizing s with
  | ret a => exact himp a s h
  | call o k ih => exact ⟨h.1, fun r s' hs => ih r (h.2 r s' hs)⟩

lemma Wp.due_mono {due' : σ → Op → Prop} {p : Prog Op Ans α} {post : α → σ → Prop} {s : σ}
    (h : Wp S due p post s) (himp : ∀ s' o, due s' o → due' s' o) : Wp S due' p post s := by
  induction p generalizing s with
  | ret a => exact h
  | call o k ih => exact ⟨himp s o h.1, fun r s' hs => ih r (h.2 r s' hs)⟩

lemma Wp.and {due' : σ → Op → Prop} {p : Prog Op Ans α} {post post' : α → σ → Prop} {s : σ}
    (h : Wp S due p post s) (h' : Wp S due' p post' s) :
    Wp S (fun s o => due s o ∧ due' s o) p (fun a s => post a s ∧ post' a s) s := by
  induction p generalizing s with
  | ret a => exact ⟨h, h'⟩
  | call o k ih => exact ⟨⟨h.1, h'.1⟩, fun r s' hs => ih r (h.2 r s' hs) (h'.2 r s' hs)⟩

variable (S) in
def observed {γ : Type} (watch : (o : Op) → Ans o → γ → γ) (o : Op) (s : σ × γ) (r : Ans o)
    (s' : σ × γ) : Prop :=
  S o s.1 r s'.1 ∧ s'.2 = watch o r s.2

lemma Wp.observed {γ : Type} (watch : (o : Op) → Ans o → γ → γ) {p : Prog Op Ans α}
    {post : α → σ → Prop} {s : σ} (h : Wp S due p post s) (seen : γ) :
    Wp (observed S watch) (fun s o => due s.1 o) p (fun a s => post a s.1) (s, seen) := by
  induction p generalizing s seen with
  | ret a => exact h
  | call o k ih =>
    refine ⟨h.1, ?_⟩
    rintro r ⟨s', seen'⟩ ⟨hstep, -⟩
    exact ih r (h.2 r s' hstep) seen'

lemma Wp.op_bind {o : Op} {f : Ans o → Prog Op Ans β} {post : β → σ → Prop} {s : σ}
    (hdue : due s o) (h : ∀ r s', S o s r s' → Wp S due (f r) post s') :
    Wp S due (Prog.op o >>= f) post s :=
  ⟨hdue, h⟩

lemma wp_of_performs {Q : Op → Prop} {I : σ → Prop} (hdue : ∀ s o, Q o → I s → due s o)
    (hI : ∀ o s r s', Q o → I s → S o s r s' → I s') {p : Prog Op Ans α} (h : Performs Q p)
    {s : σ} (hs : I s) : Wp S due p (fun _ s' => I s') s := by
  induction p generalizing s with
  | ret a => exact hs
  | call o k ih =>
    exact ⟨hdue s o h.1 hs, fun r s' hstep => ih r (h.2 r) (hI o s r s' h.1 hs hstep)⟩

/-- **The invariant rule** for a thread alone. -/
theorem wp_of_run {M : Machine Unit Op σ Ans} {blocks : Unit → Label → Prog Op Ans Label → Prop}
    {rest : Label → σ → Prop} {J : List (Moment Unit Op σ Ans) → σ → Prop}
    (hblocks : ∀ l p s, blocks () l p → rest l s → Wp (M ()) due p rest s)
    (hJ : ∀ t o s r s', J t s → due s o → M () o s r s' → J (t ++ [⟨(), o, r, s⟩]) s')
    {c d : Config Unit Op σ Label Ans} {t : List (Moment Unit Op σ Ans)}
    (hstart : Wp (M ()) due (c.prog ()) rest c.shared) (hnil : J [] c.shared)
    (hrun : Run M blocks c t d) :
    J t d.shared ∧ Wp (M ()) due (d.prog ()) rest d.shared := by
  induction hrun with
  | refl => exact ⟨hnil, hstart⟩
  | @start t d i l p hrun hret hp ih =>
    obtain ⟨hinv, hwp⟩ := ih
    rw [hret] at hwp
    refine ⟨hinv, ?_⟩
    change Wp (M ()) due (Function.update d.prog () p ()) rest _
    rw [Function.update_self]
    exact hblocks l p _ hp hwp
  | @call t d i o k r s hrun hcall hstep ih =>
    obtain ⟨hinv, hwp⟩ := ih
    rw [hcall] at hwp
    refine ⟨hJ t o _ r s hinv hwp.1 hstep, ?_⟩
    change Wp (M ()) due (Function.update d.prog () (k r) ()) rest _
    rw [Function.update_self]
    exact hwp.2 r s hstep

end Alone

lemma cut_concat {α : Type} {t past mid : List α} {x y : α} (h : t ++ [y] = past ++ x :: mid) :
    (past = t ∧ x = y ∧ mid = []) ∨ ∃ mid', mid = mid' ++ [y] ∧ t = past ++ x :: mid' := by
  rcases List.eq_nil_or_concat mid with rfl | ⟨mid, z, rfl⟩
  · obtain ⟨rfl, hx⟩ := List.append_inj' h rfl
    exact .inl ⟨rfl, by simpa using hx.symm, rfl⟩
  · rw [List.concat_eq_append, ← List.cons_append, ← List.append_assoc] at h
    obtain ⟨rfl, hy⟩ := List.append_inj' h rfl
    obtain rfl : y = z := by simpa using hy
    exact .inr ⟨mid, List.concat_eq_append, rfl⟩

/-! ### Memories, and threads that are not interrupted -/

/-- A memory as a machine: the answer does not change what an operation does. -/
def ofMemory (M : Memory ι Op σ Ans) : Machine ι Op σ Ans :=
  fun i o s r s' => M.enabled i o s ∧ M.answers o s r ∧ s' = M.eff i o s

def alongDevice (D : Device Op Ans σ) (i : ι) {α : Type} (p : Prog Op Ans α) (s : σ) :
    List (Moment ι Op σ Ans) :=
  (moments D p s).map fun m => ⟨i, m.2, D.ans m.2 m.1, m.1⟩

variable {M blocks}

lemma run_program {D : Device Op Ans σ} {i : ι} {P : σ → Op → Prop}
    (hstep : ∀ o s, P s o → M i o s (D.ans o s) (D.eff o s)) {c : Config ι Op σ Label Ans}
    {t : List (Moment ι Op σ Ans)} {s : σ} {p : Prog Op Ans Label} (others : ι → Prog Op Ans Label)
    (hrun : Run M blocks c t ⟨s, Function.update others i p⟩) (hp : Along D P p s) :
    Run M blocks c (t ++ alongDevice D i p s)
      ⟨(run D p s).2, Function.update others i (.ret (run D p s).1)⟩ := by
  induction p generalizing t s with
  | ret a =>
    have hnone : alongDevice D i (.ret a : Prog Op Ans Label) s = [] := rfl
    rw [hnone, List.append_nil]
    exact hrun
  | call o k ih =>
    have hcons : alongDevice D i (.call o k) s =
        ⟨i, o, D.ans o s, s⟩ :: alongDevice D i (k (D.ans o s)) (D.eff o s) := rfl
    have hnext : Run M blocks c (t ++ [⟨i, o, D.ans o s, s⟩])
        ⟨D.eff o s, Function.update (Function.update others i (.call o k)) i (k (D.ans o s))⟩ :=
      hrun.call (Function.update_self i _ others) (hstep o s (hp (s, o) List.mem_cons_self))
    rw [Function.update_idem] at hnext
    rw [hcons, List.append_cons]
    exact ih _ hnext fun m hm => hp m (List.mem_cons_of_mem _ hm)

lemma run_block {D : Device Op Ans σ} {i : ι} {P : σ → Op → Prop}
    (hstep : ∀ o s, P s o → M i o s (D.ans o s) (D.eff o s)) {c d : Config ι Op σ Label Ans}
    {t : List (Moment ι Op σ Ans)} {p : Prog Op Ans Label} {l : Label}
    (hrun : Run M blocks c t d) (hret : d.prog i = .ret l) (hp : blocks i l p)
    (halong : Along D P p d.shared) :
    Run M blocks c (t ++ alongDevice D i p d.shared)
      ⟨(run D p d.shared).2, Function.update d.prog i (.ret (run D p d.shared).1)⟩ :=
  run_program hstep d.prog (hrun.start hret hp) halong

lemma run_moment {D : Device Op Ans σ} {i : ι} {P : σ → Op → Prop}
    (hstep : ∀ o s, P s o → M i o s (D.ans o s) (D.eff o s)) {c : Config ι Op σ Label Ans}
    {t : List (Moment ι Op σ Ans)} {s : σ} {p : Prog Op Ans Label} (others : ι → Prog Op Ans Label)
    (hrun : Run M blocks c t ⟨s, Function.update others i p⟩) (hp : Along D P p s) {m : σ × Op}
    {before after : List (σ × Op)} (hm : moments D p s = before ++ m :: after) :
    ∃ k, Run M blocks c (t ++ before.map fun m => ⟨i, m.2, D.ans m.2 m.1, m.1⟩)
      ⟨m.1, Function.update others i (.call m.2 k)⟩ := by
  induction p generalizing t s before with
  | ret a => simp [moments] at hm
  | call o k ih =>
    have hcons : (s, o) :: moments D (k (D.ans o s)) (D.eff o s) = before ++ m :: after := hm
    rcases List.cons_eq_append_iff.mp hcons with ⟨rfl, hhead⟩ | ⟨before, rfl, hrest⟩
    · obtain ⟨rfl, -⟩ := List.cons_eq_cons.mp hhead
      exact ⟨k, by rwa [List.map_nil, List.append_nil]⟩
    · have hnext : Run M blocks c (t ++ [⟨i, o, D.ans o s, s⟩])
          ⟨D.eff o s, Function.update (Function.update others i (.call o k)) i (k (D.ans o s))⟩ :=
        hrun.call (Function.update_self i _ others) (hstep o s (hp (s, o) List.mem_cons_self))
      rw [Function.update_idem] at hnext
      obtain ⟨k', hu⟩ := ih _ hnext (fun m hm => hp m (List.mem_cons_of_mem _ hm)) hrest
      exact ⟨k', by rwa [List.map_cons, List.append_cons]⟩

end Hysim.Lib.Runs
