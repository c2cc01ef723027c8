import Mathlib.Tactic.Common

/-!
Programs told one operation at a time.

A program over a signature either returns or performs an operation and goes on with the
answer. A device answers the operations in order, so that a program runs on it; the
moments of the run are the operations performed, each with the state it found. Whatever is
to hold at every moment is proved by following the program once.
-/

namespace Hysim.Lib.Program

/-- A program over the operations `Op`, where `o` is answered by an `Ans o`. -/
inductive Prog (Op : Type) (Ans : Op → Type) (α : Type) where
  | ret (a : α)
  | call (o : Op) (k : Ans o → Prog Op Ans α)

variable {Op : Type} {Ans : Op → Type} {α β γ σ : Type}

def Prog.bind (p : Prog Op Ans α) (f : α → Prog Op Ans β) : Prog Op Ans β :=
  match p with
  | .ret a => f a
  | .call o k => .call o fun r => (k r).bind f

instance : Monad (Prog Op Ans) where
  pure := .ret
  bind := .bind

def Prog.op (o : Op) : Prog Op Ans (Ans o) := .call o .ret

@[simp] lemma ret_bind (a : α) (f : α → Prog Op Ans β) : (Prog.ret a >>= f) = f a := rfl

@[simp] lemma call_bind (o : Op) (k : Ans o → Prog Op Ans α) (f : α → Prog Op Ans β) :
    (Prog.call o k >>= f) = Prog.call o fun r => k r >>= f := rfl

lemma id_map (p : Prog Op Ans α) : id <$> p = p := by
  induction p with
  | ret a => rfl
  | call o k ih => exact congrArg (Prog.call o) (funext ih)

lemma bind_assoc (p : Prog Op Ans α) (f : α → Prog Op Ans β) (g : β → Prog Op Ans γ) :
    p >>= f >>= g = p >>= fun a => f a >>= g := by
  induction p with
  | ret a => rfl
  | call o k ih => exact congrArg (Prog.call o) (funext ih)

instance : LawfulMonad (Prog Op Ans) :=
  LawfulMonad.mk' _ id_map (fun _ _ => rfl) bind_assoc

/-! ### Running a program on a device -/

/-- What answers the operations: the answer a state gives, and the state it leaves. -/
structure Device (Op : Type) (Ans : Op → Type) (σ : Type) where
  ans : (o : Op) → σ → Ans o
  eff : Op → σ → σ

variable (D : Device Op Ans σ)

def run : Prog Op Ans α → σ → α × σ
  | .ret a, s => (a, s)
  | .call o k, s => run (k (D.ans o s)) (D.eff o s)

/-- The operations of a run, in order, each with the state it found. -/
def moments : Prog Op Ans α → σ → List (σ × Op)
  | .ret _, _ => []
  | .call o k, s => (s, o) :: moments (k (D.ans o s)) (D.eff o s)

@[simp] lemma run_ret (a : α) (s : σ) : run D (.ret a : Prog Op Ans α) s = (a, s) := rfl
@[simp] lemma run_pure (a : α) (s : σ) : run D (pure a : Prog Op Ans α) s = (a, s) := rfl

@[simp] lemma run_call (o : Op) (k : Ans o → Prog Op Ans α) (s : σ) :
    run D (.call o k) s = run D (k (D.ans o s)) (D.eff o s) := rfl

@[simp] lemma run_op (o : Op) (s : σ) :
    run D (Prog.op o : Prog Op Ans (Ans o)) s = (D.ans o s, D.eff o s) := rfl

@[simp] lemma run_bind (p : Prog Op Ans α) (f : α → Prog Op Ans β) (s : σ) :
    run D (p >>= f) s = run D (f (run D p s).1) (run D p s).2 := by
  induction p generalizing s with
  | ret a => rfl
  | call o k ih => exact ih _ _

@[simp] lemma moments_ret (a : α) (s : σ) : moments D (.ret a : Prog Op Ans α) s = [] := rfl
@[simp] lemma moments_pure (a : α) (s : σ) : moments D (pure a : Prog Op Ans α) s = [] := rfl

@[simp] lemma moments_op (o : Op) (s : σ) :
    moments D (Prog.op o : Prog Op Ans (Ans o)) s = [(s, o)] := rfl

@[simp] lemma moments_bind (p : Prog Op Ans α) (f : α → Prog Op Ans β) (s : σ) :
    moments D (p >>= f) s =
      moments D p s ++ moments D (f (run D p s).1) (run D p s).2 := by
  induction p generalizing s with
  | ret a => rfl
  | call o k ih => exact congrArg (List.cons (s, o)) (ih _ _)

@[simp] lemma run_map (p : Prog Op Ans α) (f : α → β) (s : σ) :
    run D (f <$> p) s = (f (run D p s).1, (run D p s).2) := by
  rw [← bind_pure_comp, run_bind]; rfl

@[simp] lemma moments_map (p : Prog Op Ans α) (f : α → β) (s : σ) :
    moments D (f <$> p) s = moments D p s := by
  rw [← bind_pure_comp, moments_bind]; simp

lemma foldlM_range_succ (f : β → ℕ → Prog Op Ans β) (k : ℕ) (b : β) :
    (List.range (k + 1)).foldlM f b = (List.range k).foldlM f b >>= fun b => f b k := by
  rw [List.range_succ, List.foldlM_append]
  simp only [List.foldlM_cons, List.foldlM_nil, bind_pure]

/-- The states a run goes through, from the first to the last. -/
def trail (p : Prog Op Ans α) (s : σ) : List σ :=
  (moments D p s).map Prod.fst ++ [(run D p s).2]

lemma trail_eq_cons (p : Prog Op Ans α) (s : σ) : ∃ t, trail D p s = s :: t := by
  cases p with
  | ret a => exact ⟨[], rfl⟩
  | call o k => exact ⟨_, rfl⟩

/-- Every moment of the run has `P`. -/
def Along (P : σ → Op → Prop) (p : Prog Op Ans α) (s : σ) : Prop :=
  ∀ m ∈ moments D p s, P m.1 m.2

variable {D} {P : σ → Op → Prop}

@[simp] lemma along_pure (a : α) (s : σ) : Along D P (pure a : Prog Op Ans α) s := by
  simp [Along]

@[simp] lemma along_op (o : Op) (s : σ) :
    Along D P (Prog.op o : Prog Op Ans (Ans o)) s ↔ P s o := by
  simp [Along]

@[simp] lemma along_bind (p : Prog Op Ans α) (f : α → Prog Op Ans β) (s : σ) :
    Along D P (p >>= f) s ↔
      Along D P p s ∧ Along D P (f (run D p s).1) (run D p s).2 := by
  simp [Along, or_imp, forall_and]

@[simp] lemma along_map (p : Prog Op Ans α) (f : α → β) (s : σ) :
    Along D P (f <$> p) s ↔ Along D P p s := by
  simp [Along]

lemma Along.mono {Q : σ → Op → Prop} {p : Prog Op Ans α} {s : σ} (h : Along D P p s)
    (hPQ : ∀ s o, P s o → Q s o) : Along D Q p s :=
  fun m hm => hPQ _ _ (h m hm)

lemma Along.trail_isChain {R : σ → σ → Prop} {p : Prog Op Ans α} {s : σ}
    (h : Along D (fun s o => R s (D.eff o s)) p s) : (trail D p s).IsChain R := by
  induction p generalizing s with
  | ret a => exact .singleton _
  | call o k ih =>
    have hrest := ih _ fun m hm => h m (List.mem_cons_of_mem _ hm)
    have hstep : R s (D.eff o s) := h (s, o) List.mem_cons_self
    obtain ⟨t, ht⟩ := trail_eq_cons D (k (D.ans o s)) (D.eff o s)
    have htrail : trail D (.call o k) s = s :: trail D (k (D.ans o s)) (D.eff o s) := rfl
    rw [htrail, ht]
    rw [ht] at hrest
    exact List.isChain_cons_cons.mpr ⟨hstep, hrest⟩

/-! ### What a program can perform -/

/-- Whatever is answered, every operation the program performs has `Q`. -/
def Performs (Q : Op → Prop) : Prog Op Ans α → Prop
  | .ret _ => True
  | .call o k => Q o ∧ ∀ r, Performs Q (k r)

variable {Q : Op → Prop}

lemma Performs.mono {Q' : Op → Prop} {p : Prog Op Ans α} (h : Performs Q p)
    (hQ : ∀ o, Q o → Q' o) : Performs Q' p := by
  induction p with
  | ret a => trivial
  | call o k ih => exact ⟨hQ o h.1, fun r => ih r (h.2 r)⟩

lemma Performs.op {o : Op} (h : Q o) : Performs Q (Prog.op o : Prog Op Ans (Ans o)) :=
  ⟨h, fun _ => trivial⟩

lemma Performs.bind {p : Prog Op Ans α} {f : α → Prog Op Ans β} (hp : Performs Q p)
    (hf : ∀ a, Performs Q (f a)) : Performs Q (p >>= f) := by
  induction p with
  | ret a => exact hf a
  | call o k ih => exact ⟨hp.1, fun r => ih r (hp.2 r)⟩

lemma Performs.foldlM {ι : Type} {f : β → ι → Prog Op Ans β} (hf : ∀ b x, Performs Q (f b x))
    (l : List ι) (b : β) : Performs Q (l.foldlM f b) := by
  induction l generalizing b with
  | nil => trivial
  | cons x l ih =>
    rw [List.foldlM_cons]
    exact (hf b x).bind fun b' => ih b'

lemma Performs.forM {ι : Type} {f : ι → Prog Op Ans Unit} (hf : ∀ x, Performs Q (f x))
    (l : List ι) : Performs Q (forM l f) := by
  induction l with
  | nil => trivial
  | cons x l ih =>
    rw [List.forM_cons]
    exact (hf x).bind fun _ => ih

lemma performs_true (p : Prog Op Ans α) : Performs (fun _ => True) p := by
  induction p with
  | ret a => trivial
  | call o k ih => exact ⟨trivial, ih⟩

lemma Performs.along {p : Prog Op Ans α} (h : Performs Q p) (s : σ) :
    Along D (fun _ o => Q o) p s := by
  induction p generalizing s with
  | ret a => exact along_pure a s
  | call o k ih =>
    intro m hm
    rcases List.mem_cons.mp hm with rfl | hm
    · exact h.1
    · exact ih _ (h.2 _) _ m hm

/-- **The invariant rule.** What the operations of a run keep holds at each of its moments
and at its end. -/
lemma Along.invariant {I : σ → Prop} (hI : ∀ s o, I s → P s o → I (D.eff o s))
    {p : Prog Op Ans α} {s : σ} (h : Along D P p s) (hs : I s) :
    Along D (fun s _ => I s) p s ∧ I (run D p s).2 := by
  induction p generalizing s with
  | ret a => exact ⟨along_pure a s, hs⟩
  | call o k ih =>
    have hnext : I (D.eff o s) := hI s o hs (h (s, o) List.mem_cons_self)
    obtain ⟨hrest, hend⟩ := ih _ (fun m hm => h m (List.mem_cons_of_mem _ hm)) hnext
    refine ⟨fun m hm => ?_, hend⟩
    rcases List.mem_cons.mp hm with rfl | hm
    · exact hs
    · exact hrest m hm

lemma Performs.frame {τ : Type} {f : σ → τ} (hf : ∀ s o, Q o → f (D.eff o s) = f s)
    {p : Prog Op Ans α} (h : Performs Q p) (s : σ) : f (run D p s).2 = f s :=
  ((h.along s).invariant (I := fun t => f t = f s)
    (fun t o ht ho => (hf t o ho).trans ht) rfl).2

/-! ### Properties that sequencing keeps -/

/-- A property of programs that holds of those that only return, and of two in sequence if it
holds of each. -/
structure Closed (K : (α : Type) → Prog Op Ans α → Prop) : Prop where
  pure (α : Type) (a : α) : K α (.ret a)
  bind (α β : Type) (p : Prog Op Ans α) (f : α → Prog Op Ans β) :
    K α p → (∀ a, K β (f a)) → K β (p >>= f)

/-! ### Programs over more operations -/

section Embed

variable {Op' : Type} {Ans' : Op' → Type} (f : Op → Op') (g : (o : Op) → Ans' (f o) → Ans o)

/-- The program over a larger signature: each operation is performed as `f` says, and its
answer read by `g`. -/
def Prog.embed : Prog Op Ans α → Prog Op' Ans' α
  | .ret a => .ret a
  | .call o k => .call (f o) fun r => (k (g o r)).embed

lemma Performs.embed {p : Prog Op Ans α} (h : Performs Q p) :
    Performs (fun o' => ∃ o, Q o ∧ o' = f o) (p.embed f g) := by
  induction p with
  | ret a => trivial
  | call o k ih => exact ⟨⟨o, h.1, rfl⟩, fun r => ih (g o r) (h.2 (g o r))⟩

lemma embed_bind (p : Prog Op Ans α) (k : α → Prog Op Ans β) :
    (p >>= k).embed f g = p.embed f g >>= fun a => (k a).embed f g := by
  induction p with
  | ret a => rfl
  | call o q ih => exact congrArg (Prog.call (f o)) (funext fun r => ih (g o r))

/-- On a device with the state of `D` as a part, and whose operations act on that part as those
of `D` do, it runs as on `D` and leaves the rest as it was. -/
lemma run_embed {τ : Type} (D' : Device Op' Ans' τ) (get : τ → σ) (put : τ → σ → τ)
    (hget : ∀ s a, get (put s a) = a) (hput : ∀ s, put s (get s) = s)
    (hputput : ∀ s a b, put (put s a) b = put s b)
    (hans : ∀ o s, g o (D'.ans (f o) s) = D.ans o (get s))
    (heff : ∀ o s, D'.eff (f o) s = put s (D.eff o (get s))) (p : Prog Op Ans α) (s : τ) :
    run D' (p.embed f g) s = ((run D p (get s)).1, put s (run D p (get s)).2) := by
  induction p generalizing s with
  | ret a => exact Prod.ext rfl (hput s).symm
  | call o k ih =>
    have hcall : run D' ((Prog.call o k).embed f g) s =
        run D' ((k (g o (D'.ans (f o) s))).embed f g) (D'.eff (f o) s) := rfl
    rw [hcall, ih, hans, heff, hget, hputput, run_call]

end Embed

end Hysim.Lib.Program
