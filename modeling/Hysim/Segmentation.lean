import Hysim.Ladder
import Hysim.Controller

/-!
Receiving the same requests in different pieces.

The header may arrive in any pieces. The body of an `ACT_REQ` may not: if its two bytes come
separately, the loop takes the state from the stack, and from there on it reads the stream
out of step.
-/

namespace Hysim.Segmentation

open Hysim.Packets Hysim.Actuators Hysim.State Hysim.Serve Hysim.Controller

/-- The tape delivers the stream `bs` to a loop at `φ`: every `recv` returns some of the next
bytes, at least one and at most as many as it asked for. -/
def Segments : Phase → List UInt8 → List Recv → Prop
  | _, bs, [] => bs = []
  | φ, bs, r :: tape => ∃ n, (0 < n ∧ n ≤ φ.asked ∧ n ≤ bs.length) ∧ r = .ok (bs.take n) ∧
      Segments (φ.next r) (bs.drop n) tape

/-- A boundary between two results of `recv` lies at this offset of the stream. -/
def Cuts : List Recv → ℕ → Prop
  | [], n => n = 0
  | r :: tape, n => n = 0 ∨ ((bytesOf r).length ≤ n ∧ Cuts tape (n - (bytesOf r).length))

/-- The body of some `ACT_REQ` is received in two parts. -/
def Splits (reqs : List Request) (tape : List Recv) : Prop :=
  ∃ pre req post, reqs = pre ++ .act req :: post ∧
    Cuts tape ((encodeRequests pre).length + 3)

/-! ### Boundaries -/

lemma cuts_zero (tape : List Recv) : Cuts tape 0 := by
  cases tape
  · rfl
  · exact .inl rfl

lemma cuts_append {t u : List Recv} {m : ℕ} (hm : 0 < m) :
    Cuts (t ++ u) ((t.flatMap bytesOf).length + m) ↔ Cuts u m := by
  induction t with
  | nil => simp
  | cons r t ih =>
    rw [List.flatMap_cons, List.length_append, List.cons_append, Cuts]
    have hne : ¬ (bytesOf r).length + (t.flatMap bytesOf).length + m = 0 := by omega
    have hle : (bytesOf r).length ≤ (bytesOf r).length + (t.flatMap bytesOf).length + m := by
      omega
    have hsub : (bytesOf r).length + (t.flatMap bytesOf).length + m - (bytesOf r).length =
        (t.flatMap bytesOf).length + m := by omega
    rw [hsub, ih]
    exact ⟨fun h => (h.resolve_left hne).2, fun h => .inr ⟨hle, h⟩⟩

/-- Once the first request is received, a later body is split where the rest of the tape
splits it. -/
lemma splits_append {req : Request} {reqs : List Request} {t u : List Recv}
    (ht : t.flatMap bytesOf = (Request.packet req).bytes) :
    Splits (req :: reqs) (t ++ u) ↔
      ((∃ a, req = .act a) ∧ Cuts (t ++ u) 3) ∨ Splits reqs u := by
  have hshift : ∀ pre : List Request, Cuts (t ++ u) ((encodeRequests (req :: pre)).length + 3) ↔
      Cuts u ((encodeRequests pre).length + 3) := by
    intro pre
    rw [encodeRequests_cons, ← ht, List.length_append, Nat.add_assoc]
    exact cuts_append (by omega)
  constructor
  · rintro ⟨_ | ⟨q, pre⟩, a, post, heq, hcut⟩
    · exact .inl ⟨⟨a, (List.cons.inj heq).1⟩, hcut⟩
    · obtain ⟨rfl, rfl⟩ := List.cons.inj heq
      exact .inr ⟨pre, a, post, rfl, (hshift pre).mp hcut⟩
  · rintro (⟨⟨a, rfl⟩, hcut⟩ | ⟨pre, a, post, rfl, hcut⟩)
    · exact ⟨[], a, reqs, rfl, hcut⟩
    · exact ⟨req :: pre, a, post, rfl, (hshift pre).mpr hcut⟩

lemma not_splits_nil (tape : List Recv) : ¬ Splits [] tape := by
  rintro ⟨pre, a, post, heq, -⟩
  simp at heq

/-! ### Receiving one packet -/

variable (env : Surroundings) (stack : Stack)

lemma segments_cons {φ : Phase} {b : UInt8} {bs : List UInt8} {tape : List Recv}
    (h : Segments φ (b :: bs) tape) :
    ∃ n u, 0 < n ∧ n ≤ φ.asked ∧ tape = .ok ((b :: bs).take n) :: u ∧
      Segments (φ.next (.ok ((b :: bs).take n))) ((b :: bs).drop n) u := by
  rcases tape with _ | ⟨r, u⟩
  · cases h
  obtain ⟨n, ⟨hpos, hask, -⟩, rfl, hrest⟩ := h
  exact ⟨n, u, hpos, hask, rfl, hrest⟩

lemma segments_header {a b : UInt8} {bs : List UInt8} {tape : List Recv}
    (h : Segments (.header none) (a :: b :: bs) tape) :
    ∃ t u, tape = t ++ u ∧ t.flatMap bytesOf = [a, b] ∧ Segments (dispatch ⟨a, b⟩) bs u ∧
      ∀ stack s, s.phase = .header none →
        controllerRun env stack s t = { s with phase := dispatch ⟨a, b⟩ } := by
  obtain ⟨n, u, hpos, hask, rfl, hrest⟩ := segments_cons h
  have hn : n = 1 ∨ n = 2 := by
    simp only [Phase.asked] at hask
    omega
  rcases hn with rfl | rfl
  · -- the two bytes of the header come one by one
    obtain ⟨n, v, hpos, hask, rfl, hlater⟩ := segments_cons hrest
    obtain rfl : n = 1 := by
      simp only [Phase.next, bytesOf, List.take_succ_cons, List.take_zero, Phase.asked] at hask
      omega
    refine ⟨[.ok [a], .ok [b]], v, rfl, rfl, hlater, fun stack s hs => ?_⟩
    have hfirst : controllerStep env stack s (.ok [a]) =
        { s with phase := .header (some a) } := by
      rw [step_header env stack hs] <;> rw [hs] <;> simp [Phase.next]
    have hsecond : controllerStep env stack { s with phase := .header (some a) } (.ok [b]) =
        { s with phase := dispatch ⟨a, b⟩ } := step_header env stack rfl (dispatch_ne_accepting _)
    rw [controllerRun_cons, hfirst, controllerRun_cons, hsecond, controllerRun_nil]
  · refine ⟨[.ok [a, b]], u, rfl, rfl, hrest, fun stack s hs => ?_⟩
    exact step_header_whole env stack hs rfl

lemma segments_armBody {level : UInt8} {bs : List UInt8} {tape : List Recv}
    (h : Segments .armReq (level :: bs) tape) :
    ∃ u, tape = .ok [level] :: u ∧ Segments (.header none) bs u := by
  obtain ⟨n, u, hpos, hask, rfl, hrest⟩ := segments_cons h
  obtain rfl : n = 1 := by
    simp only [Phase.asked] at hask
    omega
  exact ⟨u, rfl, hrest⟩

lemma segments_actBody {id state : UInt8} {bs : List UInt8} {tape : List Recv}
    (h : Segments .actReq (id :: state :: bs) tape) :
    (∃ u, tape = .ok [id, state] :: u ∧ Segments (.header none) bs u) ∨
      ∃ u, tape = .ok [id] :: u := by
  obtain ⟨n, u, hpos, hask, rfl, hrest⟩ := segments_cons h
  have hn : n = 1 ∨ n = 2 := by
    simp only [Phase.asked] at hask
    omega
  rcases hn with rfl | rfl
  · exact .inr ⟨u, rfl⟩
  · exact .inl ⟨u, rfl, hrest⟩

/-- A request is received whole and executed, or its body is split and the state it asks for
is taken from the stack. -/
lemma segments_request {req : Request} {bs : List UInt8} {tape : List Recv}
    (h : Segments (.header none) ((Request.packet req).bytes ++ bs) tape) :
    (∃ t u, tape = t ++ u ∧ t.flatMap bytesOf = (Request.packet req).bytes ∧
      Segments (.header none) bs u ∧ ¬ ((∃ a, req = .act a) ∧ Cuts tape 3) ∧
      ∀ stack s, s.phase = .header none → controllerRun env stack s t = s.execute env req) ∨
    ∃ a t u, req = .act a ∧ tape = t ++ u ∧ Cuts tape 3 ∧
      ∀ stack s, s.phase = .header none → controllerRun env stack s t =
        s.execute env (.act ⟨a.id, stack s.executed.length 1⟩) := by
  rcases req with a | a
  · rw [act_bytes] at h ⊢
    obtain ⟨t, u, rfl, ht, hu, hrun⟩ := segments_header env h
    have hcut : Cuts (t ++ u) 3 ↔ Cuts u 1 := by
      have hlen : 3 = (t.flatMap bytesOf).length + 1 := by rw [ht]; rfl
      rw [hlen]
      exact cuts_append (by omega)
    rcases segments_actBody hu with ⟨v, rfl, hv⟩ | ⟨v, rfl⟩
    · refine .inl ⟨t ++ [.ok [a.id, a.state]], v, by simp, by simp [ht], hv, ?_, ?_⟩
      · rintro ⟨-, h3⟩
        simpa [Cuts] using hcut.mp h3
      · intro stack s hs
        have hstep : controllerStep env stack { s with phase := .actReq }
            (.ok [a.id, a.state]) = s.execute env (.act a) := step_request env stack rfl
        rw [controllerRun_append, hrun stack s hs]
        exact hstep
    · refine .inr ⟨a, t ++ [.ok [a.id]], v, rfl, by simp, ?_, ?_⟩
      · exact hcut.mpr (.inr ⟨le_refl _, cuts_zero v⟩)
      · intro stack s hs
        have hstep : controllerStep env stack { s with phase := .actReq } (.ok [a.id]) =
            s.execute env (.act ⟨a.id, stack s.executed.length 1⟩) := step_request env stack rfl
        rw [controllerRun_append, hrun stack s hs]
        exact hstep
  · rw [arm_bytes] at h ⊢
    obtain ⟨t, u, rfl, ht, hu, hrun⟩ := segments_header env h
    obtain ⟨v, rfl, hv⟩ := segments_armBody hu
    refine .inl ⟨t ++ [.ok [a.level]], v, by simp, by simp [ht], hv, by simp, ?_⟩
    intro stack s hs
    have hstep : controllerStep env stack { s with phase := .armReq } (.ok [a.level]) =
        s.execute env (.arm a) := step_request env stack rfl
    rw [controllerRun_append, hrun stack s hs]
    exact hstep

/-! ### Receiving a stream -/

/-- **Unsplit bodies are executed as sent.** -/
theorem unsplit_run {reqs : List Request} {tape : List Recv} {s : Session}
    (h : Segments (.header none) (encodeRequests reqs) tape) (hsplit : ¬ Splits reqs tape)
    (hs : s.phase = .header none) : controllerRun env stack s tape = s.executeAll env reqs := by
  induction reqs generalizing tape s with
  | nil =>
    rcases tape with _ | ⟨r, tape⟩
    · rfl
    · obtain ⟨n, ⟨hpos, -, hlen⟩, -⟩ := h
      simp only [encodeRequests_nil, List.length_nil] at hlen
      omega
  | cons req reqs ih =>
    rw [encodeRequests_cons] at h
    rcases segments_request env h with ⟨t, u, rfl, ht, hu, -, hrun⟩ | ⟨a, t, u, rfl, rfl, hcut, -⟩
    · have hrest : ¬ Splits reqs u := fun hc => hsplit ((splits_append ht).mpr (.inr hc))
      rw [controllerRun_append, hrun stack s hs, ih hu hrest rfl, executeAll_cons]
    · exact absurd ⟨[], a, reqs, rfl, hcut⟩ hsplit

def inputs (k : ℕ) : List Request → List Ladder.Input
  | [] => []
  | req :: reqs => (req, (env k).driver) :: inputs (k + 1) reqs

lemma executeAll_pad (hlocks : ∀ k, (env k).locks = []) (s : Session) (reqs : List Request) :
    (s.executeAll env reqs).pad = Ladder.after s.pad (inputs env s.executed.length reqs) := by
  induction reqs generalizing s with
  | nil => rfl
  | cons req reqs ih =>
    have hfound : env s.executed.length = ⟨[], (env s.executed.length).driver⟩ := by
      rw [← hlocks s.executed.length]
    have hlen : (s.execute env req).executed.length = s.executed.length + 1 := by
      simp [Session.execute]
    have hpad : (s.execute env req).pad =
        (serve ⟨[], (env s.executed.length).driver⟩ s.pad req).2 := by
      rw [← hfound]; rfl
    calc (s.executeAll env (req :: reqs)).pad
        = Ladder.after (s.execute env req).pad
            (inputs env (s.execute env req).executed.length reqs) := ih _
      _ = Ladder.after s.pad (inputs env s.executed.length (req :: reqs)) := by
            rw [hlen, hpad]; rfl

/-- **Unsplit bodies, all lock operations succeeding**: the loop leaves the pad as the
requests do one after another. -/
theorem unsplit_run_pad (hlocks : ∀ k, (env k).locks = []) {reqs : List Request}
    {tape : List Recv} {s : Session}
    (h : Segments (.header none) (encodeRequests reqs) tape) (hsplit : ¬ Splits reqs tape)
    (hs : s.phase = .header none) : (controllerRun env stack s tape).pad =
      Ladder.after s.pad (inputs env s.executed.length reqs) := by
  rw [unsplit_run env stack h hsplit hs, executeAll_pad env hlocks]

/-- **A split body is executed as the stack has it.** -/
theorem split_run {reqs : List Request} {tape : List Recv} {s : Session}
    (h : Segments (.header none) (encodeRequests reqs) tape) (hsplit : Splits reqs tape)
    (hs : s.phase = .header none) :
    ∃ k id, ∀ stack, (controllerRun env stack s tape).requests[k]? =
      some (Request.act ⟨id, stack k 1⟩) := by
  induction reqs generalizing tape s with
  | nil => exact absurd hsplit (not_splits_nil tape)
  | cons req reqs ih =>
    rw [encodeRequests_cons] at h
    rcases segments_request env h with
      ⟨t, u, rfl, ht, hu, hcut, hrun⟩ | ⟨a, t, u, rfl, rfl, -, hrun⟩
    · have hrest : Splits reqs u := ((splits_append ht).mp hsplit).resolve_left hcut
      obtain ⟨k, id, hk⟩ := ih (s := s.execute env req) hu hrest rfl
      refine ⟨k, id, fun stack => ?_⟩
      rw [controllerRun_append, hrun stack s hs, hk]
    · refine ⟨s.executed.length, a.id, fun stack => ?_⟩
      rw [controllerRun_append, hrun stack s hs]
      obtain ⟨later, hlater⟩ := run_requests env stack
        (s.execute env (.act ⟨a.id, stack s.executed.length 1⟩)) u
      have hlen : s.requests.length = s.executed.length := List.length_map _
      rw [← hlater, execute_requests, List.append_assoc,
        List.getElem?_append_right (by omega), hlen]
      simp

lemma split_differs {reqs : List Request} {tape : List Recv} {s : Session}
    (h : Segments (.header none) (encodeRequests reqs) tape) (hsplit : Splits reqs tape)
    (hs : s.phase = .header none) : (controllerRun env (fun _ _ => 0) s tape).requests ≠
      (controllerRun env (fun _ _ => 1) s tape).requests := by
  intro heq
  obtain ⟨k, id, hk⟩ := split_run env h hsplit hs
  have h0 := hk fun _ _ => 0
  have h1 := hk fun _ _ => 1
  rw [heq, h1] at h0
  simp at h0

/-- Whatever the stack holds, both tapes execute the same requests and send the same
acknowledgements. -/
def Agree (pad : PadState) (t u : List Recv) : Prop :=
  ∀ stack stack', let x := controllerRun env stack (connected env pad) t
    let y := controllerRun env stack' (connected env pad) u
    x.requests = y.requests ∧ x.sent = y.sent

/-- **When the pieces do not matter**: exactly when neither tape splits the body of an
`ACT_REQ`. -/
theorem agree_iff (pad : PadState) {reqs : List Request} {t u : List Recv}
    (ht : Segments (.header none) (encodeRequests reqs) t)
    (hu : Segments (.header none) (encodeRequests reqs) u) :
    Agree env pad t u ↔ ¬ Splits reqs t ∧ ¬ Splits reqs u := by
  constructor
  · intro h
    constructor
    · intro hsplit
      have h0 := (h (fun _ _ => 0) fun _ _ => 0).1
      have h1 := (h (fun _ _ => 1) fun _ _ => 0).1
      exact split_differs env ht hsplit rfl (h0.trans h1.symm)
    · intro hsplit
      have h0 := (h (fun _ _ => 0) fun _ _ => 0).1
      have h1 := (h (fun _ _ => 0) fun _ _ => 1).1
      exact split_differs env hu hsplit rfl (h0.symm.trans h1)
  · rintro ⟨hnt, hnu⟩ stack stack'
    rw [unsplit_run env stack ht hnt rfl, unsplit_run env stack' hu hnu rfl]
    exact ⟨rfl, rfl⟩

def openXv1 : List Request := [.act ⟨idXv1, 1⟩]

lemma segments_whole : Segments (.header none) (encodeRequests openXv1) [.ok [0, 0], .ok [1, 1]] :=
  ⟨2, by decide, rfl, 2, by decide, rfl, rfl⟩

lemma not_splits_whole : ¬ Splits openXv1 [.ok [0, 0], .ok [1, 1]] := by
  rw [← List.append_nil [_, _], openXv1, splits_append rfl]
  simp [Cuts, not_splits_nil]

theorem agree_iff_openXv1 : Agree calm (padstateInit zeroed)
    [.ok [0, 0], .ok [1, 1]] [.ok [0], .ok [0], .ok [1, 1]] := by
  have hbytewise : Segments (.header none) (encodeRequests openXv1)
      [.ok [0], .ok [0], .ok [1, 1]] :=
    ⟨1, by decide, rfl, 1, by decide, rfl,
      2, by decide, rfl, rfl⟩
  refine (agree_iff calm _ segments_whole hbytewise).mpr ⟨not_splits_whole, ?_⟩
  rw [← List.append_nil [_, _, _], openXv1, splits_append rfl]
  simp [Cuts, not_splits_nil]

/-- With its body in two pieces, a request to open a valve closes it. -/
theorem not_agree : ¬ ∀ (env : Surroundings) (pad : PadState) (reqs : List Request)
    (t u : List Recv), Segments (.header none) (encodeRequests reqs) t →
    Segments (.header none) (encodeRequests reqs) u → Agree env pad t u := by
  intro h
  have hsplit : Segments (.header none) (encodeRequests openXv1)
      [.ok [0, 0], .ok [1], .ok [1]] :=
    ⟨2, by decide, rfl, 1, by decide, rfl,
      1, by decide, rfl, rfl⟩
  have hreqs := (h calm (padstateInit zeroed) openXv1 _ _ segments_whole hsplit
    (fun _ _ => 0) fun _ _ => 0).1
  have hne : [Request.act ⟨1, 1⟩] ≠ [Request.act ⟨1, 0⟩] := by decide
  exact hne hreqs

end Hysim.Segmentation
