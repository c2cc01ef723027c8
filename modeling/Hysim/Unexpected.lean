import Hysim.Controller

/-!
Packets a controller does not expect: acknowledgements and telemetry.

The loop reports the header of such a packet and goes on to the next header, so that it reads
the body of the packet as packets of its own.
-/

namespace Hysim.Unexpected

open Hysim.Packets Hysim.Actuators Hysim.State Hysim.Serve Hysim.Controller

def request? : Packet → Option Request
  | .actReq req => some (.act req)
  | .armReq req => some (.arm req)
  | _ => none

/-- The tape delivers the stream `bs` without splitting it to a loop at `φ`: every `recv`
returns all it asked for, as far as there is so much left. -/
def Fills : Phase → List UInt8 → List Recv → Prop
  | _, bs, [] => bs = []
  | φ, bs, r :: tape => bs ≠ [] ∧ r = .ok (bs.take φ.asked) ∧
      Fills (φ.next r) (bs.drop φ.asked) tape

/-- The `recv` that each byte of the stream was delivered to. -/
def roles : Phase → List Recv → List Phase
  | _, [] => []
  | φ, r :: tape => List.replicate (bytesOf r).length φ ++ roles (φ.next r) tape

/-- The byte at this offset is read into a header or into the body of a request. -/
def Interpreted (tape : List Recv) (o : ℕ) : Prop :=
  ∃ φ, (roles (.header none) tape)[o]? = some φ ∧ φ ≠ .accepting

/-- The requests among the packets are executed, in order, and no byte of the body of another
packet is interpreted. -/
def IgnoresOthers (ps : List Packet) (tape : List Recv) (executed : List Request) : Prop :=
  executed = ps.filterMap request? ∧
    ∀ pre p post, ps = pre ++ p :: post → request? p = none →
      ∀ i < p.body.length, ¬ Interpreted tape ((encode pre).length + 2 + i)

/-! ### Reading a stream -/

lemma asked_pos {φ : Phase} (h : φ ≠ .accepting) : 0 < φ.asked := by
  rcases φ with (_ | _) | _ | _ | _ <;> simp_all [Phase.asked]

lemma next_ne_accepting {φ : Phase} {r : Recv} (h : φ ≠ .accepting) (hr : bytesOf r ≠ []) :
    φ.next r ≠ .accepting := by
  rcases φ with (_ | type) | _ | _ | _
  · rcases hb : bytesOf r with _ | ⟨a, _ | ⟨b, bs⟩⟩
    · exact absurd hb hr
    · simp [Phase.next, hb]
    · simp [Phase.next, hb, dispatch_ne_accepting]
  · rcases hb : bytesOf r with _ | ⟨a, bs⟩
    · exact absurd hb hr
    · simp [Phase.next, hb, dispatch_ne_accepting]
  · simp [Phase.next]
  · simp [Phase.next]
  · exact absurd rfl h

lemma roles_of_fills {φ : Phase} {bs : List UInt8} {tape : List Recv} (h : Fills φ bs tape)
    (hφ : φ ≠ .accepting) :
    (roles φ tape).length = bs.length ∧ ∀ ψ ∈ roles φ tape, ψ ≠ .accepting := by
  induction tape generalizing φ bs with
  | nil =>
    obtain rfl : bs = [] := h
    simp [roles]
  | cons r tape ih =>
    obtain ⟨hne, rfl, hrest⟩ := h
    have htake : bs.take φ.asked ≠ [] := by
      have := asked_pos hφ
      simp only [ne_eq, List.take_eq_nil_iff, hne, or_false]
      omega
    obtain ⟨hlen, hroles⟩ := ih hrest (next_ne_accepting hφ htake)
    constructor
    · calc (roles φ (.ok (bs.take φ.asked) :: tape)).length
          = (bs.take φ.asked).length + (bs.drop φ.asked).length := by
            rw [roles, List.length_append, List.length_replicate, hlen, bytesOf_ok]
        _ = bs.length := by rw [← List.length_append, List.take_append_drop]
    · intro ψ hψ
      rcases List.mem_append.mp hψ with hψ | hψ
      · rw [List.eq_of_mem_replicate hψ]
        exact hφ
      · exact hroles ψ hψ

lemma interpreted_of_lt {bs : List UInt8} {tape : List Recv} (h : Fills (.header none) bs tape)
    {o : ℕ} (ho : o < bs.length) : Interpreted tape o := by
  obtain ⟨hlen, hroles⟩ := roles_of_fills h (by simp)
  have ho' : o < (roles (.header none) tape).length := by omega
  exact ⟨_, List.getElem?_eq_getElem ho', hroles _ (List.getElem_mem ho')⟩

lemma request?_eq_some {p : Packet} {req : Request} (h : request? p = some req) :
    p = Request.packet req := by
  cases p <;> simp [request?] at h <;> subst h <;> rfl

lemma dispatch_unexpected {p : Packet} (h : request? p = none) :
    dispatch p.header = .header none := by
  cases p <;> first | rfl | simp [request?] at h

variable (env : Surroundings) (stack : Stack)

lemma fills_header {a b : UInt8} {bs : List UInt8} {tape : List Recv}
    (h : Fills (.header none) (a :: b :: bs) tape) :
    ∃ rest, tape = .ok [a, b] :: rest ∧ Fills (dispatch ⟨a, b⟩) bs rest := by
  rcases tape with _ | ⟨r, tape⟩
  · cases h
  · obtain ⟨-, rfl, hrest⟩ := h
    exact ⟨tape, rfl, hrest⟩

lemma fills_body {φ : Phase} (hφ : φ.IsBody) (body : List UInt8) {bs : List UInt8}
    {tape : List Recv} (h : Fills φ (body ++ bs) tape) (hlen : body.length = φ.asked) :
    ∃ rest, tape = .ok body :: rest ∧ Fills (.header none) bs rest := by
  have hpos : 0 < φ.asked := by rcases hφ with rfl | rfl <;> simp [Phase.asked]
  rcases tape with _ | ⟨r, tape⟩
  · have hnil := congrArg List.length (show body ++ bs = [] from h)
    rw [List.length_append, List.length_nil] at hnil
    omega
  · obtain ⟨-, rfl, hrest⟩ := h
    rw [← hlen, List.take_left, List.drop_left, next_of_body hφ] at hrest
    exact ⟨tape, by rw [← hlen, List.take_left], hrest⟩

/-- Only the header of an unexpected packet is skipped: its body comes next, as packets. -/
lemma run_unexpected {p : Packet} (hp : request? p = none) {bs : List UInt8} {tape : List Recv}
    (h : Fills (.header none) (p.bytes ++ bs) tape) {s : Session} (hs : s.phase = .header none) :
    ∃ rest, tape = .ok p.header.bytes :: rest ∧ Fills (.header none) (p.body ++ bs) rest ∧
      controllerRun env stack s tape = controllerRun env stack s rest := by
  obtain ⟨rest, rfl, hrest⟩ := fills_header h
  have hd := dispatch_unexpected hp
  refine ⟨rest, rfl, ?_, ?_⟩
  · rwa [hd] at hrest
  · rw [controllerRun_cons, step_header_whole env stack hs rfl, hd, ← hs]

lemma run_expected {req : Request} {bs : List UInt8} {tape : List Recv}
    (h : Fills (.header none) ((Request.packet req).bytes ++ bs) tape) {s : Session}
    (hs : s.phase = .header none) :
    ∃ rest, Fills (.header none) bs rest ∧
      controllerRun env stack s tape = controllerRun env stack (s.execute env req) rest := by
  obtain ⟨rest, rfl, hrest⟩ := fills_header h
  rcases req with a | a
  · have hb : (dispatch ⟨0, 0⟩).IsBody := by decide
    obtain ⟨later, rfl, hlater⟩ := fills_body hb [a.id, a.state] hrest rfl
    obtain ⟨req, hreq, hrun⟩ :=
      run_header_body env stack (.ok [a.id, a.state]) later hs (bytesOf_ok [0, 0]) hb
    obtain rfl := Option.some.inj hreq
    exact ⟨later, hlater, hrun⟩
  · have hb : (dispatch ⟨0, 2⟩).IsBody := by decide
    obtain ⟨later, rfl, hlater⟩ := fills_body hb [a.level] hrest rfl
    obtain ⟨req, hreq, hrun⟩ :=
      run_header_body env stack (.ok [a.level]) later hs (bytesOf_ok [0, 2]) hb
    obtain rfl := Option.some.inj hreq
    exact ⟨later, hlater, hrun⟩

lemma run_all_expected {ps : List Packet} (hall : ∀ p ∈ ps, request? p ≠ none)
    {bs : List UInt8} {tape : List Recv} (h : Fills (.header none) (encode ps ++ bs) tape)
    {s : Session} (hs : s.phase = .header none) :
    ∃ rest, Fills (.header none) bs rest ∧ controllerRun env stack s tape =
      controllerRun env stack (s.executeAll env (ps.filterMap request?)) rest := by
  induction ps generalizing tape s with
  | nil => exact ⟨tape, h, rfl⟩
  | cons p ps ih =>
    obtain ⟨req, hreq⟩ := Option.ne_none_iff_exists'.mp (hall p List.mem_cons_self)
    obtain rfl := request?_eq_some hreq
    rw [encode_cons, List.append_assoc] at h
    obtain ⟨rest, hrest, hrun⟩ := run_expected env stack h hs
    obtain ⟨later, hlater, hrun'⟩ :=
      ih (fun p hp => hall p (List.mem_cons_of_mem _ hp)) hrest (execute_phase env s req)
    refine ⟨later, hlater, ?_⟩
    rw [hrun, hrun', List.filterMap_cons_some hreq, executeAll_cons]

/-- **What becomes of the first unexpected packet**: the requests before it are executed, and
its body is read as packets, with all that follows. -/
theorem run_first_unexpected {pre post : List Packet} {p : Packet}
    (hall : ∀ q ∈ pre, request? q ≠ none) (hp : request? p = none) {tape : List Recv}
    (h : Fills (.header none) (encode (pre ++ p :: post)) tape) {s : Session}
    (hs : s.phase = .header none) :
    ∃ rest, Fills (.header none) (p.body ++ encode post) rest ∧ controllerRun env stack s tape =
      controllerRun env stack (s.executeAll env (pre.filterMap request?)) rest := by
  rw [encode_append, encode_cons] at h
  obtain ⟨rest, hrest, hrun⟩ := run_all_expected env stack hall h hs
  obtain ⟨later, -, hlater, hrun'⟩ :=
    run_unexpected env stack hp hrest (executeAll_phase env hs (pre.filterMap request?))
  exact ⟨later, hlater, hrun.trans hrun'⟩

/-- **When unexpected packets are ignored**: exactly when there are none. -/
theorem ignoresOthers_iff (pad : PadState) {ps : List Packet} {tape : List Recv}
    (h : Fills (.header none) (encode ps) tape) :
    IgnoresOthers ps tape (controllerRun env stack (connected env pad) tape).requests ↔
      ∀ p ∈ ps, request? p ≠ none := by
  constructor
  · rintro ⟨-, hbody⟩ p hp hnone
    obtain ⟨pre, post, rfl⟩ := List.append_of_mem hp
    have hpos := List.length_pos_iff.mpr p.body_ne_nil
    refine hbody pre p post rfl hnone 0 hpos (interpreted_of_lt h ?_)
    have hlen : p.bytes.length = 2 + p.body.length := by
      rw [Packet.bytes, List.length_append]
      rfl
    rw [encode_append, encode_cons, List.length_append, List.length_append]
    omega
  · intro hall
    refine ⟨?_, fun pre p post heq hnone => ?_⟩
    · rw [← List.append_nil (encode ps)] at h
      obtain ⟨rest, hrest, hrun⟩ := run_all_expected env stack hall h (connected_phase env pad)
      obtain rfl : rest = [] := by
        rcases rest with _ | ⟨r, rest⟩
        · rfl
        · exact absurd rfl hrest.1
      rw [hrun, controllerRun_nil, executeAll_requests, connected_requests, List.nil_append]
    · subst heq
      exact absurd hnone (hall p (by simp))

theorem ignoresOthers_iff_armed :
    IgnoresOthers [.armReq ⟨1⟩, .actReq ⟨idXv1, 1⟩] [.ok [0, 2], .ok [1], .ok [0, 0], .ok [1, 1]]
      (controllerRun calm (fun _ _ => 0) (connected calm (padstateInit zeroed))
        [.ok [0, 2], .ok [1], .ok [0, 0], .ok [1, 1]]).requests := by
  have hfills : Fills (.header none) (encode [.armReq ⟨1⟩, .actReq ⟨idXv1, 1⟩])
      [.ok [0, 2], .ok [1], .ok [0, 0], .ok [1, 1]] :=
    ⟨by decide, rfl, by decide, rfl, by decide, rfl, by decide, rfl, rfl⟩
  exact (ignoresOthers_iff calm (fun _ _ => 0) (padstateInit zeroed) hfills).mpr (by decide)

/-- The time stamp of a telemetry packet is executed as a request to the igniter. -/
theorem not_ignoresOthers : ¬ ∀ (env : Surroundings) (stack : Stack) (pad : PadState)
    (ps : List Packet) (tape : List Recv), Fills (.header none) (encode ps) tape →
    IgnoresOthers ps tape (controllerRun env stack (connected env pad) tape).requests := by
  intro h
  have hreqs := (h calm (fun _ _ => 0) (padstateInit zeroed) [.arm ⟨0, 0⟩]
    [.ok [1, 4], .ok [0, 0], .ok [0, 0], .ok [0]]
    ⟨by decide, rfl, by decide, rfl, by decide, rfl, by decide, rfl, rfl⟩).1
  have hne : [Request.act ⟨idIgniter, 0⟩] ≠ [] := by decide
  exact hne hreqs

end Hysim.Unexpected
