import Hysim.Publish
import Hysim.TelemClient

/-!
The telemetry channel from the server to the client.

The server gathers many packets into one datagram, and the client reports at most one packet
for each datagram it reads. A packet with the connection status is never even read.
-/

namespace Hysim.Channel

open Hysim.Packets Hysim.Actuators Hysim.State Hysim.Telemetry Hysim.Publish Hysim.TelemClient

def IsSensor : Packet → Prop
  | .temp _ | .pressure _ | .mass _ | .thrust _ | .cont _ => True
  | _ => False

/-- The datagrams of the server: the pad state, or the measurements of a cycle. -/
inductive Published : Datagram → Prop
  | padstate (time : UInt32) (pad : PadState) : Published (padDatagram time pad)
  | sensors {msg : Datagram} (hne : msg ≠ []) (h : ∀ p ∈ msg, IsSensor p) : Published msg

/-- The client has a case for the packet. -/
def Shown : Packet → Prop
  | .temp _ | .pressure _ | .mass _ | .thrust _ | .arm _ | .act _ | .warn _ | .cont _ => True
  | .actReq _ | .actAck _ | .armReq _ | .armAck _ | .conn _ => False

/-- Left to itself with one datagram, the client ends up having reported all its packets. -/
def Reported (c : Client) (msg : Datagram) : Prop :=
  ∃ enough, ∀ n ≥ enough,
    (iterations n { c with queue := [encode msg], running := true }).reports = c.reports ++ msg

/-! ### Packets -/

lemma telemCase_shown {p : Packet} (hp : Shown p) :
    ∃ packet, telemCase p.header.subtype = some (p.bytes.length, packet) ∧
      ∀ buf, packet (fill buf p.bytes) = p := by
  cases p with
  | temp | pressure | mass | thrust | arm | act | warn | cont =>
    refine ⟨_, rfl, fun buf => ?_⟩
    simp [fill, Packet.bytes, Packet.header, packetHeaderInit, HeaderP.bytes, Packet.body, le32,
      read32_le32]
  | actReq | actAck | armReq | armAck | conn => exact hp.elim

lemma telemCase_not_shown {p : Packet} (hp : ¬ Shown p)
    (htype : p.header.type = PacketType.telem.val) : telemCase p.header.subtype = none := by
  cases p with
  | temp | pressure | mass | thrust | arm | act | warn | cont => exact absurd trivial hp
  | actReq | actAck | armReq | armAck =>
    simp [Packet.header, packetHeaderInit, PacketType.val] at htype
  | conn => rfl

lemma bytes_ne_nil (p : Packet) : p.bytes ≠ [] := by simp [Packet.bytes, HeaderP.bytes]

lemma peeked_type (c : Client) (p : Packet) : (c.peeked p.bytes).hdr.type = p.header.type := by
  simp [Client.peeked, Packet.bytes, HeaderP.bytes]

lemma peeked_subtype (c : Client) (p : Packet) :
    (c.peeked p.bytes).hdr.subtype = p.header.subtype := by
  simp [Client.peeked, Packet.bytes, HeaderP.bytes]

/-! ### Iterations -/

lemma iterations_succ (n : ℕ) (c : Client) :
    iterations (n + 1) c = iterate received (iterations n c) :=
  Function.iterate_succ_apply' _ n c

lemma iterate_length (c : Client) :
    (iterate received c).reports.length + (iterate received c).queue.length =
      c.reports.length + c.queue.length := by
  rcases iterate_cases c with
    ⟨hqueue, hreports⟩ | ⟨d, rest, n, packet, hq, -, -, -, hqueue, hreports⟩
  · rw [hqueue, hreports]
  · rw [hqueue, hreports, hq, List.length_append, List.length_singleton, List.length_cons]
    omega

lemma iterations_length (n : ℕ) (c : Client) :
    (iterations n c).reports.length + (iterations n c).queue.length =
      c.reports.length + c.queue.length := by
  induction n with
  | zero => rfl
  | succ n ih => rw [iterations_succ, iterate_length, ih]

lemma iterations_stuck {c : Client}
    (h : ∀ d : Client, d.queue = c.queue → (iterate received d).queue = c.queue ∧
      (iterate received d).reports = d.reports) (n : ℕ) :
    (iterations n c).queue = c.queue ∧ (iterations n c).reports = c.reports := by
  induction n with
  | zero => exact ⟨rfl, rfl⟩
  | succ n ih =>
    obtain ⟨hqueue, hreports⟩ := h _ ih.1
    rw [iterations_succ]
    exact ⟨hqueue, hreports.trans ih.2⟩

lemma iterate_shown {c : Client} {p : Packet} (hp : Shown p) (hrun : c.running = true)
    (hq : c.queue = [p.bytes]) :
    (iterate received c).queue = [] ∧ (iterate received c).reports = c.reports ++ [p] := by
  obtain ⟨packet, hcase, hdecode⟩ := telemCase_shown hp
  have htype : p.header.type = PacketType.telem.val := by
    cases p <;> first | rfl | exact hp.elim
  have hread : iterate received c = report received (c.peeked p.bytes) := by
    simp [iterate, hrun, hq, received, bytes_ne_nil, peeked_type, htype]
  rw [hread, report, peeked_subtype, hcase]
  simp [streamRecv, Client.peeked, hq, received, hdecode]

lemma reported_shown (c : Client) {p : Packet} (hp : Shown p) : Reported c [p] := by
  refine ⟨1, fun n hn => ?_⟩
  obtain ⟨n, rfl⟩ := Nat.exists_eq_add_of_le' hn
  obtain ⟨hqueue, hreports⟩ :=
    iterate_shown (c := { c with queue := [encode [p]], running := true }) hp rfl (by simp)
  rw [iterations, Function.iterate_succ_apply, ← hreports]
  refine (iterations_stuck (fun d hd => ?_) n).2
  rw [hqueue] at hd ⊢
  rcases iterate_cases d with ⟨hq, hr⟩ | ⟨b, rest, n, packet, hq, -⟩
  · exact ⟨hq.trans hd, hr⟩
  · rw [hd] at hq
    cases hq

lemma not_reported_unshown (c : Client) {p : Packet} (hp : ¬ Shown p) : ¬ Reported c [p] := by
  rintro ⟨enough, h⟩
  have hstuck := iterations_stuck (c := { c with queue := [encode [p]], running := true })
    (fun d hd => ?_) enough
  · have hall := h enough le_rfl
    rw [hstuck.2] at hall
    simp at hall
  · rcases iterate_cases d with ⟨hqueue, hreports⟩ | ⟨b, rest, n, packet, hq, -, htype, hcase, -⟩
    · exact ⟨hqueue.trans hd, hreports⟩
    · have hb : b = p.bytes := by
        rw [hd] at hq
        simpa using (List.cons.inj hq).1.symm
      rw [hb, peeked_type] at htype
      rw [hb, peeked_subtype, telemCase_not_shown hp htype] at hcase
      cases hcase

lemma reported_nil (c : Client) : Reported c [] := by
  refine ⟨0, fun n _ => ?_⟩
  rw [List.append_nil]
  refine (iterations_stuck (c := { c with queue := [encode []], running := true })
    (fun d hd => ?_) n).2
  rcases iterate_cases d with ⟨hqueue, hreports⟩ | ⟨b, rest, n, packet, hq, hne, -⟩
  · exact ⟨hqueue.trans hd, hreports⟩
  · rw [hd] at hq
    exact absurd (List.cons.inj hq).1.symm hne

lemma not_reported_of_two_le (c : Client) {msg : Datagram} (h : 2 ≤ msg.length) :
    ¬ Reported c msg := by
  rintro ⟨enough, hall⟩
  have hlen := iterations_length enough { c with queue := [encode msg], running := true }
  rw [hall enough le_rfl, List.length_append] at hlen
  simp only [List.length_singleton] at hlen
  omega

/-- **When a datagram gets through**: exactly when it holds a single packet, and that is not
the connection status. -/
theorem reported_iff (c : Client) (msg : Datagram) :
    Reported c msg ↔ msg = [] ∨ ∃ p, msg = [p] ∧ Shown p := by
  rcases msg with _ | ⟨p, _ | ⟨q, rest⟩⟩
  · exact iff_of_true (reported_nil c) (.inl rfl)
  · by_cases hp : Shown p
    · exact iff_of_true (reported_shown c hp) (.inr ⟨p, rfl, hp⟩)
    · refine iff_of_false (not_reported_unshown c hp) ?_
      rintro (h | ⟨p', h, hp'⟩)
      · cases h
      · cases h
        exact hp hp'
  · refine iff_of_false (not_reported_of_two_le c (by simp)) ?_
    rintro (h | ⟨p', h, -⟩)
    · cases h
    · cases h

lemma not_reported_padstate (c : Client) (time : UInt32) (pad : PadState) :
    ¬ Reported c (padDatagram time pad) :=
  not_reported_of_two_le c (by simp [padDatagram])

/-- The first datagram after a start: of its 17 packets only the arming level is seen. -/
theorem not_reported : ¬ ∀ (c : Client) (msg : Datagram), Published msg → Reported c msg :=
  fun h => not_reported_padstate ⟨[], ⟨0, 0⟩, fun _ => 0, [], true⟩ 0 (padstateInit zeroed)
    (h _ _ (.padstate 0 (padstateInit zeroed)))

end Hysim.Channel
