import Hysim.Packets

/-!
The telemetry client, from `telem_client_main.c` and `stream.c`.

It looks at the first two bytes of the next datagram, and then reads as many bytes as a
packet of the kind announced has. A datagram is gone once it has been read, whatever its
length.
-/

namespace Hysim.TelemClient

open Hysim.Packets

/-- The client with the datagrams waiting on its socket, what its two buffers hold and the
packets it has reported. -/
structure Client where
  queue : List (List UInt8)
  hdr : HeaderP
  buffer : Fin 50 → UInt8
  reports : List Packet
  running : Bool

/-- What `recvfrom` leaves in a buffer: the bytes after the ones received are still there. -/
def fill {n : ℕ} (buf : Fin n → UInt8) (bytes : List UInt8) : Fin n → UInt8 :=
  fun i => bytes.getD i (buf i)

def read32 (a b c d : UInt8) : UInt32 :=
  UInt32.ofNat (a.toNat + 256 * b.toNat + 65536 * c.toNat + 16777216 * d.toNat)

lemma read32_le32 (x : UInt32) :
    read32 x.toUInt8 (x >>> 8).toUInt8 (x >>> 16).toUInt8 (x >>> 24).toUInt8 = x := by
  rw [← UInt32.toNat_inj]
  have hx := x.toNat_lt
  have h1 : (x >>> 8).toUInt8.toNat = x.toNat / 256 % 256 := by
    simp [Nat.shiftRight_eq_div_pow]
  have h2 : (x >>> 16).toUInt8.toNat = x.toNat / 65536 % 256 := by
    simp [Nat.shiftRight_eq_div_pow]
  have h3 : (x >>> 24).toUInt8.toNat = x.toNat / 16777216 % 256 := by
    simp [Nat.shiftRight_eq_div_pow]
  have h0 : x.toUInt8.toNat = x.toNat % 256 := by simp
  rw [read32, UInt32.toNat_ofNat', h0, h1, h2, h3]
  omega

/-- The cases of the `switch`: how many bytes are received into the buffer, header included,
and the packet printed from it. There is no case for the connection status. -/
def telemCase (subtype : UInt8) : Option (ℕ × ((Fin 50 → UInt8) → Packet)) :=
  if subtype = TelemSubtype.temp.val then
    some (2 + 9, fun b => .temp ⟨read32 (b 2) (b 3) (b 4) (b 5),
      (read32 (b 6) (b 7) (b 8) (b 9)).toInt32, b 10⟩)
  else if subtype = TelemSubtype.pressure.val then
    some (2 + 9, fun b => .pressure ⟨read32 (b 2) (b 3) (b 4) (b 5),
      (read32 (b 6) (b 7) (b 8) (b 9)).toInt32, b 10⟩)
  else if subtype = TelemSubtype.mass.val then
    some (2 + 9, fun b => .mass ⟨read32 (b 2) (b 3) (b 4) (b 5),
      (read32 (b 6) (b 7) (b 8) (b 9)).toInt32, b 10⟩)
  else if subtype = TelemSubtype.thrust.val then
    some (2 + 9, fun b => .thrust ⟨read32 (b 2) (b 3) (b 4) (b 5),
      read32 (b 6) (b 7) (b 8) (b 9), b 10⟩)
  else if subtype = TelemSubtype.act.val then
    some (2 + 6, fun b => .act ⟨read32 (b 2) (b 3) (b 4) (b 5), b 6, b 7⟩)
  else if subtype = TelemSubtype.arm.val then
    some (2 + 5, fun b => .arm ⟨read32 (b 2) (b 3) (b 4) (b 5), b 6⟩)
  else if subtype = TelemSubtype.warn.val then
    some (2 + 5, fun b => .warn ⟨read32 (b 2) (b 3) (b 4) (b 5), b 6⟩)
  else if subtype = TelemSubtype.cont.val then
    some (2 + 5, fun b => .cont ⟨read32 (b 2) (b 3) (b 4) (b 5), b 6⟩)
  else none

/-- The `errno` of `stream_peek` and of `stream_recv`, when they fail. -/
structure Calls where
  peek : Option Int
  recv : Option Int

def received : Calls := ⟨none, none⟩

/-- `stream_recv`: the rest of the datagram is lost. -/
def streamRecv (calls : Calls) (c : Client) (n : ℕ) : Client :=
  match c.queue with
  | [] => c
  | datagram :: rest =>
    if calls.recv.isSome then c
    else { c with queue := rest, buffer := fill c.buffer (datagram.take n) }

/-- The `switch` over the subtype. What `stream_recv` returns is not looked at. -/
def report (calls : Calls) (c : Client) : Client :=
  match telemCase c.hdr.subtype with
  | none => c
  | some (n, packet) =>
    let c := streamRecv calls c n
    { c with reports := c.reports ++ [packet c.buffer] }

/-- The client with the header of a datagram that was peeked at; of an empty one, what was there. -/
def Client.peeked (c : Client) (datagram : List UInt8) : Client :=
  let peeked := datagram.take 2
  { c with hdr := ⟨peeked.getD 0 c.hdr.type, peeked.getD 1 c.hdr.subtype⟩ }

/-- One iteration of the loop. With no datagram waiting the client waits. -/
def iterate (calls : Calls) (c : Client) : Client :=
  if c.running = false then c
  else if calls.peek.isSome then { c with running := false }
  else
    match c.queue with
    | [] => c
    | datagram :: _ =>
      if datagram = [] then { c with running := false }
      else if (c.peeked datagram).hdr.type ≠ PacketType.telem.val then
        { c.peeked datagram with running := false }
      else report calls (c.peeked datagram)

/-- The client after some iterations with every call succeeding. -/
def iterations (n : ℕ) (c : Client) : Client := (iterate received)^[n] c

/-- What one iteration does to the queue and the reports: nothing, or the first datagram is
read and one packet reported from it. -/
lemma iterate_cases (c : Client) :
    ((iterate received c).queue = c.queue ∧ (iterate received c).reports = c.reports) ∨
    ∃ datagram rest n packet, c.queue = datagram :: rest ∧ datagram ≠ [] ∧
      (c.peeked datagram).hdr.type = PacketType.telem.val ∧
      telemCase (c.peeked datagram).hdr.subtype = some (n, packet) ∧
      (iterate received c).queue = rest ∧
      (iterate received c).reports = c.reports ++ [packet (fill c.buffer (datagram.take n))] := by
  unfold iterate
  split_ifs with hrun hpeek
  · exact .inl ⟨rfl, rfl⟩
  · exact .inl ⟨rfl, rfl⟩
  rcases hq : c.queue with _ | ⟨datagram, rest⟩
  · exact .inl ⟨hq, rfl⟩
  dsimp only
  split_ifs with hempty htype
  · exact .inl ⟨rfl, rfl⟩
  · exact .inl ⟨hq, rfl⟩
  unfold report
  rcases hcase : telemCase (c.peeked datagram).hdr.subtype with _ | ⟨n, packet⟩
  · exact .inl ⟨hq, rfl⟩
  · refine .inr ⟨datagram, rest, n, packet, rfl, hempty, not_not.mp htype, hcase, ?_, ?_⟩ <;>
      simp [streamRecv, Client.peeked, hq, received]

end Hysim.TelemClient
