import Hysim.TelemClient

/-!
Walking a telemetry datagram.

A header tells how long the body behind it is, by the structs of `packet.h`, and the next
header follows. A datagram put together from telemetry packets is read back packet by packet
with nothing left over, and so no two of them are alike.
-/

namespace Hysim.Decode

open Hysim.Packets Hysim.TelemClient

/-- `sizeof(header_p)`. -/
def headerSize : ℕ := 2

def telemSubtype (h : HeaderP) : Option TelemSubtype :=
  if h.type ≠ PacketType.telem.val then none
  else [TelemSubtype.temp, .pressure, .mass, .thrust, .arm, .act, .warn, .cont, .conn].find?
    fun s => s.val = h.subtype

def bodySize : TelemSubtype → ℕ
  | .temp | .pressure | .mass | .thrust => 9
  | .arm | .warn | .cont | .conn => 5
  | .act => 6

def readBody : TelemSubtype → List UInt8 → Option Packet
  | .temp, [a, b, c, d, e, f, g, h, id] =>
    some (.temp ⟨read32 a b c d, (read32 e f g h).toInt32, id⟩)
  | .pressure, [a, b, c, d, e, f, g, h, id] =>
    some (.pressure ⟨read32 a b c d, (read32 e f g h).toInt32, id⟩)
  | .mass, [a, b, c, d, e, f, g, h, id] =>
    some (.mass ⟨read32 a b c d, (read32 e f g h).toInt32, id⟩)
  | .thrust, [a, b, c, d, e, f, g, h, id] => some (.thrust ⟨read32 a b c d, read32 e f g h, id⟩)
  | .arm, [a, b, c, d, state] => some (.arm ⟨read32 a b c d, state⟩)
  | .act, [a, b, c, d, id, state] => some (.act ⟨read32 a b c d, id, state⟩)
  | .warn, [a, b, c, d, type] => some (.warn ⟨read32 a b c d, type⟩)
  | .cont, [a, b, c, d, state] => some (.cont ⟨read32 a b c d, state⟩)
  | .conn, [a, b, c, d, status] => some (.conn ⟨read32 a b c d, status⟩)
  | _, _ => none

/-- One packet and what is behind it. -/
def readPacket : List UInt8 → Option (Packet × List UInt8)
  | type :: subtype :: rest => do
    let s ← telemSubtype ⟨type, subtype⟩
    let p ← readBody s (rest.take (bodySize s))
    return (p, rest.drop (bodySize s))
  | _ => none

/-- At most `n` packets, which have to use up all the bytes. -/
def walkFrom : ℕ → List UInt8 → Option (List Packet)
  | _, [] => some []
  | 0, _ => none
  | n + 1, bytes => do
    let (p, rest) ← readPacket bytes
    let ps ← walkFrom n rest
    return p :: ps

/-- The packets of a datagram. There are no more of them than bytes. -/
def walk (bytes : List UInt8) : Option (List Packet) := walkFrom bytes.length bytes

/-- The packets of telemetry, by the subtype their header has. -/
def subtypeOf : Packet → Option TelemSubtype
  | .temp _ => some .temp
  | .pressure _ => some .pressure
  | .mass _ => some .mass
  | .thrust _ => some .thrust
  | .arm _ => some .arm
  | .act _ => some .act
  | .warn _ => some .warn
  | .cont _ => some .cont
  | .conn _ => some .conn
  | .actReq _ | .actAck _ | .armReq _ | .armAck _ => none

def IsTelem (p : Packet) : Prop := (subtypeOf p).isSome

instance (p : Packet) : Decidable (IsTelem p) :=
  inferInstanceAs (Decidable ((subtypeOf p).isSome = true))

variable {p : Packet}

lemma telemSubtype_header {s : TelemSubtype} (h : subtypeOf p = some s) :
    telemSubtype p.header = some s := by
  cases p <;> cases s <;> first | rfl | cases h

/-- A header announces the body that is behind it: as many bytes as its struct has, which are
the fields of the packet. -/
lemma readBody_body {s : TelemSubtype} (h : subtypeOf p = some s) :
    p.body.length = bodySize s ∧ readBody s p.body = some p := by
  cases p with
  | actReq | actAck | armReq | armAck => cases h
  | temp p | pressure p | mass p | thrust p =>
    obtain rfl := Option.some.inj h
    exact ⟨rfl, by simp [Packet.body, le32, readBody, read32_le32]⟩
  | arm p | act p | warn p | cont p | conn p =>
    obtain rfl := Option.some.inj h
    exact ⟨rfl, by simp [Packet.body, le32, readBody, read32_le32]⟩

lemma readPacket_bytes (h : IsTelem p) (rest : List UInt8) :
    readPacket (p.bytes ++ rest) = some (p, rest) := by
  obtain ⟨s, hs⟩ := Option.isSome_iff_exists.mp h
  obtain ⟨hlen, hread⟩ := readBody_body hs
  have hheader : telemSubtype ⟨p.header.type, p.header.subtype⟩ = some s := telemSubtype_header hs
  have hbytes : p.bytes ++ rest = p.header.type :: p.header.subtype :: (p.body ++ rest) := rfl
  rw [hbytes]
  simp [readPacket, hheader, ← hlen, hread]

lemma length_le_encode (ps : List Packet) : ps.length ≤ (encode ps).length := by
  induction ps with
  | nil => exact le_rfl
  | cons p ps ih =>
    have hlen : p.bytes.length = headerSize + p.body.length := List.length_append
    rw [encode_cons, List.length_append, List.length_cons, hlen, headerSize]
    omega

lemma walkFrom_encode {ps : List Packet} (h : ∀ p ∈ ps, IsTelem p) {n : ℕ} (hn : ps.length ≤ n) :
    walkFrom n (encode ps) = some ps := by
  induction ps generalizing n with
  | nil => cases n <;> rfl
  | cons p ps ih =>
    obtain ⟨m, rfl⟩ : ∃ m, n = m + 1 := Nat.exists_eq_succ_of_ne_zero (by simp at hn; omega)
    have hrest := ih (fun q hq => h q (List.mem_cons_of_mem _ hq)) (Nat.succ_le_succ_iff.mp hn)
    have hhead := readPacket_bytes (h p List.mem_cons_self) (encode ps)
    have hbytes : encode (p :: ps) =
        p.header.type :: p.header.subtype :: (p.body ++ encode ps) := rfl
    rw [encode_cons] at hbytes ⊢
    rw [hbytes] at hhead ⊢
    simp [walkFrom, hhead, hrest]

/-- **A datagram is read back.** Walking the bytes of telemetry packets gives the packets. -/
lemma walk_encode {ps : List Packet} (h : ∀ p ∈ ps, IsTelem p) : walk (encode ps) = some ps :=
  walkFrom_encode h (length_le_encode ps)

lemma encode_inj {ps qs : List Packet} (hp : ∀ p ∈ ps, IsTelem p) (hq : ∀ p ∈ qs, IsTelem p) :
    encode ps = encode qs ↔ ps = qs := by
  refine ⟨fun h => ?_, congrArg encode⟩
  have hwalk := walk_encode hp
  rw [h, walk_encode hq] at hwalk
  exact (Option.some.inj hwalk).symm

/-! ### What the client reports -/

/-- What the telemetry client prints of a datagram with one packet, from a buffer that holds
anything. There is nothing for a subtype without a case. -/
def reported (buffer : Fin 50 → UInt8) (p : Packet) : Option Packet :=
  (telemCase p.header.subtype).map fun c => c.2 (fill buffer (p.bytes.take c.1))

def readBack (x : UInt32) : UInt32 :=
  read32 x.toUInt8 (x >>> 8).toUInt8 (x >>> 16).toUInt8 (x >>> 24).toUInt8

lemma readBack_eq (x : UInt32) : readBack x = x := read32_le32 x

lemma reported_eq (buffer : Fin 50 → UInt8) {s : TelemSubtype} (h : subtypeOf p = some s)
    (hs : s ≠ .conn) : reported buffer p = some p := by
  cases p with
  | actReq | actAck | armReq | armAck => cases h
  | conn p => exact absurd (Option.some.inj h).symm hs
  | temp p =>
    refine Eq.trans (b := some (.temp ⟨readBack p.time, (readBack p.temperature.toUInt32).toInt32,
      p.id⟩)) rfl ?_
    rw [readBack_eq, readBack_eq]
    rfl
  | pressure p =>
    refine Eq.trans (b := some (.pressure ⟨readBack p.time, (readBack p.pressure.toUInt32).toInt32,
      p.id⟩)) rfl ?_
    rw [readBack_eq, readBack_eq]
    rfl
  | mass p =>
    refine Eq.trans (b := some (.mass ⟨readBack p.time, (readBack p.mass.toUInt32).toInt32,
      p.id⟩)) rfl ?_
    rw [readBack_eq, readBack_eq]
    rfl
  | thrust p =>
    refine Eq.trans (b := some (.thrust ⟨readBack p.time, readBack p.thrust, p.id⟩)) rfl ?_
    rw [readBack_eq, readBack_eq]
  | arm p =>
    refine Eq.trans (b := some (.arm ⟨readBack p.time, p.state⟩)) rfl ?_
    rw [readBack_eq]
  | act p =>
    refine Eq.trans (b := some (.act ⟨readBack p.time, p.id, p.state⟩)) rfl ?_
    rw [readBack_eq]
  | warn p =>
    refine Eq.trans (b := some (.warn ⟨readBack p.time, p.type⟩)) rfl ?_
    rw [readBack_eq]
  | cont p =>
    refine Eq.trans (b := some (.cont ⟨readBack p.time, p.state⟩)) rfl ?_
    rw [readBack_eq]

/-- A header without its body is no packet. -/
example : walk [1, 4] = none := by decide

end Hysim.Decode
