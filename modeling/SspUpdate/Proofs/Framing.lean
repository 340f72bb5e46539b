import SspUpdate.Proofs.Exchange

/-!
# Packets in a stream

A decoder that is fed a stream answers every byte of it. Outside of a packet
it skips everything up to a start byte, and inside one it takes the stuffing
off again, so that the bytes of an encoded packet are answered by nothing
until the last one, which gives the packet back. A stream of encoded packets
with other bytes around them is therefore read as just these packets.
-/

namespace SspUpdate

namespace Packet

theorem exists_encode_iff (p : Packet) : (∃ frame, p.encode = .ok frame) ↔ p.data.length ≤ 255 := by
  constructor
  · rintro ⟨frame, h⟩
    unfold encode at h
    split at h
    · assumption
    · cases h
  · intro h
    exact ⟨_, encode_eq h⟩

theorem framed_eq {p : Packet} {frame : Bytes} (h : p.encode = .ok frame) : frame = p.framed := by
  have hfits := p.exists_encode_iff.mp ⟨frame, h⟩
  rw [encode_eq hfits] at h
  exact (Except.ok.inj h).symm

theorem littleEndian_checkBytes (w : UInt16) :
    (Bytes.littleEndian (checkBytes w)).toUInt16 = w := by
  apply UInt16.toNat.inj
  have hshift : (8 : UInt16).toNat % 16 = 8 := rfl
  have hw := w.toNat_lt
  simp only [checkBytes, Bytes.littleEndian, UInt16.toNat_toUInt8, UInt16.toNat_shiftRight, hshift,
    Nat.shiftRight_eq_div_pow, UInt16.toNat_ofNat', Nat.toUInt16]
  omega

theorem length_content (p : Packet) : p.content.length = p.data.length + 2 := by
  simp [content]

/-- A body whose checksum need not be the right one. -/
def bodyWith (p : Packet) (check : UInt16) : Bytes := p.content ++ checkBytes check

theorem length_bodyWith (p : Packet) (check : UInt16) :
    (p.bodyWith check).length = p.data.length + 4 := by
  simp [bodyWith, length_content, checkBytes]

theorem stuff_cons (b : UInt8) (rest : Bytes) : stuff (b :: rest) = stuff [b] ++ stuff rest := by
  simp [stuff]

theorem stuff_append (body rest : Bytes) : stuff (body ++ rest) = stuff body ++ stuff rest :=
  List.flatMap_append

theorem length_stuff_pos {body : Bytes} (h : body ≠ []) : 0 < (stuff body).length := by
  obtain ⟨b, rest, rfl⟩ := List.exists_cons_of_ne_nil h
  have hb : b ∈ stuff (b :: rest) := by
    simp only [stuff, List.flatMap_cons, List.mem_append]
    left
    split <;> simp
  exact List.length_pos_of_mem hb

end Packet

namespace Decoder

open Packet (stuff stuff_cons)

/-- What a decoder says to one byte. -/
abbrev Answer := Except Error (Option Packet)

/-- The answer to every byte of a stream, and the decoder behind it. -/
def feed : Decoder → Bytes → List Answer × Decoder
  | d, [] => ([], d)
  | d, b :: rest =>
    let next := (d.push b).2.feed rest
    ((d.push b).1 :: next.1, next.2)

/-- Nothing is given back for some bytes. -/
def quiet (n : Nat) : List Answer := List.replicate n (.ok none)

theorem quiet_add (m n : Nat) : quiet (m + n) = quiet m ++ quiet n :=
  List.replicate_append_replicate.symm

theorem feed_append (d : Decoder) (stream rest : Bytes) :
    d.feed (stream ++ rest) =
      ((d.feed stream).1 ++ ((d.feed stream).2.feed rest).1, ((d.feed stream).2.feed rest).2) := by
  induction stream generalizing d with
  | nil => rfl
  | cons b stream ih => simp [feed, ih]

/-- Outside of a packet only a start byte is of interest. -/
theorem feed_idle {gap : Bytes} (h : startByte ∉ gap) :
    idle.feed gap = (quiet gap.length, idle) := by
  induction gap with
  | nil => rfl
  | cons b gap ih =>
    have hb : b ≠ startByte := fun hb => h (hb ▸ List.mem_cons_self)
    have hgap : startByte ∉ gap := fun hgap => h (List.mem_cons_of_mem b hgap)
    have hpush : idle.push b = (.ok none, idle) := by simp [push, hb]
    simp [feed, hpush, ih hgap, quiet, List.replicate_succ]

/-- A stuffed byte of a body is the byte itself. -/
theorem feed_stuff (received : Bytes) (b : UInt8) (rest : Bytes) :
    (body received false).feed (stuff [b] ++ rest) =
      let next := (accept received b).2.feed rest
      (quiet ((stuff [b]).length - 1) ++ (accept received b).1 :: next.1, next.2) := by
  by_cases hb : b = startByte
  · simp [stuff, hb, feed, push, quiet]
  · simp [stuff, hb, feed, push, quiet]

/-- What a decoder says to a whole body. -/
def verdict (p : Packet) (check : UInt16) : Answer :=
  if check = crc p.content then .ok (some p) else .error (.crcMismatch (crc p.content) check)

/-- The length of a packet's body is known as soon as two of its bytes are there. -/
theorem expectedSize?_of_prefix {p : Packet} (hp : p.data.length ≤ 255) {check : UInt16}
    {received rest : Bytes} (h : p.bodyWith check = received ++ rest) :
    expectedSize? received = if 1 < received.length then some (p.data.length + 4) else none := by
  have hsecond : (p.bodyWith check)[1]? = some p.data.length.toUInt8 := rfl
  split
  · next hlen =>
    rw [h, List.getElem?_append_left hlen] at hsecond
    have hsize : p.data.length.toUInt8.toNat = p.data.length := by
      simp only [Nat.toUInt8, UInt8.toNat_ofNat']
      omega
    rw [expectedSize?, hsecond, Option.map_some, hsize]
  · next hlen =>
    rw [expectedSize?, List.getElem?_eq_none (by omega)]
    rfl

theorem finish_bodyWith (p : Packet) (check : UInt16) :
    finish (p.bodyWith check) (p.data.length + 4) = verdict p check := by
  have hsize : p.data.length + 4 - 2 = p.content.length := p.length_content.symm
  have htake : (p.bodyWith check).take (p.data.length + 4 - 2) = p.content := by
    rw [hsize, Packet.bodyWith, List.take_left]
  have hdrop : (p.bodyWith check).drop (p.data.length + 4 - 2) = Packet.checkBytes check := by
    rw [hsize, Packet.bodyWith, List.drop_left]
  simp only [finish, htake, hdrop, Packet.littleEndian_checkBytes, verdict]
  rfl

/-- A byte of a packet's body is taken, and the last one closes the packet. -/
theorem accept_bodyWith {p : Packet} (hp : p.data.length ≤ 255) {check : UInt16}
    {received rest : Bytes} {b : UInt8} (h : p.bodyWith check = received ++ b :: rest) :
    accept received b =
      if rest = [] then (verdict p check, idle) else (.ok none, body (received ++ [b]) false) := by
  have hbody : p.bodyWith check = (received ++ [b]) ++ rest := by simp [h]
  have hlength := congrArg List.length hbody
  rw [List.length_append, p.length_bodyWith] at hlength
  simp only [accept, expectedSize?_of_prefix hp hbody]
  by_cases hrest : rest = []
  · have hwhole : received ++ [b] = p.bodyWith check := by rw [hbody, hrest, List.append_nil]
    simp [hrest, hwhole, p.length_bodyWith, finish_bodyWith]
  · have hpos := List.length_pos_iff.mpr hrest
    by_cases hlen : 1 < (received ++ [b]).length
    · have hshort : (received ++ [b]).length < p.data.length + 4 := by omega
      simp only [if_pos hlen, if_pos hshort, if_neg hrest]
    · simp only [if_neg hlen, if_neg hrest]

/-- What is left of a packet's body is answered by the verdict at its last byte; the decoder holds
the bytes that came before. -/
theorem feed_bodyWith {p : Packet} (hp : p.data.length ≤ 255) {check : UInt16}
    {received rest : Bytes} (h : p.bodyWith check = received ++ rest) (hrest : rest ≠ []) :
    (body received false).feed (stuff rest) =
      (quiet ((stuff rest).length - 1) ++ [verdict p check], idle) := by
  induction rest generalizing received with
  | nil => exact absurd rfl hrest
  | cons b rest ih =>
    rw [stuff_cons, feed_stuff, accept_bodyWith hp h]
    cases rest with
    | nil => simp [stuff, feed]
    | cons c more =>
      have hnext : p.bodyWith check = (received ++ [b]) ++ c :: more := by simp [h]
      have hcount : (stuff [b] ++ stuff (c :: more)).length - 1 =
          ((stuff [b]).length - 1) + (1 + ((stuff (c :: more)).length - 1)) := by
        have hb := Packet.length_stuff_pos (List.cons_ne_nil b [])
        have hc := Packet.length_stuff_pos (List.cons_ne_nil c more)
        rw [List.length_append]
        omega
      rw [if_neg (by simp), ih hnext (by simp), hcount, quiet_add, quiet_add]
      simp [quiet]

/-- A packet with any checksum is answered at its last byte. -/
theorem feed_stuff_bodyWith {p : Packet} (hp : p.data.length ≤ 255) (check : UInt16) :
    let frame := startByte :: stuff (p.bodyWith check)
    idle.feed frame = (quiet (frame.length - 1) ++ [verdict p check], idle) := by
  intro frame
  have hne : p.bodyWith check ≠ [] := List.ne_nil_of_length_pos (by rw [p.length_bodyWith]; omega)
  have hcount : frame.length - 1 = 1 + ((stuff (p.bodyWith check)).length - 1) := by
    have hpos := Packet.length_stuff_pos hne
    rw [List.length_cons]
    omega
  have hstart : idle.push startByte = (.ok none, body [] false) := rfl
  rw [hcount, quiet_add, feed, hstart, feed_bodyWith hp (List.nil_append _).symm hne]
  rfl

/-- An encoded packet comes back at its last byte. -/
theorem feed_framed {p : Packet} (hp : p.data.length ≤ 255) :
    idle.feed p.framed = (quiet (p.framed.length - 1) ++ [.ok (some p)], idle) := by
  have hverdict : verdict p (crc p.content) = .ok (some p) := if_pos rfl
  rw [← hverdict]
  exact feed_stuff_bodyWith hp _

end Decoder

/-- An encoded packet in a stream, with the bytes that stand before it. -/
structure Passage where
  gap : Bytes
  packet : Packet
  frame : Bytes
  clear : startByte ∉ gap
  encoded : packet.encode = .ok frame

namespace Passage

def bytes (s : Passage) : Bytes := s.gap ++ s.frame

/-- The packet is given back at its last byte, and nothing before. -/
def answers (s : Passage) : List Decoder.Answer :=
  Decoder.quiet (s.gap.length + (s.frame.length - 1)) ++ [.ok (some s.packet)]

/-- The step of a stream: one packet goes through an idle decoder and leaves it idle. -/
theorem feed_bytes (s : Passage) : Decoder.idle.feed s.bytes = (s.answers, .idle) := by
  have hfits := s.packet.exists_encode_iff.mp ⟨s.frame, s.encoded⟩
  have hframe := Packet.framed_eq s.encoded
  rw [bytes, answers, Decoder.feed_append, Decoder.feed_idle s.clear, hframe,
    Decoder.feed_framed hfits, Decoder.quiet_add, List.append_assoc]

theorem feed_flatMap (passages : List Passage) :
    Decoder.idle.feed (passages.flatMap bytes) = (passages.flatMap answers, .idle) := by
  induction passages with
  | nil => rfl
  | cons s passages ih =>
    rw [List.flatMap_cons, List.flatMap_cons, Decoder.feed_append, feed_bytes, ih]

end Passage

/-- Packets with at most 255 bytes of data, and no others, can be encoded. A stream of encoded
packets, with anything but start bytes before, between and behind them, is answered by these
packets in order, each at its own last byte, and leaves the decoder idle. -/
theorem feed_stream (passages : List Passage) {last : Bytes} (h : startByte ∉ last) :
    (∀ p : Packet, (∃ frame, p.encode = .ok frame) ↔ p.data.length ≤ 255) ∧
    Decoder.idle.feed (passages.flatMap Passage.bytes ++ last) =
      (passages.flatMap Passage.answers ++ Decoder.quiet last.length, .idle) := by
  refine ⟨Packet.exists_encode_iff, ?_⟩
  rw [Decoder.feed_append, Passage.feed_flatMap, Decoder.feed_idle h]

/-- Two packets full of start bytes, with other bytes around them. -/
theorem feed_stream_doubled :
    let passages : List Passage :=
      [⟨[0x00, 0x80], ⟨0x7F, [0x7F, 0x7F, 0x7F]⟩, _, by decide, Packet.encode_eq (by decide)⟩,
        ⟨[], ⟨0x80, List.replicate 127 0x7F⟩, _, by decide,
          Packet.encode_eq (Nat.le_trans (Nat.le_of_eq List.length_replicate) (by decide))⟩]
    let last : Bytes := [0x55]
    startByte ∉ last ∧ Decoder.idle.feed (passages.flatMap Passage.bytes ++ last) =
      (passages.flatMap Passage.answers ++ Decoder.quiet last.length, .idle) := by
  intro passages last
  have hlast : startByte ∉ last := by decide
  exact ⟨hlast, (feed_stream passages hlast).2⟩

end SspUpdate
