import SspUpdate.Proofs.Framing

/-!
# What a decoder gives back

A decoder is given any bytes, and resets in between. The body it collects is
always the unstuffed end of the bytes since the last reset, from some start
byte on: not the first one, but the one that began the packet anew last. So a
packet that it gives back stands encoded at the end of these bytes, and as the
decoder is idle then, the next packet begins behind it. A packet that breaks
off does not take the next one with it: the start byte of that one waits for a
second one, and the byte that comes instead begins the packet anew.
-/

namespace SspUpdate

theorem Packet.checkBytes_littleEndian (low high : UInt8) :
    checkBytes (Bytes.littleEndian [low, high]).toUInt16 = [low, high] := by
  have hshift : (8 : UInt16).toNat % 16 = 8 := rfl
  have hlow := low.toNat_lt
  have hhigh := high.toNat_lt
  simp only [checkBytes, List.cons.injEq, and_true]
  constructor
  · apply UInt8.toNat.inj
    simp only [Bytes.littleEndian, UInt16.toNat_toUInt8, Nat.toUInt16, UInt16.toNat_ofNat']
    omega
  · apply UInt8.toNat.inj
    simp only [Bytes.littleEndian, UInt16.toNat_toUInt8, UInt16.toNat_shiftRight, hshift,
      Nat.shiftRight_eq_div_pow, Nat.toUInt16, UInt16.toNat_ofNat']
    omega

namespace Decoder

open Packet (stuff stuff_append)

/-- What a decoder is given. -/
inductive Input where
  | byte (b : UInt8)
  | reset

def step (d : Decoder) : Input → Decoder
  | .byte b => (d.push b).2
  | .reset => idle

/-- A new decoder after some inputs. -/
def after (inputs : List Input) : Decoder := inputs.foldl step idle

/-- The bytes since the last reset, with one more input. -/
def Input.keep (bytes : Bytes) : Input → Bytes
  | .byte b => bytes ++ [b]
  | .reset => []

/-- The bytes since the last reset. -/
def pushed (inputs : List Input) : Bytes := inputs.foldl Input.keep []

/-- A body that lacks at least one byte. -/
structure Unfinished (received : Bytes) : Prop where
  bounded : received.length < 260
  short : ∀ n, received[1]? = some n → received.length < n.toNat + 4

theorem Unfinished.nil : Unfinished [] := ⟨by decide, nofun⟩

/-- One more byte makes the body at most as long as it tells. -/
theorem Unfinished.fits {received : Bytes} (h : Unfinished received) {b n : UInt8}
    (hn : (received ++ [b])[1]? = some n) : (received ++ [b]).length ≤ n.toNat + 4 := by
  have hlength : (received ++ [b]).length = received.length + 1 := by simp
  by_cases hone : 1 < received.length
  · have hshort := h.short n ((List.getElem?_append_left hone).symm.trans hn)
    omega
  · omega

/-- The decoder came from the bytes: the body it collects is at their end, stuffed, and a start
byte that waits for a second one stands behind it. -/
inductive Collects : Decoder → Bytes → Prop where
  | idle (bytes : Bytes) : Collects idle bytes
  | body {received : Bytes} (before : Bytes) (escaped : Bool) (unfinished : Unfinished received) :
    Collects (body received escaped)
      (before ++ startByte :: (stuff received ++ if escaped then [startByte] else []))

/-- What a push gives, where `bytes` came since the last reset. -/
inductive Gives (bytes : Bytes) : Answer × Decoder → Prop where
  | nothing {d : Decoder} (collects : Collects d bytes) : Gives bytes (.ok none, d)
  | packet {p : Packet} {frame : Bytes} (encoded : p.encode = .ok frame)
    (whole : frame <:+ bytes) : Gives bytes (.ok (some p), idle)
  | damage (expected received : UInt16) :
    Gives bytes (.error (.crcMismatch expected received), idle)

/-- A body of the length that its second byte tells is a packet's, or the checksum is wrong. -/
theorem finish_cases {received : Bytes} {n : UInt8} (hn : received[1]? = some n)
    (hlength : received.length = n.toNat + 4) :
    (∃ p : Packet, finish received received.length = .ok (some p) ∧ p.data.length ≤ 255 ∧
      p.body = received) ∨
    ∃ expected actual,
      finish received received.length = .error (.crcMismatch expected actual) := by
  have hword := n.toNat_lt
  obtain ⟨seqAddr, rest, rfl⟩ : ∃ seqAddr rest, received = seqAddr :: n :: rest := by
    match received, hn with
    | seqAddr :: _ :: rest, hn => exact ⟨seqAddr, rest, by simpa using hn⟩
  simp only [List.length_cons] at hlength
  obtain ⟨low, high, hcheck⟩ : ∃ low high, rest.drop n.toNat = [low, high] := by
    have htwo : (rest.drop n.toNat).length = 2 := by rw [List.length_drop]; omega
    match rest.drop n.toNat, htwo with
    | [low, high], _ => exact ⟨low, high, rfl⟩
  let p : Packet := ⟨seqAddr, rest.take n.toNat⟩
  have hdata : p.data.length = n.toNat := by
    rw [List.length_take]
    omega
  have hcontent : p.content = seqAddr :: n :: rest.take n.toNat := by
    rw [Packet.content, hdata]
    simp [p]
  have hbody : (seqAddr :: n :: rest) = p.content ++ [low, high] := by
    rw [hcontent, ← hcheck]
    simp
  have hsize : (p.content ++ [low, high]).length - 2 = p.content.length := by simp
  rw [hbody, finish, hsize, List.take_left, List.drop_left]
  split
  · next heq =>
    left
    refine ⟨p, by rw [hcontent]; rfl, by omega, ?_⟩
    rw [Packet.body, ← heq, Packet.checkBytes_littleEndian]
  · exact .inr ⟨_, _, rfl⟩

/-- A byte that is added to an unfinished body leaves it unfinished, makes it that of a packet,
or is the end of a damaged one. -/
theorem accept_cases {received : Bytes} (h : Unfinished received) (b : UInt8) :
    (accept received b = (.ok none, body (received ++ [b]) false) ∧
      Unfinished (received ++ [b])) ∨
    (∃ p : Packet, accept received b = (.ok (some p), idle) ∧ p.data.length ≤ 255 ∧
      p.body = received ++ [b]) ∨
    ∃ expected actual, accept received b = (.error (.crcMismatch expected actual), idle) := by
  have hlength : (received ++ [b]).length = received.length + 1 := by simp
  rcases hn : (received ++ [b])[1]? with _ | n
  · have hshort : (received ++ [b]).length ≤ 1 := List.getElem?_eq_none_iff.mp hn
    left
    refine ⟨by simp only [accept, expectedSize?, hn, Option.map_none], by omega, ?_⟩
    intro n hn'
    cases hn.symm.trans hn'
  · have hword := n.toNat_lt
    have hlong : 1 < (received ++ [b]).length := (List.getElem?_eq_some_iff.mp hn).1
    have hsize := h.fits hn
    by_cases hless : (received ++ [b]).length < n.toNat + 4
    · left
      refine ⟨?_, by omega, ?_⟩
      · simp only [accept, expectedSize?, hn, Option.map_some, if_pos hless]
      · intro m hm
        rw [hn, Option.some.injEq] at hm
        rwa [← hm]
    · have hwhole : (received ++ [b]).length = n.toNat + 4 := by omega
      have haccept : accept received b =
          (finish (received ++ [b]) (received ++ [b]).length, idle) := by
        simp only [accept, expectedSize?, hn, Option.map_some, if_neg hless]
        rw [hwhole]
      rw [haccept]
      obtain ⟨p, hp, hfits, hbody⟩ | ⟨expected, actual, he⟩ := finish_cases hn hwhole
      · exact .inr (.inl ⟨p, by rw [hp], hfits, hbody⟩)
      · exact .inr (.inr ⟨expected, actual, by rw [he]⟩)

/-- Adding a byte to the body, where the bytes end with the stuffed body that comes of it. -/
theorem accept_gives {received bytes : Bytes} (before : Bytes) {b : UInt8}
    (h : Unfinished received) (hbytes : bytes = before ++ startByte :: stuff (received ++ [b])) :
    Gives bytes (accept received b) := by
  obtain ⟨haccept, hopen⟩ | ⟨p, haccept, hfits, hbody⟩ | ⟨expected, actual, haccept⟩ :=
    accept_cases h b
  · rw [haccept]
    have hcollects := Collects.body before false hopen
    rw [if_neg (by simp), List.append_nil, ← hbytes] at hcollects
    exact .nothing hcollects
  · rw [haccept]
    refine .packet (Packet.encode_eq hfits) ⟨before, ?_⟩
    rw [hbytes, Packet.framed, hbody]
  · rw [haccept]
    exact .damage expected actual

/-- The step of a run: what a push gives stands at the end of the bytes. -/
theorem push_gives {d : Decoder} {bytes : Bytes} (h : Collects d bytes) (b : UInt8) :
    Gives (bytes ++ [b]) (d.push b) := by
  have hstuff : ∀ c, c ≠ startByte → stuff [c] = [c] := fun c hc => by simp [stuff, hc]
  have hdouble : stuff [startByte] = [startByte, startByte] := by simp [stuff]
  cases h with
  | idle bytes =>
    refine .nothing ?_
    by_cases hb : b = startByte
    · have hcollects := Collects.body bytes false .nil
      simpa [stuff, hb] using hcollects
    · simpa [hb] using Collects.idle (bytes ++ [b])
  | @body received before escaped hopen =>
    cases escaped with
    | false =>
      by_cases hb : b = startByte
      · have hpush : (body received false).push b = (.ok none, body received true) := by
          simp [push, hb]
        have hcollects := Collects.body before true hopen
        rw [hpush]
        refine .nothing ?_
        simpa [hb] using hcollects
      · have hpush : (body received false).push b = accept received b := by simp [push, hb]
        rw [hpush]
        refine accept_gives before hopen ?_
        simp [stuff_append, hstuff b hb]
    | true =>
      by_cases hb : b = startByte
      · have hpush : (body received true).push b = accept received b := by simp [push, hb]
        rw [hpush]
        refine accept_gives before hopen ?_
        simp [stuff_append, hb, hdouble]
      · have hpush : (body received true).push b = accept [] b := by simp [push, hb]
        rw [hpush]
        refine accept_gives (before ++ startByte :: stuff received) .nil ?_
        simp [hstuff b hb]

/-- The run of a decoder: however it came there, it collects what was pushed. -/
theorem foldl_collects {d : Decoder} {bytes : Bytes} (h : Collects d bytes)
    (inputs : List Input) : Collects (inputs.foldl step d) (inputs.foldl Input.keep bytes) := by
  induction inputs generalizing d bytes with
  | nil => exact h
  | cons input inputs ih =>
    cases input with
    | reset => exact ih (.idle [])
    | byte b =>
      have hgives := push_gives h b
      have hnext : Collects (d.push b).2 (bytes ++ [b]) := by
        generalize d.push b = given at hgives
        cases hgives with
        | nothing collects => exact collects
        | packet encoded whole => exact .idle _
        | damage expected received => exact .idle _
      exact ih hnext

theorem after_collects (inputs : List Input) : Collects (after inputs) (pushed inputs) :=
  foldl_collects (.idle []) inputs

theorem pushed_byte (inputs : List Input) (b : UInt8) :
    pushed (inputs ++ [.byte b]) = pushed inputs ++ [b] := by
  simp [pushed, Input.keep]

/-- A packet that is given back leaves the decoder idle, and is encoded at the end of the bytes. -/
theorem push_packet {inputs : List Input} {b : UInt8} {p : Packet} {d : Decoder}
    (h : (after inputs).push b = (.ok (some p), d)) :
    d = idle ∧ ∃ frame, p.encode = .ok frame ∧ frame <:+ pushed (inputs ++ [.byte b]) := by
  have hgives := push_gives (after_collects inputs) b
  rw [h] at hgives
  cases hgives with
  | packet encoded whole => exact ⟨rfl, _, encoded, by rwa [pushed_byte]⟩

/-- Behind a packet a decoder goes on like a new one. -/
theorem after_packet {inputs : List Input} {b : UInt8} {p : Packet} {d : Decoder}
    (h : (after inputs).push b = (.ok (some p), d)) (later : List Input) :
    after (inputs ++ .byte b :: later) = after later := by
  have hidle : step (after inputs) (.byte b) = idle := by
    rw [step, h]
    exact (push_packet h).1
  rw [after, List.foldl_append, List.foldl_cons]
  exact congrArg (List.foldl step · later) hidle

/-- What holds of a decoder that was given some inputs, and of what it says to the next byte. -/
structure Receives (inputs : List Input) : Prop where
  /-- The bytes since the last reset end with exactly the encoding of a packet given back. -/
  delivered : ∀ b p d, (after inputs).push b = (.ok (some p), d) →
    d = idle ∧ ∃ frame, p.encode = .ok frame ∧ frame <:+ pushed (inputs ++ [.byte b])
  /-- A later packet is encoded behind the last byte of the one before. -/
  apart : ∀ b p d later c q d', (after inputs).push b = (.ok (some p), d) →
    (after (inputs ++ .byte b :: later)).push c = (.ok (some q), d') →
    ∃ frame, q.encode = .ok frame ∧ frame <:+ pushed (later ++ [.byte c])
  damaged : ∀ b e d, (after inputs).push b = (.error e, d) →
    d = idle ∧ ∃ expected actual, e = .crcMismatch expected actual
  bounded : ∀ received escaped, after inputs = body received escaped →
    received.length < 260 ∧ ∀ n, received[1]? = some n → received.length < n.toNat + 4
  /-- A body is closed at its full length: its content and the two bytes of the checksum. -/
  split : ∀ received escaped b, after inputs = body received escaped →
    ∀ kept ∈ [received ++ [b], [b]], ∀ size, expectedSize? kept = some size →
    size ≤ kept.length →
    (kept.take (size - 2)).length = size - 2 ∧ 2 ≤ size - 2 ∧ (kept.drop (size - 2)).length = 2

/-- Every packet that a decoder gives back stood encoded at the end of what it was fed, apart from
the packets before, and the body it collects never outgrows the length it tells. -/
theorem receives (inputs : List Input) : Receives inputs where
  delivered b p d h := push_packet h
  apart b p d later c q d' h h' := by
    rw [after_packet h later] at h'
    exact (push_packet h').2
  damaged b e d h := by
    have hgives := push_gives (after_collects inputs) b
    rw [h] at hgives
    cases hgives with
    | damage expected received => exact ⟨rfl, expected, received, rfl⟩
  bounded received escaped h := by
    have hcollects := after_collects inputs
    rw [h] at hcollects
    generalize pushed inputs = bytes at hcollects
    cases hcollects with
    | body before escaped unfinished => exact ⟨unfinished.bounded, unfinished.short⟩
  split received escaped b h kept hkept size hsize hlong := by
    have hcollects := after_collects inputs
    rw [h] at hcollects
    generalize pushed inputs = bytes at hcollects
    cases hcollects with
    | body before escaped unfinished =>
      have hkept' : kept = received ++ [b] ∨ kept = [] ++ [b] := by simpa using hkept
      have hfits : ∀ n, kept[1]? = some n → kept.length ≤ n.toNat + 4 := by
        rcases hkept' with rfl | rfl
        · exact fun n hn => unfinished.fits hn
        · exact fun n hn => Unfinished.nil.fits hn
      obtain ⟨n, hn, rfl⟩ := Option.map_eq_some_iff.mp hsize
      have hlength := hfits n hn
      rw [List.length_take, List.length_drop]
      omega

/-- Whether a start byte in the body waits for a second one. -/
def escaped : Decoder → Bool
  | idle => false
  | body _ escaped => escaped

/-- Behind a start byte that stood alone, a body goes on like a new one. -/
theorem feed_restart (received : Bytes) {b : UInt8} (hb : b ≠ startByte) (rest : Bytes) :
    (body received true).feed (b :: rest) = (body [] false).feed (b :: rest) := by
  have hpush : (body received true).push b = (body [] false).push b := by simp [push, hb]
  rw [feed, feed, hpush]

/-- A packet is read the same by all decoders in which no start byte waits. -/
theorem feed_framed_of_escaped {d : Decoder} {p : Packet} (hd : d.escaped = false)
    (hseq : p.seqAddr ≠ startByte) : d.feed p.framed = idle.feed p.framed := by
  cases d with
  | idle => rfl
  | body received escaped =>
    obtain rfl : escaped = false := hd
    obtain ⟨rest, hframed⟩ : ∃ rest, p.framed = startByte :: p.seqAddr :: rest := by
      refine ⟨stuff (List.tail p.body), ?_⟩
      have hbody : p.body = p.seqAddr :: List.tail p.body := rfl
      rw [Packet.framed, hbody, Packet.stuff_cons]
      simp [stuff, hseq]
    have hwaits : (body received false).push startByte = (.ok none, body received true) := by
      simp [push]
    rw [hframed, feed, hwaits, feed_restart received hseq]
    rfl

/-- Whatever a decoder was given before: if no start byte waits in it, then a packet that follows
comes back at its last byte, and nothing before that. -/
theorem next_received (inputs : List Input) {p : Packet} (hopen : (after inputs).escaped = false)
    (hseq : p.seqAddr ≠ startByte) (hfits : p.data.length ≤ 255) :
    ∃ frame, p.encode = .ok frame ∧
      (after inputs).feed frame = (quiet (frame.length - 1) ++ [.ok (some p)], idle) := by
  refine ⟨p.framed, Packet.encode_eq hfits, ?_⟩
  rw [feed_framed_of_escaped hopen hseq, feed_framed hfits]

/-- A packet behind one that broke off in its data, after a doubled start byte. -/
theorem next_received_truncated :
    let inputs := [0x7F, 0x80, 0x05, 0xF0, 0x7F, 0x7F].map Input.byte
    let p : Packet := ⟨0x80, [0x7F, 0xF0]⟩
    after inputs = body [0x80, 0x05, 0xF0, 0x7F] false ∧ (after inputs).escaped = false ∧
      p.seqAddr ≠ startByte ∧ p.data.length ≤ 255 ∧ ∃ frame, p.encode = .ok frame ∧
        (after inputs).feed frame = (quiet (frame.length - 1) ++ [.ok (some p)], idle) := by
  intro inputs p
  have hcut : after inputs = body [0x80, 0x05, 0xF0, 0x7F] false := by decide
  have hopen : (after inputs).escaped = false := by rw [hcut]; rfl
  have hseq : p.seqAddr ≠ startByte := by decide
  have hfits : p.data.length ≤ 255 := by decide
  exact ⟨hcut, hopen, hseq, hfits, next_received inputs hopen hseq hfits⟩

end Decoder

end SspUpdate
