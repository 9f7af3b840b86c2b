import Mathlib.Data.Nat.Bitwise
import XrtcServer.Ice.Requests
import XrtcServer.Pc.Model.DtlsTransport
/-!
# Telling STUN from RTP

STUN, DTLS and RTP share a socket. A STUN message has the two topmost bits
clear and an RTP packet has the version 2 there, but `read` looks at a bit
of the method instead. A datagram that is well formed is accepted exactly
where that bit is clear (`WellFormed.accepted_iff`), so the packets are told
apart exactly where it says what the two bits say (`demuxed_iff`).
-/

namespace XrtcServer

namespace Pc

open Base Common Ice StunMessage UDPPort

variable {rtc : Rtc} {iceParams : IceParameters} {data : List UInt8}

/-! ## Well-formed datagrams -/

/-- An attribute as a peer may write it: its padding is any bytes. -/
structure RawAttribute where
  type : UInt16
  value : List UInt8
  pad : List UInt8

namespace RawAttribute

def bytes (attr : RawAttribute) : List UInt8 := rawElement attr.type attr.value attr.pad

/-- The value is padded to four bytes, and has the length of its type. -/
structure Legal (attr : RawAttribute) : Prop where
  pad : attr.pad.length = padding attr.value.length
  number : getAttributeValueType attr.type = .uint32 → attr.value.length = 4

end RawAttribute

/-- **A datagram with all that a STUN message has but the two topmost
bits**: the fingerprint at its end, with the length and the magic cookie that
its check asks for, a header that says its length, and attributes that are
each legal. -/
structure WellFormed (rtc : Rtc) (data : List UInt8) : Prop where
  fingerprint : validateFingerprint rtc data = true
  length : (front16 (data.drop 2)).toNat = data.length - k_stun_header_size
  area : ∃ attrs : List RawAttribute, (∀ attr ∈ attrs, attr.Legal) ∧
    data.drop k_stun_header_size = attrs.flatMap RawAttribute.bytes

/-- The first byte. -/
def topByte (data : List UInt8) : UInt8 := data.getD 0 0

/-- The two most significant bits of the first byte are zero. -/
def TopBitsClear (data : List UInt8) : Prop := topByte data &&& 0xC0 = 0

/-- Bit 3 of the first byte is zero, which is the bit 11 of the type that
`read` looks at. -/
def MethodBitClear (data : List UInt8) : Prop := topByte data &&& 0x08 = 0

theorem WellFormed.shape (h : WellFormed rtc data) :
    28 ≤ data.length ∧ rtc.getBE32 (data.drop 4) = k_stun_magic_cookie := by
  have hvalid := h.fingerprint
  unfold validateFingerprint at hvalid
  dsimp only at hvalid
  split at hvalid
  · cases hvalid
  · rename_i hlength
    simp only [Bool.or_eq_true, decide_eq_true_eq, not_or] at hlength
    unfold k_stun_header_size k_stun_attribute_header_size at hlength
    split at hvalid
    · cases hvalid
    · rename_i hcookie
      exact ⟨by omega, not_not.1 hcookie⟩

/-! ## What is accepted -/

/-- An attribute is read or skipped, whatever its padding. -/
theorem RawAttribute.Legal.read {attr : RawAttribute} (h : attr.Legal) (rtc : Rtc)
    (hfits : padded attr.value.length < 2 ^ 16) (rest : List UInt8) :
    ∃ kept, readAttribute rtc (attr.bytes ++ rest) = some (kept, rest) := by
  have hlt := Nat.lt_of_le_of_lt (le_padded _) hfits
  cases hclass : getAttributeValueType attr.type with
  | unknown => exact ⟨_, readAttribute_skipped rtc hfits h.pad hclass rest⟩
  | byteString => exact ⟨_, readAttribute_bytes rtc hlt h.pad hclass rest⟩
  | uint32 =>
    have hlength := h.number hclass
    have hpad : attr.pad = [] := by
      refine List.length_eq_zero_iff.1 ?_
      rw [h.pad, hlength]
      rfl
    unfold bytes
    rw [hpad]
    exact ⟨_, readAttribute_number rtc hlength hclass rest⟩

theorem RawAttribute.Legal.length {attr : RawAttribute} (h : attr.Legal) :
    attr.bytes.length = 4 + padded attr.value.length := by
  unfold bytes rawElement padded
  simp only [List.length_append, length_beBytes, h.pad]
  omega

/-- The attribute loop reads a well-formed area to its end. -/
theorem reads_area (rtc : Rtc) {attrs : List RawAttribute} (h : ∀ attr ∈ attrs, attr.Legal)
    (hfits : (attrs.flatMap RawAttribute.bytes).length < 2 ^ 16) :
    ∃ kept, Reads rtc (attrs.flatMap RawAttribute.bytes) kept [] := by
  induction attrs with
  | nil => exact ⟨[], .nil []⟩
  | cons attr attrs ih =>
    have hattr := h attr List.mem_cons_self
    have hlength := hattr.length
    rw [List.flatMap_cons, List.length_append] at hfits
    obtain ⟨kept, hread⟩ := hattr.read rtc (by omega) (attrs.flatMap RawAttribute.bytes)
    obtain ⟨later, hreads⟩ := ih (fun a ha => h a (List.mem_cons_of_mem _ ha)) (by omega)
    rw [List.flatMap_cons]
    exact ⟨_, .cons hread hreads⟩

/-- The bytes of a well-formed datagram are a header and its area. -/
theorem WellFormed.split (h : WellFormed rtc data) : data =
    header (front16 data) (data.length - k_stun_header_size) ((data.drop 8).take 12) ++
      data.drop k_stun_header_size := by
  obtain ⟨hlong, hcookie⟩ := h.shape
  have htype : beBytes 2 (front16 data).toNat = data.take 2 := front16_bytes (by omega)
  have hfield : beBytes 2 (data.length - k_stun_header_size) = (data.drop 2).take 2 := by
    rw [← h.length]
    exact front16_bytes (by rw [List.length_drop]; omega)
  have hfour : ((data.drop 4).take 4).length = 4 := by
    rw [List.length_take, List.length_drop]
    omega
  have hmagic : beBytes 4 k_stun_magic_cookie.toNat = (data.drop 4).take 4 := by
    have hlt := beValue_lt ((data.drop 4).take 4)
    rw [hfour] at hlt
    rw [← hcookie, rtc.getBE32_eq _ (by rw [List.length_drop]; omega),
      UInt32.toNat_ofNat_of_lt' hlt]
    nth_rewrite 1 [← hfour]
    exact beBytes_beValue _
  have h2 : data = data.take 2 ++ data.drop 2 := (List.take_append_drop 2 data).symm
  have h4 : data.drop 2 = (data.drop 2).take 2 ++ data.drop 4 := by
    rw [← List.drop_drop (i := 2) (j := 2)]
    exact (List.take_append_drop 2 _).symm
  have h8 : data.drop 4 = (data.drop 4).take 4 ++ data.drop 8 := by
    rw [← List.drop_drop (i := 4) (j := 4)]
    exact (List.take_append_drop 4 _).symm
  have h20 : data.drop 8 = (data.drop 8).take 12 ++ data.drop 20 := by
    rw [← List.drop_drop (i := 12) (j := 8)]
    exact (List.take_append_drop 12 _).symm
  unfold header k_stun_header_size at *
  rw [htype, hfield, hmagic, List.append_assoc, List.append_assoc, List.append_assoc, ← h20, ← h8,
    ← h4, ← h2]

theorem and_two_pow_eq_zero (n i : ℕ) : n &&& 2 ^ i = 0 ↔ n / 2 ^ i % 2 = 0 := by
  rw [Nat.and_two_pow, Nat.testBit_eq_decide_div_mod_eq]
  have hpos : 0 < 2 ^ i := Nat.two_pow_pos i
  by_cases hbit : n / 2 ^ i % 2 = 1
  · rw [decide_eq_true hbit, Bool.toNat_true, Nat.one_mul]
    omega
  · rw [decide_eq_false hbit, Bool.toNat_false, Nat.zero_mul]
    omega

/-- The bit that `read` looks at is in the first byte. -/
theorem methodBit_iff (h : 2 ≤ data.length) : front16 data &&& 0x0800 = 0 ↔ MethodBitClear data := by
  obtain ⟨b, c, rest, rfl⟩ : ∃ b c rest, data = b :: c :: rest := by
    match data, h with
    | b :: c :: rest, _ => exact ⟨b, c, rest, rfl⟩
  have hb := b.toNat_lt
  have hc := c.toNat_lt
  have hvalue : (front16 (b :: c :: rest)).toNat = b.toNat * 256 + c.toNat := by
    show (UInt16.ofNat (b.toNat * 256 ^ 1 + (c.toNat * 256 ^ 0 + 0))).toNat = _
    rw [toNat_ofNat (by omega)]
    omega
  have hword : front16 (b :: c :: rest) &&& 0x0800 = 0 ↔
      (front16 (b :: c :: rest)).toNat / 2 ^ 11 % 2 = 0 := by
    rw [← UInt16.toNat_inj, UInt16.toNat_and]
    exact and_two_pow_eq_zero _ 11
  have hbyte : MethodBitClear (b :: c :: rest) ↔ b.toNat / 2 ^ 3 % 2 = 0 := by
    show b &&& 0x08 = 0 ↔ _
    rw [← UInt8.toNat_inj, UInt8.toNat_and]
    exact and_two_pow_eq_zero _ 3
  rw [hword, hbyte, hvalue]
  omega

/-- What is read has the bit clear. -/
theorem read_methodBit {msg : StunMessage} {rest : List UInt8}
    (h : StunMessage.read rtc data = some (msg, rest)) : front16 data &&& 0x0800 = 0 := by
  unfold StunMessage.read at h
  split at h
  · cases h
  · rename_i type buf htype
    obtain ⟨-, rfl, -⟩ := readUInt16_some htype
    split at h
    · cases h
    · rename_i hclear
      exact not_not.1 hclear

/-- **A well-formed datagram is accepted exactly where a bit of its method
is clear.** -/
theorem WellFormed.accepted_iff (h : WellFormed rtc data) :
    (∃ msg, StunMessage.read rtc data = some (msg, [])) ↔ MethodBitClear data := by
  obtain ⟨hlong, -⟩ := h.shape
  rw [← methodBit_iff (by omega)]
  constructor
  · rintro ⟨msg, hread⟩
    exact read_methodBit hread
  · intro hclear
    obtain ⟨attrs, hlegal, harea⟩ := h.area
    have hsplit := h.split
    have hbody : (data.drop k_stun_header_size).length = data.length - k_stun_header_size :=
      List.length_drop
    have hfits : (data.drop k_stun_header_size).length < 2 ^ 16 := by
      have hfield := (front16 (data.drop 2)).toNat_lt
      rw [h.length] at hfield
      rw [hbody]
      exact hfield
    obtain ⟨kept, hreads⟩ := reads_area rtc hlegal (harea ▸ hfits)
    rw [← harea] at hreads
    have htid : ((data.drop 8).take 12).length = k_stun_transaction_id_length := by
      rw [List.length_take, List.length_drop]
      unfold k_stun_transaction_id_length
      omega
    have hread := read_of_reads rtc hclear htid hfits hreads
    rw [hbody, ← hsplit] at hread
    exact ⟨_, hread⟩

/-! ## The packets told apart -/

/-- What telling the packets apart by their first byte asks for: STUN is
accepted exactly where the two bits are zero, what `get_stun_message` takes
is not RTP, and no STUN message is refused. -/
structure Demuxed (rtc : Rtc) (iceParams : IceParameters) (data : List UInt8) : Prop where
  accepted_iff : (∃ msg, StunMessage.read rtc data = some (msg, [])) ↔ TopBitsClear data
  not_rtp : (getStunMessage rtc iceParams data).res = true → isRtpPacket data = false
  not_refused : TopBitsClear data → (getStunMessage rtc iceParams data).res = true

/-- What is read with its fingerprint is taken as STUN, and nothing else is. -/
theorem getStunMessage_res_iff (iceParams : IceParameters)
    (hvalid : validateFingerprint rtc data = true) :
    (getStunMessage rtc iceParams data).res = true ↔
      ∃ msg, StunMessage.read rtc data = some (msg, []) := by
  constructor
  · intro hres
    by_contra hnone
    rw [getStunMessage_of_not fun msg hparses => hnone ⟨msg, hparses.2⟩] at hres
    cases hres
  · rintro ⟨msg, hread⟩
    have hparses : Parses rtc data msg := ⟨hvalid, hread⟩
    by_cases htype : msg.type = STUN_BINDING_REQUEST
    · rcases getStunMessage_checked iceParams hparses htype with
        ⟨-, hgot⟩ | ⟨-, -, hgot⟩ | ⟨-, remoteUfrag, -, hgot⟩ <;> rw [hgot] <;> rfl
    · rw [hparses.got htype]

/-- **The packets are told apart exactly where the bit of the method is set
with one of the two topmost bits.** -/
theorem demuxed_iff (iceParams : IceParameters) (h : WellFormed rtc data) :
    Demuxed rtc iceParams data ↔ (MethodBitClear data ↔ TopBitsClear data) := by
  have haccepted := h.accepted_iff
  have hres := getStunMessage_res_iff iceParams h.fingerprint
  constructor
  · intro hdemuxed
    rw [← haccepted]
    exact hdemuxed.accepted_iff
  · intro hbits
    refine ⟨haccepted.trans hbits, fun htaken => ?_, fun hclear => hres.2 (haccepted.2 (hbits.2 hclear))⟩
    have hclear : topByte data &&& 0xC0 = 0 := hbits.1 (haccepted.1 (hres.1 htaken))
    unfold topByte at hclear
    unfold isRtpPacket
    rw [hclear]
    exact Bool.and_false _

/-- The header of a message that has a fingerprint only. -/
def bareHeader (high low : UInt8) : List UInt8 :=
  [high, low, 0, 8, 0x21, 0x12, 0xA4, 0x42] ++ List.replicate 12 0

/-- A message of nothing but its fingerprint, with the bytes of its type. -/
def bareMessage (rtc : Rtc) (high low : UInt8) : List UInt8 :=
  bareHeader high low ++ (Ice.fingerprint rtc (bareHeader high low)).wire

theorem bareMessage_wellFormed (rtc : Rtc) (high low : UInt8) :
    WellFormed rtc (bareMessage rtc high low) := by
  let attr := Ice.fingerprint rtc (bareHeader high low)
  have hvalue : attr.value.length = 4 := length_beBytes 4 _
  have hwire : attr.wire.length = 8 := (attr.wire_length).trans (fingerprint_size rtc _)
  have hlength : (bareMessage rtc high low).length = 28 := by
    unfold bareMessage
    rw [List.length_append, hwire]
    rfl
  have hheader : (bareHeader high low).length = 20 := rfl
  have hcookie : ((bareMessage rtc high low).drop 4).take 4 = [0x21, 0x12, 0xA4, 0x42] := rfl
  have hfield : ((bareMessage rtc high low).drop 2).take 2 = [0, 8] := rfl
  refine ⟨validateFingerprint_of_eq rtc rfl ?_ ?_ ?_, ?_, [⟨attr.type, attr.value, []⟩], ?_, ?_⟩
  · rw [hheader]
  · exact hheader.ge
  · rw [rtc.getBE32_eq _ (by rw [List.length_drop, hlength]; decide), hcookie]
    decide
  · unfold front16
    rw [hlength, hfield]
    decide
  · intro a ha
    obtain rfl := List.mem_singleton.1 ha
    exact ⟨by rw [hvalue]; rfl, fun _ => hvalue⟩
  · have hpadding : padding attr.value.length = 0 := by
      rw [hvalue]
      rfl
    show attr.wire = rawElement attr.type attr.value [] ++ []
    unfold StunAttribute.wire element rawElement
    rw [hpadding, List.append_nil]
    rfl

theorem demuxed_iff_bindingRequest :
    Demuxed Rtc.ofCrc32 {} (bareMessage Rtc.ofCrc32 0x00 0x01) ↔
      (MethodBitClear (bareMessage Rtc.ofCrc32 0x00 0x01) ↔
        TopBitsClear (bareMessage Rtc.ofCrc32 0x00 0x01)) :=
  demuxed_iff {} (bareMessage_wellFormed _ _ _)

/-- A message of another method is refused, and what has the version of RTP
is taken as STUN. -/
theorem otherMethod_not_demuxed :
    (WellFormed Rtc.ofCrc32 (bareMessage Rtc.ofCrc32 0x08 0x01) ∧
      TopBitsClear (bareMessage Rtc.ofCrc32 0x08 0x01) ∧
      StunMessage.read Rtc.ofCrc32 (bareMessage Rtc.ofCrc32 0x08 0x01) = none) ∧
    (WellFormed Rtc.ofCrc32 (bareMessage Rtc.ofCrc32 0x80 0x01) ∧
      (getStunMessage Rtc.ofCrc32 {} (bareMessage Rtc.ofCrc32 0x80 0x01)).res = true ∧
      isRtpPacket (bareMessage Rtc.ofCrc32 0x80 0x01) = true) := by
  have hrefused := bareMessage_wellFormed Rtc.ofCrc32 0x08 0x01
  have htaken := bareMessage_wellFormed Rtc.ofCrc32 0x80 0x01
  refine ⟨⟨hrefused, by show (0x08 : UInt8) &&& 0xC0 = 0; decide, ?_⟩, htaken, ?_, ?_⟩
  · cases hread : StunMessage.read Rtc.ofCrc32 (bareMessage Rtc.ofCrc32 0x08 0x01) with
    | none => rfl
    | some p =>
      obtain ⟨msg, rest⟩ := p
      obtain rfl := (read_some hread).2
      have hset : ¬ MethodBitClear (bareMessage Rtc.ofCrc32 0x08 0x01) := by
        show ¬ (0x08 : UInt8) &&& 0x08 = 0
        decide
      exact absurd (hrefused.accepted_iff.1 ⟨msg, hread⟩) hset
  · refine (getStunMessage_res_iff _ htaken.fingerprint).2 (htaken.accepted_iff.2 ?_)
    show (0x80 : UInt8) &&& 0x08 = 0
    decide
  · have hlong := htaken.shape.1
    have hversion : (bareMessage Rtc.ofCrc32 0x80 0x01).getD 0 0 &&& 0xC0 = 0x80 := by
      show (0x80 : UInt8) &&& 0xC0 = 0x80
      decide
    unfold isRtpPacket k_min_rtp_packet_len
    rw [hversion, decide_eq_true (by omega), decide_eq_true rfl]
    rfl

end Pc

end XrtcServer
