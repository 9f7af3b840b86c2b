import XrtcServer.Ice.Requests
/-!
# Error codes on the way back

An error response is written with an ERROR-CODE attribute, but `read` has no
class for that type and skips it. What is read back has the code that stands
for a missing attribute, so a connection is given up whatever the peer's code
was (`errorCode_readBack_iff`). A reason phrase may be too long for the length
field, and such a response is not read at all.
-/

namespace XrtcServer

namespace Ice

open Base Common StunMessage UDPPort IceConnection

variable {rtc : Rtc} {iceParams : IceParameters} {data rest : List UInt8} {msg : StunMessage}
variable {attr : StunAttribute} {attrs : List StunAttribute} {code : ℤ} {reason : List UInt8}

/-! ## What is read has no error code -/

/-- An attribute that is read is of a known type. -/
theorem readAttribute_known {buf : List UInt8} (h : readAttribute rtc buf = some (some attr, rest)) :
    getAttributeValueType attr.type ≠ .unknown := by
  rcases readAttribute_cases h with ⟨bytes, rfl, hclass, -⟩ | ⟨bits, rfl, hclass⟩
  · show getAttributeValueType (front16 buf) ≠ _
    rw [hclass]
    decide
  · show getAttributeValueType (front16 buf) ≠ _
    rw [hclass]
    decide

theorem Reads.known {buf : List UInt8} (h : Reads rtc buf attrs rest) :
    ∀ attr ∈ attrs, getAttributeValueType attr.type ≠ .unknown := by
  induction h with
  | nil buf => exact fun _ hattr => absurd hattr List.not_mem_nil
  | cons hread hrest ih =>
    intro a ha
    rcases List.mem_append.1 ha with hfirst | hlater
    · rw [Option.mem_toList] at hfirst
      rw [Option.mem_def.1 hfirst] at hread
      exact readAttribute_known hread
    · exact ih a hlater

/-- **Whatever is read has the code of a missing attribute.** -/
theorem ReadAs.errorCode (h : ReadAs rtc data msg) : msg.getErrorCodeValue = STUN_ERROR_GLOBAL_FAIL := by
  have hnone : msg.getAttribute STUN_ATTR_ERROR_CODE = none := by
    refine List.find?_eq_none.2 fun attr hattr htype => ?_
    have hknown := h.attrs.known attr hattr
    rw [of_decide_eq_true htype] at hknown
    exact hknown (by decide)
  unfold getErrorCodeValue
  rw [hnone]

/-! ## What is written for any reason -/

theorem beBytes_mod (w n : ℕ) : beBytes w (n % 256 ^ w) = beBytes w n := by
  have hvalue := beValue_beBytes_mod w n
  have hback := beBytes_beValue (beBytes w n)
  rw [hvalue, length_beBytes] at hback
  exact hback

/-- An attribute of which `write` cuts nothing off: a reason phrase is
written in full though its length is kept in 16 bits. -/
def StunAttribute.Whole (attr : StunAttribute) : Prop :=
  attr.value.length < 2 ^ 16 ∨ ∃ type errorClass number reason,
    attr = .errorCode type errorClass number reason

theorem StunAttribute.Whole.write_wire (h : attr.Whole) (buf : List UInt8) :
    attr.write rtc (rtc.writeUInt16 (rtc.writeUInt16 buf attr.type) attr.length) =
      buf ++ attr.wire := by
  rcases h with hfits | ⟨type, errorClass, number, reason, rfl⟩
  · exact StunAttribute.write_wire hfits buf
  · let attr := StunAttribute.errorCode type errorClass number reason
    have hlength : attr.length.toNat = attr.value.length % 256 ^ 2 := by
      rw [attr.length_eq]
      exact UInt16.toNat_ofNat'
    have hfour : (attr.value.length % 256 ^ 2) % 4 = attr.value.length % 4 := by omega
    have hpadding : ∀ buf, attr.writePadding rtc buf =
        buf ++ List.replicate (padding attr.value.length) 0 := by
      intro buf
      unfold StunAttribute.writePadding padding
      dsimp only
      rw [hlength, hfour]
      split
      · have hmod : (4 - attr.value.length % 4) % 4 = 4 - attr.value.length % 4 := by omega
        rw [Rtc.writeBytes_eq, hmod]
      · have hmod : (4 - attr.value.length % 4) % 4 = 0 := by omega
        rw [hmod, List.replicate_zero, List.append_nil]
    have hwritten : ∀ buf, attr.write rtc buf =
        buf ++ (attr.value ++ List.replicate (padding attr.value.length) 0) := by
      intro buf
      unfold StunAttribute.write
      dsimp only [attr]
      rw [hpadding, Rtc.writeBytes_eq, Rtc.writeUInt32_eq]
      simp [attr, StunAttribute.value]
    show attr.write rtc _ = _ ++ attr.wire
    rw [hwritten, Rtc.writeUInt16_eq, Rtc.writeUInt16_eq, hlength, beBytes_mod]
    simp [StunAttribute.wire, element]
    rfl

/-- A message being built, whatever the room its attributes take. The length
field has it in 16 bits. -/
structure Filled (msg : StunMessage) : Prop where
  length : msg.length = .ofNat (totalSize msg.attrs)
  whole : ∀ attr ∈ msg.attrs, attr.Whole
  typed : ∀ attr ∈ msg.attrs, attr.WellTyped

theorem addAttribute_ofNat (msg : StunMessage) (attr : StunAttribute) :
    (msg.addAttribute attr).length = msg.length + .ofNat attr.paddedSize := by
  have hlength : attr.length.toNat = attr.value.length % 2 ^ 16 := by
    rw [attr.length_eq]
    exact UInt16.toNat_ofNat'
  unfold addAttribute k_stun_attribute_header_size StunAttribute.paddedSize padded padding
  dsimp only
  rw [hlength]
  congr 1
  rw [← UInt16.toNat_inj, UInt16.toNat_ofNat', UInt16.toNat_ofNat']
  split <;> omega

theorem Filled.concat (h : Filled msg) {msg' : StunMessage} (hwhole : attr.Whole)
    (htyped : attr.WellTyped) (hlength : msg'.length = msg.length + .ofNat attr.paddedSize)
    (hattrs : msg'.attrs = msg.attrs ++ [attr]) : Filled msg' := by
  refine ⟨?_, ?_, ?_⟩
  · rw [hlength, hattrs, totalSize_concat, h.length, ← UInt16.ofNat_add]
  · intro a ha
    rcases List.mem_append.1 (hattrs ▸ ha) with hbefore | hlast
    · exact h.whole a hbefore
    · obtain rfl := List.mem_singleton.1 hlast
      exact hwhole
  · intro a ha
    rcases List.mem_append.1 (hattrs ▸ ha) with hbefore | hlast
    · exact h.typed a hbefore
    · obtain rfl := List.mem_singleton.1 hlast
      exact htyped

theorem Filled.addAttribute (h : Filled msg) (hwhole : attr.Whole) (htyped : attr.WellTyped) :
    Filled (msg.addAttribute attr) :=
  h.concat hwhole htyped (addAttribute_ofNat msg attr) rfl

/-- The HMAC is added, whatever the room before it. -/
theorem Filled.addMessageIntegrity (h : Filled msg) (rtc : Rtc) (password : String) :
    ∃ built, msg.addMessageIntegrity rtc password = built ∧ Filled built ∧
      totalSize built.attrs = totalSize msg.attrs + 24 ∧ built.type = msg.type ∧
      built.transactionId = msg.transactionId := by
  let placeholder : StunAttribute :=
    .byteString STUN_ATTR_MESSAGE_INTEGRITY (List.replicate k_stun_message_integrity_size 48)
  let added := msg.addAttribute placeholder
  let hmac := rtc.computeHmac password ((added.write rtc).take ((added.write rtc).length -
    k_stun_attribute_header_size - placeholder.length.toNat))
  have hmac_length : hmac.length = 20 := rtc.computeHmac_length _ _
  have hsize : (StunAttribute.byteString STUN_ATTR_MESSAGE_INTEGRITY hmac).paddedSize = 24 := by
    show 4 + padded hmac.length = 24
    rw [hmac_length]
    rfl
  have hwhole : (StunAttribute.byteString STUN_ATTR_MESSAGE_INTEGRITY hmac).Whole := by
    refine .inl ?_
    show hmac.length < 2 ^ 16
    omega
  have hplaceholder : placeholder.paddedSize = 24 := by decide
  have hadded : added.length = msg.length + .ofNat 24 := by
    rw [← hplaceholder]
    exact addAttribute_ofNat msg placeholder
  refine ⟨{ added with attrs := msg.attrs ++ [.byteString STUN_ATTR_MESSAGE_INTEGRITY hmac]
                       integrity := .integrityOk }, ?_,
    h.concat hwhole ⟨hmac, rfl⟩ ?_ rfl, ?_, rfl, rfl⟩
  · unfold StunMessage.addMessageIntegrity
    exact if_neg (not_not.2 hmac_length)
  · rw [hsize]
    exact hadded
  · show totalSize (msg.attrs ++ [_]) = _
    rw [totalSize_concat, hsize]

/-- The fingerprint is added, whatever the room before it. -/
theorem Filled.addFingerprint (h : Filled msg) (rtc : Rtc) :
    ∃ built, msg.addFingerprint rtc = built ∧ Filled built ∧
      totalSize built.attrs = totalSize msg.attrs + 8 ∧ built.type = msg.type ∧
      built.transactionId = msg.transactionId := by
  let placeholder : StunAttribute := .uint32 STUN_ATTR_FINGERPRINT 0
  let added := msg.addAttribute placeholder
  let c := rtc.computeCrc32 ((added.write rtc).take ((added.write rtc).length -
    k_stun_attribute_header_size - placeholder.length.toNat))
  let attr : StunAttribute := .uint32 STUN_ATTR_FINGERPRINT (c ^^^ STUN_FINGERPRINT_XOR_VALUE)
  have hvalue : attr.value.length = 4 := length_beBytes 4 _
  have hsize : attr.paddedSize = 8 := by
    unfold StunAttribute.paddedSize
    rw [hvalue]
    rfl
  have hwhole : attr.Whole := .inl (by rw [hvalue]; decide)
  have hplaceholder : placeholder.paddedSize = 8 := by decide
  have hadded : added.length = msg.length + .ofNat 8 := by
    rw [← hplaceholder]
    exact addAttribute_ofNat msg placeholder
  refine ⟨{ added with attrs := msg.attrs ++ [attr] }, rfl,
    h.concat hwhole trivial (hsize ▸ hadded) rfl, ?_, rfl, rfl⟩
  show totalSize (msg.attrs ++ [attr]) = _
  rw [totalSize_concat, hsize]

/-- **A message that is built is read back exactly where its length fits.** -/
theorem Filled.read_iff (h : Filled msg) (rtc : Rtc) (htype : msg.type &&& 0x0800 = 0)
    (htid : msg.transactionId.length = k_stun_transaction_id_length) :
    (∃ back, StunMessage.read rtc (msg.write rtc) = some (back, [])) ↔
      totalSize msg.attrs < 2 ^ 16 := by
  have hbytes := write_of_wire rtc fun attr hattr => (h.whole attr hattr).write_wire
  have hlength : (wires msg.attrs).length = totalSize msg.attrs := wires_length _
  have hfield : msg.length.toNat = totalSize msg.attrs % 2 ^ 16 := by
    rw [h.length]
    exact UInt16.toNat_ofNat'
  rw [hbytes, hfield]
  constructor
  · rintro ⟨back, hread⟩
    obtain ⟨hread, -⟩ := read_some hread
    have htotal := hread.length
    have hsays := hread.field
    rw [header_drop] at hsays
    have hfront : front16 (beBytes 2 (totalSize msg.attrs % 2 ^ 16) ++ (beBytes 4
        k_stun_magic_cookie.toNat ++ (msg.transactionId ++ wires msg.attrs))) =
        .ofNat (totalSize msg.attrs % 2 ^ 16) := by
      have hlt : totalSize msg.attrs % 2 ^ 16 < 256 ^ 2 := Nat.mod_lt _ (by decide)
      unfold front16
      rw [List.take_left' (length_beBytes 2 _), beValue_beBytes hlt]
    rw [← hsays, hfront, List.length_append, header_length htid, hlength,
      toNat_ofNat (Nat.mod_lt _ (by decide))] at htotal
    omega
  · intro hfits
    have hreads := reads_wires rtc h.typed hfits []
    rw [List.append_nil] at hreads
    have hread := read_of_reads rtc htype htid (hlength ▸ hfits) hreads
    rw [hlength] at hread
    rw [Nat.mod_eq_of_lt hfits]
    exact ⟨_, hread⟩

/-! ## The error response -/

/-- The port's refusals are error responses with their own reason. -/
theorem bindingErrorResponse_eq (rtc : Rtc) (iceParams : IceParameters) (stunMsg : StunMessage)
    (errCode : ℤ) : bindingErrorResponse rtc iceParams stunMsg errCode =
      sendBindingErrorResponse rtc iceParams stunMsg errCode (toBytes (errorReason errCode)) := rfl

/-- The room the attributes of an error response take. -/
def errorRoom (errCode : ℤ) (reason : List UInt8) : ℕ :=
  4 + padded (4 + reason.length) +
    (if errCode ≠ STUN_ERROR_BAD_REQUEST ∧ errCode ≠ STUN_ERROR_UNAUTHORIZED then 24 else 0) + 8

/-- **An error response is read back exactly where its length fits.** -/
theorem errorResponse_read_iff (rtc : Rtc) (iceParams : IceParameters) {stunMsg : StunMessage}
    (htid : stunMsg.transactionId.length = 12) (errCode : ℤ) (reason : List UInt8) :
    (∃ back, StunMessage.read rtc
      (sendBindingErrorResponse rtc iceParams stunMsg errCode reason) = some (back, [])) ↔
        errorRoom errCode reason < 2 ^ 16 := by
  let start : StunMessage :=
    { type := STUN_BINDING_ERROR_RESPONSE, transactionId := stunMsg.transactionId }
  let coded := start.addAttribute (.ofErrorCode errCode reason)
  have hstart : Filled start :=
    ⟨rfl, fun _ hattr => absurd hattr List.not_mem_nil, fun _ hattr => absurd hattr List.not_mem_nil⟩
  have hcoded : Filled coded := hstart.addAttribute (.inr ⟨_, _, _, _, rfl⟩) trivial
  have hroom : totalSize coded.attrs = 4 + padded (4 + reason.length) := by
    show totalSize ([] ++ [StunAttribute.ofErrorCode errCode reason]) = _
    rw [totalSize_concat]
    unfold StunAttribute.paddedSize StunAttribute.value StunAttribute.ofErrorCode
    dsimp only
    rw [List.length_append, length_beBytes]
    exact Nat.zero_add _
  have hsent : ∃ signed, sendBindingErrorResponse rtc iceParams stunMsg errCode reason =
      (signed.addFingerprint rtc).write rtc ∧ Filled signed ∧
      totalSize signed.attrs + 8 = errorRoom errCode reason ∧
      signed.type = STUN_BINDING_ERROR_RESPONSE ∧ signed.transactionId = stunMsg.transactionId := by
    unfold sendBindingErrorResponse errorRoom
    dsimp only
    by_cases hkey : errCode ≠ STUN_ERROR_BAD_REQUEST ∧ errCode ≠ STUN_ERROR_UNAUTHORIZED
    · obtain ⟨signed, hsigned, hfilled, htotal, htype, hid⟩ :=
        hcoded.addMessageIntegrity rtc iceParams.icePwd
      rw [if_pos hkey, if_pos hkey]
      exact ⟨signed, by rw [← hsigned], hfilled, by rw [htotal, hroom], htype, hid⟩
    · rw [if_neg hkey, if_neg hkey]
      exact ⟨coded, rfl, hcoded, by rw [hroom, Nat.add_zero], rfl, rfl⟩
  obtain ⟨signed, hsent, hfilled, htotal, htype, hid⟩ := hsent
  obtain ⟨built, hbuilt, hfilled, htotal', htype', hid'⟩ := hfilled.addFingerprint rtc
  have hclear : built.type &&& 0x0800 = 0 := by
    rw [htype', htype]
    decide
  rw [hsent, hbuilt, hfilled.read_iff rtc hclear (by rw [hid', hid]; exact htid), htotal', htotal]

/-- The code is read back from the response that carries it. -/
def ReadsBack (rtc : Rtc) (iceParams : IceParameters) (stunMsg : StunMessage) (code : ℤ)
    (reason : List UInt8) : Prop :=
  ∃ back, StunMessage.read rtc (sendBindingErrorResponse rtc iceParams stunMsg code reason) =
    some (back, []) ∧ back.getErrorCodeValue = code

theorem readsBack_iff (rtc : Rtc) (iceParams : IceParameters) {stunMsg : StunMessage}
    (htid : stunMsg.transactionId.length = 12) (code : ℤ) (reason : List UInt8) :
    ReadsBack rtc iceParams stunMsg code reason ↔ code = 600 ∧ reason.length ≤ 65492 := by
  have hread := errorResponse_read_iff rtc iceParams htid code reason
  have hfits : code = 600 → (errorRoom code reason < 2 ^ 16 ↔ reason.length ≤ 65492) := by
    rintro rfl
    unfold errorRoom padded padding
    rw [if_pos (by decide)]
    omega
  constructor
  · rintro ⟨back, hback, hcode⟩
    rw [(read_some hback).1.errorCode] at hcode
    exact ⟨hcode.symm, (hfits hcode.symm).1 (hread.1 ⟨back, hback⟩)⟩
  · rintro ⟨hcode, hlength⟩
    obtain ⟨back, hback⟩ := hread.2 ((hfits hcode).2 hlength)
    refine ⟨back, hback, ?_⟩
    rw [(read_some hback).1.errorCode, hcode]
    rfl

/-! ## What a connection does with it -/

/-- The attribute loop comes to an ERROR-CODE attribute of this code. -/
def Carries (rtc : Rtc) (data : List UInt8) (code : ℤ) : Prop :=
  ∃ attrs reason after, Reads rtc (data.drop k_stun_header_size) attrs
    ((StunAttribute.ofErrorCode code reason).wire ++ after)

/-- **The connection goes by the code of the peer**: of every authenticated
error response that carries this code, whatever else it has, it keeps a
living connection where the code is 400, 401 or 500 and destroys it
otherwise. -/
def GoesByCode (rtc : Rtc) (code : ℤ) : Prop :=
  ∀ (iceParams : IceParameters) (data : List UInt8) (msg : StunResponse) (ch : IceTransportChannel)
    (id : ℕ) (now : ℤ),
    packetOf rtc (getStunMessage rtc iceParams data) = .response msg →
    msg.type = STUN_BINDING_ERROR_RESPONSE → Carries rtc data code →
    msg.integrityOk (ch.heap id).remoteCandidate.password = true → id ∉ ch.destroyed →
    (id ∉ (onConnectionRequestErrorResponse ch id msg now).destroyed ↔
      code = 400 ∨ code = 401 ∨ code = 500)

/-- A response has the code of a missing attribute. -/
theorem packetOf_errorCode {msg : StunResponse}
    (h : packetOf rtc (getStunMessage rtc iceParams data) = .response msg) :
    msg.errorCode = STUN_ERROR_GLOBAL_FAIL := by
  by_cases hparses : ∃ stunMsg, Parses rtc data stunMsg
  · obtain ⟨stunMsg, hparses⟩ := hparses
    by_cases htype : stunMsg.type = STUN_BINDING_REQUEST
    · -- a request is refused, or a request for the channel too
      have hnot : ∀ remoteUfrag,
          packetOf rtc (acceptance stunMsg remoteUfrag) ≠ .response msg := by
        intro remoteUfrag heq
        unfold packetOf acceptance at heq
        dsimp only at heq
        rw [if_neg (by decide), if_pos htype] at heq
        cases heq
      rcases getStunMessage_checked iceParams hparses htype with
        ⟨-, hgot⟩ | ⟨-, -, hgot⟩ | ⟨-, remoteUfrag, -, hgot⟩
      · rw [hgot] at h
        cases h
      · rw [hgot] at h
        cases h
      · rw [hgot] at h
        exact absurd h (hnot remoteUfrag)
    · rw [hparses.got htype] at h
      unfold packetOf at h
      dsimp only at h
      rw [if_neg (by decide), if_neg htype] at h
      split at h
      · obtain rfl := Packet.response.inj h
        exact (read_some hparses.2).1.errorCode
      · cases h
  · rw [getStunMessage_of_not (not_exists.1 hparses)] at h
    cases h

theorem failAndDestroy_destroyed (ch : IceTransportChannel) (id : ℕ) (now : ℤ) :
    id ∈ (failAndDestroy ch id now).destroyed := List.mem_cons_self

/-- **Every error response ends its connection.** -/
theorem onErrorResponse_destroys {msg : StunResponse}
    (h : packetOf rtc (getStunMessage rtc iceParams data) = .response msg) (ch : IceTransportChannel)
    (id : ℕ) (now : ℤ) : id ∈ (onConnectionRequestErrorResponse ch id msg now).destroyed := by
  unfold onConnectionRequestErrorResponse
  dsimp only
  rw [packetOf_errorCode h, if_neg (by decide)]
  exact failAndDestroy_destroyed ..

/-- There is an authenticated error response of every code. -/
theorem exists_carries (rtc : Rtc) (iceParams : IceParameters) (code : ℤ) (password : String) :
    ∃ data msg, packetOf rtc (getStunMessage rtc iceParams data) = .response msg ∧
      msg.type = STUN_BINDING_ERROR_RESPONSE ∧ Carries rtc data code ∧
      msg.integrityOk password = true := by
  let attr := StunAttribute.ofErrorCode code []
  let tid : List UInt8 := List.replicate 12 0
  have htid : tid.length = k_stun_transaction_id_length := List.length_replicate
  have hroom : totalSize [attr] = 8 := by
    have hvalue : attr.value.length = 4 := by simp [attr, StunAttribute.ofErrorCode, StunAttribute.value]
    have hsum : totalSize [attr] = 4 + padded attr.value.length := by
      simp [totalSize, StunAttribute.paddedSize]
    rw [hsum, hvalue]
    rfl
  have hbuildable : ∀ a ∈ [attr], a.Buildable := by
    intro a ha
    obtain rfl := List.mem_singleton.1 ha
    exact ⟨by show STUN_ATTR_ERROR_CODE ≠ _; decide, by show STUN_ATTR_ERROR_CODE ≠ _; decide,
      fun h => absurd h (by show ¬ STUN_ATTR_ERROR_CODE = _; decide),
      fun h => absurd h (by show ¬ STUN_ATTR_ERROR_CODE = _; decide)⟩
  obtain ⟨hvalid, msg, hread, htype, -, -, hintegrity⟩ :=
    build_read rtc STUN_BINDING_ERROR_RESPONSE password (by decide) htid hbuildable
      (by rw [hroom]; decide)
  have hother : msg.type ≠ STUN_BINDING_REQUEST := by
    rw [htype]
    decide
  have hcarries : Carries rtc ((build rtc STUN_BINDING_ERROR_RESPONSE tid [attr] password).write rtc)
      code := by
    have hsplit : ∃ length after, datagram rtc STUN_BINDING_ERROR_RESPONSE tid [attr] [] password =
        header STUN_BINDING_ERROR_RESPONSE length tid ++ (attr.wire ++ after) := by
      unfold datagram wires
      simp only [List.flatMap_singleton, List.append_assoc]
      exact ⟨_, _, rfl⟩
    obtain ⟨length, after, heq⟩ := hsplit
    refine ⟨[], [], after, ?_⟩
    rw [build_write rtc _ _ _ (by rw [hroom]; decide), heq,
      List.drop_left' (header_length htid)]
    exact .nil _
  refine ⟨_, { type := msg.type, transactionId := ofBytes msg.transactionId
               errorCode := msg.getErrorCodeValue
               integrityOk := fun password =>
                 msg.validateMessageIntegrity rtc password = .integrityOk }, ?_, htype, hcarries,
    decide_eq_true hintegrity⟩
  rw [Parses.got ⟨hvalid, hread⟩ hother]
  unfold packetOf
  dsimp only
  rw [if_neg (by decide), if_neg hother, if_pos (.inr htype)]

theorem goesByCode_iff (rtc : Rtc) (code : ℤ) :
    GoesByCode rtc code ↔ ¬ (code = 400 ∨ code = 401 ∨ code = 500) := by
  constructor
  · intro h hkept
    obtain ⟨data, msg, hpacket, htype, hcarries, hintegrity⟩ := exists_carries rtc {} code ""
    have hiff := h {} data msg { ports := [] } 0 0 hpacket htype hcarries hintegrity List.not_mem_nil
    exact hiff.2 hkept (onErrorResponse_destroys hpacket ..)
  · intro hother iceParams data msg ch id now hpacket _ _ _ _
    exact iff_of_false (not_not.2 (onErrorResponse_destroys hpacket ch id now)) hother

/-- **An error code survives exactly where it is the one that stands for
none**, in a reason that fits the length field; and the connection goes by
the code exactly where that is none it would be kept for. -/
theorem errorCode_readBack_iff (rtc : Rtc) (iceParams : IceParameters) {stunMsg : StunMessage}
    (htid : stunMsg.transactionId.length = 12) (code : ℤ) (reason : List UInt8) :
    (ReadsBack rtc iceParams stunMsg code reason ↔ code = 600 ∧ reason.length ≤ 65492) ∧
      (GoesByCode rtc code ↔ ¬ (code = 400 ∨ code = 401 ∨ code = 500)) :=
  ⟨readsBack_iff rtc iceParams htid code reason, goesByCode_iff rtc code⟩

theorem errorCode_readBack_iff_unauthorized :
    (ReadsBack Rtc.ofCrc32 {} {} 401 [85] ↔ (401 : ℤ) = 600 ∧ [85].length ≤ 65492) ∧
      (GoesByCode Rtc.ofCrc32 401 ↔ ¬ ((401 : ℤ) = 400 ∨ (401 : ℤ) = 401 ∨ (401 : ℤ) = 500)) :=
  errorCode_readBack_iff Rtc.ofCrc32 {} (by decide) 401 [85]

/-- Bad Request is read back as no code, and ends the connection. -/
theorem badRequest_not_readBack :
    ¬ ReadsBack Rtc.ofCrc32 {} {} 400 (toBytes "Bad Request") ∧ ¬ GoesByCode Rtc.ofCrc32 400 := by
  constructor
  · rw [readsBack_iff Rtc.ofCrc32 {} (by decide)]
    decide
  · rw [goesByCode_iff]
    decide

end Ice

end XrtcServer
