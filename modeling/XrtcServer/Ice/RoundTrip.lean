import XrtcServer.Ice.Wire
/-!
# What is built is accepted

A message is built with its attributes, its HMAC and its fingerprint in this
order. The HMAC is taken while its attribute is the last, with the length
field at its end, and the check puts the length field back there; the
fingerprint is taken of what comes before its attribute on either side.
-/

namespace XrtcServer

namespace Ice

open Base Common StunMessage

variable {rtc : Rtc} {attr : StunAttribute} {attrs more : List StunAttribute} {msg : StunMessage}
variable {type : UInt16} {transactionId : List UInt8} {password : String}

/-! ## Building -/

theorem totalSize_concat (attrs : List StunAttribute) (attr : StunAttribute) :
    totalSize (attrs ++ [attr]) = totalSize attrs + attr.paddedSize := by
  rw [totalSize_append]
  simp [totalSize]

theorem wires_concat (attrs : List StunAttribute) (attr : StunAttribute) :
    wires (attrs ++ [attr]) = wires attrs ++ attr.wire := by
  unfold wires
  rw [List.flatMap_append, List.flatMap_singleton]

/-- What is written before the attribute added last, where that needs no
padding. -/
theorem Sized.text (rtc : Rtc) (h : Sized msg) (attr : StunAttribute)
    (hfits : totalSize msg.attrs + attr.paddedSize < 2 ^ 16)
    (hsize : attr.paddedSize = 4 + attr.length.toNat) :
    ((msg.addAttribute attr).write rtc).take (((msg.addAttribute attr).write rtc).length -
        k_stun_attribute_header_size - attr.length.toNat) =
      header msg.type (totalSize msg.attrs + attr.paddedSize) msg.transactionId ++
        wires msg.attrs := by
  have hadded := h.addAttribute attr (by rw [totalSize_concat]; exact hfits)
  have hwritten : (msg.addAttribute attr).write rtc =
      header msg.type (totalSize msg.attrs + attr.paddedSize) msg.transactionId ++
        wires msg.attrs ++ attr.wire := by
    have hattrs : (msg.addAttribute attr).attrs = msg.attrs ++ [attr] := rfl
    rw [hadded.write rtc, hattrs, totalSize_concat, wires_concat, List.append_assoc]
    rfl
  rw [hwritten]
  refine List.take_left' ?_
  have hwire := attr.wire_length
  simp only [List.length_append]
  unfold k_stun_attribute_header_size
  omega

/-- An attribute is given another value of the same length. -/
theorem Sized.replace (h : Sized msg) (attr : StunAttribute) {attr' : StunAttribute}
    (hsize : attr'.paddedSize = attr.paddedSize) {built : StunMessage}
    (hfits : totalSize msg.attrs + attr.paddedSize < 2 ^ 16)
    (hlength : built.length = (msg.addAttribute attr).length)
    (hattrs : built.attrs = msg.attrs ++ [attr']) : Sized built := by
  have hadded := h.addAttribute attr (by rw [totalSize_concat]; exact hfits)
  have htotal : totalSize built.attrs = totalSize msg.attrs + attr.paddedSize := by
    rw [hattrs, totalSize_concat, hsize]
  refine ⟨?_, htotal ▸ hfits⟩
  rw [hlength, hadded.length, htotal]
  exact totalSize_concat ..

/-- The integrity attribute of a message with these attributes before it. -/
def integrity (rtc : Rtc) (password : String) (type : UInt16) (transactionId : List UInt8)
    (attrs : List StunAttribute) : StunAttribute :=
  .byteString STUN_ATTR_MESSAGE_INTEGRITY (macOf rtc password type transactionId attrs)

theorem integrity_size (rtc : Rtc) (password : String) (type : UInt16) (transactionId : List UInt8)
    (attrs : List StunAttribute) :
    (integrity rtc password type transactionId attrs).paddedSize = 24 := by
  have hmac : (macOf rtc password type transactionId attrs).length = 20 := rtc.computeHmac_length _ _
  show 4 + padded (macOf rtc password type transactionId attrs).length = 24
  rw [hmac]
  rfl

/-- **The HMAC is that of the message with its length at the attribute's
end.** -/
theorem Sized.addMessageIntegrity (rtc : Rtc) (h : Sized msg)
    (hfits : totalSize msg.attrs + 24 < 2 ^ 16) (password : String) :
    ∃ built, msg.addMessageIntegrity rtc password = built ∧ Sized built ∧
      built.attrs = msg.attrs ++ [integrity rtc password msg.type msg.transactionId msg.attrs] ∧
      built.type = msg.type ∧ built.transactionId = msg.transactionId := by
  let placeholder : StunAttribute :=
    .byteString STUN_ATTR_MESSAGE_INTEGRITY (List.replicate k_stun_message_integrity_size 48)
  have hplaceholder : placeholder.paddedSize = 24 := by decide
  have hmac : ∀ text, (rtc.computeHmac password text).length = k_stun_message_integrity_size :=
    rtc.computeHmac_length password
  have htext := h.text rtc placeholder (by rw [hplaceholder]; exact hfits) (by decide)
  rw [hplaceholder] at htext
  unfold StunMessage.addMessageIntegrity
  dsimp only
  rw [htext, if_neg (not_not.2 (hmac _))]
  refine ⟨_, rfl, h.replace placeholder ?_ ?_ rfl rfl, rfl, rfl, rfl⟩
  · rw [hplaceholder]
    exact integrity_size rtc password msg.type msg.transactionId msg.attrs
  · rw [hplaceholder]
    exact hfits

/-- **The fingerprint is that of the message before its attribute.** -/
theorem Sized.addFingerprint (rtc : Rtc) (h : Sized msg) (hfits : totalSize msg.attrs + 8 < 2 ^ 16) :
    ∃ built, msg.addFingerprint rtc = built ∧ Sized built ∧
      built.attrs = msg.attrs ++ [fingerprint rtc
        (header msg.type (totalSize msg.attrs + 8) msg.transactionId ++ wires msg.attrs)] ∧
      built.type = msg.type ∧ built.transactionId = msg.transactionId := by
  let placeholder : StunAttribute := .uint32 STUN_ATTR_FINGERPRINT 0
  have hplaceholder : placeholder.paddedSize = 8 := by decide
  have htext := h.text rtc placeholder (by rw [hplaceholder]; exact hfits) (by decide)
  rw [hplaceholder] at htext
  unfold StunMessage.addFingerprint
  dsimp only
  rw [htext]
  refine ⟨_, rfl, h.replace placeholder ?_ ?_ rfl rfl, rfl, rfl, rfl⟩
  · rw [hplaceholder]
    exact fingerprint_size rtc _
  · rw [hplaceholder]
    exact hfits

/-- The message that a sender builds: the attributes, then the HMAC, then
the fingerprint. -/
def build (rtc : Rtc) (type : UInt16) (transactionId : List UInt8) (attrs : List StunAttribute)
    (password : String) : StunMessage :=
  ((attrs.foldl addAttribute { type := type, transactionId := transactionId }).addMessageIntegrity
    rtc password).addFingerprint rtc

/-- The datagram of a message with these attributes before and behind its
HMAC. -/
def datagram (rtc : Rtc) (type : UInt16) (transactionId : List UInt8)
    (attrs more : List StunAttribute) (password : String) : List UInt8 :=
  let bytes := header type (totalSize attrs + 24 + (totalSize more + 8)) transactionId ++
    wires attrs ++ (integrity rtc password type transactionId attrs).wire ++ wires more
  bytes ++ (fingerprint rtc bytes).wire

theorem foldl_addAttribute (attrs : List StunAttribute) (type : UInt16) (transactionId : List UInt8)
    (hfits : totalSize attrs < 2 ^ 16) :
    ∃ built, attrs.foldl addAttribute { type := type, transactionId := transactionId } = built ∧
      Sized built ∧ built.attrs = attrs ∧ built.type = type ∧ built.transactionId = transactionId := by
  have hfold : ∀ (left : List StunAttribute) (msg : StunMessage), Sized msg →
      totalSize (msg.attrs ++ left) < 2 ^ 16 →
      ∃ built, left.foldl addAttribute msg = built ∧ Sized built ∧ built.attrs = msg.attrs ++ left ∧
        built.type = msg.type ∧ built.transactionId = msg.transactionId := by
    intro left
    induction left with
    | nil => exact fun msg h _ => ⟨msg, rfl, h, (List.append_nil _).symm, rfl, rfl⟩
    | cons attr left ih =>
      intro msg h hfits
      rw [List.append_cons] at hfits ⊢
      have hone : totalSize (msg.attrs ++ [attr]) < 2 ^ 16 := by
        rw [totalSize_append] at hfits
        omega
      exact ih (msg.addAttribute attr) (h.addAttribute attr hone) hfits
  exact hfold attrs _ ⟨rfl, Nat.two_pow_pos 16⟩ hfits

/-- **The bytes a sender writes.** -/
theorem build_write (rtc : Rtc) (type : UInt16) (transactionId : List UInt8) (password : String)
    (hfits : totalSize attrs + 32 < 2 ^ 16) :
    (build rtc type transactionId attrs password).write rtc =
      datagram rtc type transactionId attrs [] password := by
  obtain ⟨added, hadded, hsized, rfl, rfl, rfl⟩ :=
    foldl_addAttribute attrs type transactionId (by omega)
  obtain ⟨signed, hsigned, hsized', hattrs, htype, htid⟩ :=
    hsized.addMessageIntegrity rtc (by omega) password
  have htotal : totalSize signed.attrs = totalSize added.attrs + 24 := by
    rw [hattrs, totalSize_concat, integrity_size]
  obtain ⟨built, hbuilt, hsized'', hattrs', htype', htid'⟩ := hsized'.addFingerprint rtc (by omega)
  unfold build
  rw [hadded, hsigned, hbuilt, hsized''.write rtc, hattrs', wires_concat, totalSize_concat, htotal,
    fingerprint_size, hattrs, wires_concat, htype', htid', htype, htid]
  simp [datagram, totalSize, wires]

/-! ## Accepting -/

/-- What the reader has of a datagram. -/
def received (rtc : Rtc) (type : UInt16) (transactionId : List UInt8)
    (attrs more : List StunAttribute) (password : String) : StunMessage where
  type := type
  length := .ofNat (totalSize attrs + 24 + (totalSize more + 8))
  transactionId := transactionId
  attrs := attrs.filterMap StunAttribute.kept ++
    integrity rtc password type transactionId attrs :: more.filterMap StunAttribute.kept
  buffer := datagram rtc type transactionId attrs more password

theorem datagram_fingerprint (rtc : Rtc) (htid : transactionId.length = k_stun_transaction_id_length) :
    validateFingerprint rtc (datagram rtc type transactionId attrs more password) = true := by
  have hattrs := totalSize_mod attrs
  have hmore := totalSize_mod more
  have hlength : (header type (totalSize attrs + 24 + (totalSize more + 8)) transactionId ++
      wires attrs ++ (integrity rtc password type transactionId attrs).wire ++ wires more).length =
      20 + totalSize attrs + 24 + totalSize more := by
    simp only [List.length_append, wires_length, StunAttribute.wire_length, integrity_size,
      header_length htid]
    rfl
  refine validateFingerprint_of_eq rtc rfl ?_ ?_ ?_
  · rw [hlength]
    omega
  · rw [hlength]
    unfold k_stun_header_size
    omega
  · unfold datagram
    simp only [List.append_assoc]
    exact header_cookie ..

theorem datagram_read (rtc : Rtc) (htype : type &&& 0x0800 = 0)
    (htid : transactionId.length = k_stun_transaction_id_length)
    (hattrs : ∀ attr ∈ attrs, attr.WellTyped) (hmore : ∀ attr ∈ more, attr.WellTyped)
    (hfits : totalSize attrs + 24 + (totalSize more + 8) < 2 ^ 16) :
    StunMessage.read rtc (datagram rtc type transactionId attrs more password) =
      some (received rtc type transactionId attrs more password, []) := by
  let bytes := header type (totalSize attrs + 24 + (totalSize more + 8)) transactionId ++
    wires attrs ++ (integrity rtc password type transactionId attrs).wire ++ wires more
  -- the attributes in the order in which they are written
  let all := attrs ++ integrity rtc password type transactionId attrs :: (more ++ [fingerprint rtc bytes])
  have hbody : datagram rtc type transactionId attrs more password =
      header type (totalSize attrs + 24 + (totalSize more + 8)) transactionId ++ wires all := by
    simp [datagram, all, bytes, wires]
  have hsize : totalSize all = totalSize attrs + 24 + (totalSize more + 8) := by
    show totalSize (attrs ++ _ :: (more ++ [_])) = _
    rw [List.append_cons, totalSize_append, totalSize_concat, integrity_size, totalSize_concat,
      fingerprint_size]
  have htyped : ∀ attr ∈ all, attr.WellTyped := by
    intro attr hattr
    rcases List.mem_append.1 hattr with hin | hin
    · exact hattrs attr hin
    · rcases List.mem_cons.1 hin with rfl | hin
      · exact ⟨_, rfl⟩
      · rcases List.mem_append.1 hin with hin | hin
        · exact hmore attr hin
        · obtain rfl := List.mem_singleton.1 hin
          trivial
  have hreads := reads_wires rtc htyped (by omega) []
  rw [List.append_nil] at hreads
  have hread := read_of_reads rtc htype htid (by rw [wires_length]; omega) hreads
  rw [wires_length, hsize] at hread
  rw [hbody, hread]
  unfold received
  rw [hbody]
  have hkept : all.filterMap StunAttribute.kept = attrs.filterMap StunAttribute.kept ++
      integrity rtc password type transactionId attrs :: more.filterMap StunAttribute.kept := by
    have hintegrity : (integrity rtc password type transactionId attrs).kept =
        some (integrity rtc password type transactionId attrs) := rfl
    have hfingerprint : (fingerprint rtc bytes).kept = none := rfl
    show (attrs ++ _ :: (more ++ [_])).filterMap StunAttribute.kept = _
    rw [List.filterMap_append, List.filterMap_cons_some hintegrity, List.filterMap_append,
      List.filterMap_cons_none hfingerprint, List.filterMap_nil, List.append_nil]
  rw [hkept]

theorem datagram_integrity (rtc : Rtc)
    (htid : transactionId.length = k_stun_transaction_id_length)
    (htypes : ∀ attr ∈ attrs, attr.type ≠ STUN_ATTR_MESSAGE_INTEGRITY)
    (hfits : totalSize attrs + 24 + (totalSize more + 8) < 2 ^ 16) :
    (received rtc type transactionId attrs more password).validateMessageIntegrity rtc password =
      .integrityOk := by
  let bytes := header type (totalSize attrs + 24 + (totalSize more + 8)) transactionId ++
    wires attrs ++ (integrity rtc password type transactionId attrs).wire ++ wires more
  have hafter : (wires more ++ (fingerprint rtc bytes).wire).length = totalSize more + 8 := by
    rw [List.length_append, wires_length, StunAttribute.wire_length, fingerprint_size]
  have hmore := totalSize_mod more
  have hvalid := validateIntegrity_of_mac rtc password type
    (wires more ++ (fingerprint rtc bytes).wire) htid htypes (by rw [hafter]; exact hfits)
    (by rw [hafter]; omega)
  have hbuffer : (received rtc type transactionId attrs more password).buffer =
      header type (totalSize attrs + 24 + (wires more ++ (fingerprint rtc bytes).wire).length)
        transactionId ++ wires attrs ++ element STUN_ATTR_MESSAGE_INTEGRITY
        (macOf rtc password type transactionId attrs) ++ (wires more ++ (fingerprint rtc bytes).wire) := by
    rw [hafter]
    show datagram rtc type transactionId attrs more password = _
    simp only [datagram, bytes, List.append_assoc]
    rfl
  have hmem : (received rtc type transactionId attrs more password).getByteString
      STUN_ATTR_MESSAGE_INTEGRITY = some (macOf rtc password type transactionId attrs) := by
    have hnone : (attrs.filterMap StunAttribute.kept).find?
        (·.type = STUN_ATTR_MESSAGE_INTEGRITY) = none := by
      refine List.find?_eq_none.2 fun attr hattr => ?_
      obtain ⟨a, ha, hkept⟩ := List.mem_filterMap.1 hattr
      unfold StunAttribute.kept at hkept
      split at hkept
      · cases hkept
      · obtain rfl := Option.some.inj hkept
        exact fun heq => htypes a ha (of_decide_eq_true heq)
    have hfound : (received rtc type transactionId attrs more password).getAttribute
        STUN_ATTR_MESSAGE_INTEGRITY = some (integrity rtc password type transactionId attrs) := by
      unfold getAttribute received
      rw [List.find?_append, hnone, Option.none_or, List.find?_cons_of_pos]
      exact decide_eq_true rfl
    unfold getByteString
    rw [hfound]
    rfl
  unfold validateMessageIntegrity
  rw [hmem, hbuffer, hvalid]
  rfl

/-! ## The round trip -/

/-- An attribute for a sender to add: USERNAME is a byte string, PRIORITY a
number, and the HMAC and the fingerprint come later. -/
structure StunAttribute.Buildable (attr : StunAttribute) : Prop where
  notIntegrity : attr.type ≠ STUN_ATTR_MESSAGE_INTEGRITY
  notFingerprint : attr.type ≠ STUN_ATTR_FINGERPRINT
  username : attr.type = STUN_ATTR_USERNAME → ∃ bytes, attr = .byteString STUN_ATTR_USERNAME bytes
  priority : attr.type = STUN_ATTR_PRIORITY → ∃ bits, attr = .uint32 STUN_ATTR_PRIORITY bits

/-- The attributes whose values the server uses. -/
def StunAttribute.isUsed (attr : StunAttribute) : Bool :=
  attr.type = STUN_ATTR_USERNAME || attr.type = STUN_ATTR_PRIORITY

/-- The XOR address of RFC 5389, of the IPv4 family. -/
def decodeXorAddress (value : List UInt8) : Option SocketAddress :=
  if value.length = 8 ∧ value[1]? = some 1 then
    some { ip := .ofNat (beValue (value.drop 4)) ^^^ 0x2112A442
           port := .ofNat (beValue ((value.drop 2).take 2)) ^^^ 0x2112 }
  else none

theorem StunAttribute.Buildable.wellTyped (h : attr.Buildable) : attr.WellTyped := by
  unfold StunAttribute.WellTyped getAttributeValueType
  by_cases husername : attr.type = STUN_ATTR_USERNAME
  · rw [if_pos (.inl husername), husername]
    exact h.username husername
  · rw [if_neg (not_or.2 ⟨husername, h.notIntegrity⟩)]
    by_cases hpriority : attr.type = STUN_ATTR_PRIORITY
    · rw [if_pos hpriority, hpriority]
      exact h.priority hpriority
    · rw [if_neg hpriority]
      trivial

/-- Of a buildable attribute what is used is kept. -/
theorem StunAttribute.Buildable.kept (h : attr.Buildable) :
    attr.kept = if attr.isUsed then some attr else none := by
  unfold StunAttribute.kept StunAttribute.isUsed getAttributeValueType
  have hintegrity := h.notIntegrity
  by_cases husername : attr.type = STUN_ATTR_USERNAME
  · simp [husername]
  · by_cases hpriority : attr.type = STUN_ATTR_PRIORITY
    · rw [hpriority]
      rfl
    · simp [husername, hpriority, hintegrity]

theorem filter_used (h : ∀ attr ∈ attrs, attr.Buildable) :
    attrs.filterMap StunAttribute.kept = attrs.filter StunAttribute.isUsed := by
  induction attrs with
  | nil => rfl
  | cons attr attrs ih =>
    have hrest := ih fun a ha => h a (List.mem_cons_of_mem _ ha)
    have hkept := (h attr List.mem_cons_self).kept
    rw [List.filter_cons]
    split at hkept
    · rename_i hused
      rw [List.filterMap_cons_some hkept, if_pos hused, hrest]
    · rename_i hused
      rw [List.filterMap_cons_none hkept, if_neg hused, hrest]

/-- **An XOR address is decoded again.** -/
theorem decodeXorAddress_value (type : UInt16) (address : SocketAddress) :
    decodeXorAddress (StunAttribute.xorAddress type address).value = some address := by
  let port := address.port ^^^ 0x2112
  let ip := StunAttribute.getXoredIp address
  have hvalue : (StunAttribute.xorAddress type address).value =
      0 :: 1 :: (beBytes 2 port.toNat ++ beBytes 4 ip.toNat) := rfl
  have hport : (beBytes 2 port.toNat ++ beBytes 4 ip.toNat).take 2 = beBytes 2 port.toNat :=
    List.take_left' (length_beBytes 2 _)
  have hip : (beBytes 2 port.toNat ++ beBytes 4 ip.toNat).drop 2 = beBytes 4 ip.toNat :=
    List.drop_left' (length_beBytes 2 _)
  unfold decodeXorAddress
  rw [hvalue, if_pos (by simp)]
  show some (SocketAddress.mk (.ofNat (beValue ((beBytes 2 port.toNat ++
    beBytes 4 ip.toNat).drop 2)) ^^^ 0x2112A442) (.ofNat (beValue ((beBytes 2 port.toNat ++
    beBytes 4 ip.toNat).take 2)) ^^^ 0x2112)) = some address
  rw [hport, hip, beValue_beBytes (w := 2) port.toNat_lt, beValue_beBytes (w := 4) ip.toNat_lt,
    UInt16.ofNat_toNat, UInt32.ofNat_toNat]
  show some (SocketAddress.mk (address.ip ^^^ 0x2112A442 ^^^ 0x2112A442)
    (address.port ^^^ 0x2112 ^^^ 0x2112)) = some address
  rw [UInt32.xor_assoc, UInt32.xor_self, UInt32.xor_zero, UInt16.xor_assoc, UInt16.xor_self,
    UInt16.xor_zero]

/-- What a sender builds is read back, with its fingerprint and its HMAC. -/
theorem build_read (rtc : Rtc) (type : UInt16) {transactionId : List UInt8}
    {attrs : List StunAttribute} (password : String) (htype : type &&& 0x0800 = 0)
    (htid : transactionId.length = 12) (hattrs : ∀ attr ∈ attrs, attr.Buildable)
    (hfits : totalSize attrs + 32 ≤ 65535) :
    validateFingerprint rtc ((build rtc type transactionId attrs password).write rtc) = true ∧
      ∃ msg, StunMessage.read rtc ((build rtc type transactionId attrs password).write rtc) =
          some (msg, []) ∧ msg.type = type ∧ msg.transactionId = transactionId ∧
        msg.attrs.filter StunAttribute.isUsed = attrs.filter StunAttribute.isUsed ∧
        msg.validateMessageIntegrity rtc password = .integrityOk := by
  have hlt : totalSize attrs + 32 < 2 ^ 16 := by omega
  have hroom : totalSize attrs + 24 + (totalSize [] + 8) < 2 ^ 16 := hlt
  have htyped : ∀ attr ∈ attrs, attr.WellTyped := fun attr hattr => (hattrs attr hattr).wellTyped
  have htypes : ∀ attr ∈ attrs, attr.type ≠ STUN_ATTR_MESSAGE_INTEGRITY :=
    fun attr hattr => (hattrs attr hattr).notIntegrity
  rw [build_write rtc type transactionId password hlt]
  refine ⟨datagram_fingerprint rtc htid, _, datagram_read rtc htype htid htyped (by simp) hroom, rfl,
    rfl, ?_, datagram_integrity rtc htid htypes hroom⟩
  -- the HMAC is read as well, but is none of what is used
  have hintegrity : (integrity rtc password type transactionId attrs).isUsed = false := rfl
  unfold received
  rw [filter_used hattrs, List.filter_append, List.filter_filter, List.filter_cons, hintegrity]
  simp

/-- **What a sender builds is accepted**: the fingerprint and the HMAC are
found good, the message is read to its end with its type, its transaction id
and the values that are used, and the addresses decode to themselves. -/
theorem build_accepted (rtc : Rtc) (password : String) (htype : type &&& 0x0800 = 0)
    (htid : transactionId.length = 12) (hattrs : ∀ attr ∈ attrs, attr.Buildable)
    (hfits : totalSize attrs + 32 ≤ 65535) :
    let data := (build rtc type transactionId attrs password).write rtc
    validateFingerprint rtc data = true ∧
      (∃ msg, StunMessage.read rtc data = some (msg, []) ∧ msg.type = type ∧
        msg.transactionId = transactionId ∧
        msg.attrs.filter StunAttribute.isUsed = attrs.filter StunAttribute.isUsed ∧
        msg.validateMessageIntegrity rtc password = .integrityOk) ∧
      ∀ before xorType address after, attrs = before ++ .xorAddress xorType address :: after →
        ∃ value, decodeXorAddress value = some address ∧
          (data.drop (k_stun_header_size + totalSize before)).take 12 =
            beBytes 2 xorType.toNat ++ beBytes 2 8 ++ value := by
  have hlt : totalSize attrs + 32 < 2 ^ 16 := by omega
  obtain ⟨hvalid, hread⟩ := build_read rtc type password htype htid hattrs hfits
  refine ⟨hvalid, hread, ?_⟩
  rintro before xorType address after rfl
  rw [build_write rtc type transactionId password hlt]
  let xor := StunAttribute.xorAddress xorType address
  have hvalue : xor.value.length = 8 := by simp [xor, StunAttribute.value]
  refine ⟨xor.value, decodeXorAddress_value xorType address, ?_⟩
  have hbefore : ∀ length, (header type length transactionId ++ wires before).length =
      k_stun_header_size + totalSize before := by
    intro length
    rw [List.length_append, header_length htid, wires_length]
  have hwire : xor.wire = beBytes 2 xorType.toNat ++ beBytes 2 8 ++ xor.value := by
    show element xorType xor.value = _
    unfold element
    rw [hvalue]
    exact List.append_nil _
  have hsplit : ∃ length rest, datagram rtc type transactionId (before ++ xor :: after) [] password =
      (header type length transactionId ++ wires before) ++ (xor.wire ++ rest) := by
    have hwires : wires (before ++ xor :: after) = wires before ++ (xor.wire ++ wires after) := by
      simp [wires]
    unfold datagram
    simp only [hwires, List.append_assoc]
    exact ⟨_, _, rfl⟩
  obtain ⟨length, rest, heq⟩ := hsplit
  have hlength : xor.wire.length = 12 := by
    rw [xor.wire_length]
    unfold StunAttribute.paddedSize
    rw [hvalue]
    rfl
  rw [heq, List.drop_left' (hbefore length), List.take_left' hlength, hwire]

/-- CRC32 and HMAC-SHA1 that give nothing but zeros. -/
def blankRtc : Rtc := .documented (fun _ => 0) (fun _ _ => List.replicate 20 0) length_blankHmac

/-- The attributes of a Binding Request. -/
def requestAttrs : List StunAttribute :=
  [.byteString STUN_ATTR_USERNAME [97, 58, 98], .uint32 STUN_ATTR_PRIORITY 7,
    .xorAddress STUN_ATTR_XOR_MAPPED_ADDRESS ⟨0x0A000001, 5000⟩]

theorem build_accepted_request :
    let data := (build blankRtc STUN_BINDING_REQUEST (List.replicate 12 7) requestAttrs "key").write
      blankRtc
    validateFingerprint blankRtc data = true ∧
      (∃ msg, StunMessage.read blankRtc data = some (msg, []) ∧ msg.type = STUN_BINDING_REQUEST ∧
        msg.transactionId = List.replicate 12 7 ∧
        msg.attrs.filter StunAttribute.isUsed = requestAttrs.filter StunAttribute.isUsed ∧
        msg.validateMessageIntegrity blankRtc "key" = .integrityOk) ∧
      ∀ before xorType address after,
        requestAttrs = before ++ .xorAddress xorType address :: after →
        ∃ value, decodeXorAddress value = some address ∧
          (data.drop (k_stun_header_size + totalSize before)).take 12 =
            beBytes 2 xorType.toNat ++ beBytes 2 8 ++ value := by
  refine build_accepted blankRtc "key" (by decide) (by decide) ?_ (by decide)
  intro attr hattr
  simp only [requestAttrs, List.mem_cons, List.not_mem_nil, or_false] at hattr
  rcases hattr with rfl | rfl | rfl
  · exact ⟨by decide, by decide, fun _ => ⟨_, rfl⟩, (absurd · (by decide))⟩
  · exact ⟨by decide, by decide, (absurd · (by decide)), fun _ => ⟨_, rfl⟩⟩
  · exact ⟨by decide, by decide, (absurd · (by decide)), (absurd · (by decide))⟩

end Ice

end XrtcServer
