import Mathlib.Algebra.Order.BigOperators.Group.List
import XrtcServer.Ice.Attributes
/-!
# A STUN message on the wire

A message is written as its header and its attributes (`header`, `wires`).
What is written is read again, the search for the integrity attribute passes
over the attributes before it, and the two checks come out for a message
that ends in its fingerprint and carries the HMAC of what is before it.
-/

namespace XrtcServer

namespace Ice

open Base Common StunMessage

variable {rtc : Rtc} {buf rest : List UInt8} {attr : StunAttribute} {attrs : List StunAttribute}

/-! ## Writing -/

namespace StunAttribute

/-- The value of an attribute on the wire. -/
def value : StunAttribute → List UInt8
  | byteString _ bytes => bytes
  | uint32 _ bits => beBytes 4 bits.toNat
  | uint64 _ bits => beBytes 8 bits.toNat
  | xorAddress _ address =>
    [0, STUN_ADDRESS_IPV4] ++ beBytes 2 (address.port ^^^ 0x2112).toNat ++
      beBytes 4 (getXoredIp address).toNat
  | errorCode _ errorClass number reason =>
    beBytes 4 (errorClass.toUInt32 <<< 8 ||| number.toUInt32).toNat ++ reason

/-- The room an attribute takes: its header and its padded value. -/
def paddedSize (attr : StunAttribute) : ℕ := 4 + padded attr.value.length

/-- The bytes of an attribute. -/
def wire (attr : StunAttribute) : List UInt8 := element attr.type attr.value

theorem wire_length (attr : StunAttribute) : attr.wire.length = attr.paddedSize := element_length ..

theorem length_eq (attr : StunAttribute) : attr.length = .ofNat attr.value.length := by
  cases attr with
  | byteString type bytes => rfl
  | uint32 type bits =>
    show 4 = UInt16.ofNat (beBytes 4 bits.toNat).length
    rw [length_beBytes]
    rfl
  | uint64 type bits =>
    show 8 = UInt16.ofNat (beBytes 8 bits.toNat).length
    rw [length_beBytes]
    rfl
  | xorAddress type address =>
    simp only [length, value, List.length_append, length_beBytes]
    rfl
  | errorCode type errorClass number reason =>
    simp only [length, value, List.length_append, length_beBytes]

theorem writePadding_eq (h : attr.value.length < 2 ^ 16) (buf : List UInt8) :
    attr.writePadding rtc buf = buf ++ List.replicate (padding attr.value.length) 0 := by
  unfold writePadding padding
  dsimp only
  rw [length_eq, toNat_ofNat h]
  split
  · have hmod : (4 - attr.value.length % 4) % 4 = 4 - attr.value.length % 4 := by omega
    rw [Rtc.writeBytes_eq, hmod]
  · have hmod : (4 - attr.value.length % 4) % 4 = 0 := by omega
    rw [hmod, List.replicate_zero, List.append_nil]

theorem write_eq (h : attr.value.length < 2 ^ 16) (buf : List UInt8) :
    attr.write rtc buf =
      buf ++ (attr.value ++ List.replicate (padding attr.value.length) 0) := by
  cases attr with
  | byteString type bytes =>
    have htake : bytes.take (byteString type bytes).length.toNat = bytes := by
      refine List.take_of_length_le ?_
      rw [length_eq, toNat_ofNat h]
      exact Nat.le_refl _
    unfold write
    dsimp only
    rw [htake, writePadding_eq h, Rtc.writeBytes_eq, List.append_assoc]
    rfl
  | uint32 type bits => simp [write, value, padding]
  | uint64 type bits => simp [write, value, padding]
  | xorAddress type address =>
    have hcookie : (k_stun_magic_cookie >>> 16).toUInt16 = 0x2112 := by decide
    simp [write, value, padding, hcookie]
  | errorCode type errorClass number reason =>
    unfold write
    dsimp only
    rw [writePadding_eq h, Rtc.writeBytes_eq, Rtc.writeUInt32_eq]
    simp [value]

/-- An attribute that fits is written as its element. -/
theorem write_wire (h : attr.value.length < 2 ^ 16) (buf : List UInt8) :
    attr.write rtc (rtc.writeUInt16 (rtc.writeUInt16 buf attr.type) attr.length) =
      buf ++ attr.wire := by
  rw [write_eq h, Rtc.writeUInt16_eq, Rtc.writeUInt16_eq, length_eq, toNat_ofNat h]
  simp [wire, element]

end StunAttribute

/-- The bytes of a message before its attributes. -/
def header (type : UInt16) (length : ℕ) (transactionId : List UInt8) : List UInt8 :=
  beBytes 2 type.toNat ++ beBytes 2 length ++ beBytes 4 k_stun_magic_cookie.toNat ++ transactionId

/-- The bytes of some attributes. -/
def wires (attrs : List StunAttribute) : List UInt8 := attrs.flatMap StunAttribute.wire

/-- The room some attributes take. -/
def totalSize (attrs : List StunAttribute) : ℕ := (attrs.map StunAttribute.paddedSize).sum

theorem wires_length (attrs : List StunAttribute) : (wires attrs).length = totalSize attrs := by
  unfold wires totalSize
  rw [List.length_flatMap]
  simp only [StunAttribute.wire_length]

theorem totalSize_append (attrs attrs' : List StunAttribute) :
    totalSize (attrs ++ attrs') = totalSize attrs + totalSize attrs' := by
  simp [totalSize]

theorem totalSize_mod (attrs : List StunAttribute) : totalSize attrs % 4 = 0 := by
  induction attrs with
  | nil => rfl
  | cons attr attrs ih =>
    have hsplit := totalSize_append [attr] attrs
    have hone : totalSize [attr] = 4 + padded attr.value.length := by
      simp [totalSize, StunAttribute.paddedSize]
    have hpadded := padded_mod attr.value.length
    rw [List.singleton_append] at hsplit
    omega

theorem length_le_totalSize (attrs : List StunAttribute) : attrs.length ≤ totalSize attrs := by
  have hone : ∀ n ∈ attrs.map StunAttribute.paddedSize, 1 ≤ n := by
    intro n hn
    obtain ⟨attr, -, rfl⟩ := List.mem_map.1 hn
    unfold StunAttribute.paddedSize
    omega
  have hcount := List.length_le_sum_of_one_le _ hone
  rw [List.length_map] at hcount
  exact hcount

theorem value_lt (h : totalSize attrs < 2 ^ 16) (hmem : attr ∈ attrs) :
    padded attr.value.length < 2 ^ 16 := by
  have hle : attr.paddedSize ≤ totalSize attrs :=
    List.single_le_sum (fun _ _ => Nat.zero_le _) _ (List.mem_map_of_mem hmem)
  unfold StunAttribute.paddedSize at hle
  omega

/-! ## Reading what is written -/

/-- The class of the attribute is the one its type is read as. -/
def StunAttribute.WellTyped (attr : StunAttribute) : Prop :=
  match getAttributeValueType attr.type with
  | .unknown => True
  | .byteString => ∃ bytes, attr = .byteString attr.type bytes
  | .uint32 => ∃ bits, attr = .uint32 attr.type bits

/-- What `read` keeps of an attribute. -/
def StunAttribute.kept (attr : StunAttribute) : Option StunAttribute :=
  if getAttributeValueType attr.type = .unknown then none else some attr

theorem readAttribute_wire (rtc : Rtc) (htyped : attr.WellTyped)
    (hfits : padded attr.value.length < 2 ^ 16) (rest : List UInt8) :
    readAttribute rtc (attr.wire ++ rest) = some (attr.kept, rest) := by
  have hlt := Nat.lt_of_le_of_lt (le_padded _) hfits
  unfold StunAttribute.WellTyped at htyped
  unfold StunAttribute.kept StunAttribute.wire
  cases hclass : getAttributeValueType attr.type with
  | unknown => exact readAttribute_unknown rtc hfits hclass rest
  | byteString =>
    rw [hclass] at htyped
    obtain ⟨bytes, heq⟩ := htyped
    rw [heq] at hclass hlt ⊢
    exact readAttribute_byteString rtc hlt hclass rest
  | uint32 =>
    rw [hclass] at htyped
    obtain ⟨bits, heq⟩ := htyped
    rw [heq] at hclass ⊢
    exact readAttribute_uint32 rtc bits hclass rest

/-- **The attribute loop takes off what has been written.** -/
theorem reads_wires (rtc : Rtc) (htyped : ∀ attr ∈ attrs, attr.WellTyped)
    (hfits : totalSize attrs < 2 ^ 16) (rest : List UInt8) :
    Reads rtc (wires attrs ++ rest) (attrs.filterMap StunAttribute.kept) rest := by
  induction attrs with
  | nil => exact .nil rest
  | cons attr attrs ih =>
    have hrest : totalSize attrs < 2 ^ 16 := by
      have hsplit := totalSize_append [attr] attrs
      rw [List.singleton_append] at hsplit
      omega
    have hread := readAttribute_wire rtc (htyped attr List.mem_cons_self)
      (value_lt hfits List.mem_cons_self) (wires attrs ++ rest)
    have hreads := Reads.cons hread (ih (fun a ha => htyped a (List.mem_cons_of_mem _ ha)) hrest)
    rw [List.filterMap_cons, wires, List.flatMap_cons, List.append_assoc]
    cases hkept : attr.kept with
    | none =>
      rw [hkept] at hreads
      exact hreads
    | some a =>
      rw [hkept] at hreads
      exact hreads

/-! ## Finding the integrity attribute -/

variable {data : List UInt8} {pos : ℕ}

theorem getBE16_front (rtc : Rtc) (h : 2 ≤ buf.length) : rtc.getBE16 buf = front16 buf :=
  rtc.getBE16_eq buf h

/-- The search goes on by an attribute with its padding. -/
theorem integrityPass_inl {next : ℕ} (h : integrityPass rtc data pos = .inl next) :
    pos + 4 ≤ next ∧ next % 4 = pos % 4 := by
  unfold integrityPass k_stun_attribute_header_size at h
  dsimp only at h
  split at h
  · split at h
    · cases h
    · obtain rfl := Sum.inl.inj h
      split <;> omega
  · cases h

/-- The search ends at an attribute of the type. -/
theorem integrityPass_inr {found : ℕ} (h : integrityPass rtc data pos = .inr (some found)) :
    found = pos ∧ pos + 4 ≤ data.length ∧ front16 (data.drop pos) = STUN_ATTR_MESSAGE_INTEGRITY := by
  unfold integrityPass k_stun_attribute_header_size at h
  dsimp only at h
  split at h
  · rename_i hroom
    split at h
    · rename_i htype
      obtain rfl := Option.some.inj (Sum.inr.inj h)
      refine ⟨rfl, hroom, ?_⟩
      rw [← getBE16_front rtc (by rw [List.length_drop]; omega)]
      exact htype
    · cases h
  · cases Sum.inr.inj h

/-- The attribute found is not before the start, and aligned as that is. -/
theorem loop_integrityPass {fuel start found : ℕ}
    (h : loop (integrityPass rtc data) fuel start = .inr (some found)) :
    start ≤ found ∧ found % 4 = start % 4 := by
  refine (loop_of_inv (I := fun p => start ≤ p ∧ p % 4 = start % 4)
    (Q := fun r => ∀ p, r = some p → start ≤ p ∧ p % 4 = start % 4) ?_ ?_ ⟨Nat.le_refl _, rfl⟩
    fuel).2 _ h found rfl
  · intro p next hp hpass
    obtain ⟨hnext, hmod⟩ := integrityPass_inl hpass
    omega
  · intro p r hp hpass q hq
    subst hq
    obtain ⟨rfl, -⟩ := integrityPass_inr hpass
    exact hp

theorem findIntegrity_eq_some (h : findIntegrity rtc data = some pos) :
    loop (integrityPass rtc data) (data.length + 1) k_stun_header_size = .inr (some pos) := by
  unfold findIntegrity at h
  split at h
  · cases h
  · rename_i heq
    rw [heq, h]

theorem findIntegrity_ge (h : findIntegrity rtc data = some pos) : k_stun_header_size ≤ pos :=
  (loop_integrityPass (findIntegrity_eq_some h)).1

theorem findIntegrity_mod (h : findIntegrity rtc data = some pos) : pos % 4 = 0 :=
  (loop_integrityPass (findIntegrity_eq_some h)).2

/-- A pass looks at the type and the length there. -/
theorem integrityPass_congr (rtc : Rtc) {data' : List UInt8} (hroom : pos + 4 ≤ data.length)
    (hroom' : pos + 4 ≤ data'.length)
    (hsame : (data'.drop pos).take 4 = (data.drop pos).take 4) :
    integrityPass rtc data' pos = integrityPass rtc data pos := by
  have htwo : ∀ bytes : List UInt8, (bytes.drop pos).take 2 = ((bytes.drop pos).take 4).take 2 := by
    intro bytes
    rw [List.take_take]
    rfl
  have hnext : ∀ bytes : List UInt8,
      (bytes.drop (pos + 2)).take 2 = ((bytes.drop pos).take 4).drop 2 := by
    intro bytes
    rw [List.drop_take, List.drop_drop]
  have htype : rtc.getBE16 (data'.drop pos) = rtc.getBE16 (data.drop pos) := by
    rw [rtc.getBE16_eq _ (by rw [List.length_drop]; omega),
      rtc.getBE16_eq _ (by rw [List.length_drop]; omega), htwo, htwo, hsame]
  have hlength : rtc.getBE16 (data'.drop (pos + 2)) = rtc.getBE16 (data.drop (pos + 2)) := by
    rw [rtc.getBE16_eq _ (by rw [List.length_drop]; omega),
      rtc.getBE16_eq _ (by rw [List.length_drop]; omega), hnext, hnext, hsame]
  unfold integrityPass k_stun_attribute_header_size
  rw [if_pos hroom, if_pos hroom', htype, hlength]

/-- **The search depends on the bytes up to the attribute found.** -/
theorem findIntegrity_congr {data' : List UInt8} (h : findIntegrity rtc data = some pos)
    (hroom : pos + 4 ≤ data'.length)
    (hsame : ∀ p, k_stun_header_size ≤ p → p ≤ pos →
      (data'.drop p).take 4 = (data.drop p).take 4) : findIntegrity rtc data' = some pos := by
  have hloop : ∀ (fuel start fuel' : ℕ), k_stun_header_size ≤ start → pos - start < fuel' →
      loop (integrityPass rtc data) fuel start = .inr (some pos) →
      loop (integrityPass rtc data') fuel' start = .inr (some pos) := by
    intro fuel
    induction fuel with
    | zero =>
      intro _ _ _ _ hfound
      cases hfound
    | succ fuel ih =>
      intro start fuel' hstart hfuel hfound
      obtain ⟨fuel', rfl⟩ := Nat.exists_eq_succ_of_ne_zero (Nat.ne_of_gt (Nat.zero_lt_of_lt hfuel))
      have hle := (loop_integrityPass hfound).1
      have hroom' : start + 4 ≤ data.length := by
        by_contra hout
        have hpass : integrityPass rtc data start = .inr none := if_neg hout
        rw [loop_succ_inr hpass] at hfound
        cases Sum.inr.inj hfound
      have hin : start + 4 ≤ data'.length := by omega
      have hcongr := integrityPass_congr rtc hroom' hin (hsame start hstart hle)
      cases hpass : integrityPass rtc data start with
      | inl next =>
        have hnext := (integrityPass_inl hpass).1
        rw [loop_succ_inl hpass] at hfound
        have hafter := (loop_integrityPass hfound).1
        rw [loop_succ_inl (hcongr.trans hpass)]
        exact ih next fuel' (by omega) (by omega) hfound
      | inr found =>
        rw [loop_succ_inr hpass] at hfound
        rw [loop_succ_inr (hcongr.trans hpass), hfound]
  have hfound := hloop _ _ (data'.length + 1) (Nat.le_refl _) (by omega) (findIntegrity_eq_some h)
  unfold findIntegrity
  rw [hfound]

/-- A pass at an element looks at its type, and goes to its end. -/
theorem integrityPass_element {type : UInt16} {value : List UInt8} (rtc : Rtc)
    (hfits : value.length < 2 ^ 16) (hpos : data.drop pos = element type value ++ rest) :
    integrityPass rtc data pos =
      if type = STUN_ATTR_MESSAGE_INTEGRITY then .inr (some pos)
      else .inl (pos + (4 + padded value.length)) := by
  have hlength := congrArg List.length hpos
  rw [List.length_drop, List.length_append, element_length] at hlength
  have hroom : pos + k_stun_attribute_header_size ≤ data.length := by
    unfold k_stun_attribute_header_size
    omega
  have htype : rtc.getBE16 (data.drop pos) = type := by
    rw [getBE16_front rtc (by rw [List.length_drop]; omega), hpos, element_front]
  have hlen : (rtc.getBE16 (data.drop (pos + 2))).toNat = value.length := by
    rw [getBE16_front rtc (by rw [List.length_drop]; omega), ← List.drop_drop, hpos,
      element_front_length hfits, toNat_ofNat hfits]
  unfold integrityPass
  rw [if_pos hroom]
  dsimp only
  rw [htype, hlen]
  split
  · rfl
  · congr 1
    unfold padded padding k_stun_attribute_header_size
    split <;> omega

/-- **The search passes over the other attributes.** -/
theorem findIntegrity_wires (rtc : Rtc) {before mac after : List UInt8}
    (hbefore : before.length = k_stun_header_size) (hfits : totalSize attrs < 2 ^ 16)
    (htypes : ∀ attr ∈ attrs, attr.type ≠ STUN_ATTR_MESSAGE_INTEGRITY)
    (hmac : mac.length < 2 ^ 16) :
    findIntegrity rtc (before ++ wires attrs ++ element STUN_ATTR_MESSAGE_INTEGRITY mac ++ after) =
      some (k_stun_header_size + totalSize attrs) := by
  let data := before ++ wires attrs ++ element STUN_ATTR_MESSAGE_INTEGRITY mac ++ after
  -- from the start of the attributes that are left
  have hloop : ∀ (left : List StunAttribute) (pos fuel : ℕ), (∀ attr ∈ left, attr ∈ attrs) →
      data.drop pos = wires left ++ element STUN_ATTR_MESSAGE_INTEGRITY mac ++ after →
      left.length < fuel →
      loop (integrityPass rtc data) fuel pos = .inr (some (pos + totalSize left)) := by
    intro left
    induction left with
    | nil =>
      intro pos fuel _ hpos hfuel
      obtain ⟨fuel, rfl⟩ := Nat.exists_eq_succ_of_ne_zero (Nat.ne_of_gt hfuel)
      have helement : data.drop pos = element STUN_ATTR_MESSAGE_INTEGRITY mac ++ after := hpos
      refine loop_succ_inr ?_
      rw [integrityPass_element rtc hmac helement, if_pos rfl]
      rfl
    | cons attr left ih =>
      intro pos fuel hmem hpos hfuel
      obtain ⟨fuel, rfl⟩ := Nat.exists_eq_succ_of_ne_zero (Nat.ne_of_gt (Nat.zero_lt_of_lt hfuel))
      have hin := hmem attr List.mem_cons_self
      have hlt := Nat.lt_of_le_of_lt (le_padded _) (value_lt hfits hin)
      have hcons : data.drop pos = attr.wire ++
          (wires left ++ element STUN_ATTR_MESSAGE_INTEGRITY mac ++ after) := by
        rw [hpos, wires, List.flatMap_cons]
        simp only [List.append_assoc]
        rfl
      have hpass := integrityPass_element rtc hlt hcons
      rw [if_neg (htypes attr hin)] at hpass
      have hnext : data.drop (pos + attr.paddedSize) =
          wires left ++ element STUN_ATTR_MESSAGE_INTEGRITY mac ++ after := by
        rw [← List.drop_drop, hcons, List.drop_left' attr.wire_length]
      rw [loop_succ_inl hpass]
      refine (ih _ _ (fun a ha => hmem a (List.mem_cons_of_mem _ ha)) hnext ?_).trans ?_
      · rw [List.length_cons] at hfuel
        omega
      · have hsplit := totalSize_append [attr] left
        rw [List.singleton_append] at hsplit
        have hone : totalSize [attr] = attr.paddedSize := by simp [totalSize]
        rw [hsplit, hone, ← Nat.add_assoc]
  have hstart : data.drop k_stun_header_size =
      wires attrs ++ element STUN_ATTR_MESSAGE_INTEGRITY mac ++ after := by
    show (before ++ wires attrs ++ element STUN_ATTR_MESSAGE_INTEGRITY mac ++ after).drop _ = _
    rw [List.append_assoc, List.append_assoc, List.drop_left' hbefore, List.append_assoc]
  have hfuel : attrs.length < data.length + 1 := by
    have hcount := length_le_totalSize attrs
    have hlength : data.length = (before ++ wires attrs ++
      element STUN_ATTR_MESSAGE_INTEGRITY mac ++ after).length := rfl
    simp only [List.length_append, wires_length] at hlength
    omega
  unfold findIntegrity
  rw [hloop attrs _ _ (fun _ h => h) hstart hfuel]

/-! ## The bytes of a message -/

variable {type : UInt16} {transactionId : List UInt8} {length : ℕ} {msg : StunMessage}

theorem header_length (htid : transactionId.length = k_stun_transaction_id_length) :
    (header type length transactionId).length = k_stun_header_size := by
  unfold header k_stun_header_size
  simp only [List.length_append, length_beBytes, htid]
  rfl

/-- A message whose attributes are each written as an element is written as
its header and its attributes. -/
theorem write_of_wire (rtc : Rtc) (hwire : ∀ attr ∈ msg.attrs, ∀ buf,
    attr.write rtc (rtc.writeUInt16 (rtc.writeUInt16 buf attr.type) attr.length) = buf ++ attr.wire) :
    msg.write rtc = header msg.type msg.length.toNat msg.transactionId ++ wires msg.attrs := by
  have hfold : ∀ (attrs : List StunAttribute) (buf : List UInt8),
      (∀ attr ∈ attrs, ∀ buf, attr.write rtc (rtc.writeUInt16 (rtc.writeUInt16 buf attr.type)
        attr.length) = buf ++ attr.wire) →
      attrs.foldl (fun buf attr => attr.write rtc (rtc.writeUInt16 (rtc.writeUInt16 buf attr.type)
        attr.length)) buf = buf ++ wires attrs := by
    intro attrs
    induction attrs with
    | nil => exact fun buf _ => (List.append_nil buf).symm
    | cons attr attrs ih =>
      intro buf hattrs
      rw [List.foldl_cons, hattrs attr List.mem_cons_self,
        ih _ fun a ha => hattrs a (List.mem_cons_of_mem _ ha), List.append_assoc]
      rfl
  unfold write
  dsimp only
  rw [hfold msg.attrs _ hwire]
  simp [header]

/-- A message whose attributes fit is written as its header and its
attributes. -/
theorem write_message (rtc : Rtc) (hfits : ∀ attr ∈ msg.attrs, attr.value.length < 2 ^ 16) :
    msg.write rtc = header msg.type msg.length.toNat msg.transactionId ++ wires msg.attrs :=
  write_of_wire rtc fun attr hattr => StunAttribute.write_wire (hfits attr hattr)

/-- A message with its attributes, its length the room they take. -/
structure Sized (msg : StunMessage) : Prop where
  length : msg.length.toNat = totalSize msg.attrs
  fits : totalSize msg.attrs < 2 ^ 16

/-- An attribute adds its room to the length. -/
theorem addAttribute_length {attr : StunAttribute} (h : msg.length.toNat = totalSize msg.attrs)
    (hfits : totalSize (msg.attrs ++ [attr]) < 2 ^ 16) :
    (msg.addAttribute attr).length.toNat = totalSize (msg.attrs ++ [attr]) := by
  have hmem : attr ∈ msg.attrs ++ [attr] := List.mem_append_right _ (List.mem_singleton.2 rfl)
  have hpadded := value_lt hfits hmem
  have hlt := Nat.lt_of_le_of_lt (le_padded _) hpadded
  have hone : totalSize [attr] = 4 + padded attr.value.length := by
    simp [totalSize, StunAttribute.paddedSize]
  rw [totalSize_append, hone] at hfits ⊢
  unfold addAttribute k_stun_attribute_header_size
  dsimp only
  rw [StunAttribute.length_eq, toNat_ofNat hlt, UInt16.toNat_add, h]
  unfold padded padding at hfits hpadded ⊢
  split
  · rw [toNat_ofNat (by omega)]
    omega
  · rw [toNat_ofNat (by omega)]
    omega

theorem Sized.addAttribute (h : Sized msg) (attr : StunAttribute)
    (hfits : totalSize (msg.attrs ++ [attr]) < 2 ^ 16) : Sized (msg.addAttribute attr) :=
  ⟨addAttribute_length h.length hfits, hfits⟩

theorem Sized.write (rtc : Rtc) (h : Sized msg) : msg.write rtc =
    header msg.type (totalSize msg.attrs) msg.transactionId ++ wires msg.attrs := by
  rw [write_message rtc fun attr hmem => Nat.lt_of_le_of_lt (le_padded _) (value_lt h.fits hmem),
    h.length]

/-! ## What the checks find -/

theorem header_drop (type : UInt16) (length : ℕ) (transactionId rest : List UInt8) :
    (header type length transactionId ++ rest).drop 2 =
      beBytes 2 length ++ (beBytes 4 k_stun_magic_cookie.toNat ++ (transactionId ++ rest)) := by
  unfold header
  simp only [List.append_assoc]
  exact List.drop_left' (length_beBytes 2 _)

/-- The bytes after the length field. -/
theorem header_drop_four (type : UInt16) (length : ℕ) (transactionId rest : List UInt8) :
    (header type length transactionId ++ rest).drop 4 =
      beBytes 4 k_stun_magic_cookie.toNat ++ (transactionId ++ rest) := by
  have hdrop := List.drop_drop (i := 2) (j := 2) (l := header type length transactionId ++ rest)
  rw [← hdrop, header_drop]
  exact List.drop_left' (length_beBytes 2 _)

theorem header_cookie (rtc : Rtc) (type : UInt16) (length : ℕ) (transactionId rest : List UInt8) :
    rtc.getBE32 ((header type length transactionId ++ rest).drop 4) = k_stun_magic_cookie := by
  rw [header_drop_four, rtc.getBE32_eq _ (by simp), List.take_left' (length_beBytes 4 _),
    beValue_beBytes (by decide)]
  rfl

/-- The fingerprint attribute of some bytes. -/
def fingerprint (rtc : Rtc) (bytes : List UInt8) : StunAttribute :=
  .uint32 STUN_ATTR_FINGERPRINT (rtc.computeCrc32 bytes ^^^ STUN_FINGERPRINT_XOR_VALUE)

theorem fingerprint_size (rtc : Rtc) (bytes : List UInt8) : (fingerprint rtc bytes).paddedSize = 8 := by
  unfold fingerprint StunAttribute.paddedSize StunAttribute.value
  rw [length_beBytes]
  rfl

/-- **A message with its fingerprint at the end passes the check.** -/
theorem validateFingerprint_of_eq (rtc : Rtc) {data bytes : List UInt8}
    (hdata : data = bytes ++ (fingerprint rtc bytes).wire) (hlength : bytes.length % 4 = 0)
    (hheader : k_stun_header_size ≤ bytes.length)
    (hcookie : rtc.getBE32 (data.drop 4) = k_stun_magic_cookie) :
    validateFingerprint rtc data = true := by
  have hwire : (fingerprint rtc bytes).wire.length = 8 :=
    (StunAttribute.wire_length _).trans (fingerprint_size rtc bytes)
  have hlen : data.length = bytes.length + 8 := by rw [hdata, List.length_append, hwire]
  have hsub : data.length - (k_stun_attribute_header_size + 4) = bytes.length := by
    rw [hlen]
    rfl
  have hattr : data.drop bytes.length = (fingerprint rtc bytes).wire ++ [] := by
    rw [hdata, List.drop_left, List.append_nil]
  have hmod : ¬ (decide (data.length % 4 ≠ 0) ||
      decide (data.length < k_stun_header_size + (k_stun_attribute_header_size + 4))) = true := by
    unfold k_stun_attribute_header_size k_stun_header_size at *
    simp only [Bool.or_eq_true, decide_eq_true_eq, not_or]
    omega
  unfold StunAttribute.wire at hattr
  have hvalue : (fingerprint rtc bytes).value.length = 4 := length_beBytes 4 _
  have hroom : 8 ≤ (data.drop bytes.length).length := by
    rw [List.length_drop, hlen]
    omega
  have htype : rtc.getBE16 (data.drop bytes.length) = STUN_ATTR_FINGERPRINT := by
    rw [getBE16_front rtc (by omega), hattr, element_front]
    rfl
  have hsize : rtc.getBE16 ((data.drop bytes.length).drop 2) = 4 := by
    rw [getBE16_front rtc (by rw [List.length_drop]; omega), hattr,
      element_front_length (by rw [hvalue]; decide), hvalue]
    rfl
  have hbits : rtc.getBE32 ((data.drop bytes.length).drop k_stun_attribute_header_size) =
      rtc.computeCrc32 bytes ^^^ STUN_FINGERPRINT_XOR_VALUE := by
    unfold k_stun_attribute_header_size
    rw [rtc.getBE32_eq _ (by rw [List.length_drop]; omega), hattr, element_drop]
    show UInt32.ofNat (beValue ((beBytes 4 _ ++ _).take 4)) = _
    rw [List.take_left' (length_beBytes 4 _), beValue_beBytes (UInt32.toNat_lt _), UInt32.ofNat_toNat]
  have htext : data.take bytes.length = bytes := by rw [hdata, List.take_left]
  unfold validateFingerprint
  dsimp only
  rw [hsub, if_neg hmod, if_neg (not_not.2 hcookie), if_neg (not_not.2 htype),
    if_neg (not_not.2 hsize), hbits, htext, UInt32.xor_assoc, UInt32.xor_self, UInt32.xor_zero]
  exact decide_eq_true rfl

/-- **A message is read** where its length is that of its attributes and the
loop reads them. -/
theorem read_of_reads (rtc : Rtc) (htype : type &&& 0x0800 = 0)
    (htid : transactionId.length = k_stun_transaction_id_length) {body : List UInt8}
    (hfits : body.length < 2 ^ 16) (hreads : Reads rtc body attrs []) :
    StunMessage.read rtc (header type body.length transactionId ++ body) =
      some ({ type := type, length := .ofNat body.length, transactionId := transactionId,
              attrs := attrs, buffer := header type body.length transactionId ++ body }, []) := by
  have hcookie : rtc.getBE32 (beBytes 4 k_stun_magic_cookie.toNat) = k_stun_magic_cookie := by
    rw [rtc.getBE32_eq _ (by simp), List.take_of_length_le (by simp), beValue_beBytes (by decide)]
    rfl
  have hfour : (beBytes 4 k_stun_magic_cookie.toNat).length = k_stun_magic_cookie_length :=
    length_beBytes 4 _
  have hparts : header type body.length transactionId ++ body = beBytes 2 type.toNat ++
      (beBytes 2 body.length ++ (beBytes 4 k_stun_magic_cookie.toNat ++ (transactionId ++ body))) := by
    simp [header]
  unfold StunMessage.read
  rw [Rtc.readUInt16_eq]
  nth_rewrite 1 [hparts]
  rw [readBE_append type.toNat_lt, Option.map_some, UInt16.ofNat_toNat]
  dsimp only
  rw [if_neg (not_not.2 htype), Rtc.readUInt16_eq, readBE_append hfits, Option.map_some]
  dsimp only
  rw [Rtc.readBytes_eq, readExact_append hfour]
  dsimp only
  rw [Rtc.readBytes_eq, readExact_append htid]
  dsimp only
  rw [if_neg (not_not.2 hcookie), toNat_ofNat hfits, if_neg (not_not.2 rfl),
    readAttributes_eq_some.2 ⟨hreads, rfl⟩]
  rfl

/-- The text the HMAC is taken of is the message before its attribute, with
the length at the attribute's end. -/
theorem integrityText_eq (rtc : Rtc) {mac after : List UInt8}
    (htid : transactionId.length = k_stun_transaction_id_length) (hmac : mac.length = 20)
    (hfits : totalSize attrs + 24 < 2 ^ 16) :
    integrityText rtc
      (header type (totalSize attrs + 24 + after.length) transactionId ++ wires attrs ++
        element STUN_ATTR_MESSAGE_INTEGRITY mac ++ after) (k_stun_header_size + totalSize attrs) =
      header type (totalSize attrs + 24) transactionId ++ wires attrs := by
  have hheader : ∀ length, (header type length transactionId).length = k_stun_header_size :=
    fun _ => header_length htid
  have hbefore : (header type (totalSize attrs + 24 + after.length) transactionId ++
      wires attrs).length = k_stun_header_size + totalSize attrs := by
    rw [List.length_append, hheader, wires_length]
  have helement : (element STUN_ATTR_MESSAGE_INTEGRITY mac).length = 24 := by
    rw [element_length, hmac]
    rfl
  unfold integrityText k_stun_attribute_header_size k_stun_message_integrity_size
  dsimp only
  simp only [List.append_assoc _ (element _ _)]
  rw [List.take_left' hbefore, List.length_append, hbefore, List.length_append, helement]
  by_cases hempty : after.length = 0
  · rw [if_neg (by omega), hempty]
  · rw [if_pos (by omega)]
    have hadjust : k_stun_header_size + totalSize attrs + (24 + after.length) -
        (k_stun_header_size + totalSize attrs + (24 + after.length) -
          (k_stun_header_size + totalSize attrs + 4 + 20)) - k_stun_header_size =
        totalSize attrs + 24 := by
      omega
    have hroom : 2 ≤ ((header type (totalSize attrs + 24 + after.length) transactionId ++
        wires attrs).drop 2).length := by
      unfold k_stun_header_size at hbefore
      rw [List.length_drop]
      omega
    rw [hadjust, rtc.setBE16_eq _ _ hroom, toNat_ofNat hfits, header_drop,
      List.drop_left' (length_beBytes 2 _)]
    simp [header]

/-- The HMAC of a message with these attributes before it. -/
def macOf (rtc : Rtc) (password : String) (type : UInt16) (transactionId : List UInt8)
    (attrs : List StunAttribute) : List UInt8 :=
  rtc.computeHmac password (header type (totalSize attrs + 24) transactionId ++ wires attrs)

/-- **The HMAC of a message is found good**, whatever follows it. -/
theorem validateIntegrity_of_mac (rtc : Rtc) (password : String) (type : UInt16) (after : List UInt8)
    (htid : transactionId.length = k_stun_transaction_id_length)
    (htypes : ∀ attr ∈ attrs, attr.type ≠ STUN_ATTR_MESSAGE_INTEGRITY)
    (hfits : totalSize attrs + 24 + after.length < 2 ^ 16) (hafter : after.length % 4 = 0) :
    validateMessageIntegrityOfType rtc
      (header type (totalSize attrs + 24 + after.length) transactionId ++ wires attrs ++
        element STUN_ATTR_MESSAGE_INTEGRITY (macOf rtc password type transactionId attrs) ++ after)
      password = true := by
  let mac := macOf rtc password type transactionId attrs
  have hmac : mac.length = 20 := rtc.computeHmac_length _ _
  have hheader : (header type (totalSize attrs + 24 + after.length) transactionId).length =
      k_stun_header_size := header_length htid
  have helement : (element STUN_ATTR_MESSAGE_INTEGRITY mac).length = 24 := by
    rw [element_length, hmac]
    rfl
  have hmod := totalSize_mod attrs
  let data := header type (totalSize attrs + 24 + after.length) transactionId ++ wires attrs ++
    element STUN_ATTR_MESSAGE_INTEGRITY mac ++ after
  have hlength : data.length = k_stun_header_size + totalSize attrs + 24 + after.length := by
    simp only [data, List.length_append, hheader, wires_length, helement]
  have haligned : ¬ (decide (data.length % 4 ≠ 0) || decide (data.length < k_stun_header_size)) =
      true := by
    unfold k_stun_header_size at *
    simp only [Bool.or_eq_true, decide_eq_true_eq, not_or]
    omega
  have hfield : (rtc.getBE16 (data.drop 2)).toNat = totalSize attrs + 24 + after.length := by
    have hroom : 2 ≤ (data.drop 2).length := by
      unfold k_stun_header_size at hlength
      rw [List.length_drop]
      omega
    rw [getBE16_front rtc hroom]
    simp only [data, List.append_assoc]
    rw [header_drop]
    unfold front16
    rw [List.take_left' (length_beBytes 2 _), beValue_beBytes hfits, toNat_ofNat hfits]
  have hfield' : ¬ (rtc.getBE16 (data.drop 2)).toNat + k_stun_header_size ≠ data.length := by
    rw [hfield]
    omega
  have hfind : findIntegrity rtc data = some (k_stun_header_size + totalSize attrs) :=
    findIntegrity_wires rtc hheader (by omega) htypes (by rw [hmac]; decide)
  have htext : integrityText rtc data (k_stun_header_size + totalSize attrs) =
      header type (totalSize attrs + 24) transactionId ++ wires attrs :=
    integrityText_eq rtc htid hmac (by omega)
  have hcompared : (data.drop (k_stun_header_size + totalSize attrs +
      k_stun_attribute_header_size)).take k_stun_message_integrity_size = mac := by
    have hbefore : (header type (totalSize attrs + 24 + after.length) transactionId ++
        wires attrs).length = k_stun_header_size + totalSize attrs := by
      rw [List.length_append, hheader, wires_length]
    have hpos : data.drop (k_stun_header_size + totalSize attrs) =
        element STUN_ATTR_MESSAGE_INTEGRITY mac ++ after := by
      simp only [data, List.append_assoc _ (element _ _)]
      exact List.drop_left' hbefore
    rw [← List.drop_drop, hpos]
    unfold k_stun_attribute_header_size
    rw [element_drop]
    exact List.take_left' hmac
  have hsize : ∀ key text, (rtc.computeHmac key text).length = k_stun_message_integrity_size :=
    rtc.computeHmac_length
  show validateMessageIntegrityOfType rtc data password = true
  unfold validateMessageIntegrityOfType
  rw [if_neg haligned, if_neg hfield', hfind]
  dsimp only
  rw [htext, if_neg (not_not.2 (hsize _ _)), hcompared]
  exact decide_eq_true rfl

end Ice

end XrtcServer
