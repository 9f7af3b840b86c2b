import XrtcServer.Ice.Model.Stun
/-!
# The attributes of a STUN message

What an attribute puts on the wire (`StunAttribute.wire`) takes a multiple
of four bytes, and the attribute loop of `read` takes it off again. `Reads`
is the loop as a relation: the attributes it has after some passes, and the
bytes it has left.
-/

namespace XrtcServer

namespace Ice

open Base Common StunMessage

variable {rtc : Rtc} {buf rest rest' bytes : List UInt8} {attrs : List StunAttribute}
variable {attr : Option StunAttribute}

/-! ## Reading -/

/-- The number at the front of some bytes, in 16 bits. -/
def front16 (buf : List UInt8) : UInt16 := .ofNat (beValue (buf.take 2))

/-- An attribute is its type, its length and its value. -/
theorem readAttribute_eq (rtc : Rtc) (buf : List UInt8) :
    readAttribute rtc buf =
      if 4 ≤ buf.length then readValue rtc (front16 buf) (front16 (buf.drop 2)) (buf.drop 4)
      else none := by
  unfold readAttribute
  simp only [Rtc.readUInt16_eq, readBE]
  by_cases h2 : 2 ≤ buf.length
  · simp only [readExact_of_le h2, Option.map_some]
    by_cases h4 : 4 ≤ buf.length
    · have hdrop : 2 ≤ (buf.drop 2).length := by
        rw [List.length_drop]
        omega
      simp only [readExact_of_le hdrop, Option.map_some, if_pos h4, List.drop_drop]
      rfl
    · have hdrop : (buf.drop 2).length < 2 := by
        rw [List.length_drop]
        omega
      simp only [readExact_of_lt hdrop, Option.map_none, if_neg h4]
  · have hlt : buf.length < 2 := by omega
    have h4 : ¬ 4 ≤ buf.length := by omega
    simp only [readExact_of_lt hlt, Option.map_none, if_neg h4]

/-- The consumption of padding leaves no more than there was. -/
theorem consumePadding_length (rtc : Rtc) (attrLength : UInt16) (buf : List UInt8) :
    (StunAttribute.consumePadding rtc attrLength buf).length ≤ buf.length := by
  unfold StunAttribute.consumePadding
  dsimp only
  split
  · rw [Rtc.consume_eq]
    cases hr : readExact (4 - attrLength.toNat % 4) buf with
    | none => exact Nat.le_refl _
    | some p =>
      have hlength := readExact_length hr
      show p.2.length ≤ buf.length
      omega
  · exact Nat.le_refl _

theorem readValue_length {attrType attrLength : UInt16}
    (h : readValue rtc attrType attrLength buf = some (attr, rest)) : rest.length ≤ buf.length := by
  unfold readValue StunAttribute.readByteString StunAttribute.readUint32 at h
  split at h
  · rw [Rtc.consume_eq, Option.map_map] at h
    obtain ⟨p, hp, heq⟩ := Option.map_eq_some_iff.1 h
    obtain ⟨-, rfl⟩ := Prod.mk.inj heq
    have hlength := readExact_length hp
    omega
  · rw [Rtc.readBytes_eq, Option.map_map] at h
    obtain ⟨p, hp, heq⟩ := Option.map_eq_some_iff.1 h
    obtain ⟨-, rfl⟩ := Prod.mk.inj heq
    have hlength := readExact_length hp
    have hpadding := consumePadding_length rtc attrLength p.2
    omega
  · rw [Rtc.readUInt32_eq, Option.map_map, Option.map_map, readBE, Option.map_map] at h
    obtain ⟨p, hp, heq⟩ := Option.map_eq_some_iff.1 h
    obtain ⟨-, rfl⟩ := Prod.mk.inj heq
    have hlength := readExact_length hp
    show p.2.length ≤ _
    omega

/-- A pass takes four bytes or more. -/
theorem readAttribute_length {p : Option StunAttribute × List UInt8}
    (h : readAttribute rtc buf = some p) : p.2.length + 4 ≤ buf.length := by
  rw [readAttribute_eq] at h
  split at h
  · have hlength := readValue_length h
    rw [List.length_drop] at hlength
    omega
  · cases h

/-- **An attribute that is read** has the class of its type, and comes from
the bytes. -/
theorem readAttribute_cases {attr : StunAttribute}
    (h : readAttribute rtc buf = some (some attr, rest)) :
    (∃ bytes, attr = .byteString (front16 buf) bytes ∧
      getAttributeValueType (front16 buf) = .byteString ∧ bytes.length ≤ buf.length) ∨
    ∃ bits, attr = .uint32 (front16 buf) bits ∧ getAttributeValueType (front16 buf) = .uint32 := by
  rw [readAttribute_eq] at h
  split at h
  · unfold readValue StunAttribute.readByteString StunAttribute.readUint32 at h
    split at h
    · obtain ⟨p, -, heq⟩ := Option.map_eq_some_iff.1 h
      cases (Prod.mk.inj heq).1
    · rename_i hclass
      rw [Rtc.readBytes_eq, Option.map_map] at h
      obtain ⟨p, hp, heq⟩ := Option.map_eq_some_iff.1 h
      obtain ⟨-, hsize⟩ := readExact_some hp
      have hlength := readExact_length hp
      rw [List.length_drop] at hlength
      exact .inl ⟨p.1, (Option.some.inj (Prod.mk.inj heq).1).symm, hclass, by omega⟩
    · rename_i hclass
      rw [Option.map_map] at h
      obtain ⟨p, -, heq⟩ := Option.map_eq_some_iff.1 h
      exact .inr ⟨_, (Option.some.inj (Prod.mk.inj heq).1).symm, hclass⟩
  · cases h

/-- **What the attribute loop has read after some passes**, and what it has
left. -/
inductive Reads (rtc : Rtc) : List UInt8 → List StunAttribute → List UInt8 → Prop
  | nil (buf : List UInt8) : Reads rtc buf [] buf
  | cons {buf rest rest' : List UInt8} {attr : Option StunAttribute} {attrs : List StunAttribute}
    (h : readAttribute rtc buf = some (attr, rest)) (hrest : Reads rtc rest attrs rest') :
    Reads rtc buf (attr.toList ++ attrs) rest'

theorem readPass_dec (s s' : List UInt8 × List StunAttribute) (h : readPass rtc s = .inl s') :
    s'.1.length < s.1.length := by
  unfold readPass at h
  split at h
  · cases hread : readAttribute rtc s.1 with
    | none =>
      rw [hread] at h
      cases h
    | some p =>
      rw [hread] at h
      obtain rfl := Sum.inl.inj h
      have hlength := readAttribute_length hread
      show p.2.length < _
      omega
  · cases h

theorem readPass_of_some {s : List UInt8 × List StunAttribute}
    {p : Option StunAttribute × List UInt8} (h : readAttribute rtc s.1 = some p) :
    readPass rtc s = .inl (p.2, s.2 ++ p.1.toList) := by
  have hlength := readAttribute_length h
  unfold readPass
  rw [if_pos (by omega), h]

theorem Reads.loop (h : Reads rtc buf attrs rest) (before : List StunAttribute) :
    loop (readPass rtc) (buf.length + 1) (buf, before) =
      loop (readPass rtc) (rest.length + 1) (rest, before ++ attrs) := by
  induction h generalizing before with
  | nil buf => rw [List.append_nil]
  | cons hread hrest ih =>
    rename_i buf rest rest' attr attrs
    have hlength : rest.length + 4 ≤ buf.length := readAttribute_length hread
    rw [loop_succ_inl (readPass_of_some (s := (buf, before)) hread), ← List.append_assoc,
      ← ih (before ++ attr.toList)]
    exact loop_fuel_eq (μ := fun s : List UInt8 × List StunAttribute => s.1.length) readPass_dec
      (Nat.lt_of_lt_of_le (Nat.lt_add_of_pos_right (by decide)) hlength)

/-- **`read` has the attributes that the loop reads to the end.** -/
theorem readAttributes_eq_some :
    readAttributes rtc buf = some (rest, attrs) ↔ Reads rtc buf attrs [] ∧ rest = [] := by
  constructor
  · intro h
    have hloop : ∀ (fuel : ℕ) (buf : List UInt8) (before all : List StunAttribute),
        Common.loop (readPass rtc) fuel (buf, before) = .inr (some (rest, all)) →
          rest = [] ∧ ∃ attrs, all = before ++ attrs ∧ Reads rtc buf attrs [] := by
      intro fuel
      induction fuel with
      | zero => exact fun _ _ _ h => by cases h
      | succ fuel ih =>
        intro buf before all h
        cases hread : readAttribute rtc buf with
        | none =>
          have hpass : readPass rtc (buf, before) =
              .inr (if buf.length > 0 then none else some (buf, before)) := by
            unfold readPass
            dsimp only
            rw [hread]
            split <;> rfl
          rw [loop_succ_inr hpass] at h
          split at h
          · cases h
          · rename_i hempty
            obtain rfl : buf = [] := List.length_eq_zero_iff.1 (by omega)
            obtain ⟨rfl, rfl⟩ := Prod.mk.inj (Option.some.inj (Sum.inr.inj h))
            exact ⟨rfl, [], (List.append_nil _).symm, .nil []⟩
        | some p =>
          rw [loop_succ_inl (readPass_of_some (s := (buf, before)) hread)] at h
          obtain ⟨hrest, attrs, rfl, hreads⟩ := ih _ _ _ h
          exact ⟨hrest, p.1.toList ++ attrs, List.append_assoc .., .cons hread hreads⟩
    unfold readAttributes at h
    split at h
    · cases h
    · rename_i heq
      subst h
      obtain ⟨hrest, attrs', rfl, hreads⟩ := hloop _ _ _ _ heq
      exact ⟨hreads, hrest⟩
  · rintro ⟨h, rfl⟩
    unfold readAttributes
    rw [h.loop []]
    rfl

theorem Reads.append {attrs' : List StunAttribute} (h : Reads rtc buf attrs rest)
    (k : Reads rtc rest attrs' rest') : Reads rtc buf (attrs ++ attrs') rest' := by
  induction h with
  | nil buf => exact k
  | cons hread hrest ih =>
    rw [List.append_assoc]
    exact .cons hread (ih k)

/-! ## Reading on -/

/-- The padding is there, or the bytes end before it does. -/
theorem consumePadding_append (rtc : Rtc) (attrLength : UInt16) (buf more : List UInt8) :
    StunAttribute.consumePadding rtc attrLength (buf ++ more) =
        StunAttribute.consumePadding rtc attrLength buf ++ more ∨
      StunAttribute.consumePadding rtc attrLength buf = buf ∧
        buf.length < padding attrLength.toNat := by
  unfold StunAttribute.consumePadding padding
  dsimp only
  split
  · rw [Rtc.consume_eq, Rtc.consume_eq]
    cases hr : readExact (4 - attrLength.toNat % 4) buf with
    | none =>
      refine .inr ⟨rfl, ?_⟩
      have hlt : ¬ 4 - attrLength.toNat % 4 ≤ buf.length := fun hle => by
        rw [readExact_of_le hle] at hr
        cases hr
      omega
    | some p =>
      rw [readExact_append_right hr]
      exact .inl rfl
  · exact .inl rfl

/-- **A value is read in the same way where more follows.** What is left is
what was left and the rest, unless the bytes ended in the padding. -/
theorem readValue_append {attrType attrLength : UInt16}
    (h : readValue rtc attrType attrLength buf = some (attr, rest)) (more : List UInt8) :
    ∃ left, readValue rtc attrType attrLength (buf ++ more) = some (attr, left) ∧
      (left = rest ++ more ∨ rest.length < 4 ∧ buf.length % 4 ≠ 0) := by
  unfold readValue StunAttribute.readByteString StunAttribute.readUint32 at h ⊢
  split at h
  · rw [Rtc.consume_eq, Option.map_map] at h
    obtain ⟨p, hp, heq⟩ := Option.map_eq_some_iff.1 h
    obtain ⟨rfl, rfl⟩ := Prod.mk.inj heq
    rw [Rtc.consume_eq, readExact_append_right hp]
    exact ⟨_, rfl, .inl rfl⟩
  · rw [Rtc.readBytes_eq, Option.map_map] at h
    obtain ⟨p, hp, heq⟩ := Option.map_eq_some_iff.1 h
    obtain ⟨rfl, rfl⟩ := Prod.mk.inj heq
    rw [Rtc.readBytes_eq, readExact_append_right hp]
    refine ⟨_, rfl, ?_⟩
    rcases consumePadding_append rtc attrLength p.2 more with heq | ⟨heq, hlt⟩
    · exact .inl heq
    · have hlength := readExact_length hp
      refine .inr ?_
      rw [heq]
      unfold padding at hlt
      omega
  · rw [Rtc.readUInt32_eq, Option.map_map, Option.map_map] at h
    obtain ⟨p, hp, heq⟩ := Option.map_eq_some_iff.1 h
    obtain ⟨rfl, rfl⟩ := Prod.mk.inj heq
    rw [Rtc.readUInt32_eq, readBE_append_right hp]
    exact ⟨_, rfl, .inl rfl⟩

theorem front16_append {more : List UInt8} (h : 2 ≤ buf.length) :
    front16 (buf ++ more) = front16 buf := by
  unfold front16
  rw [List.take_append_of_le_length h]

theorem readAttribute_append (h : readAttribute rtc buf = some (attr, rest)) (more : List UInt8) :
    ∃ left, readAttribute rtc (buf ++ more) = some (attr, left) ∧
      (left = rest ++ more ∨ rest.length < 4 ∧ buf.length % 4 ≠ 0) := by
  rw [readAttribute_eq] at h
  split at h
  · rename_i hlength
    obtain ⟨left, hleft, hrest⟩ := readValue_append h more
    refine ⟨left, ?_, ?_⟩
    · rw [readAttribute_eq, if_pos (by rw [List.length_append]; omega), front16_append (by omega),
        List.drop_append_of_le_length (by omega), List.drop_append_of_le_length hlength,
        front16_append (by rw [List.length_drop]; omega)]
      exact hleft
    · refine hrest.imp_right fun hshort => ⟨hshort.1, ?_⟩
      rw [List.length_drop] at hshort
      omega
  · cases h

theorem skippedLength_mod (attrLength : UInt16) : (skippedLength attrLength).toNat % 4 = 0 := by
  have hlt := attrLength.toNat_lt
  have hmod : (attrLength % 4).toNat = attrLength.toNat % 4 := UInt16.toNat_mod ..
  have hiff : attrLength % 4 = 0 ↔ attrLength.toNat % 4 = 0 := by
    rw [← UInt16.toNat_inj, hmod]
    rfl
  unfold skippedLength
  by_cases h0 : attrLength.toNat % 4 = 0
  · rw [if_neg (not_not.2 (hiff.2 h0))]
    exact h0
  · have hle : attrLength % 4 ≤ 4 := by
      rw [UInt16.le_iff_toNat_le, hmod]
      show attrLength.toNat % 4 ≤ 4
      omega
    rw [if_pos (mt hiff.1 h0), UInt16.toNat_add, UInt16.toNat_sub_of_le _ _ hle, hmod]
    show (attrLength.toNat + (4 - attrLength.toNat % 4)) % 2 ^ 16 % 4 = 0
    omega

/-- The reader stays aligned. -/
theorem readAttribute_mod (h : readAttribute rtc buf = some (attr, rest))
    (haligned : buf.length % 4 = 0) : rest.length % 4 = 0 := by
  rw [readAttribute_eq] at h
  split at h
  · unfold readValue StunAttribute.readByteString StunAttribute.readUint32 at h
    split at h
    · rw [Rtc.consume_eq, Option.map_map] at h
      obtain ⟨p, hp, heq⟩ := Option.map_eq_some_iff.1 h
      obtain ⟨-, rfl⟩ := Prod.mk.inj heq
      have hskipped := skippedLength_mod (front16 (buf.drop 2))
      have hlength := readExact_length hp
      rw [List.length_drop] at hlength
      omega
    · rw [Rtc.readBytes_eq, Option.map_map] at h
      obtain ⟨p, hp, heq⟩ := Option.map_eq_some_iff.1 h
      obtain ⟨-, rfl⟩ := Prod.mk.inj heq
      have hlength := readExact_length hp
      rw [List.length_drop] at hlength
      unfold StunAttribute.consumePadding
      dsimp only
      split
      · rw [Rtc.consume_eq]
        cases hr : readExact (4 - (front16 (buf.drop 2)).toNat % 4) p.2 with
        | none =>
          have hlt : ¬ 4 - (front16 (buf.drop 2)).toNat % 4 ≤ p.2.length := fun hle => by
            rw [readExact_of_le hle] at hr
            cases hr
          omega
        | some q =>
          have hpadding := readExact_length hr
          show q.2.length % 4 = 0
          omega
      · show p.2.length % 4 = 0
        omega
    · rw [Rtc.readUInt32_eq, Option.map_map, Option.map_map] at h
      obtain ⟨p, hp, heq⟩ := Option.map_eq_some_iff.1 h
      obtain ⟨-, rfl⟩ := Prod.mk.inj heq
      have hlength := readBE_length hp
      rw [List.length_drop] at hlength
      show p.2.length % 4 = 0
      omega
  · cases h

/-- **Aligned bytes are read in the same way where more follows.** -/
theorem Reads.append_right (h : Reads rtc buf attrs rest) (haligned : buf.length % 4 = 0)
    (more : List UInt8) : Reads rtc (buf ++ more) attrs (rest ++ more) := by
  induction h with
  | nil buf => exact .nil _
  | cons hread hrest ih =>
    obtain ⟨left, hleft, rfl | ⟨-, hodd⟩⟩ := readAttribute_append hread more
    · exact .cons hleft (ih (readAttribute_mod hread haligned))
    · exact absurd haligned hodd

/-- **The attributes read from a part come first** in what is read of the
whole. -/
theorem Reads.isPrefix {all : List StunAttribute} (h : Reads rtc buf attrs rest) {more : List UInt8}
    (hall : Reads rtc (buf ++ more) all []) : attrs <+: all := by
  induction h generalizing all with
  | nil buf => exact List.nil_prefix
  | cons hread hrest ih =>
    rename_i buf rest rest' attr attrs
    obtain ⟨left, hleft, hcases⟩ := readAttribute_append hread more
    have hlength : rest.length + 4 ≤ buf.length := readAttribute_length hread
    generalize hdata : buf ++ more = data at hall hleft
    generalize hend : ([] : List UInt8) = nothing at hall
    cases hall with
    | nil =>
      have hempty := congrArg List.length (hdata.trans hend.symm)
      rw [List.length_append, List.length_nil] at hempty
      omega
    | cons hread' hrest' =>
      subst hend
      obtain ⟨rfl, rfl⟩ := Prod.mk.inj (Option.some.inj (hleft.symm.trans hread'))
      rcases hcases with rfl | ⟨hshort, -⟩
      · exact (List.prefix_append_right_inj _).2 (ih hrest')
      · -- nothing more is read of what is shorter than an attribute
        have hnone : attrs = [] := by
          cases hrest with
          | nil => rfl
          | cons hnext _ =>
            have hnext := readAttribute_length hnext
            omega
        rw [hnone, List.append_nil]
        exact List.prefix_append ..

/-! ## On the wire -/

/-- An attribute on the wire with any bytes for its padding. -/
def rawElement (type : UInt16) (value pad : List UInt8) : List UInt8 :=
  beBytes 2 type.toNat ++ beBytes 2 value.length ++ value ++ pad

/-- An attribute on the wire: its type, its length, and its value with
padding. -/
def element (type : UInt16) (value : List UInt8) : List UInt8 :=
  beBytes 2 type.toNat ++ beBytes 2 value.length ++ value ++ List.replicate (padding value.length) 0

variable {type : UInt16} {value pad : List UInt8}

theorem element_length (type : UInt16) (value : List UInt8) :
    (element type value).length = 4 + padded value.length := by
  simp only [element, List.length_append, length_beBytes, List.length_replicate]
  unfold padded
  omega

/-- The bytes after the type and the length of an element. -/
theorem rawElement_drop (type : UInt16) (value pad rest : List UInt8) :
    (rawElement type value pad ++ rest).drop 4 = value ++ (pad ++ rest) := by
  have hhead : (beBytes 2 type.toNat ++ beBytes 2 value.length).length = 4 := by simp
  unfold rawElement
  rw [List.append_assoc, List.append_assoc (beBytes 2 type.toNat ++ beBytes 2 value.length),
    List.drop_left' hhead]

theorem rawElement_front (type : UInt16) (value pad rest : List UInt8) :
    front16 (rawElement type value pad ++ rest) = type := by
  unfold front16 rawElement
  simp only [List.append_assoc]
  rw [List.take_left' (length_beBytes 2 _), beValue_beBytes type.toNat_lt]
  exact UInt16.ofNat_toNat

theorem rawElement_front_length (hfits : value.length < 2 ^ 16) (type : UInt16)
    (pad rest : List UInt8) :
    front16 ((rawElement type value pad ++ rest).drop 2) = .ofNat value.length := by
  unfold front16 rawElement
  simp only [List.append_assoc]
  rw [List.drop_left' (length_beBytes 2 _), List.take_left' (length_beBytes 2 _),
    beValue_beBytes hfits]

theorem element_drop (type : UInt16) (value rest : List UInt8) :
    (element type value ++ rest).drop 4 =
      value ++ (List.replicate (padding value.length) 0 ++ rest) :=
  rawElement_drop ..

theorem element_front (type : UInt16) (value rest : List UInt8) :
    front16 (element type value ++ rest) = type :=
  rawElement_front ..

theorem element_front_length (hfits : value.length < 2 ^ 16) (type : UInt16) (rest : List UInt8) :
    front16 ((element type value ++ rest).drop 2) = .ofNat value.length :=
  rawElement_front_length hfits ..

/-- `read` at an element reads its value. -/
theorem readAttribute_raw (rtc : Rtc) (hfits : value.length < 2 ^ 16) (type : UInt16)
    (pad rest : List UInt8) : readAttribute rtc (rawElement type value pad ++ rest) =
      readValue rtc type (.ofNat value.length) (value ++ (pad ++ rest)) := by
  have hlength : 4 ≤ (rawElement type value pad ++ rest).length := by
    simp only [rawElement, List.length_append, length_beBytes]
    omega
  rw [readAttribute_eq, if_pos hlength, rawElement_front, rawElement_front_length hfits,
    rawElement_drop]

theorem toNat_ofNat {n : ℕ} (h : n < 2 ^ 16) : (UInt16.ofNat n).toNat = n :=
  UInt16.toNat_ofNat_of_lt h

theorem front16_bytes {buf : List UInt8} (h : 2 ≤ buf.length) :
    beBytes 2 (front16 buf).toNat = buf.take 2 := by
  have htwo : (buf.take 2).length = 2 := List.length_take_of_le h
  have hlt := beValue_lt (buf.take 2)
  rw [htwo] at hlt
  unfold front16
  rw [toNat_ofNat hlt]
  nth_rewrite 1 [← htwo]
  exact beBytes_beValue _

/-- Without a wrap, an unknown attribute is skipped by its padded length. -/
theorem skippedLength_toNat {n : ℕ} (h : padded n < 2 ^ 16) :
    (skippedLength (.ofNat n)).toNat = padded n := by
  have hn := toNat_ofNat (Nat.lt_of_le_of_lt (le_padded n) h)
  have hmod : (UInt16.ofNat n % 4).toNat = n % 4 := by
    rw [UInt16.toNat_mod, hn]
    rfl
  have hiff : UInt16.ofNat n % 4 = 0 ↔ n % 4 = 0 := by
    rw [← UInt16.toNat_inj, hmod]
    rfl
  unfold padded padding at h ⊢
  unfold skippedLength
  by_cases h0 : n % 4 = 0
  · rw [if_neg (not_not.2 (hiff.2 h0)), hn]
    omega
  · have hle : UInt16.ofNat n % 4 ≤ 4 := by
      rw [UInt16.le_iff_toNat_le, hmod]
      show n % 4 ≤ 4
      omega
    rw [if_pos (mt hiff.1 h0), UInt16.toNat_add, UInt16.toNat_sub_of_le _ _ hle, hmod, hn]
    show (n + (4 - n % 4)) % 2 ^ 16 = _
    omega

theorem consumePadding_pad (rtc : Rtc) {n : ℕ} (h : n < 2 ^ 16) (hpad : pad.length = padding n)
    (rest : List UInt8) : StunAttribute.consumePadding rtc (.ofNat n) (pad ++ rest) = rest := by
  unfold padding at hpad
  unfold StunAttribute.consumePadding
  dsimp only
  rw [toNat_ofNat h]
  split
  · have hmod : pad.length = 4 - n % 4 := by omega
    rw [Rtc.consume_eq, readExact_append hmod]
    rfl
  · have hnone : pad.length = 0 := by omega
    rw [List.length_eq_zero_iff.1 hnone]
    rfl

/-- A value of an unknown type is skipped with its padding. -/
theorem readAttribute_skipped (rtc : Rtc) (hfits : padded value.length < 2 ^ 16)
    (hpad : pad.length = padding value.length) (htype : getAttributeValueType type = .unknown)
    (rest : List UInt8) :
    readAttribute rtc (rawElement type value pad ++ rest) = some (none, rest) := by
  have hle := le_padded value.length
  have hvalue : (value ++ pad).length = padded value.length := by
    rw [List.length_append, hpad]
    rfl
  rw [readAttribute_raw rtc (by omega), readValue, htype, ← List.append_assoc]
  dsimp only
  rw [Rtc.consume_eq, skippedLength_toNat hfits, readExact_append hvalue]
  rfl

/-- A byte string is read, and its padding consumed. -/
theorem readAttribute_bytes (rtc : Rtc) (hfits : value.length < 2 ^ 16)
    (hpad : pad.length = padding value.length) (htype : getAttributeValueType type = .byteString)
    (rest : List UInt8) : readAttribute rtc (rawElement type value pad ++ rest) =
      some (some (.byteString type value), rest) := by
  rw [readAttribute_raw rtc hfits, readValue, htype]
  dsimp only
  unfold StunAttribute.readByteString
  rw [Rtc.readBytes_eq, toNat_ofNat hfits, readExact_append rfl, Option.map_some, Option.map_some]
  dsimp only
  rw [consumePadding_pad rtc hfits hpad]

/-- A number of four bytes is read. -/
theorem readAttribute_number (rtc : Rtc) (hlength : value.length = 4)
    (htype : getAttributeValueType type = .uint32) (rest : List UInt8) :
    readAttribute rtc (rawElement type value [] ++ rest) =
      some (some (.uint32 type (.ofNat (beValue value))), rest) := by
  rw [readAttribute_raw rtc (by rw [hlength]; decide), readValue, htype]
  dsimp only
  unfold StunAttribute.readUint32
  rw [Rtc.readUInt32_eq, readBE, readExact_append hlength]
  rfl

theorem readAttribute_unknown (rtc : Rtc) (hfits : padded value.length < 2 ^ 16)
    (htype : getAttributeValueType type = .unknown) (rest : List UInt8) :
    readAttribute rtc (element type value ++ rest) = some (none, rest) :=
  readAttribute_skipped rtc hfits List.length_replicate htype rest

theorem readAttribute_byteString (rtc : Rtc) (hfits : value.length < 2 ^ 16)
    (htype : getAttributeValueType type = .byteString) (rest : List UInt8) :
    readAttribute rtc (element type value ++ rest) =
      some (some (.byteString type value), rest) :=
  readAttribute_bytes rtc hfits List.length_replicate htype rest

theorem readAttribute_uint32 (rtc : Rtc) (bits : UInt32)
    (htype : getAttributeValueType type = .uint32) (rest : List UInt8) :
    readAttribute rtc (element type (beBytes 4 bits.toNat) ++ rest) =
      some (some (.uint32 type bits), rest) := by
  have hlength := length_beBytes 4 bits.toNat
  have hnone : element type (beBytes 4 bits.toNat) = rawElement type (beBytes 4 bits.toNat) [] := by
    unfold element rawElement padding
    rw [hlength]
    rfl
  rw [hnone, readAttribute_number rtc hlength htype, beValue_beBytes bits.toNat_lt,
    UInt32.ofNat_toNat]

end Ice

end XrtcServer
