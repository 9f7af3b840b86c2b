import XrtcServer.Ice.Protected
/-!
# Two walks over the attributes

The attribute loop of `read` and the search for the integrity attribute each
go over the attributes of a datagram, the one with the lengths of its
classes and of 16 bits, the other with the declared lengths. `Walk` is the
way by the declared, padded lengths. The search always goes it; `read` does
where every attribute is `Regular`, and nowhere else do its values tile the
message.
-/

namespace XrtcServer

namespace Ice

open Base Common StunMessage

variable {rtc : Rtc} {data buf rest : List UInt8} {pos : ℕ}

/-! ## Boundaries -/

/-- **An attribute as a loop comes to it**: where it starts, its type, and
the length it declares. -/
structure Boundary where
  offset : ℕ
  type : UInt16
  length : UInt16
deriving DecidableEq, Repr

namespace Boundary

/-- Where the padded value ends. -/
def fin (b : Boundary) : ℕ := b.offset + (4 + padded b.length.toNat)

/-- A PRIORITY of one to four bytes, an unknown attribute whose padded
length is a number of 16 bits, or a byte string. -/
def Regular (b : Boundary) : Prop :=
  match getAttributeValueType b.type with
  | .unknown => padded b.length.toNat < 2 ^ 16
  | .byteString => True
  | .uint32 => padded b.length.toNat = 4

instance (b : Boundary) : Decidable b.Regular := by
  unfold Regular
  split <;> infer_instance

end Boundary

/-- The boundaries the attribute loop of `read` visits. -/
def readBoundaries (rtc : Rtc) (data : List UInt8) : List Boundary :=
  let attributes := data.drop k_stun_header_size
  (visited (readPass rtc) (attributes.length + 1) (attributes, [])).filterMap fun s =>
    if s.1.length > 0 then some ⟨data.length - s.1.length, front16 s.1, front16 (s.1.drop 2)⟩
    else none

/-- The boundaries the search for the integrity attribute visits. -/
def scanBoundaries (rtc : Rtc) (data : List UInt8) : List Boundary :=
  (visited (integrityPass rtc data) (data.length + 1) k_stun_header_size).filterMap fun pos =>
    if pos + k_stun_attribute_header_size ≤ data.length then
      some ⟨pos, rtc.getBE16 (data.drop pos), rtc.getBE16 (data.drop (pos + 2))⟩
    else none

/-- The boundaries up to the first MESSAGE-INTEGRITY. -/
def upToIntegrity : List Boundary → List Boundary
  | [] => []
  | b :: bs => if b.type = STUN_ATTR_MESSAGE_INTEGRITY then [b] else b :: upToIntegrity bs

/-- Each starts where the one before ends, the first at `start`, and the
last ends at `fin`. -/
def Tiles : ℕ → List Boundary → ℕ → Prop
  | start, [], fin => start = fin
  | start, b :: bs, fin => b.offset = start ∧ Tiles b.fin bs fin

/-- **The two loops go over a message alike.** -/
structure SameWalk (rtc : Rtc) (data : List UInt8) (msg : StunMessage) : Prop where
  boundaries : upToIntegrity (readBoundaries rtc data) = scanBoundaries rtc data
  tiles : Tiles k_stun_header_size (readBoundaries rtc data) data.length
  integrity : msg.getByteString STUN_ATTR_MESSAGE_INTEGRITY ≠ none ↔ findIntegrity rtc data ≠ none

/-! ## The way by the declared lengths -/

/-- The attribute at a position, where there is room for one. -/
def boundaryAt (data : List UInt8) (pos : ℕ) : Option Boundary :=
  if pos + 4 ≤ data.length then some ⟨pos, front16 (data.drop pos), front16 (data.drop (pos + 2))⟩
  else none

/-- The attributes from a position on. -/
def attributesFrom (data : List UInt8) : ℕ → ℕ → List Boundary
  | 0, _ => []
  | fuel + 1, pos =>
    match boundaryAt data pos with
    | none => []
    | some b => b :: attributesFrom data fuel b.fin

/-- The attributes of a datagram, each where the padded value of the one
before ends. -/
def attributeWalk (data : List UInt8) : List Boundary :=
  attributesFrom data (data.length + 1) k_stun_header_size

/-- **The way from a position on**, as a relation. -/
inductive Walk (data : List UInt8) : ℕ → List Boundary → Prop
  | stop {pos : ℕ} (h : boundaryAt data pos = none) : Walk data pos []
  | next {pos : ℕ} {b : Boundary} {bs : List Boundary} (h : boundaryAt data pos = some b)
    (hrest : Walk data b.fin bs) : Walk data pos (b :: bs)

variable {b : Boundary} {bs bs' : List Boundary}

theorem boundaryAt_some (h : boundaryAt data pos = some b) :
    pos + 4 ≤ data.length ∧ b = ⟨pos, front16 (data.drop pos), front16 (data.drop (pos + 2))⟩ := by
  unfold boundaryAt at h
  split at h
  · rename_i hroom
    exact ⟨hroom, (Option.some.inj h).symm⟩
  · cases h

theorem boundaryAt_fin (h : boundaryAt data pos = some b) : b.offset = pos ∧ pos + 4 ≤ b.fin := by
  obtain ⟨-, rfl⟩ := boundaryAt_some h
  refine ⟨rfl, ?_⟩
  show pos + 4 ≤ pos + (4 + _)
  omega

theorem walk_attributesFrom (data : List UInt8) (fuel pos : ℕ) (h : data.length < pos + fuel) :
    Walk data pos (attributesFrom data fuel pos) := by
  induction fuel generalizing pos with
  | zero =>
    refine .stop ?_
    unfold boundaryAt
    rw [if_neg (by omega)]
  | succ fuel ih =>
    unfold attributesFrom
    cases hb : boundaryAt data pos with
    | none => exact .stop hb
    | some b =>
      have hfin := (boundaryAt_fin hb).2
      exact .next hb (ih b.fin (by omega))

theorem walk_attributeWalk (data : List UInt8) :
    Walk data k_stun_header_size (attributeWalk data) :=
  walk_attributesFrom data _ _ (by omega)

theorem Walk.eq (h : Walk data pos bs) (h' : Walk data pos bs') : bs = bs' := by
  induction h generalizing bs' with
  | stop hnone =>
    cases h' with
    | stop => rfl
    | next hsome =>
      rw [hnone] at hsome
      cases hsome
  | next hb hrest ih =>
    cases h' with
    | stop hnone =>
      rw [hnone] at hb
      cases hb
    | next hb' hrest' =>
      obtain rfl := Option.some.inj (hb.symm.trans hb')
      rw [ih hrest']

/-! ## The search -/

/-- A pass of the search looks at the attribute there. -/
theorem integrityPass_eq (rtc : Rtc) (data : List UInt8) (pos : ℕ) :
    integrityPass rtc data pos =
      match boundaryAt data pos with
      | none => .inr none
      | some b =>
        if b.type = STUN_ATTR_MESSAGE_INTEGRITY then .inr (some b.offset) else .inl b.fin := by
  unfold integrityPass boundaryAt k_stun_attribute_header_size
  by_cases hroom : pos + 4 ≤ data.length
  · rw [if_pos hroom, if_pos hroom, getBE16_front rtc (by rw [List.length_drop]; omega),
      getBE16_front rtc (by rw [List.length_drop]; omega)]
    dsimp only
    split
    · rfl
    · congr 1
      unfold Boundary.fin padded padding
      dsimp only
      split <;> omega
  · rw [if_neg hroom, if_neg hroom]

/-- A pass at a boundary. -/
theorem integrityPass_some (rtc : Rtc) {b : Boundary} (hb : boundaryAt data pos = some b) :
    integrityPass rtc data pos =
      if b.type = STUN_ATTR_MESSAGE_INTEGRITY then .inr (some b.offset) else .inl b.fin := by
  rw [integrityPass_eq, hb]

/-- **The search goes the way**, and ends at the first attribute of its
type. -/
theorem Walk.loop (h : Walk data pos bs) (rtc : Rtc) {fuel : ℕ} (hfuel : data.length < pos + fuel)
    (hpos : 0 < fuel) :
    loop (integrityPass rtc data) fuel pos =
      .inr ((bs.find? (·.type = STUN_ATTR_MESSAGE_INTEGRITY)).map Boundary.offset) := by
  induction h generalizing fuel with
  | stop hb =>
    obtain ⟨fuel, rfl⟩ := Nat.exists_eq_succ_of_ne_zero (Nat.ne_of_gt hpos)
    refine loop_succ_inr ?_
    rw [integrityPass_eq, hb]
    rfl
  | next hb hrest ih =>
    rename_i pos b bs
    obtain ⟨fuel, rfl⟩ := Nat.exists_eq_succ_of_ne_zero (Nat.ne_of_gt hpos)
    have hroom := (boundaryAt_some hb).1
    have hfin := (boundaryAt_fin hb).2
    have hpass := integrityPass_some rtc hb
    by_cases htype : b.type = STUN_ATTR_MESSAGE_INTEGRITY
    · rw [if_pos htype] at hpass
      simp only [loop_succ_inr hpass, List.find?_cons, htype, decide_true, Option.map_some]
    · rw [if_neg htype] at hpass
      rw [loop_succ_inl hpass, ih (by omega) (by omega)]
      simp only [List.find?_cons, htype, decide_false]

theorem findIntegrity_eq (rtc : Rtc) (data : List UInt8) :
    findIntegrity rtc data =
      ((attributeWalk data).find? (·.type = STUN_ATTR_MESSAGE_INTEGRITY)).map Boundary.offset := by
  unfold findIntegrity
  rw [(walk_attributeWalk data).loop rtc (by omega) (by omega)]

/-- The boundary a pass of the search visits. -/
theorem scanned_eq (rtc : Rtc) (data : List UInt8) (pos : ℕ) :
    (if pos + k_stun_attribute_header_size ≤ data.length then
      some ⟨pos, rtc.getBE16 (data.drop pos), rtc.getBE16 (data.drop (pos + 2))⟩
    else none) = boundaryAt data pos := by
  unfold boundaryAt k_stun_attribute_header_size
  by_cases hroom : pos + 4 ≤ data.length
  · rw [if_pos hroom, if_pos hroom, getBE16_front rtc (by rw [List.length_drop]; omega),
      getBE16_front rtc (by rw [List.length_drop]; omega)]
  · rw [if_neg hroom, if_neg hroom]

theorem Walk.visited (h : Walk data pos bs) (rtc : Rtc) {fuel : ℕ}
    (hfuel : data.length < pos + fuel) (hpos : 0 < fuel) :
    (visited (integrityPass rtc data) fuel pos).filterMap (boundaryAt data) = upToIntegrity bs := by
  induction h generalizing fuel with
  | stop hb =>
    rename_i pos
    obtain ⟨fuel, rfl⟩ := Nat.exists_eq_succ_of_ne_zero (Nat.ne_of_gt hpos)
    have hpass := integrityPass_eq rtc data pos
    rw [hb] at hpass
    rw [visited_succ_inr hpass, List.filterMap_cons_none hb]
    rfl
  | next hb hrest ih =>
    rename_i pos b bs
    obtain ⟨fuel, rfl⟩ := Nat.exists_eq_succ_of_ne_zero (Nat.ne_of_gt hpos)
    have hroom := (boundaryAt_some hb).1
    have hfin := (boundaryAt_fin hb).2
    have hpass := integrityPass_some rtc hb
    by_cases htype : b.type = STUN_ATTR_MESSAGE_INTEGRITY
    · rw [if_pos htype] at hpass
      rw [visited_succ_inr hpass, List.filterMap_cons_some hb, upToIntegrity, if_pos htype]
      rfl
    · rw [if_neg htype] at hpass
      rw [visited_succ_inl hpass, List.filterMap_cons_some hb, ih (by omega) (by omega),
        upToIntegrity, if_neg htype]

theorem scanBoundaries_eq (rtc : Rtc) (data : List UInt8) :
    scanBoundaries rtc data = upToIntegrity (attributeWalk data) := by
  have hscanned : (fun pos => if pos + k_stun_attribute_header_size ≤ data.length then
      some ⟨pos, rtc.getBE16 (data.drop pos), rtc.getBE16 (data.drop (pos + 2))⟩
    else none) = boundaryAt data := funext fun pos => scanned_eq rtc data pos
  unfold scanBoundaries
  rw [hscanned, (walk_attributeWalk data).visited rtc (by omega) (by omega)]

/-! ## The attribute loop -/

/-- The bytes `read` takes for a value, of aligned bytes. -/
def valueSize (attrType attrLength : UInt16) : ℕ :=
  match getAttributeValueType attrType with
  | .unknown => (skippedLength attrLength).toNat
  | .byteString => padded attrLength.toNat
  | .uint32 => 4

/-- An attribute is regular if its value is taken with its padding. -/
theorem Boundary.regular_iff (b : Boundary) :
    b.Regular ↔ valueSize b.type b.length = padded b.length.toNat := by
  unfold Boundary.Regular valueSize
  split
  · constructor
    · intro hfits
      have hsize := skippedLength_toNat hfits
      rw [UInt16.ofNat_toNat] at hsize
      exact hsize
    · intro hsize
      rw [← hsize]
      exact (skippedLength b.length).toNat_lt
  · exact iff_of_true trivial rfl
  · exact eq_comm

/-- Of aligned bytes, a byte string is taken with its padding. -/
theorem consumePadding_aligned (rtc : Rtc) {attrLength : UInt16}
    (h : (buf.length + attrLength.toNat) % 4 = 0) :
    StunAttribute.consumePadding rtc attrLength buf = buf.drop (padding attrLength.toNat) := by
  unfold StunAttribute.consumePadding padding
  dsimp only
  split
  · have hmod : (4 - attrLength.toNat % 4) % 4 = 4 - attrLength.toNat % 4 := by omega
    rw [Rtc.consume_eq, hmod, readExact_of_le (by omega)]
    rfl
  · have hmod : (4 - attrLength.toNat % 4) % 4 = 0 := by omega
    rw [hmod, List.drop_zero]

/-- **What the loop takes of an attribute.** -/
theorem readAttribute_some {attr : Option StunAttribute}
    (h : readAttribute rtc buf = some (attr, rest)) (haligned : buf.length % 4 = 0) :
    4 + valueSize (front16 buf) (front16 (buf.drop 2)) ≤ buf.length ∧
      rest = buf.drop (4 + valueSize (front16 buf) (front16 (buf.drop 2))) ∧
      attr.map StunAttribute.type =
        if getAttributeValueType (front16 buf) = .unknown then none else some (front16 buf) := by
  rw [readAttribute_eq] at h
  split at h
  · rename_i hroom
    have hdrop := List.length_drop (i := 4) (l := buf)
    unfold readValue StunAttribute.readByteString StunAttribute.readUint32 at h
    split at h
    · rename_i hclass
      rw [Rtc.consume_eq, Option.map_map] at h
      obtain ⟨p, hp, heq⟩ := Option.map_eq_some_iff.1 h
      obtain ⟨rfl, rfl⟩ := Prod.mk.inj heq
      obtain ⟨hsplit, hsize⟩ := readExact_some hp
      have hlength := readExact_length hp
      have htaken : valueSize (front16 buf) (front16 (buf.drop 2)) =
          (skippedLength (front16 (buf.drop 2))).toNat := by
        simp only [valueSize, hclass]
      rw [htaken, if_pos hclass]
      refine ⟨by omega, ?_, rfl⟩
      rw [← List.drop_drop, hsplit]
      exact (List.drop_left' hsize).symm
    · rename_i hclass
      rw [Rtc.readBytes_eq, Option.map_map] at h
      obtain ⟨p, hp, heq⟩ := Option.map_eq_some_iff.1 h
      obtain ⟨rfl, rfl⟩ := Prod.mk.inj heq
      obtain ⟨hsplit, hsize⟩ := readExact_some hp
      have hlength := readExact_length hp
      have htaken : valueSize (front16 buf) (front16 (buf.drop 2)) =
          padded (front16 (buf.drop 2)).toNat := by
        simp only [valueSize, hclass]
      rw [htaken, hclass, if_neg (by decide)]
      have hpadded : padded (front16 (buf.drop 2)).toNat =
        (front16 (buf.drop 2)).toNat + padding (front16 (buf.drop 2)).toNat := rfl
      have hpadding : padding (front16 (buf.drop 2)).toNat =
        (4 - (front16 (buf.drop 2)).toNat % 4) % 4 := rfl
      have halignedRest : (p.2.length + (front16 (buf.drop 2)).toNat) % 4 = 0 := by omega
      refine ⟨by omega, ?_, rfl⟩
      have hvalue : p.2 = (buf.drop 4).drop (front16 (buf.drop 2)).toNat := by
        rw [hsplit]
        exact (List.drop_left' hsize).symm
      rw [consumePadding_aligned rtc halignedRest, hvalue, hpadded]
      simp only [List.drop_drop, Nat.add_assoc]
    · rename_i hclass
      rw [Rtc.readUInt32_eq, Option.map_map, Option.map_map, readBE, Option.map_map] at h
      obtain ⟨p, hp, heq⟩ := Option.map_eq_some_iff.1 h
      obtain ⟨rfl, rfl⟩ := Prod.mk.inj heq
      obtain ⟨hsplit, hsize⟩ := readExact_some hp
      have hlength := readExact_length hp
      have htaken : valueSize (front16 buf) (front16 (buf.drop 2)) = 4 := by
        simp only [valueSize, hclass]
      rw [htaken, hclass, if_neg (by decide)]
      refine ⟨by omega, ?_, rfl⟩
      rw [← List.drop_drop, hsplit]
      exact (List.drop_left' hsize).symm
  · cases h

/-- The boundary a pass of the attribute loop visits. -/
def boundaryOf (data : List UInt8) (s : List UInt8 × List StunAttribute) : Option Boundary :=
  if s.1.length > 0 then some ⟨data.length - s.1.length, front16 s.1, front16 (s.1.drop 2)⟩ else none

/-- The boundaries of a run of the attribute loop. -/
def readFrom (rtc : Rtc) (data buf : List UInt8) (before : List StunAttribute) : List Boundary :=
  (visited (readPass rtc) (buf.length + 1) (buf, before)).filterMap (boundaryOf data)

theorem readFrom_nil (rtc : Rtc) (data : List UInt8) (before : List StunAttribute) :
    readFrom rtc data [] before = [] := by
  have hpass : readPass rtc ([], before) = .inr (some ([], before)) := rfl
  unfold readFrom
  rw [visited_succ_inr hpass]
  rfl

theorem readFrom_cons (before : List StunAttribute) {attr : Option StunAttribute}
    (h : readAttribute rtc (data.drop pos) = some (attr, rest)) :
    ∃ b, boundaryAt data pos = some b ∧
      readFrom rtc data (data.drop pos) before =
        b :: readFrom rtc data rest (before ++ attr.toList) := by
  have hlength : rest.length + 4 ≤ (data.drop pos).length := readAttribute_length h
  have hdrop := List.length_drop (i := pos) (l := data)
  have hroom : pos + 4 ≤ data.length := by omega
  refine ⟨⟨pos, front16 (data.drop pos), front16 (data.drop (pos + 2))⟩, if_pos hroom, ?_⟩
  have hpass := readPass_of_some (s := (data.drop pos, before)) h
  have hboundary : boundaryOf data (data.drop pos, before) =
      some ⟨pos, front16 (data.drop pos), front16 (data.drop (pos + 2))⟩ := by
    have hoffset : data.length - (data.drop pos).length = pos := by omega
    unfold boundaryOf
    dsimp only
    rw [if_pos (by omega), hoffset, List.drop_drop]
  unfold readFrom
  rw [visited_succ_inl hpass, List.filterMap_cons_some hboundary]
  refine congrArg (_ :: List.filterMap _ ·) ?_
  exact visited_fuel_eq (μ := fun s : List UInt8 × List StunAttribute => s.1.length) readPass_dec
    (Nat.lt_of_lt_of_le (Nat.lt_add_of_pos_right (by decide)) hlength) (Nat.lt_succ_self _)

/-- Behind the last byte there is no attribute. -/
theorem end_of_nil (h : [] = data.drop pos) : data.length ≤ pos ∧ boundaryAt data pos = none := by
  have hlength := congrArg List.length h
  rw [List.length_drop, List.length_nil] at hlength
  refine ⟨by omega, ?_⟩
  unfold boundaryAt
  rw [if_neg (by omega)]

/-- **Where the attributes are regular, the loop goes the way**: they tile
what is read, and those of a type that is known are kept. -/
theorem Reads.of_regular {attrs : List StunAttribute} (h : Reads rtc buf attrs [])
    (hbuf : buf = data.drop pos) (hpos : pos ≤ data.length) (haligned : buf.length % 4 = 0)
    (hwalk : Walk data pos bs) (hregular : ∀ b ∈ bs, b.Regular) (before : List StunAttribute) :
    readFrom rtc data buf before = bs ∧ Tiles pos bs data.length ∧
      ∀ type, getAttributeValueType type ≠ .unknown →
        ((∃ attr ∈ attrs, attr.type = type) ↔ ∃ b ∈ bs, b.type = type) := by
  generalize hend : ([] : List UInt8) = nothing at h
  induction h generalizing pos bs before with
  | nil buf =>
    subst hend
    obtain ⟨hle, hnone⟩ := end_of_nil hbuf
    obtain rfl := hwalk.eq (.stop hnone)
    have hfin : pos = data.length := Nat.le_antisymm hpos hle
    exact ⟨readFrom_nil rtc data before, hfin, fun type _ => by simp⟩
  | cons hread hrest ih =>
    rename_i buf rest rest' attr attrs
    subst hbuf
    obtain ⟨b, hb, hcons⟩ := readFrom_cons before hread
    obtain ⟨hfits, hleft, htype⟩ := readAttribute_some hread haligned
    cases hwalk with
    | stop hnone =>
      rw [hnone] at hb
      cases hb
    | next hb' hnext =>
      rename_i b' bs
      obtain rfl := Option.some.inj (hb.symm.trans hb')
      obtain ⟨hroom, heq⟩ := boundaryAt_some hb
      have hsize := b.regular_iff.1 (hregular b List.mem_cons_self)
      have hdrop := List.length_drop (i := pos) (l := data)
      rw [List.drop_drop] at hfits hleft
      have hfin : rest = data.drop b.fin := by
        rw [hleft, List.drop_drop, Boundary.fin, ← hsize, heq]
      have hle : b.fin ≤ data.length := by
        rw [Boundary.fin, ← hsize, heq]
        dsimp only
        omega
      obtain ⟨hbs, htiles, htypes⟩ := ih hfin hle (readAttribute_mod hread haligned) hnext
        (fun c hc => hregular c (List.mem_cons_of_mem _ hc)) (before ++ attr.toList) hend
      refine ⟨hcons.trans (congrArg _ hbs), ⟨(boundaryAt_fin hb).1, htiles⟩, fun type hknown => ?_⟩
      have hhead : (∃ a ∈ attr.toList, a.type = type) ↔ b.type = type := by
        have hfront : b.type = front16 (data.drop pos) := by rw [heq]
        rw [← hfront] at htype
        -- nothing is kept of an attribute of an unknown type
        cases attr with
        | none =>
          by_cases hunknown : getAttributeValueType b.type = .unknown
          · refine iff_of_false (by simp) fun heq => hknown (heq ▸ hunknown)
          · rw [if_neg hunknown] at htype
            cases htype
        | some a =>
          by_cases hunknown : getAttributeValueType b.type = .unknown
          · rw [if_pos hunknown] at htype
            cases htype
          · rw [if_neg hunknown] at htype
            have hsame : a.type = b.type := Option.some.inj htype
            simp [hsame]
      simp only [List.mem_append, List.mem_cons, or_and_right, exists_or, exists_eq_left]
      exact or_congr hhead (htypes type hknown)

/-- **Where the values tile what is read, the attributes are regular.** -/
theorem Reads.regular {attrs : List StunAttribute} (h : Reads rtc buf attrs [])
    (hbuf : buf = data.drop pos) (hpos : pos ≤ data.length) (haligned : buf.length % 4 = 0)
    (before : List StunAttribute) (htiles : Tiles pos (readFrom rtc data buf before) data.length) :
    Walk data pos (readFrom rtc data buf before) ∧
      ∀ b ∈ readFrom rtc data buf before, b.Regular := by
  generalize hend : ([] : List UInt8) = nothing at h
  induction h generalizing pos before with
  | nil buf =>
    subst hend
    rw [readFrom_nil]
    exact ⟨.stop (end_of_nil hbuf).2, by simp⟩
  | cons hread hrest ih =>
    rename_i buf rest rest' attr attrs
    subst hbuf
    obtain ⟨b, hb, hcons⟩ := readFrom_cons before hread
    obtain ⟨hfits, hleft, -⟩ := readAttribute_some hread haligned
    obtain ⟨hroom, heq⟩ := boundaryAt_some hb
    have hdrop := List.length_drop (i := pos) (l := data)
    rw [List.drop_drop] at hfits hleft
    have hnext : rest = data.drop (pos + 4 + valueSize b.type b.length) := by
      rw [hleft, List.drop_drop, heq, Nat.add_assoc]
    have hle : pos + 4 + valueSize b.type b.length ≤ data.length := by
      rw [heq]
      dsimp only
      omega
    rw [hcons] at htiles ⊢
    -- the next boundary is where the loop goes on, and where this one ends
    have hfin : b.fin = pos + 4 + valueSize b.type b.length := by
      have hstart := htiles.2
      cases hrest with
      | nil =>
        subst hend
        rw [readFrom_nil] at hstart
        have hend := (end_of_nil hnext).1
        have hfin : b.fin = data.length := hstart
        omega
      | cons hread' _ =>
        obtain ⟨b', hb', hcons'⟩ := readFrom_cons (before ++ attr.toList) (hnext ▸ hread')
        rw [hnext, hcons'] at hstart
        exact hstart.1.symm.trans (boundaryAt_fin hb').1
    have hsize : b.Regular := by
      refine b.regular_iff.2 ?_
      have hoffset := (boundaryAt_fin hb).1
      unfold Boundary.fin at hfin
      omega
    obtain ⟨hwalk, hregular⟩ := ih (hfin ▸ hnext) (hfin ▸ hle) (readAttribute_mod hread haligned)
      (before ++ attr.toList) htiles.2 hend
    refine ⟨.next hb hwalk, fun c hc => ?_⟩
    rcases List.mem_cons.1 hc with rfl | hc
    · exact hsize
    · exact hregular c hc

/-! ## The two together -/

variable {msg : StunMessage}

/-- A byte string is had where there is an attribute of its type. -/
theorem getByteString_ne_none {type : UInt16} (htyped : ∀ attr ∈ msg.attrs, attr.WellTyped)
    (hclass : getAttributeValueType type = .byteString) :
    msg.getByteString type ≠ none ↔ ∃ attr ∈ msg.attrs, attr.type = type := by
  constructor
  · intro h
    unfold getByteString getAttribute at h
    cases hfind : msg.attrs.find? (·.type = type) with
    | none =>
      rw [hfind] at h
      exact absurd rfl h
    | some attr =>
      exact ⟨attr, List.mem_of_find?_eq_some hfind, by simpa using List.find?_some hfind⟩
  · intro hmem
    obtain ⟨bytes, hbytes⟩ := getByteString_of_mem htyped hclass hmem
    rw [hbytes]
    exact Option.some_ne_none bytes

/-- **The two loops go over a message that is read alike where its
attributes are regular, and only there.** -/
theorem sameWalk_iff (haligned : data.length % 4 = 0)
    (hread : StunMessage.read rtc data = some (msg, rest)) :
    SameWalk rtc data msg ↔ ∀ b ∈ attributeWalk data, b.Regular := by
  obtain ⟨hreads, -⟩ := read_some hread
  have hlength := hreads.length
  have hpos : k_stun_header_size ≤ data.length := by omega
  have hmod : (data.drop k_stun_header_size).length % 4 = 0 := by
    rw [List.length_drop]
    unfold k_stun_header_size
    omega
  have hwalk := walk_attributeWalk data
  constructor
  · intro h
    obtain ⟨hway, hregular⟩ := hreads.attrs.regular rfl hpos hmod [] h.tiles
    rw [hwalk.eq hway]
    exact hregular
  · intro hregular
    obtain ⟨hboundaries, htiles, htypes⟩ :=
      hreads.attrs.of_regular rfl hpos hmod hwalk hregular []
    have hboundaries : readBoundaries rtc data = attributeWalk data := hboundaries
    refine ⟨?_, ?_, ?_⟩
    · rw [hboundaries, scanBoundaries_eq]
    · rw [hboundaries]
      exact htiles
    · have htype := htypes STUN_ATTR_MESSAGE_INTEGRITY (by decide)
      have htyped : ∀ attr ∈ msg.attrs, attr.WellTyped := fun attr hattr =>
        (hreads.attrs.typed attr hattr).1
      have hfound : findIntegrity rtc data ≠ none ↔
          ∃ b ∈ attributeWalk data, b.type = STUN_ATTR_MESSAGE_INTEGRITY := by
        rw [findIntegrity_eq, ne_eq, Option.map_eq_none_iff, List.find?_eq_none]
        simp
      rw [hfound, ← htype, getByteString_ne_none htyped (by decide)]

/-- A Binding Request with these bytes behind its header. -/
def requestOf (attributes : List UInt8) : List UInt8 :=
  header STUN_BINDING_REQUEST attributes.length (List.replicate 12 7) ++ attributes

/-- What is read of it where its attributes are one PRIORITY. -/
def readPriority (attributes : List UInt8) (priority : UInt32) : StunMessage where
  type := STUN_BINDING_REQUEST
  length := 8
  transactionId := List.replicate 12 7
  attrs := [.uint32 STUN_ATTR_PRIORITY priority]
  buffer := requestOf attributes

theorem sameWalk_iff_priority :
    SameWalk blankRtc (requestOf [0, 36, 0, 4, 0, 0, 0, 7])
      (readPriority [0, 36, 0, 4, 0, 0, 0, 7] 7) :=
  (@sameWalk_iff blankRtc _ [] _ (by decide) rfl).2 (by decide)

/-- A PRIORITY that declares no bytes, with the type of MESSAGE-INTEGRITY in
its value: `read` takes the value for one, and the search for an attribute. -/
theorem priority_hides_integrity :
    let data := requestOf [0, 36, 0, 0, 0, 8, 0, 0]
    ∃ msg, data.length % 4 = 0 ∧ StunMessage.read blankRtc data = some (msg, []) ∧
      readBoundaries blankRtc data = [⟨20, STUN_ATTR_PRIORITY, 0⟩] ∧
      scanBoundaries blankRtc data =
        [⟨20, STUN_ATTR_PRIORITY, 0⟩, ⟨24, STUN_ATTR_MESSAGE_INTEGRITY, 0⟩] ∧
      ¬ Tiles k_stun_header_size (readBoundaries blankRtc data) data.length ∧
      msg.getByteString STUN_ATTR_MESSAGE_INTEGRITY = none ∧ findIntegrity blankRtc data = some 24 ∧
      ¬ SameWalk blankRtc data msg := by
  have hread : readBoundaries blankRtc (requestOf [0, 36, 0, 0, 0, 8, 0, 0]) =
      [⟨20, STUN_ATTR_PRIORITY, 0⟩] := by decide
  have htiles : ¬ Tiles k_stun_header_size
      (readBoundaries blankRtc (requestOf [0, 36, 0, 0, 0, 8, 0, 0]))
      (requestOf [0, 36, 0, 0, 0, 8, 0, 0]).length := by
    rw [hread]
    rintro ⟨-, hfin⟩
    have hends : 24 = 28 := hfin
    exact absurd hends (by decide)
  exact ⟨readPriority [0, 36, 0, 0, 0, 8, 0, 0] 0x00080000, by decide, rfl, hread, by decide, htiles,
    by decide, by decide, fun h => htiles h.tiles⟩

end Ice

end XrtcServer
