import XrtcServer.Ice.Walk
/-!
# What the integrity check reads

`_validate_message_integrity_of_type` with the offsets of the bytes of the
message it reads. The headers it scans and the text it copies are in the
message; the bytes it compares are where the first MESSAGE-INTEGRITY of the
message starts twenty-four bytes before its end, whatever length it declares.
-/

namespace XrtcServer

namespace Ice

open Base Common StunMessage

variable {rtc : Rtc} {data : List UInt8} {msg : StunMessage} {password : String} {pos : ℕ}

/-! ## The offsets -/

/-- The offsets of the type and the length that a pass of the search reads. -/
def passOffsets (data : List UInt8) (currentPos : ℕ) : List ℕ :=
  if currentPos + k_stun_attribute_header_size ≤ data.length then
    List.range' currentPos 2 ++ List.range' (currentPos + 2) 2
  else []

/-- The offsets that the search for the integrity attribute reads. -/
def scanOffsets (rtc : Rtc) (data : List UInt8) : List ℕ :=
  (visited (integrityPass rtc data) (data.length + 1) k_stun_header_size).flatMap (passOffsets data)

/-- `_validate_message_integrity_of_type` with the offsets of the bytes it
reads: the length field, the headers of the search, the text that is copied,
and the bytes that are compared. -/
def tracedIntegrityOfType (rtc : Rtc) (data : List UInt8) (password : String) : Bool × List ℕ :=
  if data.length % 4 ≠ 0 || data.length < k_stun_header_size then (false, [])
  else
    let lengthField := List.range' 2 2
    if (rtc.getBE16 (data.drop 2)).toNat + k_stun_header_size ≠ data.length then (false, lengthField)
    else
      let scanned := lengthField ++ scanOffsets rtc data
      match findIntegrity rtc data with
      | none => (false, scanned)
      | some miPos =>
        let copied := scanned ++ List.range' 0 miPos
        let hmac := rtc.computeHmac password (integrityText rtc data miPos)
        if hmac.length ≠ k_stun_message_integrity_size then (false, copied)
        else
          let value := miPos + k_stun_attribute_header_size
          ((data.drop value).take k_stun_message_integrity_size = hmac,
            copied ++ List.range' value k_stun_message_integrity_size)

/-- `validate_message_integrity` with the offsets of the bytes it reads. -/
def tracedIntegrity (rtc : Rtc) (msg : StunMessage) (password : String) : IntegrityStatus × List ℕ :=
  if (msg.getByteString STUN_ATTR_MESSAGE_INTEGRITY).isSome then
    let traced := tracedIntegrityOfType rtc msg.buffer password
    (if traced.1 then .integrityOk else .integrityBad, traced.2)
  else (.noIntegrity, [])

theorem tracedIntegrityOfType_fst (rtc : Rtc) (data : List UInt8) (password : String) :
    (tracedIntegrityOfType rtc data password).1 =
      validateMessageIntegrityOfType rtc data password := by
  unfold tracedIntegrityOfType validateMessageIntegrityOfType
  split
  · rfl
  · dsimp only
    split
    · rfl
    · cases findIntegrity rtc data with
      | none => rfl
      | some miPos =>
        dsimp only
        split <;> rfl

/-- The trace comes with what the check returns. -/
theorem tracedIntegrity_fst (rtc : Rtc) (msg : StunMessage) (password : String) :
    (tracedIntegrity rtc msg password).1 = msg.validateMessageIntegrity rtc password := by
  unfold tracedIntegrity validateMessageIntegrity
  split
  · dsimp only
    rw [tracedIntegrityOfType_fst]
  · rfl

/-! ## Where they are -/

/-- **The search reads no byte behind the message.** -/
theorem scanOffsets_lt (rtc : Rtc) {o : ℕ} (h : o ∈ scanOffsets rtc data) : o < data.length := by
  obtain ⟨p, -, ho⟩ := List.mem_flatMap.1 h
  unfold passOffsets k_stun_attribute_header_size at ho
  split at ho
  · rcases List.mem_append.1 ho with ho | ho
    · have hrange := (List.mem_range'_1.1 ho).2
      omega
    · have hrange := (List.mem_range'_1.1 ho).2
      omega
  · cases ho

/-- The attributes on the way have their headers in the message. -/
theorem Walk.room {bs : List Boundary} (h : Walk data pos bs) :
    ∀ b ∈ bs, b.offset + 4 ≤ data.length := by
  induction h with
  | stop _ =>
    intro b hb
    cases hb
  | next hfirst hrest ih =>
    intro c hc
    rcases List.mem_cons.1 hc with rfl | hc
    · obtain ⟨hroom, heq⟩ := boundaryAt_some hfirst
      rw [heq]
      exact hroom
    · exact ih c hc

theorem findIntegrity_room (h : findIntegrity rtc data = some pos) : pos + 4 ≤ data.length := by
  rw [findIntegrity_eq] at h
  obtain ⟨b, hb, rfl⟩ := Option.map_eq_some_iff.1 h
  exact (walk_attributeWalk data).room b (List.mem_of_find?_eq_some hb)

/-- **Whether the bytes compared are in the message** is where the attribute
starts. -/
theorem tracedIntegrityOfType_lt_iff (haligned : data.length % 4 = 0)
    (hsize : k_stun_header_size ≤ data.length)
    (hfield : (rtc.getBE16 (data.drop 2)).toNat + k_stun_header_size = data.length) :
    (∀ o ∈ (tracedIntegrityOfType rtc data password).2, o < data.length) ↔ Inside rtc data := by
  have hmod :
      ¬ (decide (data.length % 4 ≠ 0) || decide (data.length < k_stun_header_size)) = true := by
    simp only [Bool.or_eq_true, decide_eq_true_eq, not_or]
    omega
  have hlengthField : ∀ o ∈ List.range' 2 2, o < data.length := by
    intro o ho
    have hrange := (List.mem_range'_1.1 ho).2
    unfold k_stun_header_size at hsize
    omega
  unfold tracedIntegrityOfType Inside
  rw [if_neg hmod]
  dsimp only
  rw [if_neg (not_not.2 hfield)]
  cases hfind : findIntegrity rtc data with
  | none =>
    refine iff_of_true (fun o ho => ?_) (fun pos hpos => by cases hpos)
    rcases List.mem_append.1 ho with ho | ho
    · exact hlengthField o ho
    · exact scanOffsets_lt rtc ho
  | some miPos =>
    dsimp only
    have hmac : ¬ (rtc.computeHmac password (integrityText rtc data miPos)).length ≠
        k_stun_message_integrity_size := not_not.2 (rtc.computeHmac_length password _)
    rw [if_neg hmac]
    have hroom := findIntegrity_room hfind
    unfold k_stun_attribute_header_size k_stun_message_integrity_size
    constructor
    · intro h pos hpos
      obtain rfl := Option.some.inj hpos
      have hlast := h (miPos + 23) (List.mem_append_right _ (List.mem_range'_1.2 (by omega)))
      omega
    · intro h o ho
      have hin := h miPos rfl
      -- the length field, the search, the text under the HMAC, and the bytes compared with it
      rcases List.mem_append.1 ho with ho | ho
      · rcases List.mem_append.1 ho with ho | ho
        · rcases List.mem_append.1 ho with ho | ho
          · exact hlengthField o ho
          · exact scanOffsets_lt rtc ho
        · have hrange := (List.mem_range'_1.1 ho).2
          omega
      · have hrange := (List.mem_range'_1.1 ho).2
        omega

/-- **The integrity check of a STUN message reads no byte behind it** where
the message has no MESSAGE-INTEGRITY, or the first on the way starts
twenty-four bytes before the end, and only there. -/
theorem integrity_reads_iff (h : Parses rtc data msg) (password : String) :
    (∀ o ∈ (tracedIntegrity rtc msg password).2, o < data.length) ↔
      msg.getByteString STUN_ATTR_MESSAGE_INTEGRITY = none ∨
        ∀ b, (attributeWalk data).find? (·.type = STUN_ATTR_MESSAGE_INTEGRITY) = some b →
          b.offset + 24 ≤ data.length := by
  obtain ⟨hread, -⟩ := read_some h.2
  have hlength := hread.length
  have hsize : k_stun_header_size ≤ data.length := by omega
  have hfield : (rtc.getBE16 (data.drop 2)).toNat + k_stun_header_size = data.length := by
    have hroom : 2 ≤ (data.drop 2).length := by
      unfold k_stun_header_size at hsize
      rw [List.length_drop]
      omega
    rw [getBE16_front rtc hroom, hread.field]
    omega
  have hinside : Inside rtc data ↔
      ∀ b, (attributeWalk data).find? (·.type = STUN_ATTR_MESSAGE_INTEGRITY) = some b →
        b.offset + 24 ≤ data.length := by
    unfold Inside
    rw [findIntegrity_eq]
    simp
  unfold tracedIntegrity
  rw [hread.buffer]
  cases hpresent : msg.getByteString STUN_ATTR_MESSAGE_INTEGRITY with
  | none => exact iff_of_true (by simp) (.inl rfl)
  | some mac =>
    rw [if_pos Option.isSome_some, tracedIntegrityOfType_lt_iff h.aligned hsize hfield, hinside]
    simp

/-- A message of an integrity attribute and a fingerprint. -/
def macMessage (mac : List UInt8) : List UInt8 :=
  let text := header STUN_BINDING_REQUEST (12 + mac.length) (List.replicate 12 7) ++
    element STUN_ATTR_MESSAGE_INTEGRITY mac
  text ++ (fingerprint .ofCrc32 text).wire

/-- What is read of it. -/
def readMacMessage (mac : List UInt8) : StunMessage where
  type := STUN_BINDING_REQUEST
  length := .ofNat (12 + mac.length)
  transactionId := List.replicate 12 7
  attrs := [.byteString STUN_ATTR_MESSAGE_INTEGRITY mac]
  buffer := macMessage mac

theorem integrity_reads_iff_twenty :
    let mac := List.replicate 20 5
    Parses .ofCrc32 (macMessage mac) (readMacMessage mac) ∧
      ∀ o ∈ (tracedIntegrity .ofCrc32 (readMacMessage mac) "key").2, o < (macMessage mac).length := by
  have hparses : Parses .ofCrc32 (macMessage (List.replicate 20 5))
      (readMacMessage (List.replicate 20 5)) := ⟨by decide +kernel, rfl⟩
  refine ⟨hparses, (integrity_reads_iff hparses "key").2 (.inr fun b hb => ?_)⟩
  have hfirst : (attributeWalk (macMessage (List.replicate 20 5))).find?
      (·.type = STUN_ATTR_MESSAGE_INTEGRITY) = some ⟨20, STUN_ATTR_MESSAGE_INTEGRITY, 20⟩ := by
    decide +kernel
  obtain rfl := Option.some.inj (hfirst.symm.trans hb)
  decide +kernel

/-- Where the attribute declares no bytes, twelve of those compared are
behind the message. -/
theorem integrity_reads_behind :
    Parses .ofCrc32 (macMessage []) (readMacMessage []) ∧ (macMessage []).length = 32 ∧
      43 ∈ (tracedIntegrity .ofCrc32 (readMacMessage []) "key").2 ∧
      ¬ ∀ o ∈ (tracedIntegrity .ofCrc32 (readMacMessage []) "key").2, o < (macMessage []).length := by
  have hlast : 43 ∈ (tracedIntegrity .ofCrc32 (readMacMessage []) "key").2 := by decide +kernel
  exact ⟨⟨by decide +kernel, rfl⟩, by decide +kernel, hlast,
    fun h => absurd (h 43 hlast) (by decide +kernel)⟩

end Ice

end XrtcServer
