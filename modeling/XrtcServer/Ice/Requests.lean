import XrtcServer.Ice.Model.Port
import XrtcServer.Ice.RoundTrip
import XrtcServer.Ice.Writable
/-!
# Which Binding Requests are answered

A Binding Request is authentic where its user name names this end first and
its HMAC is that of the message up to it under the local password
(`Authentic`). Only an authentic request makes a connection or counts as a
ping, and any other request that can be read is refused with one error.
-/

namespace XrtcServer

namespace Ice

open Base Common StunMessage UDPPort IceConnection IceTransportChannel

variable {rtc : Rtc} {iceParams : IceParameters} {data : List UInt8} {msg : StunMessage}
variable {rest : List UInt8} {pos : ℕ}

/-! ## What is read -/

/-- What holds of a datagram that is read. -/
structure ReadAs (rtc : Rtc) (data : List UInt8) (msg : StunMessage) : Prop where
  length : data.length = k_stun_header_size + msg.length.toNat
  field : front16 (data.drop 2) = msg.length
  type : front16 data = msg.type
  buffer : msg.buffer = data
  attrs : Reads rtc (data.drop k_stun_header_size) msg.attrs []

theorem readUInt16_some {buf : List UInt8} {n : UInt16} (h : rtc.readUInt16 buf = some (n, rest)) :
    2 ≤ buf.length ∧ n = front16 buf ∧ rest = buf.drop 2 := by
  rw [Rtc.readUInt16_eq, readBE, Option.map_map] at h
  obtain ⟨p, hp, heq⟩ := Option.map_eq_some_iff.1 h
  obtain ⟨rfl, rfl⟩ := Prod.mk.inj heq
  obtain ⟨rfl, hlength⟩ := readExact_some hp
  refine ⟨?_, ?_, ?_⟩
  · rw [List.length_append]
    omega
  · unfold front16
    rw [List.take_left' hlength]
  · exact (List.drop_left' hlength).symm

theorem readBytes_some {buf value : List UInt8} {n : ℕ}
    (h : rtc.readBytes n buf = some (value, rest)) : n ≤ buf.length ∧ rest = buf.drop n := by
  rw [Rtc.readBytes_eq] at h
  obtain ⟨rfl, hlength⟩ := readExact_eq_some.1 h
  refine ⟨?_, (List.drop_left' hlength).symm⟩
  rw [List.length_append]
  omega

theorem read_some (h : StunMessage.read rtc data = some (msg, rest)) :
    ReadAs rtc data msg ∧ rest = [] := by
  unfold StunMessage.read at h
  split at h
  · cases h
  · rename_i type buf htype
    split at h
    · cases h
    · split at h
      · cases h
      · rename_i length buf' hlength
        split at h
        · cases h
        · rename_i cookie buf'' hcookie
          split at h
          · cases h
          · rename_i transactionId body htid
            dsimp only at h
            split at h
            · cases h
            · rename_i hbody
              obtain ⟨⟨left, attrs⟩, hp, heq⟩ := Option.map_eq_some_iff.1 h
              obtain ⟨rfl, rfl⟩ := Prod.mk.inj heq
              obtain ⟨h2, rfl, rfl⟩ := readUInt16_some htype
              obtain ⟨h4, rfl, rfl⟩ := readUInt16_some hlength
              obtain ⟨h8, rfl⟩ := readBytes_some hcookie
              obtain ⟨h20, rfl⟩ := readBytes_some htid
              simp only [List.length_drop, not_not] at hbody h4 h8 h20
              unfold k_stun_magic_cookie_length k_stun_transaction_id_length at *
              obtain ⟨hreads, hempty⟩ := readAttributes_eq_some.1 hp
              simp only [List.drop_drop] at hreads
              refine ⟨⟨?_, rfl, rfl, rfl, hreads⟩, hempty⟩
              show data.length = k_stun_header_size + (front16 (data.drop 2)).toNat
              unfold k_stun_header_size
              omega

/-! ## The HMAC -/

/-- The length field of a message set to a number. -/
def withLength (text : List UInt8) (length : ℕ) : List UInt8 :=
  text.take 2 ++ beBytes 2 length ++ text.drop 4

/-- **The text of the HMAC is the message up to its attribute, with the
length field at the attribute's end.** -/
theorem integrityText_withLength (hread : ReadAs rtc data msg)
    (hpos : k_stun_header_size ≤ pos) (hinside : pos + 24 ≤ data.length) :
    integrityText rtc data pos = withLength (data.take pos) (pos + 24 - k_stun_header_size) := by
  have hlength := hread.length
  have hlt := msg.length.toNat_lt
  unfold k_stun_header_size at *
  have hdrop : ((data.take pos).drop 2).drop 2 = (data.take pos).drop 4 := List.drop_drop
  have hroom : 2 ≤ ((data.take pos).drop 2).length := by
    rw [List.length_drop, List.length_take]
    omega
  unfold integrityText withLength k_stun_attribute_header_size k_stun_message_integrity_size
    k_stun_header_size
  dsimp only
  split
  · have hadjust : data.length - (data.length - (pos + 4 + 20)) - 20 = pos + 24 - 20 := by omega
    rw [hadjust, rtc.setBE16_eq _ _ hroom, toNat_ofNat (by omega), hdrop, List.append_assoc]
  · -- nothing follows, and the field is right as it is
    have hfield : beBytes 2 (pos + 24 - 20) = ((data.take pos).drop 2).take 2 := by
      have hnumber : pos + 24 - 20 = msg.length.toNat := by omega
      have hfront : ((data.take pos).drop 2).take 2 = (data.drop 2).take 2 := by
        rw [List.drop_take, List.take_take, Nat.min_eq_left (by omega)]
      rw [hnumber, ← hread.field, front16_bytes (by rw [List.length_drop]; omega), hfront]
    rw [hfield, ← hdrop, List.append_assoc, List.take_append_drop, List.take_append_drop]

/-! ## Authentic requests -/

/-- **A STUN message**: its fingerprint is good, and it is read to its end. -/
def Parses (rtc : Rtc) (data : List UInt8) (msg : StunMessage) : Prop :=
  validateFingerprint rtc data = true ∧ StunMessage.read rtc data = some (msg, [])

/-- USERNAME or MESSAGE-INTEGRITY is absent. -/
def Lacking (msg : StunMessage) : Prop :=
  msg.getByteString STUN_ATTR_USERNAME = none ∨ msg.getByteString STUN_ATTR_MESSAGE_INTEGRITY = none

instance : Decidable (Lacking msg) := inferInstanceAs (Decidable (_ ∨ _))

/-- **A request of a peer that knows the local password**: the user name is
two fields, of which the first is the local name and the second the peer's,
and the bytes of the integrity attribute are the HMAC, under the local
password, of the message up to it with the length field at its end. -/
structure Authentic (rtc : Rtc) (iceParams : IceParameters) (data : List UInt8) (msg : StunMessage)
    (remoteUfrag : String) : Prop where
  present : msg.getByteString STUN_ATTR_MESSAGE_INTEGRITY ≠ none
  username : ∃ bytes, msg.getByteString STUN_ATTR_USERNAME = some bytes ∧
    rtc.split (ofBytes bytes) ':' = [iceParams.iceUfrag, remoteUfrag]
  integrity : ∃ pos, findIntegrity rtc data = some pos ∧ (data.drop (pos + 4)).take 20 =
    rtc.computeHmac iceParams.icePwd (withLength (data.take pos) (pos + 24 - 20))

/-- The bytes compared are all in the datagram. -/
def Inside (rtc : Rtc) (data : List UInt8) : Prop :=
  ∀ pos, findIntegrity rtc data = some pos → pos + 24 ≤ data.length

theorem Parses.aligned (h : Parses rtc data msg) : data.length % 4 = 0 := by
  have hvalid := h.1
  unfold validateFingerprint at hvalid
  dsimp only at hvalid
  split at hvalid
  · cases hvalid
  · rename_i hlength
    simp only [Bool.or_eq_true, decide_eq_true_eq, not_or] at hlength
    omega

/-- **The integrity check compares the HMAC of the text with the attribute.** -/
theorem validateMessageIntegrity_iff (h : Parses rtc data msg) (hinside : Inside rtc data)
    (password : String) : msg.validateMessageIntegrity rtc password = .integrityOk ↔
      msg.getByteString STUN_ATTR_MESSAGE_INTEGRITY ≠ none ∧ ∃ pos, findIntegrity rtc data = some pos ∧
        (data.drop (pos + 4)).take 20 =
          rtc.computeHmac password (withLength (data.take pos) (pos + 24 - 20)) := by
  obtain ⟨hread, -⟩ := read_some h.2
  have hlength := hread.length
  have haligned := h.aligned
  have hmod : ¬ (decide (data.length % 4 ≠ 0) || decide (data.length < k_stun_header_size)) = true := by
    unfold k_stun_header_size at *
    simp only [Bool.or_eq_true, decide_eq_true_eq, not_or]
    omega
  have hfield : ¬ (rtc.getBE16 (data.drop 2)).toNat + k_stun_header_size ≠ data.length := by
    have hroom : 2 ≤ (data.drop 2).length := by
      unfold k_stun_header_size at hlength
      rw [List.length_drop]
      omega
    rw [getBE16_front rtc hroom, hread.field]
    omega
  have hsize : ∀ text, ¬ (rtc.computeHmac password text).length ≠ k_stun_message_integrity_size :=
    fun text => not_not.2 (rtc.computeHmac_length password text)
  have hcheck : validateMessageIntegrityOfType rtc data password = true ↔
      ∃ pos, findIntegrity rtc data = some pos ∧ (data.drop (pos + 4)).take 20 =
        rtc.computeHmac password (withLength (data.take pos) (pos + 24 - 20)) := by
    unfold validateMessageIntegrityOfType
    rw [if_neg hmod, if_neg hfield]
    cases hfind : findIntegrity rtc data with
    | none =>
      refine iff_of_false Bool.false_ne_true ?_
      rintro ⟨pos, hpos, -⟩
      cases hpos
    | some pos =>
      dsimp only
      rw [if_neg (hsize _), decide_eq_true_iff,
        integrityText_withLength hread (findIntegrity_ge hfind) (hinside pos hfind)]
      constructor
      · exact fun hcompared => ⟨pos, rfl, hcompared⟩
      · rintro ⟨pos', hpos', hcompared⟩
        obtain rfl := Option.some.inj hpos'
        exact hcompared
  unfold validateMessageIntegrity
  rw [hread.buffer, ← hcheck]
  cases hpresent : msg.getByteString STUN_ATTR_MESSAGE_INTEGRITY with
  | none =>
    rw [if_neg (by simp)]
    exact iff_of_false (by decide) fun h => h.1 rfl
  | some mac =>
    rw [if_pos (Option.isSome_some)]
    by_cases hok : validateMessageIntegrityOfType rtc data password = true
    · rw [if_pos hok]
      exact iff_of_true rfl ⟨Option.some_ne_none mac, hok⟩
    · rw [if_neg hok]
      exact iff_of_false (by decide) fun h => hok h.2

/-- The bytes compared have the length of an HMAC where they are one. -/
theorem inside_of_integrity {password : String} (hbuffer : msg.buffer = data)
    (h : msg.validateMessageIntegrity rtc password = .integrityOk) : Inside rtc data := by
  intro pos hpos
  have hok : validateMessageIntegrityOfType rtc data password = true := by
    unfold validateMessageIntegrity at h
    rw [hbuffer] at h
    split at h
    · split at h
      · rename_i hok
        exact hok
      · cases h
    · cases h
  unfold validateMessageIntegrityOfType at hok
  split at hok
  · cases hok
  · split at hok
    · cases hok
    · rw [hpos] at hok
      dsimp only at hok
      split at hok
      · cases hok
      · have hlength := congrArg List.length (of_decide_eq_true hok)
        rw [rtc.computeHmac_length, List.length_take, List.length_drop] at hlength
        unfold k_stun_attribute_header_size k_stun_message_integrity_size at hlength
        omega

/-! ## What `get_stun_message` returns -/

/-- A request that is refused with an error. -/
def refusal (rtc : Rtc) (iceParams : IceParameters) (msg : StunMessage) (errCode : ℤ) : GotStun where
  res := true
  sent := [bindingErrorResponse rtc iceParams msg errCode]

/-- A request that is accepted. -/
def acceptance (msg : StunMessage) (remoteUfrag : String) : GotStun where
  res := true
  outMsg := some { msg with integrity := .integrityOk }
  outUsername := remoteUfrag

theorem Parses.got (h : Parses rtc data msg) (hother : msg.type ≠ STUN_BINDING_REQUEST) :
    getStunMessage rtc iceParams data = { res := true, outMsg := some msg } := by
  unfold getStunMessage
  rw [h.1, if_neg (by decide), h.2]
  dsimp only
  rw [if_neg (by decide), if_neg hother]

/-- What is not a STUN message is not for `get_stun_message`. -/
theorem getStunMessage_of_not (h : ∀ msg, ¬ Parses rtc data msg) :
    getStunMessage rtc iceParams data = { res := false } := by
  unfold getStunMessage
  cases hvalid : validateFingerprint rtc data with
  | false => rw [if_pos rfl]
  | true =>
    rw [if_neg (by decide)]
    cases hread : StunMessage.read rtc data with
    | none => rfl
    | some p =>
      obtain ⟨msg, rest⟩ := p
      obtain ⟨-, rfl⟩ := read_some hread
      exact absurd ⟨hvalid, hread⟩ (h msg)

theorem parseStunUsername_eq_some {localUfrag remoteUfrag : String} :
    parseStunUsername rtc msg = some (localUfrag, remoteUfrag) ↔
      ∃ bytes, msg.getByteString STUN_ATTR_USERNAME = some bytes ∧
        rtc.split (ofBytes bytes) ':' = [localUfrag, remoteUfrag] := by
  unfold parseStunUsername
  cases msg.getByteString STUN_ATTR_USERNAME with
  | none => simp
  | some bytes =>
    dsimp only
    constructor
    · intro h
      split at h
      · rename_i fields hfields
        obtain ⟨rfl, rfl⟩ := Prod.mk.inj (Option.some.inj h)
        exact ⟨bytes, rfl, hfields⟩
      · cases h
    · rintro ⟨bytes', hbytes, hfields⟩
      obtain rfl := Option.some.inj hbytes
      rw [hfields]

/-- The checks of the user name and of the HMAC, as they are made. -/
structure Checked (rtc : Rtc) (iceParams : IceParameters) (msg : StunMessage)
    (remoteUfrag : String) : Prop where
  username : parseStunUsername rtc msg = some (iceParams.iceUfrag, remoteUfrag)
  integrity : msg.validateMessageIntegrity rtc iceParams.icePwd = .integrityOk

theorem checked_iff (h : Parses rtc data msg) (hinside : Inside rtc data) {remoteUfrag : String} :
    Checked rtc iceParams msg remoteUfrag ↔ Authentic rtc iceParams data msg remoteUfrag := by
  have hcheck := validateMessageIntegrity_iff h hinside iceParams.icePwd
  constructor
  · rintro ⟨husername, hintegrity⟩
    obtain ⟨hpresent, hmac⟩ := hcheck.1 hintegrity
    exact ⟨hpresent, parseStunUsername_eq_some.1 husername, hmac⟩
  · rintro ⟨hpresent, husername, hmac⟩
    exact ⟨parseStunUsername_eq_some.2 husername, hcheck.2 ⟨hpresent, hmac⟩⟩

/-- A Binding Request is accepted where the checks pass, and otherwise
refused: as a bad request where an attribute is absent, and as unauthorized
where none is. -/
theorem getStunMessage_checked (iceParams : IceParameters) (h : Parses rtc data msg)
    (htype : msg.type = STUN_BINDING_REQUEST) :
    (Lacking msg ∧
      getStunMessage rtc iceParams data = refusal rtc iceParams msg STUN_ERROR_BAD_REQUEST) ∨
    (¬ Lacking msg ∧ (∀ remoteUfrag, ¬ Checked rtc iceParams msg remoteUfrag) ∧
      getStunMessage rtc iceParams data = refusal rtc iceParams msg STUN_ERROR_UNAUTHORIZED) ∨
    ¬ Lacking msg ∧ ∃ remoteUfrag, Checked rtc iceParams msg remoteUfrag ∧
      getStunMessage rtc iceParams data = acceptance msg remoteUfrag := by
  unfold getStunMessage
  rw [h.1, if_neg (by decide), h.2]
  dsimp only
  rw [if_neg (by decide), if_pos htype]
  by_cases hlacking : Lacking msg
  · exact .inl ⟨hlacking, if_pos hlacking⟩
  · refine .inr ?_
    have hnone : ¬ (msg.getByteString STUN_ATTR_USERNAME = none ∨
      msg.getByteString STUN_ATTR_MESSAGE_INTEGRITY = none) := hlacking
    rw [if_neg hnone]
    cases husername : parseStunUsername rtc msg with
    | none =>
      refine .inl ⟨hlacking, fun remoteUfrag hchecked => ?_, rfl⟩
      rw [hchecked.username] at husername
      cases husername
    | some fields =>
      obtain ⟨localUfrag, remoteUfrag⟩ := fields
      dsimp only
      split
      · rename_i hne
        refine .inl ⟨hlacking, fun remoteUfrag' hchecked => hne ?_, rfl⟩
        rw [hchecked.username] at husername
        exact (Prod.mk.inj (Option.some.inj husername)).1.symm
      · rename_i heq
        obtain rfl := not_not.1 heq
        split
        · rename_i hbad
          exact .inl ⟨hlacking, fun _ hchecked => hbad hchecked.integrity, rfl⟩
        · rename_i hok
          have hintegrity := not_not.1 hok
          refine .inr ⟨hlacking, remoteUfrag, ⟨husername, hintegrity⟩, ?_⟩
          rw [hintegrity]
          rfl

/-- The integrity is checked of what has the attribute. -/
theorem Checked.not_lacking {remoteUfrag : String} (h : Checked rtc iceParams msg remoteUfrag) :
    ¬ Lacking msg := by
  obtain ⟨bytes, hbytes, -⟩ := parseStunUsername_eq_some.1 h.username
  rintro (hnone | hnone)
  · rw [hbytes] at hnone
    cases hnone
  · have hintegrity := h.integrity
    unfold validateMessageIntegrity at hintegrity
    rw [hnone, if_neg (by simp)] at hintegrity
    cases hintegrity

theorem getStunMessage_of_checked (h : Parses rtc data msg) (htype : msg.type = STUN_BINDING_REQUEST)
    {remoteUfrag : String} (hchecked : Checked rtc iceParams msg remoteUfrag) :
    getStunMessage rtc iceParams data = acceptance msg remoteUfrag := by
  rcases getStunMessage_checked iceParams h htype with
    ⟨hlacking, -⟩ | ⟨-, hnone, -⟩ | ⟨-, remoteUfrag', hchecked', hgot⟩
  · exact absurd hlacking hchecked.not_lacking
  · exact absurd hchecked (hnone remoteUfrag)
  · have heq := hchecked.username.symm.trans hchecked'.username
    rw [hgot, (Prod.mk.inj (Option.some.inj heq)).2]

/-- **A Binding Request is accepted where it is authentic.** -/
theorem getStunMessage_request (iceParams : IceParameters) (h : Parses rtc data msg)
    (htype : msg.type = STUN_BINDING_REQUEST) (hinside : Inside rtc data) :
    (Lacking msg ∧
      getStunMessage rtc iceParams data = refusal rtc iceParams msg STUN_ERROR_BAD_REQUEST) ∨
    (¬ Lacking msg ∧ (∀ remoteUfrag, ¬ Authentic rtc iceParams data msg remoteUfrag) ∧
      getStunMessage rtc iceParams data = refusal rtc iceParams msg STUN_ERROR_UNAUTHORIZED) ∨
    ∃ remoteUfrag, Authentic rtc iceParams data msg remoteUfrag ∧
      getStunMessage rtc iceParams data = acceptance msg remoteUfrag := by
  rcases getStunMessage_checked iceParams h htype with
    hbad | ⟨hlacking, hunauthorized, hgot⟩ | ⟨-, remoteUfrag, hchecked, hgot⟩
  · exact .inl hbad
  · exact .inr (.inl ⟨hlacking, fun remoteUfrag hauth =>
      hunauthorized remoteUfrag ((checked_iff h hinside).2 hauth), hgot⟩)
  · exact .inr (.inr ⟨remoteUfrag, (checked_iff h hinside).1 hchecked, hgot⟩)

/-! ## What is sent -/

theorem Sized.front (h : Sized msg) : front16 (msg.write rtc) = msg.type := by
  have hlength : (beBytes 2 msg.type.toNat).length = 2 := length_beBytes 2 _
  rw [h.write rtc]
  unfold front16 header
  rw [List.append_assoc, List.append_assoc, List.append_assoc, List.take_left' hlength,
    beValue_beBytes (w := 2) msg.type.toNat_lt, UInt16.ofNat_toNat]

/-- A refusal is an error response. -/
theorem bindingErrorResponse_front (rtc : Rtc) (iceParams : IceParameters) (msg : StunMessage)
    {errCode : ℤ} (h : errCode = STUN_ERROR_BAD_REQUEST ∨ errCode = STUN_ERROR_UNAUTHORIZED) :
    front16 (bindingErrorResponse rtc iceParams msg errCode) = STUN_BINDING_ERROR_RESPONSE := by
  have hplain : ¬ (errCode ≠ STUN_ERROR_BAD_REQUEST ∧ errCode ≠ STUN_ERROR_UNAUTHORIZED) := by
    rintro ⟨hbad, hunauthorized⟩
    exact h.elim hbad hunauthorized
  let error : StunAttribute := .ofErrorCode errCode (toBytes (errorReason errCode))
  let empty : StunMessage :=
    { type := STUN_BINDING_ERROR_RESPONSE, transactionId := msg.transactionId }
  have hsize : totalSize [error] ≤ 100 := by
    rcases h with rfl | rfl <;> decide
  have hsized : Sized (empty.addAttribute error) := by
    have hempty : Sized empty := ⟨rfl, Nat.two_pow_pos 16⟩
    refine hempty.addAttribute error ?_
    show totalSize [error] < 2 ^ 16
    omega
  obtain ⟨built, hbuilt, hsized', -, htype, -⟩ := hsized.addFingerprint rtc (by
    show totalSize [error] + 8 < 2 ^ 16
    omega)
  unfold bindingErrorResponse
  dsimp only
  rw [if_neg hplain, hbuilt, hsized'.front, htype]
  rfl

/-! ## What is done -/

variable {ch : IceTransportChannel} {port : UDPPort} {addr : SocketAddress} {id : ℕ} {now : ℤ}

/-- The pings that the connections have counted are the same. -/
def SamePings (s t : IceTransportChannel) : Prop :=
  ∀ i, (t.heap i).lastPingReceived = (s.heap i).lastPingReceived

theorem Quiet.samePings {s t : IceTransportChannel} (h : Quiet s t) : SamePings s t :=
  fun i => (h i).pingReceived

theorem SamePings.trans {s t u : IceTransportChannel} (h : SamePings s t) (k : SamePings t u) :
    SamePings s u := fun i => (k i).trans (h i)

theorem receivedPingResponse_samePings (movingAverage : ℤ → ℤ → ℤ → ℤ) (s : IceTransportChannel)
    (id : ℕ) (rtt now : ℤ) : SamePings s (receivedPingResponse s id movingAverage rtt now) := by
  intro i
  by_cases hi : i = id
  · subst hi
    unfold receivedPingResponse
    dsimp only
    rw [setConn_heap_self]
    refine (Calm.of_unselected (setWriteState_heap ..)).pingReceived.trans ?_
    refine (updateReceiving_quiet _ i now i).pingReceived.trans ?_
    rw [setConn_heap_self]
  · exact (Calm.of_unselected ((receivedPingResponse_touches movingAverage s id rtt now).others i
      hi)).pingReceived

/-- An answer is no ping. -/
theorem checkResponse_samePings (movingAverage : ℤ → ℤ → ℤ → ℤ) (s : IceTransportChannel) (id : ℕ)
    (response : StunResponse) (now : ℤ) :
    SamePings s (checkResponse s id movingAverage response now) := by
  have huse := (use_quiet s id).samePings
  unfold checkResponse
  dsimp only
  cases ((s.use id).heap id).findRequest response.transactionId with
  | none => exact huse
  | some request =>
    refine SamePings.trans ?_ (deleteRequest_quiet _ id request).samePings
    split
    · exact huse.trans (receivedPingResponse_samePings movingAverage _ id _ now)
    · split
      · refine huse.trans ?_
        unfold onConnectionRequestErrorResponse
        dsimp only
        split
        · exact (use_quiet _ id).samePings
        · exact ((use_quiet _ id).trans (failAndDestroy_quiet _ id now)).samePings
      · exact huse

/-- **Only a request is counted as a ping.** -/
theorem onReadPacket_samePings (movingAverage : ℤ → ℤ → ℤ → ℤ) (s : IceTransportChannel) (id : ℕ)
    {packet : Packet} (h : ∀ remoteUfrag priority, packet ≠ .request remoteUfrag priority) (now : ℤ) :
    SamePings s (IceConnection.onReadPacket s id movingAverage packet now) := by
  have huse := (use_quiet s id).samePings
  unfold IceConnection.onReadPacket
  dsimp only
  cases packet with
  | request remoteUfrag priority => exact absurd rfl (h remoteUfrag priority)
  | refused => exact huse
  | otherStun => exact huse
  | notStun =>
    refine (rewrite_quiet ?_).samePings
    rw [(use_noted s id).heap]
    exact ⟨⟨List.Subset.refl _, rfl, rfl⟩, fun hw => hw, rfl⟩
  | response response =>
    dsimp only
    split
    · split
      · exact huse.trans (checkResponse_samePings movingAverage _ id response now)
      · exact huse
    · exact huse

theorem Answered.made {s t : IceTransportChannel} {packet : Packet} (h : Answered id packet s t) :
    t.made = s.made := by
  cases h with
  | touched _ _ htouch => exact htouch.made
  | answered u request _ _ htouch _ => exact (use_noted u id).onlySelects.made.trans htouch.made
  | ended u request _ hends => exact (use_noted u id).onlySelects.made.trans hends.made

/-! ## Requests on a port -/

/-- No connection is made, destroyed or changed. -/
structure Untouched (s t : IceTransportChannel) : Prop where
  heap : t.heap = s.heap
  made : t.made = s.made
  destroyed : t.destroyed = s.destroyed
  ports : t.ports = s.ports

theorem Untouched.refl (s : IceTransportChannel) : Untouched s s := ⟨rfl, rfl, rfl, rfl⟩

theorem use_untouched (s : IceTransportChannel) (id : ℕ) : Untouched s (s.use id) := by
  have huse := use_noted s id
  exact ⟨huse.heap, huse.onlySelects.made, huse.onlySelects.destroyed, huse.onlySelects.ports⟩

/-- A connection is made, a ping is counted, or a success response sent. -/
def Acts (s : IceTransportChannel)
    (r : IceTransportChannel × List (SocketAddress × List UInt8)) : Prop :=
  r.1.made ≠ s.made ∨ ¬ SamePings s r.1 ∨ ∃ sent ∈ r.2, front16 sent.2 = STUN_BINDING_RESPONSE

/-- Where the answers to a datagram go. -/
def peer (ch : IceTransportChannel) (port : UDPPort) (addr : SocketAddress) : SocketAddress :=
  match port.getConnection addr with
  | some conn => (ch.heap conn).remoteCandidate.address
  | none => addr

/-- **The connection of the address, or else a new one, takes the request**:
it is authentic, and names the peer of the connection or has a PRIORITY for
the new one. -/
def Taken (rtc : Rtc) (iceParams : IceParameters) (ch : IceTransportChannel) (port : UDPPort)
    (addr : SocketAddress) (data : List UInt8) (msg : StunMessage) : Prop :=
  ∃ remoteUfrag, Authentic rtc iceParams data msg remoteUfrag ∧
    match port.getConnection addr with
    | some conn => remoteUfrag = (ch.heap conn).remoteCandidate.username
    | none => msg.getUint32 STUN_ATTR_PRIORITY ≠ none

/-- **A request is a bad one** where USERNAME or MESSAGE-INTEGRITY is absent,
or where it is authentic, comes from an unknown address and lacks the
PRIORITY. -/
def BadRequest (rtc : Rtc) (iceParams : IceParameters) (port : UDPPort) (addr : SocketAddress)
    (data : List UInt8) (msg : StunMessage) : Prop :=
  Lacking msg ∨ port.getConnection addr = none ∧ msg.getUint32 STUN_ATTR_PRIORITY = none ∧
    ∃ remoteUfrag, Authentic rtc iceParams data msg remoteUfrag

theorem Authentic.not_lacking {remoteUfrag : String}
    (h : Authentic rtc iceParams data msg remoteUfrag) : ¬ Lacking msg := by
  obtain ⟨bytes, hbytes, -⟩ := h.username
  rintro (hnone | hnone)
  · rw [hbytes] at hnone
    cases hnone
  · exact h.present hnone

theorem onReadDatagram_refused (movingAverage : ℤ → ℤ → ℤ → ℤ) (portIndex : ℕ) {errCode : ℤ}
    (h : getStunMessage rtc iceParams data = refusal rtc iceParams msg errCode) :
    let r := ch.onReadDatagram rtc iceParams movingAverage portIndex port addr data id now
    Untouched ch r.1 ∧
      r.2 = [(peer ch port addr, bindingErrorResponse rtc iceParams msg errCode)] := by
  unfold IceTransportChannel.onReadDatagram IceTransportChannel.onReadPacket peer
  dsimp only
  rw [h]
  cases port.getConnection addr with
  | none => exact ⟨.refl ch, rfl⟩
  | some conn => exact ⟨use_untouched ch conn, rfl⟩

/-- An authentic request that is not taken is refused by the connection of
its address, or by the channel. -/
theorem onReadDatagram_declined (movingAverage : ℤ → ℤ → ℤ → ℤ) (portIndex : ℕ)
    {remoteUfrag : String} (htype : msg.type = STUN_BINDING_REQUEST)
    (hauth : Authentic rtc iceParams data msg remoteUfrag)
    (hnot : ¬ Taken rtc iceParams ch port addr data msg)
    (h : getStunMessage rtc iceParams data = acceptance msg remoteUfrag) :
    let r := ch.onReadDatagram rtc iceParams movingAverage portIndex port addr data id now
    Untouched ch r.1 ∧ ∃ errCode,
      r.2 = [(peer ch port addr, bindingErrorResponse rtc iceParams msg errCode)] ∧
      (BadRequest rtc iceParams port addr data msg ∧ errCode = STUN_ERROR_BAD_REQUEST ∨
        ¬ BadRequest rtc iceParams port addr data msg ∧ errCode = STUN_ERROR_UNAUTHORIZED) := by
  have hpacket : packetOf rtc (acceptance msg remoteUfrag) =
      .request remoteUfrag (msg.getUint32 STUN_ATTR_PRIORITY) := by
    unfold packetOf acceptance
    dsimp only
    rw [if_neg (by decide), if_pos htype]
    rfl
  unfold Taken at hnot
  unfold BadRequest IceTransportChannel.onReadDatagram IceTransportChannel.onReadPacket peer
  dsimp only
  rw [h, hpacket]
  cases hconn : port.getConnection addr with
  | none =>
    rw [hconn] at hnot
    have hpriority : msg.getUint32 STUN_ATTR_PRIORITY = none := by
      by_contra hsome
      exact hnot ⟨remoteUfrag, hauth, hsome⟩
    dsimp only
    rw [hpriority]
    refine ⟨.refl ch, STUN_ERROR_BAD_REQUEST, ?_, .inl ⟨.inr ⟨rfl, rfl, remoteUfrag, hauth⟩, rfl⟩⟩
    have hsame : StunMessage.getUint32 { msg with integrity := .integrityOk } STUN_ATTR_PRIORITY =
      none := hpriority
    unfold unknownAnswers acceptance
    dsimp only
    rw [if_pos htype, hsame]
    rfl
  | some conn =>
    rw [hconn] at hnot
    have hname : remoteUfrag ≠ (ch.heap conn).remoteCandidate.username :=
      fun heq => hnot ⟨remoteUfrag, hauth, heq⟩
    refine ⟨?_, STUN_ERROR_UNAUTHORIZED, ?_, .inr ⟨?_, rfl⟩⟩
    · unfold IceConnection.onReadPacket
      dsimp only
      rw [(use_noted ch conn).heap, if_pos hname]
      exact use_untouched ch conn
    · unfold answers acceptance
      dsimp only
      rw [if_pos htype, if_pos hname]
      rfl
    · rintro (hlacking | ⟨hnone, -⟩)
      · exact hauth.not_lacking hlacking
      · cases hnone

/-- What is no request makes no connection, counts as no ping and is not
answered. -/
theorem onReadDatagram_other (movingAverage : ℤ → ℤ → ℤ → ℤ) (portIndex : ℕ)
    (h : ∀ msg, Parses rtc data msg → msg.type ≠ STUN_BINDING_REQUEST) :
    ¬ Acts ch (ch.onReadDatagram rtc iceParams movingAverage portIndex port addr data id now) := by
  let got := getStunMessage rtc iceParams data
  have hgot : got.sent = [] ∧
      (got.outMsg = none ∨ ∃ msg, got.outMsg = some msg ∧ msg.type ≠ STUN_BINDING_REQUEST) := by
    by_cases hparses : ∃ msg, Parses rtc data msg
    · obtain ⟨msg, hmsg⟩ := hparses
      have heq : got = { res := true, outMsg := some msg } := hmsg.got (h msg hmsg)
      rw [heq]
      exact ⟨rfl, .inr ⟨msg, rfl, h msg hmsg⟩⟩
    · have heq : got = { res := false } := getStunMessage_of_not fun msg hmsg => hparses ⟨msg, hmsg⟩
      rw [heq]
      exact ⟨rfl, .inl rfl⟩
  obtain ⟨hsent, hout⟩ := hgot
  have hpacket : ∀ remoteUfrag priority, packetOf rtc got ≠ .request remoteUfrag priority := by
    intro remoteUfrag priority heq
    unfold packetOf at heq
    split at heq
    · cases heq
    · rcases hout with hnone | ⟨msg, hmsg, htype⟩
      · rw [hnone] at heq
        cases heq
      · rw [hmsg] at heq
        dsimp only at heq
        rw [if_neg htype] at heq
        split at heq <;> cases heq
  have hanswers : ∀ remote, answers rtc iceParams remote got = [] ∧
      unknownAnswers rtc iceParams addr got = [] := by
    intro remote
    unfold answers unknownAnswers
    rcases hout with hnone | ⟨msg, hmsg, htype⟩
    · rw [hnone]
      exact ⟨rfl, rfl⟩
    · rw [hmsg]
      exact ⟨if_neg htype, if_neg htype⟩
  rintro (hmade | hpings | ⟨sent, hmem, -⟩)
  · refine hmade ?_
    show (ch.onReadPacket movingAverage portIndex port addr (packetOf rtc got) id now).made = ch.made
    unfold IceTransportChannel.onReadPacket
    split
    · exact (onReadPacket_answered movingAverage ch _ _ now).made
    · split
      · rename_i heq
        exact absurd heq (hpacket _ _)
      · rfl
  · refine hpings ?_
    show SamePings ch (ch.onReadPacket movingAverage portIndex port addr (packetOf rtc got) id now)
    unfold IceTransportChannel.onReadPacket
    split
    · exact onReadPacket_samePings movingAverage ch _ hpacket now
    · split
      · rename_i heq
        exact absurd heq (hpacket _ _)
      · exact fun _ => rfl
  · have hempty : (ch.onReadDatagram rtc iceParams movingAverage portIndex port addr data id now).2 =
        [] := by
      unfold IceTransportChannel.onReadDatagram
      dsimp only
      split
      · rw [(hanswers _).1, hsent]
        rfl
      · rw [(hanswers {}).2, hsent]
        rfl
    rw [hempty] at hmem
    cases hmem

/-- A request that is not taken is refused with one error. -/
theorem onReadDatagram_request (movingAverage : ℤ → ℤ → ℤ → ℤ) (portIndex id : ℕ) (now : ℤ)
    (h : Parses rtc data msg) (htype : msg.type = STUN_BINDING_REQUEST) (hinside : Inside rtc data)
    (hnot : ¬ Taken rtc iceParams ch port addr data msg) :
    let r := ch.onReadDatagram rtc iceParams movingAverage portIndex port addr data id now
    Untouched ch r.1 ∧ ∃ errCode,
      r.2 = [(peer ch port addr, bindingErrorResponse rtc iceParams msg errCode)] ∧
      (BadRequest rtc iceParams port addr data msg ∧ errCode = STUN_ERROR_BAD_REQUEST ∨
        ¬ BadRequest rtc iceParams port addr data msg ∧ errCode = STUN_ERROR_UNAUTHORIZED) := by
  dsimp only
  rcases getStunMessage_request iceParams h htype hinside with
    ⟨hlacking, hgot⟩ | ⟨hlacking, hbad, hgot⟩ | ⟨remoteUfrag, hauth, hgot⟩
  · obtain ⟨huntouched, hsent⟩ := onReadDatagram_refused movingAverage portIndex hgot
    exact ⟨huntouched, _, hsent, .inl ⟨.inl hlacking, rfl⟩⟩
  · obtain ⟨huntouched, hsent⟩ := onReadDatagram_refused movingAverage portIndex hgot
    refine ⟨huntouched, _, hsent, .inr ⟨?_, rfl⟩⟩
    rintro (hlacks | ⟨-, -, remoteUfrag, hauth⟩)
    · exact hlacking hlacks
    · exact hbad remoteUfrag hauth
  · exact onReadDatagram_declined movingAverage portIndex htype hauth hnot hgot

/-- **Only a request that is taken makes a connection, counts as a ping or
is answered with success; any other request that can be read changes no
connection and is refused with one error.** -/
theorem requests_authenticated (rtc : Rtc) (iceParams : IceParameters) (ch : IceTransportChannel)
    (movingAverage : ℤ → ℤ → ℤ → ℤ) (portIndex : ℕ) (port : UDPPort) (addr : SocketAddress)
    (data : List UInt8) (id : ℕ) (now : ℤ) (hinside : Inside rtc data) :
    let r := ch.onReadDatagram rtc iceParams movingAverage portIndex port addr data id now
    (Acts ch r → ∃ msg, Parses rtc data msg ∧ msg.type = STUN_BINDING_REQUEST ∧
      Taken rtc iceParams ch port addr data msg) ∧
    ∀ msg, Parses rtc data msg → msg.type = STUN_BINDING_REQUEST →
      ¬ Taken rtc iceParams ch port addr data msg →
      Untouched ch r.1 ∧ ∃ errCode,
        r.2 = [(peer ch port addr, bindingErrorResponse rtc iceParams msg errCode)] ∧
        (BadRequest rtc iceParams port addr data msg ∧ errCode = STUN_ERROR_BAD_REQUEST ∨
          ¬ BadRequest rtc iceParams port addr data msg ∧ errCode = STUN_ERROR_UNAUTHORIZED) := by
  dsimp only
  refine ⟨fun hacts => ?_, fun msg hmsg htype hnot =>
    onReadDatagram_request movingAverage portIndex id now hmsg htype hinside hnot⟩
  by_contra hnone
  by_cases hrequest : ∃ msg, Parses rtc data msg ∧ msg.type = STUN_BINDING_REQUEST
  · obtain ⟨msg, hmsg, htype⟩ := hrequest
    have hnot : ¬ Taken rtc iceParams ch port addr data msg :=
      fun htaken => hnone ⟨msg, hmsg, htype, htaken⟩
    obtain ⟨huntouched, errCode, hsent, hcode⟩ :=
      onReadDatagram_request movingAverage portIndex id now hmsg htype hinside hnot
    rcases hacts with hmade | hpings | ⟨sent, hmem, hfront⟩
    · exact hmade huntouched.made
    · refine hpings fun i => ?_
      rw [huntouched.heap]
    · rw [hsent] at hmem
      obtain rfl := List.mem_singleton.1 hmem
      have herror := bindingErrorResponse_front rtc iceParams msg (hcode.imp And.right And.right)
      rw [hfront] at herror
      exact absurd herror (by decide)
  · refine onReadDatagram_other movingAverage portIndex (fun msg hmsg htype => ?_) hacts
    exact hrequest ⟨msg, hmsg, htype⟩

/-- The local user name is `a`. -/
def freshParams : IceParameters := { iceUfrag := "a", icePwd := "key" }

/-- A request with this user name. -/
def requestFrom (username : List UInt8) (more : List StunAttribute) : List UInt8 :=
  datagram blankRtc STUN_BINDING_REQUEST (List.replicate 12 7)
    (.byteString STUN_ATTR_USERNAME username :: more) [] freshParams.icePwd

def firstAddress : SocketAddress := ⟨0x0A000001, 5000⟩

theorem requests_authenticated_first :
    let data := requestFrom [97, 58, 98] [.uint32 STUN_ATTR_PRIORITY 7]
    ∃ msg, Parses blankRtc data msg ∧ msg.type = STUN_BINDING_REQUEST ∧
      Taken blankRtc freshParams (.init [0]) ⟨0, []⟩ firstAddress data msg := by
  refine (requests_authenticated blankRtc freshParams (.init [0]) (fun x _ _ => x) 0 ⟨0, []⟩
    firstAddress _ 0 0 ?_).1 (.inl ?_)
  · intro pos hpos
    have hfound : findIntegrity blankRtc
        (requestFrom [97, 58, 98] [.uint32 STUN_ATTR_PRIORITY 7]) = some 36 := by decide +kernel
    obtain rfl := Option.some.inj (hfound.symm.trans hpos)
    decide +kernel
  · decide +kernel

/-- A request from an unknown address that lacks the PRIORITY, and has a
wrong user name, is refused as unauthorized. -/
theorem unauthorized_without_priority :
    let data := requestFrom [120, 58, 98] []
    let r := (IceTransportChannel.init [0]).onReadDatagram blankRtc freshParams (fun x _ _ => x) 0
      ⟨0, []⟩ firstAddress data 0 0
    Inside blankRtc data ∧ (UDPPort.mk 0 []).getConnection firstAddress = none ∧
      ∃ msg, Parses blankRtc data msg ∧ msg.type = STUN_BINDING_REQUEST ∧
        msg.getUint32 STUN_ATTR_PRIORITY = none ∧
        r.2 = [(firstAddress,
          bindingErrorResponse blankRtc freshParams msg STUN_ERROR_UNAUTHORIZED)] ∧
        r.2 ≠ [(firstAddress,
          bindingErrorResponse blankRtc freshParams msg STUN_ERROR_BAD_REQUEST)] := by
  refine ⟨?_, rfl, received blankRtc STUN_BINDING_REQUEST (List.replicate 12 7)
    [.byteString STUN_ATTR_USERNAME [120, 58, 98]] [] freshParams.icePwd, ⟨?_, ?_⟩, rfl, ?_, ?_, ?_⟩
  · intro pos hpos
    have hfound : findIntegrity blankRtc (requestFrom [120, 58, 98] []) = some 28 := by decide +kernel
    obtain rfl := Option.some.inj (hfound.symm.trans hpos)
    decide +kernel
  · exact datagram_fingerprint blankRtc (by decide)
  · refine datagram_read blankRtc (by decide) (by decide) (fun attr hattr => ?_) (by simp) (by decide)
    obtain rfl := List.mem_singleton.1 hattr
    exact ⟨_, rfl⟩
  · decide +kernel
  · decide +kernel
  · decide +kernel

end Ice

end XrtcServer
