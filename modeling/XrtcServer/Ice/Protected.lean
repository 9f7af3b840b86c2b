import XrtcServer.Common.Text
import XrtcServer.Ice.Requests
/-!
# What the HMAC protects

The HMAC is taken of the bytes before the first MESSAGE-INTEGRITY attribute,
while the user name and the priority are the first that are read of the
whole datagram. Where both are read before the end of that attribute, what
follows makes no difference (`Covered.same`); where one of them is not,
whoever has seen the datagram can set it (`Regular.differs`).
-/

namespace XrtcServer

namespace Ice

open Base Common StunMessage UDPPort

variable {rtc : Rtc} {iceParams : IceParameters} {data data' : List UInt8} {msg msg' : StunMessage}
variable {attrs : List StunAttribute} {pos : ℕ}

/-- The datagram is a Binding Request, and `get_stun_message` puts it out. -/
structure Accepted (rtc : Rtc) (iceParams : IceParameters) (data : List UInt8)
    (msg : StunMessage) : Prop where
  out : (getStunMessage rtc iceParams data).outMsg = some msg
  type : msg.type = STUN_BINDING_REQUEST

/-- Where the attribute at a position ends. -/
def attributeEnd (data : List UInt8) (pos : ℕ) : ℕ := pos + 4 + (front16 (data.drop (pos + 2))).toNat

/-- **Two datagrams are the same up to the end of their first
MESSAGE-INTEGRITY attribute**, but for the length field. -/
structure SameProtected (rtc : Rtc) (data data' : List UInt8) (pos : ℕ) : Prop where
  found : findIntegrity rtc data = some pos
  found' : findIntegrity rtc data' = some pos
  front : data'.take 2 = data.take 2
  back : (data'.take (attributeEnd data pos)).drop 4 = (data.take (attributeEnd data pos)).drop 4

/-- **A user name and a priority are read from the protected bytes.** -/
def Covered (rtc : Rtc) (data : List UInt8) (pos : ℕ) : Prop :=
  ∃ attrs rest,
    Reads rtc ((data.take (attributeEnd data pos)).drop k_stun_header_size) attrs rest ∧
      (∃ attr ∈ attrs, attr.type = STUN_ATTR_USERNAME) ∧
      ∃ attr ∈ attrs, attr.type = STUN_ATTR_PRIORITY

/-- What the server does with a request: the user name of the peer and its
priority. -/
def used (rtc : Rtc) (iceParams : IceParameters) (data : List UInt8) (msg : StunMessage) :
    String × Option UInt32 :=
  ((getStunMessage rtc iceParams data).outUsername, msg.getUint32 STUN_ATTR_PRIORITY)

/-! ## Accepted requests -/

theorem Accepted.checked (h : Accepted rtc iceParams data msg) :
    ∃ got, Parses rtc data got ∧ got.type = STUN_BINDING_REQUEST ∧
      Checked rtc iceParams got (getStunMessage rtc iceParams data).outUsername ∧
      msg = { got with integrity := .integrityOk } := by
  obtain ⟨hout, htype⟩ := h
  by_cases hparses : ∃ got, Parses rtc data got
  · obtain ⟨got, hgot⟩ := hparses
    by_cases hrequest : got.type = STUN_BINDING_REQUEST
    · rcases getStunMessage_checked iceParams hgot hrequest with
        ⟨-, heq⟩ | ⟨-, -, heq⟩ | ⟨-, remoteUfrag, hchecked, heq⟩
      · rw [heq] at hout
        cases hout
      · rw [heq] at hout
        cases hout
      · rw [heq] at hout ⊢
        exact ⟨got, hgot, hrequest, hchecked, (Option.some.inj hout).symm⟩
    · rw [hgot.got hrequest] at hout
      obtain rfl := Option.some.inj hout
      exact absurd htype hrequest
  · rw [getStunMessage_of_not fun got hgot => hparses ⟨got, hgot⟩] at hout
    cases hout

/-- The first attribute of a type is found in the part where there is one. -/
theorem getAttribute_of_isPrefix {type : UInt16} (h : attrs <+: msg.attrs)
    (hmem : ∃ attr ∈ attrs, attr.type = type) :
    msg.getAttribute type = attrs.find? (·.type = type) := by
  obtain ⟨more, hmore⟩ := h
  obtain ⟨attr, hattr, htype⟩ := hmem
  have hsome : (attrs.find? (·.type = type)).isSome = true :=
    List.find?_isSome.2 ⟨attr, hattr, decide_eq_true htype⟩
  obtain ⟨found, hfound⟩ := Option.isSome_iff_exists.1 hsome
  unfold getAttribute
  rw [← hmore, List.find?_append, hfound, Option.some_or]

/-- What is read of the protected bytes comes first. -/
theorem Parses.isPrefix {rest : List UInt8} {fin : ℕ} (h : Parses rtc data msg)
    (hfin : k_stun_header_size ≤ fin)
    (hreads : Reads rtc ((data.take fin).drop k_stun_header_size) attrs rest) :
    attrs <+: msg.attrs := by
  obtain ⟨hread, -⟩ := read_some h.2
  have hlength := hread.length
  have hsplit : (data.take fin).drop k_stun_header_size ++ data.drop fin =
      data.drop k_stun_header_size := by
    rw [← List.drop_append_of_le_length (by rw [List.length_take]; omega), List.take_append_drop]
  have hall := hread.attrs
  rw [← hsplit] at hall
  exact hreads.isPrefix hall

/-- **What is covered is used**, whatever follows the attribute. -/
theorem Covered.same (h : Covered rtc data pos) (hsame : SameProtected rtc data data' pos)
    (hdata : Accepted rtc iceParams data msg) (hdata' : Accepted rtc iceParams data' msg') :
    used rtc iceParams data' msg' = used rtc iceParams data msg := by
  obtain ⟨attrs, rest, hreads, husername, hpriority⟩ := h
  obtain ⟨got, hgot, -, hchecked, rfl⟩ := hdata.checked
  obtain ⟨got', hgot', -, hchecked', rfl⟩ := hdata'.checked
  have hpos := findIntegrity_ge hsame.found
  have hfin : k_stun_header_size ≤ attributeEnd data pos := by
    unfold attributeEnd
    omega
  have hbytes : (data'.take (attributeEnd data pos)).drop k_stun_header_size =
      (data.take (attributeEnd data pos)).drop k_stun_header_size := by
    have hdrop := congrArg (List.drop 16) hsame.back
    rw [List.drop_drop, List.drop_drop] at hdrop
    exact hdrop
  have hstarts := hgot.isPrefix hfin hreads
  have hstarts' := hgot'.isPrefix hfin (hbytes ▸ hreads)
  have hattribute : ∀ type, (∃ attr ∈ attrs, attr.type = type) →
      got'.getAttribute type = got.getAttribute type := fun type hmem =>
    (getAttribute_of_isPrefix hstarts' hmem).trans (getAttribute_of_isPrefix hstarts hmem).symm
  refine Prod.ext ?_ ?_
  · have hparse : parseStunUsername rtc got' = parseStunUsername rtc got := by
      unfold parseStunUsername getByteString
      rw [hattribute _ husername]
    have heq := hchecked'.username.symm.trans (hparse.trans hchecked.username)
    exact (Prod.mk.inj (Option.some.inj heq)).2
  · show got'.getUint32 STUN_ATTR_PRIORITY = got.getUint32 STUN_ATTR_PRIORITY
    unfold getUint32
    rw [hattribute _ hpriority]

/-! ## The bytes of a request -/

/-- **What is read starts with a header.** -/
theorem Parses.header (h : Parses rtc data msg) :
    ∃ transactionId, transactionId.length = k_stun_transaction_id_length ∧
      data = header msg.type (data.length - k_stun_header_size) transactionId ++
        data.drop k_stun_header_size := by
  obtain ⟨hread, -⟩ := read_some h.2
  have hlength := hread.length
  unfold k_stun_header_size at hlength ⊢
  have hcookie : beBytes 4 k_stun_magic_cookie.toNat = (data.drop 4).take 4 := by
    have hvalid := h.1
    have hfour : ((data.drop 4).take 4).length = 4 := by
      rw [List.length_take, List.length_drop]
      omega
    have hlt := beValue_lt ((data.drop 4).take 4)
    rw [hfour] at hlt
    have hvalue : rtc.getBE32 (data.drop 4) = k_stun_magic_cookie := by
      unfold validateFingerprint at hvalid
      dsimp only at hvalid
      split at hvalid
      · cases hvalid
      · split at hvalid
        · cases hvalid
        · rename_i hcookie
          exact not_not.1 hcookie
    rw [← hvalue, rtc.getBE32_eq _ (by rw [List.length_drop]; omega),
      UInt32.toNat_ofNat_of_lt' hlt]
    nth_rewrite 1 [← hfour]
    exact beBytes_beValue _
  have htype : beBytes 2 msg.type.toNat = data.take 2 := by
    rw [← hread.type, front16_bytes (by omega)]
  have hfield : beBytes 2 (data.length - 20) = (data.drop 2).take 2 := by
    have hnumber : data.length - 20 = msg.length.toNat := by omega
    rw [hnumber, ← hread.field, front16_bytes (by rw [List.length_drop]; omega)]
  refine ⟨(data.drop 8).take 12, ?_, ?_⟩
  · rw [List.length_take, List.length_drop]
    unfold k_stun_transaction_id_length
    omega
  · have hjoin : ∀ i n : ℕ, (data.drop i).take n ++ data.drop (i + n) = data.drop i := by
      intro i n
      rw [← List.drop_drop, List.take_append_drop]
    have hstart : data.take 2 ++ data.drop 2 = data := List.take_append_drop 2 data
    unfold Ice.header
    rw [htype, hfield, hcookie]
    simp only [List.append_assoc]
    rw [hjoin 8 12, hjoin 4 4, hjoin 2 2, hstart]

variable {type : UInt16} {transactionId body more more' username : List UInt8} {n n' : ℕ}

theorem drop_of_header (htid : transactionId.length = k_stun_transaction_id_length)
    (hn : k_stun_header_size ≤ pos) (body : List UInt8) :
    (header type n transactionId ++ body).drop pos = body.drop (pos - k_stun_header_size) := by
  have hlength : (header type n transactionId).length = k_stun_header_size := header_length htid
  rw [List.drop_append, List.drop_of_length_le (by omega), hlength, List.nil_append]

theorem take_of_header (htid : transactionId.length = k_stun_transaction_id_length)
    (hn : k_stun_header_size ≤ pos) (body : List UInt8) :
    (header type n transactionId ++ body).take pos =
      header type n transactionId ++ body.take (pos - k_stun_header_size) := by
  have hlength : (header type n transactionId).length = k_stun_header_size := header_length htid
  rw [List.take_append, List.take_of_length_le (by omega), hlength]

theorem withLength_header (type : UInt16) (n n' : ℕ) (transactionId body : List UInt8) :
    withLength (header type n transactionId ++ body) n' = header type n' transactionId ++ body := by
  have hfour : (beBytes 2 type.toNat ++ beBytes 2 n).length = 4 := by simp
  unfold withLength header
  simp only [List.append_assoc]
  rw [List.take_left' (length_beBytes 2 _), ← List.append_assoc _ (beBytes 2 n),
    List.drop_left' hfour]

/-! ## Another ending -/

/-- The attributes that are put behind the protected bytes. -/
def added (username : List UInt8) (priority : UInt32) : List StunAttribute :=
  [.byteString STUN_ATTR_USERNAME username, .byteString STUN_ATTR_MESSAGE_INTEGRITY [],
    .uint32 STUN_ATTR_PRIORITY priority]

/-- What comes before the fingerprint then. -/
def unsealed (transactionId body username : List UInt8) (priority : UInt32) : List UInt8 :=
  header STUN_BINDING_REQUEST (body.length + (totalSize (added username priority) + 8))
    transactionId ++ (body ++ wires (added username priority))

/-- A datagram with the same protected bytes and another ending. -/
def extended (rtc : Rtc) (transactionId body username : List UInt8) (priority : UInt32) :
    List UInt8 :=
  unsealed transactionId body username priority ++
    (fingerprint rtc (unsealed transactionId body username priority)).wire

/-- What is read of it. -/
def readExtended (rtc : Rtc) (transactionId body username : List UInt8) (priority : UInt32)
    (attrs : List StunAttribute) : StunMessage where
  type := STUN_BINDING_REQUEST
  length := .ofNat (body.length + (totalSize (added username priority) + 8))
  transactionId := transactionId
  attrs := attrs ++ added username priority
  buffer := extended rtc transactionId body username priority

variable {priority : UInt32}

theorem totalSize_added (username : List UInt8) (priority : UInt32) :
    totalSize (added username priority) = padded username.length + 16 := by
  have hpriority : (StunAttribute.uint32 STUN_ATTR_PRIORITY priority).paddedSize = 8 := by
    unfold StunAttribute.paddedSize StunAttribute.value
    rw [length_beBytes]
    rfl
  have hintegrity : (StunAttribute.byteString STUN_ATTR_MESSAGE_INTEGRITY []).paddedSize = 4 := rfl
  have husername : (StunAttribute.byteString STUN_ATTR_USERNAME username).paddedSize =
      4 + padded username.length := rfl
  unfold totalSize added
  simp only [List.map_cons, List.map_nil, List.sum_cons, List.sum_nil, hpriority, hintegrity,
    husername]
  omega

/-- The ending, as it follows the protected bytes. -/
theorem extended_eq (rtc : Rtc) (transactionId body username : List UInt8) (priority : UInt32) :
    ∃ ending, ending.length = totalSize (added username priority) + 8 ∧
      extended rtc transactionId body username priority =
        header STUN_BINDING_REQUEST (body.length + ending.length) transactionId ++
          (body ++ ending) := by
  have hwire : (fingerprint rtc (unsealed transactionId body username priority)).wire.length = 8 :=
    (StunAttribute.wire_length _).trans (fingerprint_size rtc _)
  have hlength : (wires (added username priority) ++
      (fingerprint rtc (unsealed transactionId body username priority)).wire).length =
      totalSize (added username priority) + 8 := by
    rw [List.length_append, wires_length, hwire]
  refine ⟨_, hlength, ?_⟩
  rw [hlength]
  show unsealed transactionId body username priority ++ _ = _
  simp only [unsealed, List.append_assoc]

/-- **It is read**: the protected attributes, and then those added. -/
theorem extended_parses (rtc : Rtc) (htid : transactionId.length = k_stun_transaction_id_length)
    (haligned : body.length % 4 = 0) (hreads : Reads rtc body attrs [])
    (hfits : body.length + (totalSize (added username priority) + 8) < 2 ^ 16) :
    Parses rtc (extended rtc transactionId body username priority)
      (readExtended rtc transactionId body username priority attrs) := by
  let bytes := unsealed transactionId body username priority
  have hmod := totalSize_mod (added username priority)
  constructor
  · have hlength : (unsealed transactionId body username priority).length =
        k_stun_header_size + (body.length + totalSize (added username priority)) := by
      unfold unsealed
      rw [List.length_append, List.length_append, wires_length, header_length htid]
    refine validateFingerprint_of_eq rtc rfl ?_ ?_ ?_
    · unfold k_stun_header_size at hlength
      omega
    · omega
    · unfold extended unsealed
      rw [List.append_assoc]
      exact header_cookie ..
  · have htyped : ∀ attr ∈ added username priority ++ [fingerprint rtc bytes], attr.WellTyped := by
      intro attr hattr
      simp only [added, List.cons_append, List.nil_append, List.mem_cons, List.not_mem_nil,
        or_false] at hattr
      rcases hattr with rfl | rfl | rfl | rfl
      · exact ⟨_, rfl⟩
      · exact ⟨_, rfl⟩
      · exact ⟨_, rfl⟩
      · trivial
    have hsize : totalSize (added username priority ++ [fingerprint rtc bytes]) =
        totalSize (added username priority) + 8 := by
      rw [totalSize_concat, fingerprint_size]
    have hkept : (added username priority ++ [fingerprint rtc bytes]).filterMap StunAttribute.kept =
        added username priority := rfl
    have hending := reads_wires rtc htyped (by omega) []
    rw [List.append_nil, hkept] at hending
    have hall := (hreads.append_right haligned
      (wires (added username priority ++ [fingerprint rtc bytes]))).append hending
    have hlength : (body ++ wires (added username priority ++ [fingerprint rtc bytes])).length =
        body.length + (totalSize (added username priority) + 8) := by
      rw [List.length_append, wires_length, hsize]
    have htype : STUN_BINDING_REQUEST &&& 0x0800 = 0 := by decide
    have hread := read_of_reads rtc htype htid (by rw [hlength]; exact hfits) hall
    have hbytes : extended rtc transactionId body username priority =
        header STUN_BINDING_REQUEST
          (body ++ wires (added username priority ++ [fingerprint rtc bytes])).length transactionId ++
          (body ++ wires (added username priority ++ [fingerprint rtc bytes])) := by
      rw [hlength, wires_concat]
      show unsealed transactionId body username priority ++ _ = _
      simp only [unsealed, List.append_assoc]
      rfl
    rw [hbytes, hread, ← hbytes, hlength]
    rfl

/-- **It has the same protected bytes.** -/
theorem extended_same (username : List UInt8) (priority : UInt32)
    (htid : transactionId.length = k_stun_transaction_id_length)
    (hbody : body.length = pos + 4) (hfound : findIntegrity rtc data = some pos)
    (hdata : data = header STUN_BINDING_REQUEST n transactionId ++ (body ++ more))
    (hsize : front16 (data.drop (pos + 2)) = 20) :
    SameProtected rtc data (extended rtc transactionId body username priority) pos ∧
      ((extended rtc transactionId body username priority).drop (pos + 4)).take 20 =
        (data.drop (pos + 4)).take 20 ∧
      ∀ m, withLength ((extended rtc transactionId body username priority).take pos) m =
        withLength (data.take pos) m := by
  obtain ⟨ending, -, heq⟩ := extended_eq rtc transactionId body username priority
  have hpos := findIntegrity_ge hfound
  have hheader : ∀ n, (header STUN_BINDING_REQUEST n transactionId).length = k_stun_header_size :=
    fun _ => header_length htid
  unfold k_stun_header_size at hpos hheader
  have hfin : attributeEnd data pos = pos + 24 := by
    unfold attributeEnd
    rw [hsize]
    rfl
  rw [heq]
  subst hdata
  have hfront : ∀ n rest, (header STUN_BINDING_REQUEST n transactionId ++ rest).take 2 =
      beBytes 2 STUN_BINDING_REQUEST.toNat := by
    intro n rest
    unfold header
    simp only [List.append_assoc]
    exact List.take_left' (length_beBytes 2 _)
  -- of the protected bytes, each part is that of the body
  have hpart : ∀ n rest p m, k_stun_header_size ≤ p → p - k_stun_header_size + m ≤ body.length →
      ((header STUN_BINDING_REQUEST n transactionId ++ (body ++ rest)).drop p).take m =
        (body.drop (p - k_stun_header_size)).take m := by
    intro n rest p m hp hm
    rw [drop_of_header htid hp, List.drop_append_of_le_length (by omega),
      List.take_append_of_le_length (by rw [List.length_drop]; omega)]
  have htake : ∀ n rest p, k_stun_header_size ≤ p → p - k_stun_header_size ≤ body.length →
      (header STUN_BINDING_REQUEST n transactionId ++ (body ++ rest)).take p =
        header STUN_BINDING_REQUEST n transactionId ++ body.take (p - k_stun_header_size) := by
    intro n rest p hp hle
    rw [take_of_header htid hp, List.take_append_of_le_length hle]
  unfold k_stun_header_size at hpart htake
  refine ⟨⟨hfound, ?_, ?_, ?_⟩, ?_, fun m => ?_⟩
  · refine findIntegrity_congr hfound ?_ fun p hp hle => ?_
    · rw [List.length_append, List.length_append, hheader]
      omega
    · unfold k_stun_header_size at hp
      rw [hpart _ _ p 4 hp (by omega), hpart _ _ p 4 hp (by omega)]
  · rw [hfront, hfront]
  · rw [hfin, htake _ _ _ (by omega) (by omega), htake _ _ _ (by omega) (by omega),
      header_drop_four, header_drop_four]
  · rw [hpart _ _ _ _ (by omega) (by omega), hpart _ _ _ _ (by omega) (by omega)]
  · rw [htake _ _ _ (by omega) (by omega), htake _ _ _ (by omega) (by omega), withLength_header,
      withLength_header]

/-! ## What is read of it -/

/-- What is read has the class of its type, and comes from the bytes. -/
theorem wellTyped_byteString {type : UInt16} {bytes : List UInt8}
    (h : getAttributeValueType type = .byteString) :
    (StunAttribute.byteString type bytes).WellTyped := by
  simp [StunAttribute.WellTyped, StunAttribute.type, h]

theorem wellTyped_uint32 {type : UInt16} {bits : UInt32}
    (h : getAttributeValueType type = .uint32) : (StunAttribute.uint32 type bits).WellTyped := by
  simp [StunAttribute.WellTyped, StunAttribute.type, h]

theorem readAttribute_typed {buf rest : List UInt8} {attr : StunAttribute}
    (h : readAttribute rtc buf = some (some attr, rest)) :
    attr.WellTyped ∧ ∀ type bytes, attr = .byteString type bytes → bytes.length ≤ buf.length := by
  rcases readAttribute_cases h with ⟨value, rfl, hclass, hlength⟩ | ⟨bits, rfl, hclass⟩
  · refine ⟨wellTyped_byteString hclass, ?_⟩
    intro type bytes heq
    obtain ⟨-, rfl⟩ := StunAttribute.byteString.inj heq
    exact hlength
  · refine ⟨wellTyped_uint32 hclass, ?_⟩
    intro type bytes heq
    cases heq

theorem Reads.typed {buf rest : List UInt8} (h : Reads rtc buf attrs rest) :
    ∀ attr ∈ attrs, attr.WellTyped ∧
      ∀ type bytes, attr = .byteString type bytes → bytes.length ≤ buf.length := by
  induction h with
  | nil buf =>
    intro attr hattr
    cases hattr
  | cons hread hrest ih =>
    rename_i buf rest rest' found attrs
    intro attr hattr
    have hlength : rest.length + 4 ≤ buf.length := readAttribute_length hread
    rcases List.mem_append.1 hattr with hhead | htail
    · obtain rfl := Option.mem_toList.1 hhead
      exact readAttribute_typed hread
    · obtain ⟨htyped, hbound⟩ := ih attr htail
      exact ⟨htyped, fun type bytes heq => Nat.le_trans (hbound type bytes heq) (by omega)⟩

/-- A byte string of a type that is there is found. -/
theorem getByteString_of_mem {type : UInt16} (htyped : ∀ attr ∈ msg.attrs, attr.WellTyped)
    (hclass : getAttributeValueType type = .byteString) (hmem : ∃ attr ∈ msg.attrs, attr.type = type) :
    ∃ bytes, msg.getByteString type = some bytes := by
  obtain ⟨attr, hattr, htype⟩ := hmem
  have hsome : (msg.attrs.find? (·.type = type)).isSome = true :=
    List.find?_isSome.2 ⟨attr, hattr, decide_eq_true htype⟩
  obtain ⟨found, hfound⟩ := Option.isSome_iff_exists.1 hsome
  have hfoundType : found.type = type := by simpa using List.find?_some hfound
  have hclassed := htyped found (List.mem_of_find?_eq_some hfound)
  unfold StunAttribute.WellTyped at hclassed
  rw [hfoundType, hclass] at hclassed
  obtain ⟨bytes, hbytes⟩ := hclassed
  refine ⟨bytes, ?_⟩
  unfold getByteString getAttribute
  rw [hfound, hbytes]

theorem mem_of_getByteString {type : UInt16} {bytes : List UInt8}
    (h : msg.getByteString type = some bytes) : ∃ t, .byteString t bytes ∈ msg.attrs := by
  unfold getByteString getAttribute at h
  split at h
  · rename_i t found hfind
    obtain rfl := Option.some.inj h
    exact ⟨t, List.mem_of_find?_eq_some hfind⟩
  · cases h

/-- An attribute that is not among those before is found behind them. -/
theorem getAttribute_append {type : UInt16} {more : List StunAttribute}
    (hmsg : msg.attrs = attrs ++ more) (hnone : ¬ ∃ attr ∈ attrs, attr.type = type) :
    msg.getAttribute type = more.find? (·.type = type) := by
  have hfind : attrs.find? (·.type = type) = none := by
    refine List.find?_eq_none.2 fun attr hattr htype => ?_
    exact hnone ⟨attr, hattr, of_decide_eq_true htype⟩
  unfold getAttribute
  rw [hmsg, List.find?_append, hfind, Option.none_or]

/-- Another peer can be named in as many bytes, or one more. -/
theorem exists_other_name {bytes : List UInt8} {localUfrag remoteUfrag : String}
    (h : rtc.split (ofBytes bytes) ':' = [localUfrag, remoteUfrag]) :
    ∃ other otherUfrag, other.length ≤ bytes.length + 1 ∧ otherUfrag ≠ remoteUfrag ∧
      rtc.split (ofBytes other) ':' = [localUfrag, otherUfrag] := by
  let char : UInt8 → Char := fun b => Char.ofNat b.toNat
  have htoList : ∀ bytes : List UInt8, (ofBytes bytes).toList = bytes.map char := fun _ =>
    String.toList_ofList
  rw [rtc.split_eq, htoList] at h
  obtain ⟨left, fields, hfields, rfl, hmap⟩ := List.map_eq_cons_iff.1 h
  obtain ⟨right, rest, rfl, rfl, hnil⟩ := List.map_eq_cons_iff.1 hmap
  obtain rfl := List.map_eq_nil_iff.1 hnil
  obtain ⟨heq, hleft, hright⟩ := splitOn_eq_pair.1 hfields
  let ending : List UInt8 := if right = [] then [120] else []
  have htake : (bytes.take (left.length + 1)).map char = left ++ [':'] := by
    rw [List.map_take, heq, List.append_cons]
    exact List.take_left' List.length_append
  have hother : (ofBytes (bytes.take (left.length + 1) ++ ending)).toList =
      left ++ ':' :: ending.map char := by
    rw [htoList, List.map_append, htake]
    simp
  refine ⟨bytes.take (left.length + 1) ++ ending, String.ofList (ending.map char), ?_, ?_, ?_⟩
  · rw [List.length_append, List.length_take]
    have hending : ending.length ≤ 1 := by
      show (if right = [] then [120] else [] : List UInt8).length ≤ 1
      split <;> decide
    omega
  · intro hsame
    have hlist := String.ofList_inj.1 hsame
    by_cases hempty : right = []
    · have hending : ending = [120] := if_pos hempty
      rw [hending, hempty] at hlist
      cases hlist
    · have hending : ending = [] := if_neg hempty
      rw [hending] at hlist
      exact hempty hlist.symm
  · rw [rtc.split_eq, hother]
    have hfree : ':' ∉ ending.map char := by
      show ':' ∉ (if right = [] then [120] else [] : List UInt8).map char
      split
      · show ':' ∉ ['x']
        decide
      · exact List.not_mem_nil
    rw [splitOn_eq_pair.2 ⟨rfl, hleft, hfree⟩]
    rfl

/-! ## What is not protected -/

/-- The attribute has the length of an HMAC, an attribute that is read ends
where it ends, and the datagram leaves room for more. -/
structure Regular (rtc : Rtc) (data : List UInt8) (pos : ℕ) : Prop where
  size : front16 (data.drop (pos + 2)) = 20
  reads : ∃ attrs, Reads rtc ((data.take (pos + 24)).drop k_stun_header_size) attrs []
  room : data.length ≤ 32000

/-- **Any ending is accepted** that names the local user. -/
theorem extended_accepted (htid : transactionId.length = k_stun_transaction_id_length)
    (hbody : body.length = pos + 4) (hreads : Reads rtc body attrs [])
    (hfits : body.length + (totalSize (added username priority) + 8) < 2 ^ 16)
    (hsame : SameProtected rtc data (extended rtc transactionId body username priority) pos)
    (hmac : ((extended rtc transactionId body username priority).drop (pos + 4)).take 20 =
      rtc.computeHmac iceParams.icePwd
        (withLength ((extended rtc transactionId body username priority).take pos) (pos + 24 - 20)))
    {remoteUfrag : String}
    (husername : ∃ bytes, (readExtended rtc transactionId body username priority
      attrs).getByteString STUN_ATTR_USERNAME = some bytes ∧
      rtc.split (ofBytes bytes) ':' = [iceParams.iceUfrag, remoteUfrag]) :
    getStunMessage rtc iceParams (extended rtc transactionId body username priority) =
      acceptance (readExtended rtc transactionId body username priority attrs) remoteUfrag := by
  have haligned : body.length % 4 = 0 := by
    have hmod := findIntegrity_mod hsame.found
    omega
  have hparses := extended_parses rtc htid haligned hreads hfits
  have hpresent : (readExtended rtc transactionId body username priority attrs).getByteString
      STUN_ATTR_MESSAGE_INTEGRITY ≠ none := by
    have hmem : ∃ attr ∈ (readExtended rtc transactionId body username priority attrs).attrs,
        attr.type = STUN_ATTR_MESSAGE_INTEGRITY :=
      ⟨.byteString STUN_ATTR_MESSAGE_INTEGRITY [],
        List.mem_append_right _ (List.mem_cons_of_mem _ List.mem_cons_self), rfl⟩
    have htyped := fun attr hattr => ((read_some hparses.2).1.attrs.typed attr hattr).1
    obtain ⟨bytes, hbytes⟩ := getByteString_of_mem htyped rfl hmem
    rw [hbytes]
    exact Option.some_ne_none bytes
  have hauth : Authentic rtc iceParams (extended rtc transactionId body username priority)
      (readExtended rtc transactionId body username priority attrs) remoteUfrag :=
    ⟨hpresent, husername, pos, hsame.found', hmac⟩
  have hinside : Inside rtc (extended rtc transactionId body username priority) := by
    intro pos' hpos'
    obtain rfl : pos = pos' := Option.some.inj (hsame.found'.symm.trans hpos')
    have hlength := congrArg List.length hmac
    rw [rtc.computeHmac_length, List.length_take, List.length_drop] at hlength
    omega
  exact getStunMessage_of_checked hparses rfl ((checked_iff hparses hinside).2 hauth)

/-- **What is not covered can be set by another ending.** -/
theorem Regular.differs (h : Regular rtc data pos) (hdata : Accepted rtc iceParams data msg)
    (hfound : findIntegrity rtc data = some pos) (hnot : ¬ Covered rtc data pos) :
    ∃ data' msg', SameProtected rtc data data' pos ∧ Accepted rtc iceParams data' msg' ∧
      used rtc iceParams data' msg' ≠ used rtc iceParams data msg := by
  obtain ⟨got, hgot, htype, hchecked, rfl⟩ := hdata.checked
  obtain ⟨attrs, hreads⟩ := h.reads
  obtain ⟨hread, -⟩ := read_some hgot.2
  have hpos := findIntegrity_ge hfound
  have hinside := inside_of_integrity hread.buffer hchecked.integrity pos hfound
  have hroom := h.room
  have hauth := (checked_iff hgot (inside_of_integrity hread.buffer hchecked.integrity)).1 hchecked
  obtain ⟨transactionId, htid, hheader⟩ := hgot.header
  rw [htype] at hheader
  let body := (data.take (pos + 24)).drop k_stun_header_size
  have hbody : body.length = pos + 4 := by
    unfold k_stun_header_size at hpos
    show ((data.take (pos + 24)).drop 20).length = _
    rw [List.length_drop, List.length_take]
    omega
  have hsplit : body ++ data.drop (pos + 24) = data.drop k_stun_header_size := by
    show (data.take (pos + 24)).drop k_stun_header_size ++ _ = _
    rw [← List.drop_append_of_le_length (by rw [List.length_take]; omega), List.take_append_drop]
  rw [← hsplit] at hheader
  have hstarts : attrs <+: got.attrs := hgot.isPrefix (by omega) hreads
  -- whatever names the local user is accepted in place of the ending
  have haccepted : ∀ username priority remoteUfrag, username.length ≤ data.length + 1 →
      (∃ bytes, (readExtended rtc transactionId body username priority attrs).getByteString
        STUN_ATTR_USERNAME = some bytes ∧
        rtc.split (ofBytes bytes) ':' = [iceParams.iceUfrag, remoteUfrag]) →
      SameProtected rtc data (extended rtc transactionId body username priority) pos ∧
        getStunMessage rtc iceParams (extended rtc transactionId body username priority) =
          acceptance (readExtended rtc transactionId body username priority attrs) remoteUfrag := by
    intro username priority remoteUfrag hlength husername
    obtain ⟨hsame, hcompared, htext⟩ :=
      extended_same username priority htid hbody hfound hheader h.size
    refine ⟨hsame, extended_accepted htid hbody hreads ?_ hsame ?_ husername⟩
    · have hpadded := padded_lt username.length
      rw [totalSize_added]
      omega
    · obtain ⟨pos', hpos', hmac⟩ := hauth.integrity
      obtain rfl : pos = pos' := Option.some.inj (hfound.symm.trans hpos')
      rw [hcompared, htext]
      exact hmac
  obtain ⟨bytes, hbytes, hfields⟩ := hauth.username
  have hlength : bytes.length ≤ data.length := by
    obtain ⟨t, hmem⟩ := mem_of_getByteString hbytes
    have hle := (hread.attrs.typed _ hmem).2 t bytes rfl
    rw [List.length_drop] at hle
    omega
  by_cases husername : ∃ attr ∈ attrs, attr.type = STUN_ATTR_USERNAME
  · -- the user name is covered, so the priority is not
    have hpriority : ¬ ∃ attr ∈ attrs, attr.type = STUN_ATTR_PRIORITY := by
      intro hpriority
      have hfin : attributeEnd data pos = pos + 24 := by
        unfold attributeEnd
        rw [h.size]
        rfl
      exact hnot ⟨attrs, [], hfin ▸ hreads, husername, hpriority⟩
    let priority : UInt32 := if got.getUint32 STUN_ATTR_PRIORITY = some 0 then 1 else 0
    have hother : some priority ≠ got.getUint32 STUN_ATTR_PRIORITY := by
      show some (if got.getUint32 STUN_ATTR_PRIORITY = some 0 then 1 else 0 : UInt32) ≠ _
      split
      · rename_i hzero
        rw [hzero]
        decide
      · rename_i hzero
        exact fun heq => hzero heq.symm
    have hname : (readExtended rtc transactionId body bytes priority attrs).getByteString
        STUN_ATTR_USERNAME = some bytes := by
      rw [← hbytes]
      unfold getByteString
      rw [getAttribute_of_isPrefix hstarts husername,
        getAttribute_of_isPrefix (List.prefix_append attrs _) husername]
    obtain ⟨hsame, haccept⟩ := haccepted bytes priority _ (by omega) ⟨bytes, hname, hfields⟩
    refine ⟨_, _, hsame, ⟨by rw [haccept]; rfl, rfl⟩, fun heq => hother ?_⟩
    have hset : (readExtended rtc transactionId body bytes priority attrs).getUint32
        STUN_ATTR_PRIORITY = some priority := by
      unfold getUint32
      rw [getAttribute_append rfl hpriority]
      rfl
    rw [← hset]
    exact (Prod.mk.inj heq).2
  · obtain ⟨other, otherUfrag, hlonger, hne, hsplits⟩ := exists_other_name hfields
    have hname : (readExtended rtc transactionId body other 0 attrs).getByteString
        STUN_ATTR_USERNAME = some other := by
      unfold getByteString
      rw [getAttribute_append rfl husername]
      rfl
    obtain ⟨hsame, haccept⟩ := haccepted other 0 otherUfrag (by omega) ⟨other, hname, hsplits⟩
    refine ⟨_, _, hsame, ⟨by rw [haccept]; rfl, rfl⟩, fun heq => hne ?_⟩
    have hfirst := (Prod.mk.inj heq).1
    rw [haccept] at hfirst
    exact hfirst

/-- **What the server does with an accepted request is fixed by its protected
bytes where a user name and a priority are among them**, and, of a regular
request, only there. -/
theorem covered_iff (rtc : Rtc) (iceParams : IceParameters) (data : List UInt8) (msg : StunMessage)
    (pos : ℕ) (hdata : Accepted rtc iceParams data msg)
    (hfound : findIntegrity rtc data = some pos) :
    (Covered rtc data pos → ∀ data' msg', SameProtected rtc data data' pos →
      Accepted rtc iceParams data' msg' →
      used rtc iceParams data' msg' = used rtc iceParams data msg) ∧
    (Regular rtc data pos → (∀ data' msg', SameProtected rtc data data' pos →
      Accepted rtc iceParams data' msg' →
      used rtc iceParams data' msg' = used rtc iceParams data msg) → Covered rtc data pos) := by
  refine ⟨fun hcovered data' msg' hsame hdata' => hcovered.same hsame hdata hdata', fun h hall => ?_⟩
  by_contra hnot
  obtain ⟨data', msg', hsame, hdata', hne⟩ := h.differs hdata hfound hnot
  exact hne (hall data' msg' hsame hdata')

/-- A request of the peer `b` with a priority behind the HMAC. -/
def laterPriority (priority : UInt32) : List UInt8 :=
  datagram blankRtc STUN_BINDING_REQUEST (List.replicate 12 7)
    [.byteString STUN_ATTR_USERNAME [97, 58, 98]] [.uint32 STUN_ATTR_PRIORITY priority]
    freshParams.icePwd

theorem laterPriority_accepted (priority : UInt32) :
    ∃ msg, Accepted blankRtc freshParams (laterPriority priority) msg ∧
      used blankRtc freshParams (laterPriority priority) msg = ("b", some priority) := by
  let attrs : List StunAttribute := [.byteString STUN_ATTR_USERNAME [97, 58, 98]]
  let got := received blankRtc STUN_BINDING_REQUEST (List.replicate 12 7) attrs
    [.uint32 STUN_ATTR_PRIORITY priority] freshParams.icePwd
  have hsize : totalSize [.uint32 STUN_ATTR_PRIORITY priority] = 8 := by
    simp [totalSize, StunAttribute.paddedSize, StunAttribute.value, padded, padding]
  have hfits : totalSize attrs + 24 + (totalSize [.uint32 STUN_ATTR_PRIORITY priority] + 8) <
      2 ^ 16 := by
    rw [hsize]
    decide
  have hattrs : ∀ attr ∈ attrs, attr.WellTyped ∧ attr.type ≠ STUN_ATTR_MESSAGE_INTEGRITY := by
    intro attr hattr
    obtain rfl := List.mem_singleton.1 hattr
    exact ⟨⟨_, rfl⟩, by decide⟩
  have hmore : ∀ attr ∈ [StunAttribute.uint32 STUN_ATTR_PRIORITY priority], attr.WellTyped := by
    intro attr hattr
    obtain rfl := List.mem_singleton.1 hattr
    exact ⟨_, rfl⟩
  have hparses : Parses blankRtc (laterPriority priority) got :=
    ⟨datagram_fingerprint blankRtc (by decide),
      datagram_read blankRtc (by decide) (by decide) (fun a ha => (hattrs a ha).1) hmore hfits⟩
  have hchecked : Checked blankRtc freshParams got "b" := by
    refine ⟨?_, datagram_integrity blankRtc (by decide) (fun a ha => (hattrs a ha).2) hfits⟩
    have hname : got.getByteString STUN_ATTR_USERNAME = some [97, 58, 98] := rfl
    have hfields : blankRtc.split (ofBytes [97, 58, 98]) ':' = ["a", "b"] := by decide +kernel
    unfold parseStunUsername
    rw [hname]
    dsimp only
    rw [hfields]
    rfl
  have hgot := getStunMessage_of_checked hparses rfl hchecked
  refine ⟨{ got with integrity := .integrityOk }, ⟨by rw [hgot]; rfl, rfl⟩, ?_⟩
  unfold used
  rw [hgot]
  rfl

theorem laterPriority_same : SameProtected blankRtc (laterPriority 1) (laterPriority 2) 28 :=
  ⟨by decide +kernel, by decide +kernel, by decide +kernel, by decide +kernel⟩

theorem covered_iff_later : ¬ Covered blankRtc (laterPriority 1) 28 := by
  obtain ⟨msg, hmsg, hused⟩ := laterPriority_accepted 1
  obtain ⟨msg', hmsg', hused'⟩ := laterPriority_accepted 2
  intro hcovered
  have hsame := (covered_iff blankRtc freshParams (laterPriority 1) msg 28 hmsg
    laterPriority_same.found).1 hcovered _ msg' laterPriority_same hmsg'
  rw [hused, hused'] at hsame
  exact absurd hsame (by decide)

/-- Two requests that differ behind the HMAC only are both accepted, with
different priorities. -/
theorem later_priority_used :
    ∃ msg msg', SameProtected blankRtc (laterPriority 1) (laterPriority 2) 28 ∧
      Accepted blankRtc freshParams (laterPriority 1) msg ∧
      Accepted blankRtc freshParams (laterPriority 2) msg' ∧
      used blankRtc freshParams (laterPriority 1) msg ≠
        used blankRtc freshParams (laterPriority 2) msg' := by
  obtain ⟨msg, hmsg, hused⟩ := laterPriority_accepted 1
  obtain ⟨msg', hmsg', hused'⟩ := laterPriority_accepted 2
  refine ⟨msg, msg', laterPriority_same, hmsg, hmsg', ?_⟩
  rw [hused, hused']
  decide

end Ice

end XrtcServer
