import XrtcServer.Ice.Consent
import XrtcServer.Ice.Deadlines
import XrtcServer.Ice.Protected
/-!
# A connectivity check

The ping that one end sends is read by the other as a Binding Request under
its own name, and accepted exactly where the ends mean each other: the names
are free of colons and the password is that of the end that is asked. The
success response makes the connection of the end that asks writable.
-/

namespace XrtcServer

namespace Ice

open Base Common StunMessage UDPPort IceConnection IceTransportChannel

variable {rtc : Rtc} {iceParams peer : IceParameters} {c : IceConnection}
variable {transactionId : List UInt8} {username : String}

/-! ## Strings of bytes -/

/-- **A `std::string`**, as it is modelled: a character for a byte. -/
def IsBytes (s : String) : Prop := ∀ c ∈ s.toList, c.toNat < 256

instance (s : String) : Decidable (IsBytes s) :=
  List.decidableBAll (fun c : Char => c.toNat < 256) s.toList

theorem ofBytes_toBytes {s : String} (h : IsBytes s) : ofBytes (toBytes s) = s := by
  have hchars : (toBytes s).map (fun b => Char.ofNat b.toNat) = s.toList := by
    unfold toBytes
    rw [List.map_map]
    refine (List.map_congr_left fun c hc => ?_).trans (List.map_id _)
    show Char.ofNat (UInt8.ofNat c.toNat).toNat = c
    rw [UInt8.toNat_ofNat_of_lt' (h c hc), Char.ofNat_toNat]
  unfold ofBytes
  rw [hchars, String.ofList_toList]

theorem toBytes_ofBytes (bytes : List UInt8) : toBytes (ofBytes bytes) = bytes := by
  unfold toBytes ofBytes
  rw [String.toList_ofList, List.map_map]
  refine (List.map_congr_left fun b _ => ?_).trans (List.map_id _)
  have hvalid : b.toNat.isValidChar := .inl (by have := b.toNat_lt; omega)
  have hchar : (Char.ofNat b.toNat).toNat = b.toNat := by
    unfold Char.ofNat
    rw [dif_pos hvalid]
    exact UInt32.toNat_ofNatLT
  show UInt8.ofNat (Char.ofNat b.toNat).toNat = b
  rw [hchar, UInt8.ofNat_toNat]

theorem ofBytes_injective : Function.Injective ofBytes :=
  Function.LeftInverse.injective toBytes_ofBytes

theorem length_toBytes (s : String) : (toBytes s).length = s.toList.length := List.length_map _

/-! ## The bytes of a ping -/

/-- The attributes of a ping before its HMAC. -/
def pingAttrs (iceParams : IceParameters) (c : IceConnection) : List StunAttribute :=
  [.byteString STUN_ATTR_USERNAME (toBytes (createStunUsername iceParams c.remoteCandidate.username)),
    .uint64 STUN_ATTR_ICE_CONTROLLING 0, .byteString STUN_ATTR_USE_CANDIDATE [],
    .uint32 STUN_ATTR_PRIORITY (prflxPriority c.localPriority)]

/-- The ping that a connection sends. -/
def ping (rtc : Rtc) (iceParams : IceParameters) (c : IceConnection) (transactionId : List UInt8) :
    List UInt8 :=
  (c.prepare rtc iceParams transactionId).write rtc

/-- A ping can be sent under these names: the request is drawn an id, the user
name consists of bytes, and fits. -/
structure Sendable (iceParams : IceParameters) (username : String) (transactionId : List UInt8) :
    Prop where
  transactionId : transactionId.length = k_stun_transaction_id_length
  bytes : IsBytes (createStunUsername iceParams username)
  fits : (createStunUsername iceParams username).toList.length + 64 ≤ 2 ^ 16

theorem Sendable.totalSize_lt (h : Sendable iceParams c.remoteCandidate.username transactionId) :
    totalSize (pingAttrs iceParams c) + 32 < 2 ^ 16 := by
  have hfits := h.fits
  have hname : (StunAttribute.byteString STUN_ATTR_USERNAME (toBytes (createStunUsername iceParams
      c.remoteCandidate.username))).paddedSize =
        4 + padded (createStunUsername iceParams c.remoteCandidate.username).toList.length := by
    rw [← length_toBytes]
    rfl
  have hpriority : (StunAttribute.uint32 STUN_ATTR_PRIORITY
      (prflxPriority c.localPriority)).paddedSize = 8 := by
    unfold StunAttribute.paddedSize StunAttribute.value
    rw [length_beBytes]
    rfl
  have hcontrolling : (StunAttribute.uint64 STUN_ATTR_ICE_CONTROLLING 0).paddedSize = 12 := by decide
  have hcandidate : (StunAttribute.byteString STUN_ATTR_USE_CANDIDATE []).paddedSize = 4 := by decide
  have hpadded := padded_lt (createStunUsername iceParams c.remoteCandidate.username).toList.length
  unfold pingAttrs totalSize
  simp only [List.map_cons, List.map_nil, List.sum_cons, List.sum_nil, hname, hpriority, hcontrolling,
    hcandidate]
  omega

/-- What is read of a ping. -/
def readPing (rtc : Rtc) (iceParams : IceParameters) (c : IceConnection)
    (transactionId : List UInt8) : StunMessage :=
  received rtc STUN_BINDING_REQUEST transactionId (pingAttrs iceParams c) []
    c.remoteCandidate.password

theorem prepare_eq_build (rtc : Rtc) (iceParams : IceParameters) (c : IceConnection)
    (transactionId : List UInt8) :
    c.prepare rtc iceParams transactionId = build rtc STUN_BINDING_REQUEST transactionId
      (pingAttrs iceParams c) c.remoteCandidate.password := rfl

theorem buildable_pingAttrs : ∀ attr ∈ pingAttrs iceParams c, attr.Buildable := by
  intro attr hattr
  simp only [pingAttrs, List.mem_cons, List.not_mem_nil, or_false] at hattr
  rcases hattr with rfl | rfl | rfl | rfl
  · exact ⟨(by decide : STUN_ATTR_USERNAME ≠ _), (by decide : STUN_ATTR_USERNAME ≠ _),
      fun _ => ⟨_, rfl⟩, (absurd · (by decide : STUN_ATTR_USERNAME ≠ _))⟩
  · exact ⟨by decide, by decide, (absurd · (by decide)), (absurd · (by decide))⟩
  · exact ⟨by decide, by decide, (absurd · (by decide)), (absurd · (by decide))⟩
  · exact ⟨(by decide : STUN_ATTR_PRIORITY ≠ _), (by decide : STUN_ATTR_PRIORITY ≠ _),
      (absurd · (by decide : STUN_ATTR_PRIORITY ≠ _)), fun _ => ⟨_, rfl⟩⟩

/-- **A ping is a STUN message.** -/
theorem ping_parses (h : Sendable iceParams c.remoteCandidate.username transactionId) :
    Parses rtc (ping rtc iceParams c transactionId) (readPing rtc iceParams c transactionId) := by
  have hwritten : ping rtc iceParams c transactionId = datagram rtc STUN_BINDING_REQUEST
      transactionId (pingAttrs iceParams c) [] c.remoteCandidate.password := by
    unfold ping
    rw [prepare_eq_build]
    exact build_write rtc STUN_BINDING_REQUEST transactionId _ h.totalSize_lt
  rw [hwritten]
  refine ⟨datagram_fingerprint rtc h.transactionId, ?_⟩
  exact datagram_read rtc (by decide) h.transactionId
    (fun attr hattr => (buildable_pingAttrs attr hattr).wellTyped) (by simp) h.totalSize_lt

theorem readPing_username : (readPing rtc iceParams c transactionId).getByteString
    STUN_ATTR_USERNAME = some (toBytes (createStunUsername iceParams c.remoteCandidate.username)) :=
  rfl

theorem readPing_not_lacking (h : Sendable iceParams c.remoteCandidate.username transactionId) :
    ¬ Lacking (readPing rtc iceParams c transactionId) := by
  have hown : (readPing rtc iceParams c transactionId).validateMessageIntegrity rtc
      c.remoteCandidate.password = .integrityOk :=
    datagram_integrity rtc h.transactionId
      (fun attr hattr => (buildable_pingAttrs attr hattr).notIntegrity) h.totalSize_lt
  rintro (hnone | hnone)
  · rw [readPing_username] at hnone
    cases hnone
  · unfold validateMessageIntegrity at hown
    rw [hnone, if_neg (by simp)] at hown
    cases hown

/-! ## Whether it is accepted -/

variable {type : UInt16} {attrs : List StunAttribute} {password : String}

/-- **An HMAC is good under another password** exactly where the two HMACs of
the message are the same. -/
theorem received_integrity_iff (rtc : Rtc) (htype : type &&& 0x0800 = 0)
    (htid : transactionId.length = k_stun_transaction_id_length)
    (hattrs : ∀ attr ∈ attrs, attr.Buildable) (hfits : totalSize attrs + 32 < 2 ^ 16)
    (password' : String) :
    (received rtc type transactionId attrs [] password).validateMessageIntegrity rtc password' =
      .integrityOk ↔ macOf rtc password' type transactionId attrs =
        macOf rtc password type transactionId attrs := by
  have htypes : ∀ attr ∈ attrs, attr.type ≠ STUN_ATTR_MESSAGE_INTEGRITY :=
    fun attr hattr => (hattrs attr hattr).notIntegrity
  have hparses : Parses rtc (datagram rtc type transactionId attrs [] password)
      (received rtc type transactionId attrs [] password) :=
    ⟨datagram_fingerprint rtc htid, datagram_read rtc htype htid
      (fun attr hattr => (hattrs attr hattr).wellTyped) (by simp) hfits⟩
  have hown : (received rtc type transactionId attrs [] password).validateMessageIntegrity rtc
      password = .integrityOk := datagram_integrity rtc htid htypes hfits
  have hinside : Inside rtc (datagram rtc type transactionId attrs [] password) :=
    inside_of_integrity rfl hown
  obtain ⟨hpresent, pos, hpos, hmac⟩ :=
    (validateMessageIntegrity_iff hparses hinside password).1 hown
  -- the attribute is behind all the others
  obtain ⟨n, after, hdata⟩ : ∃ n after, datagram rtc type transactionId attrs [] password =
      header type n transactionId ++ wires attrs ++ element STUN_ATTR_MESSAGE_INTEGRITY
        (macOf rtc password type transactionId attrs) ++ after :=
    ⟨_, _, List.append_assoc _ _ _⟩
  have hsize : (macOf rtc password type transactionId attrs).length < 2 ^ 16 := by
    unfold macOf
    rw [rtc.computeHmac_length]
    decide
  have hheader : (header type n transactionId).length = k_stun_header_size := header_length htid
  have hfound : findIntegrity rtc (datagram rtc type transactionId attrs [] password) =
      some (k_stun_header_size + totalSize attrs) := by
    rw [hdata]
    exact findIntegrity_wires rtc hheader (by omega) htypes hsize
  obtain rfl := Option.some.inj (hfound.symm.trans hpos)
  have htext : withLength ((datagram rtc type transactionId attrs [] password).take
      (k_stun_header_size + totalSize attrs)) (k_stun_header_size + totalSize attrs + 24 - 20) =
        header type (totalSize attrs + 24) transactionId ++ wires attrs := by
    rw [hdata, List.append_assoc, List.append_assoc, take_of_header htid (Nat.le_add_right _ _),
      Nat.add_sub_cancel_left, List.take_left' (wires_length attrs), withLength_header]
    congr 1
    unfold k_stun_header_size
    congr 1
    omega
  rw [validateMessageIntegrity_iff hparses hinside password']
  rw [htext] at hmac
  constructor
  · rintro ⟨-, pos', hpos', hmac'⟩
    obtain rfl := Option.some.inj (hpos.symm.trans hpos')
    rw [htext] at hmac'
    exact hmac'.symm.trans hmac
  · intro hsame
    refine ⟨hpresent, _, hpos, ?_⟩
    rw [htext, hmac]
    exact hsame.symm

/-- The two names in a user name are told apart where neither holds a colon. -/
theorem split_username_iff (rtc : Rtc) (name : IsBytes (createStunUsername iceParams username))
    {localUfrag remoteUfrag : String} :
    rtc.split (ofBytes (toBytes (createStunUsername iceParams username))) ':' =
        [localUfrag, remoteUfrag] ↔
      (':' ∉ username.toList ∧ ':' ∉ iceParams.iceUfrag.toList) ∧ username = localUfrag ∧
        remoteUfrag = iceParams.iceUfrag := by
  have hchars : (createStunUsername iceParams username).toList =
      username.toList ++ ':' :: iceParams.iceUfrag.toList := by
    unfold createStunUsername
    rw [String.toList_append, String.toList_append, List.append_assoc]
    rfl
  rw [ofBytes_toBytes name, rtc.split_eq, hchars]
  constructor
  · intro hsplit
    have hfields : (username.toList ++ ':' :: iceParams.iceUfrag.toList).splitOn ':' =
        [localUfrag.toList, remoteUfrag.toList] := by
      have hback := congrArg (List.map String.toList) hsplit
      rw [List.map_map] at hback
      refine (List.map_id _).symm.trans (Eq.trans (List.map_congr_left fun _ _ => ?_) hback)
      exact String.toList_ofList.symm
    obtain ⟨htext, hlocal, hremote⟩ := splitOn_eq_pair.1 hfields
    -- the only colon is the one between the names
    have hcount := congrArg (List.count ':') htext
    simp only [List.count_append, List.count_cons_self, List.count_eq_zero_of_not_mem hlocal,
      List.count_eq_zero_of_not_mem hremote] at hcount
    have hplain : ':' ∉ username.toList ∧ ':' ∉ iceParams.iceUfrag.toList :=
      ⟨List.count_eq_zero.1 (by omega), List.count_eq_zero.1 (by omega)⟩
    have hsame := (splitOn_eq_pair.2 ⟨rfl, hplain.1, hplain.2⟩).symm.trans hfields
    obtain ⟨hfirst, hsecond⟩ := List.cons.inj hsame
    exact ⟨hplain, String.toList_inj.1 hfirst, (String.toList_inj.1 (List.cons.inj hsecond).1).symm⟩
  · rintro ⟨⟨hlocal, hremote⟩, rfl, rfl⟩
    rw [splitOn_eq_pair.2 ⟨rfl, hlocal, hremote⟩, List.map_cons, List.map_cons, List.map_nil,
      String.ofList_toList, String.ofList_toList]

/-- **The peer is meant** by a ping: it is addressed to its name, neither name
holds a colon, and the HMAC is the one under its password. -/
structure Meant (rtc : Rtc) (iceParams peer : IceParameters) (c : IceConnection)
    (transactionId : List UInt8) : Prop where
  plain : ':' ∉ c.remoteCandidate.username.toList ∧ ':' ∉ iceParams.iceUfrag.toList
  name : c.remoteCandidate.username = peer.iceUfrag
  mac : macOf rtc peer.icePwd STUN_BINDING_REQUEST transactionId (pingAttrs iceParams c) =
    macOf rtc c.remoteCandidate.password STUN_BINDING_REQUEST transactionId (pingAttrs iceParams c)

theorem checked_ping_iff (h : Sendable iceParams c.remoteCandidate.username transactionId) (peer : IceParameters)
    {remoteUfrag : String} :
    Checked rtc peer (readPing rtc iceParams c transactionId) remoteUfrag ↔
      Meant rtc iceParams peer c transactionId ∧ remoteUfrag = iceParams.iceUfrag := by
  have hmac : (readPing rtc iceParams c transactionId).validateMessageIntegrity rtc peer.icePwd =
      .integrityOk ↔ _ :=
    received_integrity_iff rtc (by decide) h.transactionId buildable_pingAttrs h.totalSize_lt
      peer.icePwd
  have hname : rtc.split (ofBytes (toBytes
      (createStunUsername iceParams c.remoteCandidate.username))) ':' =
        [peer.iceUfrag, remoteUfrag] ↔ _ := split_username_iff rtc h.bytes
  have huser : parseStunUsername rtc (readPing rtc iceParams c transactionId) =
      some (peer.iceUfrag, remoteUfrag) ↔ _ := parseStunUsername_eq_some
  rw [readPing_username] at huser
  constructor
  · rintro ⟨husername, hintegrity⟩
    obtain ⟨bytes, hbytes, hsplit⟩ := huser.1 husername
    obtain rfl := Option.some.inj hbytes
    obtain ⟨hplain, hname, hremote⟩ := hname.1 hsplit
    exact ⟨⟨hplain, hname, hmac.1 hintegrity⟩, hremote⟩
  · rintro ⟨⟨hplain, hmeant, hsame⟩, hremote⟩
    exact ⟨huser.2 ⟨_, rfl, hname.2 ⟨hplain, hmeant, hremote⟩⟩, hmac.2 hsame⟩

/-- The end that is meant accepts the ping. -/
theorem getStunMessage_ping (h : Sendable iceParams c.remoteCandidate.username transactionId)
    (hmeant : Meant rtc iceParams peer c transactionId) :
    getStunMessage rtc peer (ping rtc iceParams c transactionId) =
      acceptance (readPing rtc iceParams c transactionId) iceParams.iceUfrag :=
  getStunMessage_of_checked (ping_parses h) rfl ((checked_ping_iff h peer).2 ⟨hmeant, rfl⟩)

/-- **A ping is accepted exactly where its peer is meant**, under the name of
the end that has sent it. Any other end answers that it is not authorized. -/
theorem ping_accepted_iff (rtc : Rtc) (iceParams peer : IceParameters) (c : IceConnection)
    (transactionId : List UInt8) (h : Sendable iceParams c.remoteCandidate.username transactionId) :
    (Meant rtc iceParams peer c transactionId →
      getStunMessage rtc peer (ping rtc iceParams c transactionId) =
        acceptance (readPing rtc iceParams c transactionId) iceParams.iceUfrag) ∧
    (¬ Meant rtc iceParams peer c transactionId →
      getStunMessage rtc peer (ping rtc iceParams c transactionId) =
        refusal rtc peer (readPing rtc iceParams c transactionId) STUN_ERROR_UNAUTHORIZED) := by
  have hparses : Parses rtc (ping rtc iceParams c transactionId)
      (readPing rtc iceParams c transactionId) := ping_parses h
  refine ⟨fun hmeant => getStunMessage_ping h hmeant, fun hnot => ?_⟩
  · rcases getStunMessage_checked peer hparses rfl with
      ⟨hlacking, -⟩ | ⟨-, -, hgot⟩ | ⟨-, remoteUfrag, hchecked, -⟩
    · exact absurd hlacking (readPing_not_lacking h)
    · exact hgot
    · exact absurd ((checked_ping_iff h peer).1 hchecked).1 hnot

/-- An end that has been told of the other. -/
def secondParams : IceParameters := { iceUfrag := "b", icePwd := "secret" }

/-- Its connection with that one. -/
def toFirst : IceConnection := { remoteCandidate := { username := "a", password := "key" } }

theorem sendable_toFirst : Sendable secondParams "a" (List.replicate 12 9) where
  transactionId := rfl
  bytes := by decide
  fits := by decide

theorem ping_accepted_iff_first :
    getStunMessage blankRtc freshParams (ping blankRtc secondParams toFirst (List.replicate 12 9)) =
        acceptance (readPing blankRtc secondParams toFirst (List.replicate 12 9)) "b" ∧
      getStunMessage blankRtc secondParams
          (ping blankRtc secondParams toFirst (List.replicate 12 9)) =
        refusal blankRtc secondParams (readPing blankRtc secondParams toFirst (List.replicate 12 9))
          STUN_ERROR_UNAUTHORIZED := by
  refine ⟨(ping_accepted_iff blankRtc secondParams freshParams toFirst _ sendable_toFirst).1
    ⟨by decide, rfl, rfl⟩, ?_⟩
  refine (ping_accepted_iff blankRtc secondParams secondParams toFirst _ sendable_toFirst).2 ?_
  rintro ⟨-, hname, -⟩
  exact absurd hname (by decide)

/-! ## The answer -/

variable {addr : SocketAddress}

/-- The attributes of a success response before its HMAC. -/
def responseAttrs (addr : SocketAddress) : List StunAttribute :=
  [.xorAddress STUN_ATTR_XOR_MAPPED_ADDRESS addr]

/-- The success response that this end sends. -/
def success (rtc : Rtc) (peer : IceParameters) (addr : SocketAddress) (transactionId : List UInt8) :
    List UInt8 :=
  datagram rtc STUN_BINDING_RESPONSE transactionId (responseAttrs addr) [] peer.icePwd

variable {s : IceTransportChannel} {H : ℕ × SocketAddress × String → Prop} {id portIndex : ℕ}
variable {port : UDPPort} {movingAverage : ℤ → ℤ → ℤ → ℤ} {now : ℤ}

/-- The address has no connection at the port, or one of this peer. -/
def Expects (s : IceTransportChannel) (portIndex : ℕ) (addr : SocketAddress) (username : String) :
    Prop :=
  ∀ conn, connectionAt s portIndex addr = some conn →
    (s.heap conn).remoteCandidate.username = username

/-- What is pinged has a password. -/
theorem pinged_password (hkeyed : ∀ id, (s.heap id).Keyed) (h : pinged s now = some id) :
    (s.heap id).remoteCandidate.password ≠ "" := by
  have hupdate : Quiet s (s.updateConnectionStates now) :=
    foldl_quiet (fun s id => updateState_quiet s id now) s _
  have hread := useAll_noted (s.updateConnectionStates now)
    ((s.updateConnectionStates now).controller.connections ++
      (s.updateConnectionStates now).controller.selectedConnection.toList)
  have hchosen := IceController.selectConnectionToPing_credentials h
  rw [hread.heap] at hchosen
  rw [← (hupdate id).candidate]
  rcases hchosen with hcredentials | hwritable
  · intro hempty
    simp [IceConnection.hasCredentials, hempty] at hcredentials
  · exact ((hupdate id).keyed (hkeyed id)).password (.inr hwritable)

/-- A tick sends a ping of the connection that is chosen, if one is. -/
theorem sends_tick (s : IceTransportChannel) (rtc : Rtc) (iceParams : IceParameters)
    (movingAverage : ℤ → ℤ → ℤ → ℤ) (transactionId : List UInt8) (now : ℤ) :
    (pinged s now = none ∧ s.sends rtc iceParams movingAverage (.tick transactionId now) = []) ∨
      ∃ id c, pinged s now = some id ∧ Kept (s.heap id) c ∧
        s.sends rtc iceParams movingAverage (.tick transactionId now) =
          [c.sendTo (ping rtc iceParams c transactionId)] := by
  have hsends : s.sends rtc iceParams movingAverage (.tick transactionId now) =
      s.checkAndPingSends rtc iceParams transactionId now := rfl
  rw [hsends]
  unfold checkAndPingSends
  dsimp only
  split
  · rename_i hnone
    exact .inl ⟨hnone, rfl⟩
  · rename_i id hconn
    have hupdate : Quiet s (s.updateConnectionStates now) :=
      foldl_quiet (fun s id => updateState_quiet s id now) s _
    have hheap := (selectConnectionToPing_books (s.updateConnectionStates now) now).2
    refine .inr ⟨id, _, hconn, ?_, rfl⟩
    rw [hheap]
    exact (hupdate id).toKept

variable {localPriorities localPriorities' : List UInt32} {es fs : List DatagramEvent}

theorem DatagramChannel.run_channel {u v : DatagramChannel}
    (hrun : run (DatagramChannel.step rtc iceParams movingAverage) u es = some v) :
    run (IceTransportChannel.step movingAverage) u.channel (es.map (·.channelEvent rtc iceParams)) =
      some v.channel :=
  run_map (fun _ _ _ hstep => (DatagramChannel.step_eq_some.1 hstep).1) hrun

/-- The first end has asked, and its answer has come. -/
def meeting : List DatagramEvent :=
  [.datagram 0 firstAddress (requestFrom [98, 58, 97] [.uint32 STUN_ATTR_PRIORITY 7]) 0 1000,
    .setRemoteIceParams freshParams 1010]

def secondAddress : SocketAddress := ⟨0x0A000002, 6000⟩

end Ice

end XrtcServer
