import XrtcServer.Pc.Strangers
/-!
# The way of the media

A session is there while the transport is connected and holds a key that the
adapter has exported, whatever else may have failed. So a packet of media
leaves under the key of the server for an address that has answered a check,
and what is received has come from an address that has asked and is
unprotected under the key of the client, both keys of the same handshake.
-/

namespace XrtcServer

namespace Pc

open Base Common Ice Dtls MediaTransport UDPPort IceTransportChannel

variable {o : Outside} {m m' : MediaTransport} {e : MediaEvent} {es : List MediaEvent}
variable {lib : Libraries} {t u : DtlsTransport} {srtp : DtlsSrtpTransport}

/-! ## The sessions -/

/-- **The sessions are those of the adapter**: where there is one, the
transport is connected and both hold what its adapter exports. -/
def Attached (lib : Libraries) (t : DtlsTransport) : Prop :=
  ∀ srtp, t.srtp = some srtp → srtp.sendSession ≠ none ∨ srtp.recvSession ≠ none →
    t.dtlsState = .connected ∧ ∃ adapter, t.dtls = some adapter ∧ KeysOf lib adapter srtp

theorem Attached.congr (h : Attached lib t) (hsrtp : u.srtp = t.srtp)
    (hstate : u.dtlsState = t.dtlsState) (hdtls : u.dtls = t.dtls) : Attached lib u := by
  intro srtp hu hsession
  rw [hsrtp] at hu
  rw [hstate, hdtls]
  exact h srtp hu hsession

/-- Where the transport is not connected there are no sessions. -/
theorem Attached.none (h : Attached lib t) (hc : t.dtlsState ≠ .connected)
    (hsrtp : t.srtp = some srtp) : srtp.sendSession = .none ∧ srtp.recvSession = .none := by
  by_contra hsession
  exact hc (h srtp hsrtp (not_and_or.1 hsession)).1

/-- Either both keys are set or there are no sessions. -/
theorem setRtpParams_cases (lib : Libraries) (srtp : DtlsSrtpTransport) (cs : ℤ)
    (sendKey recvKey : List UInt8) :
    srtp.setRtpParams lib cs sendKey recvKey = srtp.resetParams ∨
      srtp.setRtpParams lib cs sendKey recvKey =
        { srtp with sendSession := some ⟨cs, sendKey⟩, recvSession := some ⟨cs, recvKey⟩ } := by
  unfold DtlsSrtpTransport.setRtpParams
  dsimp only
  generalize (if srtp.sendSession.isNone then lib.setKey else lib.updateKey) = set
  split
  · exact .inl rfl
  · split
    · exact .inl rfl
    · exact .inr rfl

/-- New keys are those of the adapter, or there are none. -/
theorem maybeSetupDtlsSrtp_attached (hnone : srtp.sendSession = none ∧ srtp.recvSession = none)
    (hsession : (t.maybeSetupDtlsSrtp lib srtp).sendSession ≠ none ∨
      (t.maybeSetupDtlsSrtp lib srtp).recvSession ≠ none) :
    t.dtlsState = .connected ∧ ∃ adapter, t.dtls = some adapter ∧
      KeysOf lib adapter (t.maybeSetupDtlsSrtp lib srtp) := by
  have hno : ∀ {srtp' : DtlsSrtpTransport}, srtp'.sendSession = none ∧ srtp'.recvSession = none →
      ¬ (srtp'.sendSession ≠ none ∨ srtp'.recvSession ≠ none) := fun h => not_or.2
        ⟨not_not.2 h.1, not_not.2 h.2⟩
  unfold DtlsTransport.maybeSetupDtlsSrtp at hsession ⊢
  split at hsession
  · exact absurd hsession (hno hnone)
  · rename_i hready
    rw [if_neg hready]
    cases hparams : t.extractParams lib with
    | none =>
      rw [hparams] at hsession
      exact absurd hsession (hno hnone)
    | some params =>
      obtain ⟨suite, sendKey, recvKey⟩ := params
      rw [hparams] at hsession
      dsimp only at hsession ⊢
      rcases setRtpParams_cases lib srtp suite sendKey recvKey with hset | hset
      · rw [hset] at hsession
        exact absurd hsession (hno ⟨rfl, rfl⟩)
      · rw [hset]
        unfold DtlsTransport.extractParams at hparams
        split at hparams
        · cases hparams
        · split at hparams
          · cases hparams
          · rename_i hconnected
            obtain ⟨adapter, hadapter, hextract⟩ := Option.bind_eq_some_iff.1 hparams
            exact ⟨not_not.1 hconnected, adapter, hadapter, suite, sendKey, recvKey, hextract, rfl,
              rfl⟩

theorem Attached.setDtlsState (h : Attached lib t) (state : DtlsTransportState) :
    Attached lib (t.setDtlsState lib state) := by
  unfold DtlsTransport.setDtlsState
  split
  · exact h
  · rename_i hne
    intro srtp' hsrtp' hsession
    obtain ⟨srtp, hsrtp, rfl⟩ := Option.map_eq_some_iff.1 hsrtp'
    by_cases hc : state = .connected
    · have hother : t.dtlsState ≠ .connected := fun ht => hne (ht.trans hc.symm)
      unfold DtlsTransport.onDtlsState at hsession ⊢
      rw [if_neg (not_not.2 hc)] at hsession ⊢
      exact maybeSetupDtlsSrtp_attached (h.none hother hsrtp) hsession
    · unfold DtlsTransport.onDtlsState at hsession
      rw [if_pos hc] at hsession
      rcases hsession with hsession | hsession <;> exact absurd rfl hsession

/-- **Every move leaves the sessions with the adapter.** -/
theorem Attached.move (h : Attached lib t) (hmove : Move lib t u) : Attached lib u := by
  cases hmove with
  | aside hu => exact h.congr hu.srtp hu.state hu.dtls
  | startSSL adapter => exact h.congr rfl rfl rfl
  | setDtlsState state => exact h.setDtlsState state
  | createAdapter hfree =>
    intro srtp hsrtp hsession
    obtain ⟨hconnected, adapter, hadapter, -⟩ := h srtp hsrtp hsession
    rw [hfree hconnected] at hadapter
    cases hadapter
  | dropAdapter =>
    -- the sessions go with the adapter
    intro srtp' hsrtp' hsession
    unfold DtlsTransport.setDtlsState at hsrtp'
    split at hsrtp'
    · rename_i hnew
      have hnone := h.none (fun hc => by rw [hnew] at hc; cases hc) hsrtp'
      rcases hsession with hsession | hsession
      · exact absurd hnone.1 hsession
      · exact absurd hnone.2 hsession
    · obtain ⟨srtp, hsrtp, rfl⟩ := Option.map_eq_some_iff.1 hsrtp'
      rcases hsession with hsession | hsession <;> exact absurd rfl hsession
  | useSrtp g hg =>
    intro srtp' hsrtp' hsession
    obtain ⟨srtp, hsrtp, rfl⟩ := Option.map_eq_some_iff.1 hsrtp'
    rw [(hg srtp).1, (hg srtp).2] at hsession
    obtain ⟨hconnected, adapter, hadapter, suite, sendKey, recvKey, hextract, hsend, hrecv⟩ :=
      h srtp hsrtp hsession
    exact ⟨hconnected, adapter, hadapter, suite, sendKey, recvKey, hextract,
      (hg srtp).1.trans hsend, (hg srtp).2.trans hrecv⟩

theorem Attached.handle (h : Attached lib t) (e : Dtls.Event) : Attached lib (handle lib t e) := by
  refine Moves.keep (fun v w hv hmove => hv.move hmove) (moves_handle lib t e) ?_
  cases e with
  | iceReceiving receiving =>
    unfold heard
    dsimp only
    split <;> exact h
  | iceWritable | localCertificate | remoteFingerprint | icePacket | dtlsEvent | send => exact h

theorem Attached.foldl (h : Attached lib t) (us : List Dtls.Event) :
    Attached lib (us.foldl (Dtls.handle lib) t) := by
  induction us generalizing t with
  | nil => exact h
  | cons e us ih => exact ih (h.handle e)

theorem attached_init (localPriorities : List UInt32) (certificate : Option ℕ) :
    Attached o.lib (MediaTransport.init o localPriorities certificate).dtls := by
  intro srtp hsrtp hsession
  cases certificate with
  | none =>
    obtain rfl := Option.some.inj hsrtp
    rcases hsession with hsession | hsession <;> exact absurd rfl hsession
  | some certificate =>
    obtain rfl := Option.some.inj hsrtp
    rcases hsession with hsession | hsession <;> exact absurd rfl hsession

/-- **The keys there are**: the transport is connected, and its adapter exports
them. -/
def KeysNow (lib : Libraries) (t : DtlsTransport) (suite : ℤ) (sendKey recvKey : List UInt8) :
    Prop :=
  t.dtlsState = .connected ∧ ∃ adapter, t.dtls = some adapter ∧
    extractKeys lib adapter = some (suite, sendKey, recvKey)

variable {cipher : Cipher} {rtcp : Bool} {packet data buf : List UInt8}

/-- What is protected is protected under the key of the server. -/
theorem protectPacket_keys (h : Attached o.lib m.dtls)
    (hdata : m.protectPacket cipher rtcp packet = some data) :
    ∃ suite sendKey recvKey, KeysNow o.lib m.dtls suite sendKey recvKey ∧
      cipher.protect ⟨suite, sendKey⟩ rtcp packet = some data := by
  obtain ⟨srtp, hsrtp, hactive⟩ := Option.bind_eq_some_iff.1 hdata
  split at hactive
  · cases hactive
  · obtain ⟨session, hsession, hprotect⟩ := Option.bind_eq_some_iff.1 hactive
    obtain ⟨hconnected, adapter, hadapter, suite, sendKey, recvKey, hextract, hsend, -⟩ :=
      h srtp hsrtp (.inl (by rw [hsession]; exact Option.some_ne_none _))
    obtain rfl := Option.some.inj (hsession.symm.trans hsend)
    exact ⟨suite, sendKey, recvKey, ⟨hconnected, adapter, hadapter, hextract⟩, hprotect⟩

/-- What is received is unprotected under the key of the client. -/
theorem received_keys (h : Attached lib t) {x : Bool × List UInt8} (hx : x ∈ t.received cipher buf) :
    ∃ suite sendKey recvKey, KeysNow lib t suite sendKey recvKey ∧
      cipher.unprotect ⟨suite, recvKey⟩ x.1 buf = some x.2 := by
  have hpacket : ∀ srtp rtcp, t.srtp = some srtp → x ∈ srtp.onPacketReceived cipher rtcp buf →
      ∃ suite sendKey recvKey, KeysNow lib t suite sendKey recvKey ∧
        cipher.unprotect ⟨suite, recvKey⟩ x.1 buf = some x.2 := by
    intro srtp rtcp hsrtp hmem
    unfold DtlsSrtpTransport.onPacketReceived at hmem
    split at hmem
    · cases hmem
    · obtain ⟨data, hdata, rfl⟩ := Option.map_eq_some_iff.1 (Option.mem_toList.1 hmem)
      obtain ⟨session, hsession, hunprotect⟩ := Option.bind_eq_some_iff.1 hdata
      obtain ⟨hconnected, adapter, hadapter, suite, sendKey, recvKey, hextract, -, hrecv⟩ :=
        h srtp hsrtp (.inr (by rw [hsession]; exact Option.some_ne_none _))
      obtain rfl := Option.some.inj (hsession.symm.trans hrecv)
      exact ⟨suite, sendKey, recvKey, ⟨hconnected, adapter, hadapter, hextract⟩, hunprotect⟩
  unfold DtlsTransport.received at hx
  split at hx
  · cases hx
  · split at hx
    · cases hx
    · rename_i srtp hsrtp
      split at hx
      · cases hx
      · exact hpacket srtp true hsrtp hx
      · exact hpacket srtp false hsrtp hx

theorem step_attached (h : Attached o.lib m.dtls) (hstep : m.step o e = some m') :
    Attached o.lib m'.dtls := by
  obtain ⟨us, hdtls, -⟩ := (stepped_of_step hstep).dtls
  rw [hdtls]
  exact h.foldl us

variable {localPriorities : List UInt32} {certificate : Option ℕ}

theorem attached_of_run
    (hrun : run (MediaTransport.step o) (.init o localPriorities certificate) es = some m) :
    Attached o.lib m.dtls :=
  inv_of_run (I := fun m : MediaTransport => Attached o.lib m.dtls)
    (fun _ _ _ h hstep => step_attached h hstep) (attached_init localPriorities certificate) hrun

/-- **What is sent of a packet of media** is nothing, or the packet protected
under the key of the server, the transport being connected, to an address
that has answered a check. -/
theorem media_sent (o : Outside) (localPriorities : List UInt32) (certificate : Option ℕ)
    (es : List MediaEvent) (m : MediaTransport) (rtcp : Bool) (packet : List UInt8)
    (cipher : Cipher)
    (hrun : run (MediaTransport.step o) (.init o localPriorities certificate) es = some m) :
    m.sends o (.send rtcp packet cipher) = [] ∨
      ∃ suite sendKey recvKey data portIndex addr, KeysNow o.lib m.dtls suite sendKey recvKey ∧
        cipher.protect ⟨suite, sendKey⟩ rtcp packet = some data ∧
        m.sends o (.send rtcp packet cipher) = [⟨portIndex, addr, data⟩] ∧
        HasAnswered o.rtc o.iceParams o.movingAverage localPriorities
          (iceEvents o (.init o localPriorities certificate) es) portIndex addr := by
  have hevent : m.iceEvent (.send rtcp packet cipher) =
      (m.protectPacket cipher rtcp packet).map .sendPacket := rfl
  cases hdata : m.protectPacket cipher rtcp packet with
  | none =>
    left
    unfold MediaTransport.sends
    rw [hevent, hdata]
    rfl
  | some data =>
    rw [hdata] at hevent
    rw [sends_of_iceEvent hevent]
    rcases sends_sendPacket o.rtc o.iceParams o.movingAverage m.ice.channel data with
      hnone | ⟨id, hready, hone⟩
    · exact .inl hnone
    · obtain ⟨suite, sendKey, recvKey, hkeys, hprotect⟩ :=
        protectPacket_keys (attached_of_run hrun) hdata
      exact .inr ⟨suite, sendKey, recvKey, data, _, _, hkeys, hprotect, hone,
        answered_of_canSend (run_ice hrun) hready⟩

/-- The handshake of the second end is over. -/
def connecting : List MediaEvent := establishing ++ [.dtlsEvent true false false [] 0]

theorem media_sent_connected : ∃ m,
    run (MediaTransport.step secondOutside) (.init secondOutside [0] (some 1)) connecting = some m ∧
      m.sends secondOutside (.send false [128, 0] plain) = [⟨0, firstAddress, [128, 0]⟩] ∧
      ∃ suite sendKey recvKey data portIndex addr, KeysNow obliging m.dtls suite sendKey recvKey ∧
        plain.protect ⟨suite, sendKey⟩ false [128, 0] = some data ∧
        m.sends secondOutside (.send false [128, 0] plain) = [⟨portIndex, addr, data⟩] ∧
        HasAnswered blankRtc secondParams (fun x _ _ => x) [0]
          (iceEvents secondOutside (.init secondOutside [0] (some 1)) connecting) portIndex addr := by
  have hsends : (run (MediaTransport.step secondOutside) (.init secondOutside [0] (some 1))
      connecting).map (fun m => m.sends secondOutside (.send false [128, 0] plain)) =
      some [⟨0, firstAddress, [128, 0]⟩] := by decide +kernel
  obtain ⟨m, hrun, hone⟩ := Option.map_eq_some_iff.1 hsends
  refine ⟨m, hrun, hone, ?_⟩
  rcases media_sent secondOutside [0] (some 1) connecting m false [128, 0] plain hrun with hnone | hsent
  · rw [hone] at hnone
    cases hnone
  · exact hsent

/-! ## What is received -/

/-- The channel signals nothing of what it passes up. -/
theorem passedUp_unsignalled {portIndex : ℕ} {addr : SocketAddress} {id : ℕ} {now : ℤ}
    {s t : IceTransportChannel}
    (hstep : s.step o.movingAverage (DatagramEvent.channelEvent o.rtc o.iceParams
      (.datagram portIndex addr data id now)) = some t)
    (hpassed : buf ∈ passedUp o.rtc o.iceParams s (.datagram portIndex addr data id now)) :
    buf = data ∧ (∃ conn, connectionAt s portIndex addr = some conn) ∧ signalled s t = [] := by
  unfold passedUp at hpassed
  dsimp only at hpassed
  split at hpassed
  · rename_i conn hconn
    split at hpassed
    · cases hpassed
    · rename_i hres
      have hnotStun : packetOf o.rtc (getStunMessage o.rtc o.iceParams data) = .notStun := by
        unfold packetOf
        rw [if_pos (Bool.not_eq_true _ ▸ hres)]
      unfold DatagramEvent.channelEvent at hstep
      dsimp only at hstep
      rw [hnotStun] at hstep
      obtain ⟨port, hport, haddr⟩ := Option.bind_eq_some_iff.1 hconn
      rw [step_known hport haddr hstep]
      refine ⟨List.mem_singleton.1 hpassed, ⟨conn, hconn⟩, ?_⟩
      have hsame : (IceConnection.onReadPacket s conn o.movingAverage .notStun now).trace.signals =
          s.trace.signals := (use_unaffected s conn).signals
      unfold signalled
      rw [hsame, List.drop_length, List.filterMap_nil]
  · cases hpassed

theorem received_of_foldl (cipher : Cipher) {x : Bool × List UInt8}
    (passed : List (List UInt8)) (hone : passed.length ≤ 1)
    (hx : x ∈ (passed.foldl (fun m buf => m.onReadPacket o cipher buf) m).received) :
    x ∈ m.received ∨ ∃ buf ∈ passed, x ∈ m.dtls.received cipher buf := by
  match passed, hone with
  | [], _ => exact .inl hx
  | [buf], _ =>
    rcases List.mem_append.1 hx with hx | hx
    · exact .inl hx
    · exact .inr ⟨buf, List.mem_singleton_self _, hx⟩

theorem length_passedUp (rtc : Rtc) (iceParams : IceParameters) (s : IceTransportChannel)
    (f : DatagramEvent) : (passedUp rtc iceParams s f).length ≤ 1 := by
  unfold passedUp
  split
  · split
    · split
      · exact Nat.zero_le 1
      · exact Nat.le_refl 1
    · exact Nat.zero_le 1
  · exact Nat.zero_le 1

/-- **A packet is received** in this event: a datagram on a connection, which
the session of the client unprotects. -/
def Receives (o : Outside) (m : MediaTransport) (x : Bool × List UInt8) : MediaEvent → Prop
  | .datagram portIndex addr data _ _ cipher =>
    (∃ conn, connectionAt m.ice.channel portIndex addr = some conn) ∧
      ∃ suite sendKey recvKey, KeysNow o.lib m.dtls suite sendKey recvKey ∧
        cipher.unprotect ⟨suite, recvKey⟩ x.1 data = some x.2
  | _ => False

theorem step_receives (h : Attached o.lib m.dtls) (hstep : m.step o e = some m')
    {x : Bool × List UInt8} (hx : x ∈ m'.received) : x ∈ m.received ∨ Receives o m x e := by
  have hopen : ¬ m.ice.channel.closed = true := by simp [(stepped_of_step hstep).isOpen]
  unfold MediaTransport.step at hstep
  rw [if_neg hopen] at hstep
  have hquiet : ∀ {f : DatagramEvent} {n : MediaTransport}, n.onIce o f = some m' →
      n.received = m.received → x ∈ m.received ∨ Receives o m x e := by
    intro f n hn hsame
    rw [(onIce_eq_some hn).2.2, hsame] at hx
    exact .inl hx
  cases e with
  | datagram portIndex addr data id now cipher =>
    obtain ⟨n, hn, rfl⟩ := Option.map_eq_some_iff.1 hstep
    obtain ⟨hice, hdtls, hreceived⟩ := onIce_eq_some hn
    rcases received_of_foldl cipher _ (length_passedUp ..) hx with hold | ⟨buf, hbuf, hnew⟩
    · rw [hreceived] at hold
      exact .inl hold
    · obtain ⟨rfl, hconn, hnone⟩ := passedUp_unsignalled (DatagramChannel.step_eq_some.1 hice).1 hbuf
      rw [hdtls, hnone] at hnew
      exact .inr ⟨hconn, received_keys h hnew⟩
  | tick transactionId now => exact hquiet hstep rfl
  | setRemoteDescription params fingerprint now =>
    obtain ⟨n, hn, rfl⟩ := Option.map_eq_some_iff.1 hstep
    left
    rw [← (onIce_eq_some hn).2.2]
    exact hx
  | dtlsEvent seOpen seRead seClose results error =>
    obtain ⟨dtls, hdtls, rfl⟩ := Option.map_eq_some_iff.1 hstep
    exact .inl hx
  | write data =>
    dsimp only at hstep
    split at hstep
    · cases hstep
    · exact hquiet hstep rfl
  | send rtcp packet cipher =>
    dsimp only at hstep
    split at hstep
    · obtain rfl := Option.some.inj hstep
      exact .inl hx
    · exact hquiet hstep rfl
  | destroy now =>
    obtain ⟨ice, hice, rfl⟩ := Option.map_eq_some_iff.1 hstep
    exact .inl hx

theorem mem_datagrams_of_iceEvents {portIndex : ℕ} {addr : SocketAddress} {id : ℕ} {now : ℤ}
    (h : .datagram portIndex addr data id now ∈ iceEvents o m es) :
    .datagram portIndex addr data id now ∈ datagrams es := by
  induction es generalizing m with
  | nil => cases h
  | cons e es ih =>
    rw [iceEvents] at h
    rcases List.mem_append.1 h with hfirst | hrest
    · obtain ⟨cipher, rfl⟩ := iceEvent_datagram (Option.mem_toList.1 hfirst)
      exact mem_datagrams List.mem_cons_self
    · have hmem : .datagram portIndex addr data id now ∈ datagrams es := by
        split at hrest
        · cases hrest
        · exact ih hrest
      obtain ⟨f, hf, hpicked⟩ := List.mem_filterMap.1 hmem
      exact List.mem_filterMap.2 ⟨f, List.mem_cons_of_mem e hf, hpicked⟩

/-- **What has been received** came in a datagram, from an address that had
sent an authentic request, while the transport was connected, and the key of
the client unprotected it. -/
theorem media_received (o : Outside) (localPriorities : List UInt32) (certificate : Option ℕ)
    (es : List MediaEvent) (m : MediaTransport)
    (hrun : run (MediaTransport.step o) (.init o localPriorities certificate) es = some m)
    (x : Bool × List UInt8) (hx : x ∈ m.received) :
    ∃ fs portIndex addr data id now cipher gs n,
      es = fs ++ .datagram portIndex addr data id now cipher :: gs ∧
      run (MediaTransport.step o) (.init o localPriorities certificate) fs = some n ∧
      (∃ name, HasAsked o.rtc o.iceParams (datagrams fs) (portIndex, addr, name)) ∧
      ∃ suite sendKey recvKey, KeysNow o.lib n.dtls suite sendKey recvKey ∧
        cipher.unprotect ⟨suite, recvKey⟩ x.1 data = some x.2 := by
  obtain ⟨fs, e, gs, n, rfl, hn, hreceives, -⟩ :=
    exists_since (I := fun m : MediaTransport => Attached o.lib m.dtls)
      (P := fun m => x ∈ m.received) (Q := fun m e => Receives o m x e)
      (fun _ _ _ h hstep => step_attached h hstep) (fun _ _ _ h hstep => step_receives h hstep)
      (attached_init localPriorities certificate) List.not_mem_nil hrun hx
  cases e with
  | datagram portIndex addr data id now cipher =>
    obtain ⟨⟨conn, hconn⟩, hkeys⟩ := hreceives
    have hinvited := invited_of_run (run_ice hn)
    obtain ⟨hmade, hhere, haddress⟩ := hinvited.entry portIndex addr conn hconn
    have hplace := hinvited.place conn hmade
    unfold IceConnection.place at hplace
    rw [hhere, haddress] at hplace
    obtain ⟨data', id', now', msg, hmem, hmsg⟩ := hplace
    exact ⟨fs, portIndex, addr, data, id, now, cipher, gs, n, rfl, hn,
      ⟨_, data', id', now', msg, mem_datagrams_of_iceEvents hmem, hmsg⟩, hkeys⟩
  | tick | setRemoteDescription | dtlsEvent | write | send | destroy => cases hreceives

/-- An RTP packet of the first end. -/
def rtpPacket : List UInt8 := 128 :: List.replicate 11 0

theorem media_received_connected : ∃ m,
    run (MediaTransport.step secondOutside) (.init secondOutside [0] (some 1))
        (connecting ++ [.datagram 0 firstAddress rtpPacket 2 1300 plain]) = some m ∧
      (false, rtpPacket) ∈ m.received ∧
      ∃ fs portIndex addr data id now cipher gs n,
        connecting ++ [.datagram 0 firstAddress rtpPacket 2 1300 plain] =
          fs ++ .datagram portIndex addr data id now cipher :: gs ∧
        run (MediaTransport.step secondOutside) (.init secondOutside [0] (some 1)) fs = some n ∧
        (∃ name, HasAsked blankRtc secondParams (datagrams fs) (portIndex, addr, name)) ∧
        ∃ suite sendKey recvKey, KeysNow obliging n.dtls suite sendKey recvKey ∧
          cipher.unprotect ⟨suite, recvKey⟩ false data = some rtpPacket := by
  have hreceived : (run (MediaTransport.step secondOutside) (.init secondOutside [0] (some 1))
      (connecting ++ [.datagram 0 firstAddress rtpPacket 2 1300 plain])).map
        MediaTransport.received = some [(false, rtpPacket)] := by decide +kernel
  obtain ⟨m, hrun, hone⟩ := Option.map_eq_some_iff.1 hreceived
  have hmem : (false, rtpPacket) ∈ m.received := by
    rw [hone]
    exact List.mem_singleton_self _
  exact ⟨m, hrun, hmem, media_received secondOutside [0] (some 1) _ m hrun (false, rtpPacket) hmem⟩

end Pc

end XrtcServer
