import XrtcServer.Common.Simulation
import XrtcServer.Ice.Invited
import XrtcServer.Ice.Requests
/-!
# A channel sends where it has been asked

Pings, packets and success responses go to an address only that has sent an
authentic Binding Request to the port before, whatever has happened since.
Anyone else gets nothing but an error response, one for a datagram.
-/

namespace XrtcServer

namespace Ice

open Base Common StunMessage UDPPort IceConnection IceTransportChannel

variable {s t : IceTransportChannel} {H : ℕ × SocketAddress × String → Prop}
variable {portIndex : ℕ} {port : UDPPort}

/-! ## What a datagram is answered with -/

/-- The answers to a datagram go back where it has come from. -/
theorem Invited.answers_back (h : Invited H s) (hport : s.ports[portIndex]? = some port)
    (addr : SocketAddress) :
    peer s port addr = addr ∧ s.answeringPort portIndex port addr = portIndex := by
  unfold peer answeringPort
  cases hconn : port.getConnection addr with
  | none => exact ⟨rfl, rfl⟩
  | some conn =>
    have hat : connectionAt s portIndex addr = some conn := by
      unfold connectionAt
      rw [hport, Option.bind_some, hconn]
    obtain ⟨-, hport, haddress⟩ := h.entry portIndex addr conn hat
    exact ⟨haddress, hport⟩

variable {rtc : Rtc} {iceParams : IceParameters} {movingAverage : ℤ → ℤ → ℤ → ℤ}
variable {data answer : List UInt8} {e : DatagramEvent} {es : List DatagramEvent}

/-- An error response to a Binding Request. -/
def IsRefusal (rtc : Rtc) (iceParams : IceParameters) (data answer : List UInt8) : Prop :=
  ∃ msg errCode, Parses rtc data msg ∧ msg.type = STUN_BINDING_REQUEST ∧
    (errCode = STUN_ERROR_BAD_REQUEST ∨ errCode = STUN_ERROR_UNAUTHORIZED) ∧
    answer = bindingErrorResponse rtc iceParams msg errCode

/-- A success response to an authentic Binding Request. -/
def IsSuccess (rtc : Rtc) (iceParams : IceParameters) (data answer : List UInt8) : Prop :=
  ∃ msg remoteUfrag address, Parses rtc data msg ∧ msg.type = STUN_BINDING_REQUEST ∧
    Authentic rtc iceParams data msg remoteUfrag ∧
    stunBindingResponse rtc iceParams address msg = [answer]

/-- What passes the checks is authentic. -/
theorem Checked.authentic {msg : StunMessage} {remoteUfrag : String} (h : Parses rtc data msg)
    (hchecked : Checked rtc iceParams msg remoteUfrag) :
    Authentic rtc iceParams data msg remoteUfrag :=
  (checked_iff h (inside_of_integrity (read_some h.2).1.buffer hchecked.integrity)).1 hchecked

/-- **What `get_stun_message` makes of any datagram.** -/
theorem getStunMessage_cases (rtc : Rtc) (iceParams : IceParameters) (data : List UInt8) :
    let got := getStunMessage rtc iceParams data
    got = { res := false } ∨
    (∃ msg, Parses rtc data msg ∧ msg.type ≠ STUN_BINDING_REQUEST ∧
      got = { res := true, outMsg := some msg }) ∨
    (∃ msg errCode, Parses rtc data msg ∧ msg.type = STUN_BINDING_REQUEST ∧
      (errCode = STUN_ERROR_BAD_REQUEST ∨ errCode = STUN_ERROR_UNAUTHORIZED) ∧
      got = refusal rtc iceParams msg errCode) ∨
    ∃ msg remoteUfrag, Parses rtc data msg ∧ msg.type = STUN_BINDING_REQUEST ∧
      Authentic rtc iceParams data msg remoteUfrag ∧ got = acceptance msg remoteUfrag := by
  dsimp only
  by_cases hparses : ∃ msg, Parses rtc data msg
  · obtain ⟨msg, h⟩ := hparses
    by_cases htype : msg.type = STUN_BINDING_REQUEST
    · refine .inr (.inr ?_)
      rcases getStunMessage_checked iceParams h htype with
        ⟨-, hgot⟩ | ⟨-, -, hgot⟩ | ⟨-, remoteUfrag, hchecked, hgot⟩
      · exact .inl ⟨msg, _, h, htype, .inl rfl, hgot⟩
      · exact .inl ⟨msg, _, h, htype, .inr rfl, hgot⟩
      · exact .inr ⟨msg, remoteUfrag, h, htype, hchecked.authentic h, hgot⟩
    · exact .inr (.inl ⟨msg, h, htype, h.got htype⟩)
  · exact .inl (getStunMessage_of_not fun msg h => hparses ⟨msg, h⟩)

/-- **A datagram is answered with nothing or with one datagram.** -/
theorem onReadDatagram_answers (rtc : Rtc) (iceParams : IceParameters) (ch : IceTransportChannel)
    (movingAverage : ℤ → ℤ → ℤ → ℤ) (portIndex : ℕ) (port : UDPPort) (addr : SocketAddress)
    (data : List UInt8) (id : ℕ) (now : ℤ) :
    let sent := (ch.onReadDatagram rtc iceParams movingAverage portIndex port addr data id now).2
    sent = [] ∨ ∃ answer, sent = [(peer ch port addr, answer)] ∧
      (IsRefusal rtc iceParams data answer ∨ IsSuccess rtc iceParams data answer) := by
  have hsuccess : ∀ (address : SocketAddress) (msg : StunMessage) (remoteUfrag : String),
      Parses rtc data msg → msg.type = STUN_BINDING_REQUEST →
      Authentic rtc iceParams data msg remoteUfrag →
      ∃ answer, stunBindingResponse rtc iceParams address { msg with integrity := .integrityOk } =
        [answer] ∧ IsSuccess rtc iceParams data answer := by
    intro address msg remoteUfrag h htype hauth
    obtain ⟨bytes, hbytes, -⟩ := hauth.username
    have hone : ∃ answer, stunBindingResponse rtc iceParams address msg = [answer] := by
      unfold stunBindingResponse
      rw [hbytes]
      exact ⟨_, rfl⟩
    obtain ⟨answer, hanswer⟩ := hone
    exact ⟨answer, hanswer, msg, remoteUfrag, address, h, htype, hauth, hanswer⟩
  unfold IceTransportChannel.onReadDatagram peer
  dsimp only
  rcases getStunMessage_cases rtc iceParams data with
    hgot | ⟨msg, -, hother, hgot⟩ | ⟨msg, errCode, h, htype, hcode, hgot⟩ |
    ⟨msg, remoteUfrag, h, htype, hauth, hgot⟩
  · rw [hgot]
    cases port.getConnection addr with
    | none => exact .inl rfl
    | some conn => exact .inl rfl
  · rw [hgot]
    cases port.getConnection addr with
    | none =>
      refine .inl ?_
      unfold unknownAnswers
      dsimp only
      rw [if_neg hother]
      rfl
    | some conn =>
      refine .inl ?_
      unfold IceConnection.answers
      dsimp only
      rw [if_neg hother]
      rfl
  · rw [hgot]
    have hrefusal : IsRefusal rtc iceParams data (bindingErrorResponse rtc iceParams msg errCode) :=
      ⟨msg, errCode, h, htype, hcode, rfl⟩
    cases port.getConnection addr with
    | none => exact .inr ⟨_, rfl, .inl hrefusal⟩
    | some conn => exact .inr ⟨_, rfl, .inl hrefusal⟩
  · rw [hgot]
    cases port.getConnection addr with
    | none =>
      unfold unknownAnswers acceptance
      dsimp only
      rw [if_pos htype]
      cases hpriority : StunMessage.getUint32 { msg with integrity := .integrityOk }
          STUN_ATTR_PRIORITY with
      | none => exact .inr ⟨_, rfl, .inl ⟨msg, _, h, htype, .inl rfl, rfl⟩⟩
      | some priority =>
        obtain ⟨answer, hanswer, hok⟩ := hsuccess addr msg remoteUfrag h htype hauth
        dsimp only
        rw [hanswer]
        exact .inr ⟨answer, rfl, .inr hok⟩
    | some conn =>
      unfold IceConnection.answers acceptance
      dsimp only
      rw [if_pos htype]
      split
      · exact .inr ⟨_, rfl, .inl ⟨msg, _, h, htype, .inr rfl, rfl⟩⟩
      · obtain ⟨answer, hanswer, hok⟩ :=
          hsuccess (ch.heap conn).remoteCandidate.address msg remoteUfrag h htype hauth
        rw [hanswer]
        exact .inr ⟨answer, rfl, .inr hok⟩

/-! ## Runs -/

/-- **Somebody at this address has asked the port for a connection**, under
this name: an authentic Binding Request has come from it. -/
def HasAsked (rtc : Rtc) (iceParams : IceParameters) (es : List DatagramEvent)
    (place : ℕ × SocketAddress × String) : Prop :=
  ∃ data id now msg, .datagram place.1 place.2.1 data id now ∈ es ∧ Parses rtc data msg ∧
    msg.type = STUN_BINDING_REQUEST ∧ Authentic rtc iceParams data msg place.2.2

theorem HasAsked.mono {place : ℕ × SocketAddress × String} {fs : List DatagramEvent}
    (h : HasAsked rtc iceParams es place) (hsub : ∀ e ∈ es, e ∈ fs) :
    HasAsked rtc iceParams fs place := by
  obtain ⟨data, id, now, msg, hmem, hasked⟩ := h
  exact ⟨data, id, now, msg, hsub _ hmem, hasked⟩

theorem HasAsked.concat {place : ℕ × SocketAddress × String} (h : HasAsked rtc iceParams es place)
    (e : DatagramEvent) : HasAsked rtc iceParams (es ++ [e]) place :=
  h.mono fun _ => List.mem_append_left _

/-- What is a request for the channel is an authentic one. -/
theorem authentic_of_packetOf {remoteUfrag : String} {priority : Option UInt32}
    (h : packetOf rtc (getStunMessage rtc iceParams data) = .request remoteUfrag priority) :
    ∃ msg, Parses rtc data msg ∧ msg.type = STUN_BINDING_REQUEST ∧
      Authentic rtc iceParams data msg remoteUfrag := by
  rcases getStunMessage_cases rtc iceParams data with
    hgot | ⟨msg, -, hother, hgot⟩ | ⟨msg, errCode, -, -, -, hgot⟩ |
    ⟨msg, name, hparses, htype, hauth, hgot⟩
  · rw [hgot] at h
    cases h
  · rw [hgot] at h
    unfold packetOf at h
    dsimp only at h
    rw [if_neg (by decide), if_neg hother] at h
    split at h <;> cases h
  · rw [hgot] at h
    cases h
  · rw [hgot] at h
    unfold packetOf acceptance at h
    dsimp only at h
    rw [if_neg (by decide), if_pos htype] at h
    obtain rfl := (Packet.request.inj h).1
    exact ⟨msg, hparses, htype, hauth⟩

/-- **A step keeps every connection where it has been asked for**, if an
authentic request counts as asking. -/
theorem step_invited (h : Invited H s)
    (hasked : ∀ place : ℕ × SocketAddress × String, HasAsked rtc iceParams [e] place → H place)
    (hstep : s.step movingAverage (e.channelEvent rtc iceParams) = some t) : Invited H t := by
  have hhandled := handled_of_step hstep
  cases e with
  | datagram portIndex addr data id now =>
    generalize hpacket : packetOf rtc (getStunMessage rtc iceParams data) = packet at hhandled
    have hevent : DatagramEvent.channelEvent rtc iceParams (.datagram portIndex addr data id now) =
        .datagram portIndex addr packet id now := by
      unfold DatagramEvent.channelEvent
      dsimp only
      rw [hpacket]
    rw [hevent] at hhandled
    cases hhandled with
    | known packet now hport haddr => exact h.stays (onReadPacket_stays _ _ _ packet now)
    | stranger remoteUfrag priority now hport haddr hnew =>
      obtain ⟨msg, hparses, htype, hauth⟩ := authentic_of_packetOf hpacket
      refine h.onUnknownAddress hport haddr hnew priority now fun _ => hasked _ ?_
      exact ⟨data, id, now, msg, List.mem_singleton_self _, hparses, htype, hauth⟩
    | dropped => exact h
  | setRemoteIceParams params now =>
    cases hhandled
    exact h.stays (setRemoteIceParams_stays s params now)
  | tick transactionId now =>
    cases hhandled
    exact h.onCheckAndPing _ now
  | sendPacket data =>
    cases hhandled
    exact h.stays (useAll_stays s _)
  | destroyChannel now =>
    cases hhandled
    exact h.destroyChannel now

/-- The invariant of a run moves on with its events. -/
theorem Invited.concat (h : Invited (HasAsked rtc iceParams es) s)
    (hstep : s.step movingAverage (e.channelEvent rtc iceParams) = some t) :
    Invited (HasAsked rtc iceParams (es ++ [e])) t :=
  step_invited (h.mono fun _ hp => hp.concat e)
    (fun _ hp => hp.mono fun _ => List.mem_append_right _) hstep

/-- **What a step sends**: a datagram is answered with at most one, back to
where it has come from; anything else goes to a connection. -/
theorem Invited.sends (h : Invited H s) (rtc : Rtc) (iceParams : IceParameters)
    (movingAverage : ℤ → ℤ → ℤ → ℤ) (e : DatagramEvent) :
    (∃ portIndex addr data id now, e = .datagram portIndex addr data id now ∧
      (s.sends rtc iceParams movingAverage e = [] ∨ ∃ answer,
        s.sends rtc iceParams movingAverage e = [⟨portIndex, addr, answer⟩] ∧
        (IsRefusal rtc iceParams data answer ∨ IsSuccess rtc iceParams data answer))) ∨
    (∀ portIndex addr data id now, e ≠ .datagram portIndex addr data id now) ∧
      ∀ x ∈ s.sends rtc iceParams movingAverage e, ∃ name, H (x.port, x.address, name) := by
  have hplace : ∀ id data, id ∈ s.made → ∃ name,
      H (((s.heap id).sendTo data).port, ((s.heap id).sendTo data).address, name) :=
    fun id _ hid => ⟨_, h.place id hid⟩
  cases e with
  | datagram portIndex addr data id now =>
    refine .inl ⟨portIndex, addr, data, id, now, rfl, ?_⟩
    unfold IceTransportChannel.sends
    dsimp only
    cases hport : s.ports[portIndex]? with
    | none => exact .inl rfl
    | some port =>
      obtain ⟨hpeer, hanswering⟩ := h.answers_back hport addr
      dsimp only
      rw [hanswering]
      rcases onReadDatagram_answers rtc iceParams s movingAverage portIndex port addr data id now
        with hnone | ⟨answer, hone, hkind⟩
      · rw [hnone]
        exact .inl rfl
      · rw [hone, hpeer]
        exact .inr ⟨answer, rfl, hkind⟩
  | setRemoteIceParams params now => exact .inr ⟨by simp, fun x hx => by cases hx⟩
  | destroyChannel now => exact .inr ⟨by simp, fun x hx => by cases hx⟩
  | sendPacket data =>
    refine .inr ⟨by simp, fun x hx => ?_⟩
    have hsends : x ∈ s.sendPacketSends data := hx
    unfold sendPacketSends at hsends
    split at hsends
    · cases hsends
    · rename_i id hselected
      split at hsends
      · rw [List.mem_singleton.1 hsends]
        exact hplace id data (h.reached id ⟨.inr (.inr (.inr (.inr hselected)))⟩)
      · cases hsends
  | tick transactionId now =>
    refine .inr ⟨by simp, fun x hx => ?_⟩
    have hsends : x ∈ s.checkAndPingSends rtc iceParams transactionId now := hx
    have hupdated := (updateConnectionStates_stays s now).trans (selectConnectionToPing_stays _ now)
    unfold checkAndPingSends at hsends
    dsimp only at hsends
    split at hsends
    · cases hsends
    · rename_i id hconn
      rw [List.mem_singleton.1 hsends]
      have hmade := h.pinged hconn
      exact ⟨_, (h.stays hupdated).place id (hupdated.made ▸ hmade)⟩

/-- A step of a channel with its datagrams is one of the channel. -/
theorem DatagramChannel.step_eq_some {u v : DatagramChannel} :
    u.step rtc iceParams movingAverage e = some v ↔
      u.channel.step movingAverage (e.channelEvent rtc iceParams) = some v.channel ∧
        v.sent = u.sent ++ u.channel.sends rtc iceParams movingAverage e := by
  unfold DatagramChannel.step
  rw [Option.map_eq_some_iff]
  constructor
  · rintro ⟨channel, hstep, rfl⟩
    exact ⟨hstep, rfl⟩
  · rintro ⟨hstep, hsent⟩
    exact ⟨v.channel, hstep, by rw [← hsent]⟩

variable {localPriorities : List UInt32} {v : DatagramChannel}

theorem invited_of_run
    (hrun : run (DatagramChannel.step rtc iceParams movingAverage) ⟨.init localPriorities, []⟩ es =
      some v) : Invited (HasAsked rtc iceParams es) v.channel := by
  refine inv_of_history (I := fun es v => Invited (HasAsked rtc iceParams es) v.channel) ?_
    (invited_init localPriorities) hrun
  intro es u e v h hstep
  exact h.concat (DatagramChannel.step_eq_some.1 hstep).1

/-- **A channel sends where it has been asked.** Whatever it has sent by the
end of a run went to an address that had sent an authentic Binding Request
to the port, or was an error response to a datagram from there. -/
theorem sends_where_asked (rtc : Rtc) (iceParams : IceParameters) (movingAverage : ℤ → ℤ → ℤ → ℤ)
    (localPriorities : List UInt32) (es : List DatagramEvent) (v : DatagramChannel)
    (hrun : run (DatagramChannel.step rtc iceParams movingAverage) ⟨.init localPriorities, []⟩ es =
      some v) :
    ∀ x ∈ v.sent, (∃ name, HasAsked rtc iceParams es (x.port, x.address, name)) ∨
      ∃ data id now, .datagram x.port x.address data id now ∈ es ∧
        IsRefusal rtc iceParams data x.data := by
  refine inv_of_history (I := fun es v => Invited (HasAsked rtc iceParams es) v.channel ∧
    ∀ x ∈ v.sent, (∃ name, HasAsked rtc iceParams es (x.port, x.address, name)) ∨
      ∃ data id now, .datagram x.port x.address data id now ∈ es ∧
        IsRefusal rtc iceParams data x.data) ?_ ⟨invited_init localPriorities, ?_⟩ hrun |>.2
  · rintro es u e v ⟨h, hsent⟩ hstep
    obtain ⟨hchannel, happend⟩ := DatagramChannel.step_eq_some.1 hstep
    refine ⟨h.concat hchannel, fun x hx => ?_⟩
    have hlast : e ∈ es ++ [e] := List.mem_append_right _ (List.mem_singleton_self e)
    rw [happend] at hx
    rcases List.mem_append.1 hx with hx | hx
    · rcases hsent x hx with ⟨name, hasked⟩ | ⟨data, id, now, hmem, hrefusal⟩
      · exact .inl ⟨name, hasked.concat e⟩
      · exact .inr ⟨data, id, now, List.mem_append_left _ hmem, hrefusal⟩
    · rcases h.sends rtc iceParams movingAverage e with
        ⟨portIndex, addr, data, id, now, rfl, hnone | ⟨answer, hone, hkind⟩⟩ | ⟨-, hplaces⟩
      · rw [hnone] at hx
        cases hx
      · rw [hone] at hx
        obtain rfl := List.mem_singleton.1 hx
        rcases hkind with hrefusal | ⟨msg, remoteUfrag, -, hparses, htype, hauth, -⟩
        · exact .inr ⟨data, id, now, hlast, hrefusal⟩
        · exact .inl ⟨remoteUfrag, data, id, now, msg, hlast, hparses, htype, hauth⟩
      · obtain ⟨name, hasked⟩ := hplaces x hx
        exact .inl ⟨name, hasked.concat e⟩
  · intro x hx
    cases hx

/-- The peer asks for a connection and is pinged. -/
def askedRun : List DatagramEvent :=
  [.datagram 0 firstAddress (requestFrom [97, 58, 98] [.uint32 STUN_ATTR_PRIORITY 7]) 0 1000,
    .setRemoteIceParams ⟨"b", "secret"⟩ 1010, .tick (List.replicate 12 7) 1100]

theorem sends_where_asked_first : ∃ v : DatagramChannel,
    run (DatagramChannel.step blankRtc freshParams fun x _ _ => x) ⟨.init [0], []⟩ askedRun =
      some v ∧ v.sent.map Sent.address = [firstAddress, firstAddress] ∧
    ∀ x ∈ v.sent, (∃ name, HasAsked blankRtc freshParams askedRun (x.port, x.address, name)) ∨
      ∃ data id now, .datagram x.port x.address data id now ∈ askedRun ∧
        IsRefusal blankRtc freshParams data x.data := by
  have hsent : (run (DatagramChannel.step blankRtc freshParams fun x _ _ => x) ⟨.init [0], []⟩
      askedRun).map (fun v => v.sent.map Sent.address) = some [firstAddress, firstAddress] := by
    decide +kernel
  obtain ⟨v, hrun, haddresses⟩ := Option.map_eq_some_iff.1 hsent
  exact ⟨v, hrun, haddresses,
    sends_where_asked blankRtc freshParams (fun x _ _ => x) [0] askedRun v hrun⟩

end Ice

end XrtcServer
