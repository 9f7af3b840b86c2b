import XrtcServer.Ice.Amplification
import XrtcServer.Pc.Stack
/-!
# Strangers

Whoever has not sent an authentic request to a port is a stranger there.
What strangers send is answered with an error at most. It leaves no trace
otherwise: without it a transport would have been in the same states, have
received the same media and sent the same to everybody else.
-/

namespace XrtcServer

namespace Pc

open Base Common Ice Dtls MediaTransport UDPPort IceTransportChannel

variable {o : Outside} {m m' : MediaTransport} {e : MediaEvent} {es : List MediaEvent}
variable {s t : IceTransportChannel} {H : ℕ × SocketAddress × String → Prop}

/-! ## One datagram -/

/-- **The datagram of a stranger** does nothing to the channel. -/
theorem stranger_dropped (h : Invited H s) {portIndex : ℕ} {addr : SocketAddress}
    (hno : ∀ name, ¬ H (portIndex, addr, name)) {data : List UInt8} {id : ℕ} {now : ℤ}
    (hasked : ∀ place, HasAsked o.rtc o.iceParams [.datagram portIndex addr data id now] place →
      H place)
    (hstep : s.step o.movingAverage (DatagramEvent.channelEvent o.rtc o.iceParams
      (.datagram portIndex addr data id now)) = some t) :
    t = s ∧ (s.ports[portIndex]?).bind (·.getConnection addr) = none := by
  unfold DatagramEvent.channelEvent at hstep
  dsimp only at hstep
  generalize hpacket : packetOf o.rtc (getStunMessage o.rtc o.iceParams data) = packet at hstep
  cases handled_of_step hstep with
  | @known _ _ conn _ port _ _ hport haddr =>
    have hat : connectionAt s portIndex addr = some conn := by
      unfold connectionAt
      rw [hport, Option.bind_some, haddr]
    obtain ⟨hmade, hhere, haddress⟩ := h.entry portIndex addr conn hat
    have hplace := h.place conn hmade
    unfold IceConnection.place at hplace
    rw [hhere, haddress] at hplace
    exact absurd hplace (hno _)
  | stranger remoteUfrag priority =>
    obtain ⟨msg, hparses, htype, hauth⟩ := authentic_of_packetOf hpacket
    refine absurd (hasked (portIndex, addr, remoteUfrag) ?_) (hno remoteUfrag)
    exact ⟨data, id, now, msg, List.mem_singleton_self _, hparses, htype, hauth⟩
  | dropped hport haddr =>
    refine ⟨rfl, ?_⟩
    rw [hport, Option.bind_some, haddr]

/-! ## The log of what was sent -/

/-- The same transport, had it sent this. -/
def MediaTransport.withSent (m : MediaTransport) (sent : List Sent) : MediaTransport :=
  { m with ice := { m.ice with sent := sent } }

/-- What is sent in an event. -/
def MediaTransport.sends (o : Outside) (m : MediaTransport) (e : MediaEvent) : List Sent :=
  (m.iceEvent e).toList.flatMap (m.ice.channel.sends o.rtc o.iceParams o.movingAverage)

theorem onIce_sent {f : DatagramEvent} (h : m.onIce o f = some m') (sent : List Sent) :
    m'.ice.sent = m.ice.sent ++ m.ice.channel.sends o.rtc o.iceParams o.movingAverage f ∧
      (m.withSent sent).onIce o f = some (m'.withSent
        (sent ++ m.ice.channel.sends o.rtc o.iceParams o.movingAverage f)) := by
  obtain ⟨ice, hice, rfl⟩ := Option.map_eq_some_iff.1 h
  obtain ⟨hchannel, hsent⟩ := DatagramChannel.step_eq_some.1 hice
  refine ⟨hsent, Option.map_eq_some_iff.2 ⟨⟨ice.channel, _⟩, ?_, rfl⟩⟩
  exact DatagramChannel.step_eq_some.2 ⟨hchannel, rfl⟩

theorem sends_of_iceEvent {f : DatagramEvent} (h : m.iceEvent e = some f) :
    m.sends o e = m.ice.channel.sends o.rtc o.iceParams o.movingAverage f := by
  unfold MediaTransport.sends
  rw [h, Option.toList_some, List.flatMap_singleton]

theorem foldl_withSent (cipher : Cipher) (m : MediaTransport) (sent : List Sent)
    (passed : List (List UInt8)) :
    passed.foldl (fun m buf => m.onReadPacket o cipher buf) (m.withSent sent) =
      (passed.foldl (fun m buf => m.onReadPacket o cipher buf) m).withSent sent := by
  induction passed generalizing m with
  | nil => rfl
  | cons buf passed ih => exact ih (m.onReadPacket o cipher buf)

/-- **Nothing depends on what was sent.** -/
theorem step_withSent (h : m.step o e = some m') (sent : List Sent) :
    m'.ice.sent = m.ice.sent ++ m.sends o e ∧
      (m.withSent sent).step o e = some (m'.withSent (sent ++ m.sends o e)) := by
  have hopen : ¬ m.ice.channel.closed = true := by simp [(stepped_of_step h).isOpen]
  have hopen' : ¬ (m.withSent sent).ice.channel.closed = true := hopen
  unfold MediaTransport.step at h ⊢
  rw [if_neg hopen] at h
  rw [if_neg hopen']
  cases e with
  | datagram portIndex addr data id now cipher =>
    obtain ⟨n, hn, rfl⟩ := Option.map_eq_some_iff.1 h
    obtain ⟨hsent, hstep⟩ := onIce_sent hn sent
    rw [sends_of_iceEvent (f := .datagram portIndex addr data id now) rfl]
    refine ⟨?_, Option.map_eq_some_iff.2 ⟨_, hstep, ?_⟩⟩
    · rw [(foldl_onReadPacket cipher n _).1]
      exact hsent
    · exact foldl_withSent cipher n _ _
  | tick transactionId now =>
    rw [sends_of_iceEvent (f := .tick transactionId now) rfl]
    exact onIce_sent h sent
  | setRemoteDescription params fingerprint now =>
    obtain ⟨n, hn, rfl⟩ := Option.map_eq_some_iff.1 h
    obtain ⟨hsent, hstep⟩ := onIce_sent hn sent
    rw [sends_of_iceEvent (f := .setRemoteIceParams params now) rfl]
    exact ⟨hsent, Option.map_eq_some_iff.2 ⟨_, hstep, rfl⟩⟩
  | dtlsEvent seOpen seRead seClose results error =>
    obtain ⟨dtls, hdtls, rfl⟩ := Option.map_eq_some_iff.1 h
    have hnone : m.sends o (.dtlsEvent seOpen seRead seClose results error) = [] := rfl
    rw [hnone, List.append_nil, List.append_nil]
    exact ⟨rfl, Option.map_eq_some_iff.2 ⟨dtls, hdtls, rfl⟩⟩
  | write data =>
    rw [sends_of_iceEvent (f := .sendPacket data) rfl]
    dsimp only at h ⊢
    split at h
    · cases h
    · rename_i hthere
      have hthere' : ¬ (m.withSent sent).dtls.dtls.isNone = true := hthere
      rw [if_neg hthere']
      exact onIce_sent h sent
  | send rtcp packet cipher =>
    have hsame : (m.withSent sent).protectPacket cipher rtcp packet =
        m.protectPacket cipher rtcp packet := rfl
    have hevent : m.iceEvent (.send rtcp packet cipher) =
        (m.protectPacket cipher rtcp packet).map .sendPacket := rfl
    dsimp only at h ⊢
    rw [hsame]
    cases hprotect : m.protectPacket cipher rtcp packet with
    | none =>
      rw [hprotect] at h hevent
      obtain rfl := Option.some.inj h
      have hnone : m.sends o (.send rtcp packet cipher) = [] := by
        unfold MediaTransport.sends
        rw [hevent]
        rfl
      rw [hnone, List.append_nil, List.append_nil]
      exact ⟨rfl, rfl⟩
    | some data =>
      rw [hprotect] at h hevent
      rw [sends_of_iceEvent hevent]
      exact onIce_sent h sent
  | destroy now =>
    obtain ⟨ice, hice, rfl⟩ := Option.map_eq_some_iff.1 h
    obtain ⟨hchannel, hsent⟩ := DatagramChannel.step_eq_some.1 hice
    rw [sends_of_iceEvent (f := .destroyChannel now) rfl]
    refine ⟨hsent, Option.map_eq_some_iff.2 ⟨⟨ice.channel, _⟩, ?_, rfl⟩⟩
    exact DatagramChannel.step_eq_some.2 ⟨hchannel, rfl⟩

/-! ## Runs -/

/-- The datagrams of a run. -/
def datagrams (es : List MediaEvent) : List DatagramEvent :=
  es.filterMap fun e =>
    match e with
    | .datagram portIndex addr data id now _ => some (.datagram portIndex addr data id now)
    | _ => none

/-- The event is a datagram from one of these places. -/
def MediaEvent.isFrom (places : ℕ → SocketAddress → Bool) : MediaEvent → Bool
  | .datagram portIndex addr .. => places portIndex addr
  | _ => false

theorem iceEvent_datagram {portIndex : ℕ} {addr : SocketAddress} {data : List UInt8} {id : ℕ} {now : ℤ}
    (h : m.iceEvent e = some (.datagram portIndex addr data id now)) :
    ∃ cipher, e = .datagram portIndex addr data id now cipher := by
  cases e with
  | datagram _ _ _ _ _ cipher =>
    refine ⟨cipher, ?_⟩
    obtain ⟨rfl, rfl, rfl, rfl, rfl⟩ := DatagramEvent.datagram.inj (Option.some.inj h)
    rfl
  | send rtcp packet cipher =>
    obtain ⟨data', -, hdata⟩ := Option.map_eq_some_iff.1 h
    cases hdata
  | tick | setRemoteDescription | dtlsEvent | write | destroy => cases h

theorem mem_datagrams {portIndex : ℕ} {addr : SocketAddress} {data : List UInt8} {id : ℕ} {now : ℤ}
    {cipher : Cipher} (h : .datagram portIndex addr data id now cipher ∈ es) :
    .datagram portIndex addr data id now ∈ datagrams es := List.mem_filterMap.2 ⟨_, h, rfl⟩

/-- Who asks in an event has asked in the run. -/
theorem asked_of_mem (he : e ∈ es) {f : DatagramEvent} (hf : m.iceEvent e = some f)
    {place : ℕ × SocketAddress × String} (h : HasAsked o.rtc o.iceParams [f] place) :
    HasAsked o.rtc o.iceParams (datagrams es) place := by
  obtain ⟨data, id, now, msg, hmem, hmsg⟩ := h
  obtain rfl := List.mem_singleton.1 hmem
  obtain ⟨cipher, rfl⟩ := iceEvent_datagram hf
  exact ⟨data, id, now, msg, mem_datagrams he, hmsg⟩

theorem Stepped.invited (h : Stepped o m e m') (hs : Invited H m.ice.channel)
    (hasked : ∀ f, m.iceEvent e = some f → ∀ place, HasAsked o.rtc o.iceParams [f] place → H place) :
    Invited H m'.ice.channel := by
  have hice := h.ice
  cases hevent : m.iceEvent e with
  | none =>
    rw [hevent] at hice
    rwa [← Option.some.inj hice]
  | some f =>
    rw [hevent] at hice
    obtain ⟨ice, hone, hnil⟩ := Option.bind_eq_some_iff.1 hice
    obtain rfl := Option.some.inj hnil
    exact step_invited hs (hasked f hevent) (DatagramChannel.step_eq_some.1 hone).1

/-- After the datagram of a stranger the transport is as before, but for what
was sent. -/
theorem stranger_step (hs : Invited H m.ice.channel) {portIndex : ℕ} {addr : SocketAddress}
    {data : List UInt8} {id : ℕ} {now : ℤ} {cipher : Cipher}
    (hno : ∀ name, ¬ H (portIndex, addr, name))
    (hasked : ∀ place, HasAsked o.rtc o.iceParams [.datagram portIndex addr data id now] place →
      H place)
    (hstep : m.step o (.datagram portIndex addr data id now cipher) = some m') :
    m' = m.withSent m'.ice.sent := by
  have hopen : ¬ m.ice.channel.closed = true := by simp [(stepped_of_step hstep).isOpen]
  unfold MediaTransport.step at hstep
  rw [if_neg hopen] at hstep
  obtain ⟨n, hn, rfl⟩ := Option.map_eq_some_iff.1 hstep
  obtain ⟨hice, hdtls, hreceived⟩ := onIce_eq_some hn
  obtain ⟨hsame, hnone⟩ :=
    stranger_dropped hs hno hasked (DatagramChannel.step_eq_some.1 hice).1
  have hpassed : passedUp o.rtc o.iceParams m.ice.channel
      (.datagram portIndex addr data id now) = [] := by
    unfold passedUp
    dsimp only
    rw [hnone]
  rw [hsame, signalled_self] at hdtls
  rw [hpassed]
  show n = m.withSent n.ice.sent
  obtain ⟨⟨channel, sent⟩, dtls, received⟩ := n
  obtain rfl : channel = m.ice.channel := hsame
  obtain rfl : dtls = m.dtls := hdtls
  obtain rfl : received = m.received := hreceived
  rfl

/-- What is sent in an event goes to where it has come from, or to somebody
who has asked. -/
theorem sends_places (hs : Invited H m.ice.channel) {x : Sent} (hx : x ∈ m.sends o e)
    (places : ℕ → SocketAddress → Bool)
    (hstrangers : ∀ portIndex addr name, places portIndex addr = true → ¬ H (portIndex, addr, name))
    (hfrom : e.isFrom places = false) : places x.port x.address = false := by
  obtain ⟨f, hf, hmem⟩ := List.mem_flatMap.1 hx
  have hevent : m.iceEvent e = some f := Option.mem_toList.1 hf
  rcases hs.sends o.rtc o.iceParams o.movingAverage f with
    ⟨portIndex, addr, data, id, now, rfl, hnone | ⟨answer, hone, -⟩⟩ | ⟨-, hplaces⟩
  · rw [hnone] at hmem
    cases hmem
  · rw [hone] at hmem
    obtain rfl := List.mem_singleton.1 hmem
    obtain ⟨cipher, rfl⟩ := iceEvent_datagram hevent
    exact hfrom
  · obtain ⟨name, hname⟩ := hplaces x hmem
    by_contra hplace
    exact hstrangers _ _ name (Bool.not_eq_false _ ▸ hplace) hname

/-- **Strangers leave no trace.** Take any places from which no authentic
request has come in a run. Without the datagrams from there the transport
comes to the same state, has received the same media, and has sent the same
but what it sent to those places. -/
theorem strangers_leave_no_trace (o : Outside) (localPriorities : List UInt32)
    (certificate : Option ℕ) (es : List MediaEvent) (m : MediaTransport)
    (places : ℕ → SocketAddress → Bool)
    (hrun : run (MediaTransport.step o) (.init o localPriorities certificate) es = some m)
    (hstrangers : ∀ portIndex addr name, places portIndex addr = true →
      ¬ HasAsked o.rtc o.iceParams (datagrams es) (portIndex, addr, name)) :
    run (MediaTransport.step o) (.init o localPriorities certificate)
        (es.filter fun e => !e.isFrom places) =
      some (m.withSent (m.ice.sent.filter fun x => !places x.port x.address)) := by
  let H := HasAsked o.rtc o.iceParams (datagrams es)
  let seen : List Sent → List Sent := List.filter fun x => !places x.port x.address
  let R : MediaTransport → MediaTransport → Prop := fun s t =>
    Invited H s.ice.channel ∧ t = s.withSent (seen s.ice.sent)
  have hinvited : ∀ {s : MediaTransport} {e s'}, e ∈ es → Invited H s.ice.channel →
      s.step o e = some s' → Invited H s'.ice.channel := fun he hs hstep =>
    (stepped_of_step hstep).invited hs fun f hf place hplace => asked_of_mem he hf hplace
  have hskip : ∀ s e s' t, R s t → e ∈ es → (!e.isFrom places) = false → s.step o e = some s' →
      R s' t := by
    rintro s e s' t ⟨hs, rfl⟩ he hkeep hstep
    refine ⟨hinvited he hs hstep, ?_⟩
    cases e with
    | datagram portIndex addr data id now cipher =>
      have hplace : places portIndex addr = true := by simpa [MediaEvent.isFrom] using hkeep
      have hsame := stranger_step hs (hstrangers portIndex addr · hplace)
        (fun place hasked => asked_of_mem (m := s) he rfl hasked) hstep
      -- the answer, if there is one, goes back
      have hnone : seen (s.sends o (.datagram portIndex addr data id now cipher)) = [] := by
        refine List.filter_eq_nil_iff.2 fun x hx => ?_
        rw [sends_of_iceEvent (f := .datagram portIndex addr data id now) rfl] at hx
        rcases hs.sends o.rtc o.iceParams o.movingAverage (.datagram portIndex addr data id now) with
          ⟨_, _, _, _, _, hevent, hnone | ⟨answer, hone, -⟩⟩ | ⟨hother, -⟩
        · rw [hnone] at hx
          cases hx
        · rw [hone] at hx
          obtain rfl := List.mem_singleton.1 hx
          obtain ⟨rfl, rfl, -⟩ := DatagramEvent.datagram.inj hevent
          simp [hplace]
        · exact absurd rfl (hother _ _ _ _ _)
      have hseen : seen s'.ice.sent = seen s.ice.sent :=
        (congrArg seen (step_withSent hstep []).1).trans
          ((List.filter_append _ _).trans ((congrArg _ hnone).trans (List.append_nil _)))
      rw [hseen, hsame]
      rfl
    | tick | setRemoteDescription | dtlsEvent | write | send | destroy => cases hkeep
  have hkeep : ∀ s e s' t, R s t → e ∈ es → (!e.isFrom places) = true → s.step o e = some s' →
      ∃ t', t.step o e = some t' ∧ R s' t' := by
    rintro s e s' t ⟨hs, rfl⟩ he hkeep hstep
    have hfrom : e.isFrom places = false := by simpa using hkeep
    obtain ⟨hsent, hsame⟩ := step_withSent hstep (seen s.ice.sent)
    refine ⟨_, hsame, hinvited he hs hstep, ?_⟩
    have hall : seen (s.sends o e) = s.sends o e := by
      refine List.filter_eq_self.2 fun x hx => ?_
      rw [sends_places hs hx places hstrangers hfrom]
      rfl
    have hseen : seen s'.ice.sent = seen s.ice.sent ++ s.sends o e :=
      (congrArg seen hsent).trans ((List.filter_append _ _).trans (congrArg _ hall))
    rw [hseen]
  obtain ⟨t, ht, -, rfl⟩ :=
    run_filter hskip hkeep ⟨invited_init localPriorities, rfl⟩ (fun _ he => he) hrun
  exact ht

/-- While the second end is being established, somebody sends it a request
that names another end. -/
def disturbed : List MediaEvent :=
  establishing ++ [.datagram 0 secondAddress forged 2 1300 plain]

theorem strangers_leave_no_trace_forged : ∃ m,
    run (MediaTransport.step secondOutside) (.init secondOutside [0] (some 1)) disturbed = some m ∧
      m.ice.sent.map Sent.address = [firstAddress, firstAddress, secondAddress] ∧
      run (MediaTransport.step secondOutside) (.init secondOutside [0] (some 1))
          (disturbed.filter fun e => !e.isFrom fun _ addr => addr = secondAddress) =
        some (m.withSent (m.ice.sent.filter fun x => !decide (x.address = secondAddress))) := by
  have hsent : (run (MediaTransport.step secondOutside) (.init secondOutside [0] (some 1))
      disturbed).map (fun m => m.ice.sent.map Sent.address) =
      some [firstAddress, firstAddress, secondAddress] := by decide +kernel
  obtain ⟨m, hrun, haddresses⟩ := Option.map_eq_some_iff.1 hsent
  refine ⟨m, hrun, haddresses, strangers_leave_no_trace secondOutside [0] (some 1) disturbed m
    (fun _ addr => addr = secondAddress) hrun fun portIndex addr name hplace => ?_⟩
  obtain rfl := of_decide_eq_true hplace
  rintro ⟨data, id, now, msg, hmem, hparses, -, hauth⟩
  obtain ⟨-, rfl, -⟩ : portIndex = 0 ∧ data = forged ∧ id = 2 ∧ now = 1300 := by
    simpa [datagrams, disturbed, establishing, firstAddress, secondAddress] using hmem
  exact forged_not_authentic (by decide) hparses hauth

end Pc

end XrtcServer
