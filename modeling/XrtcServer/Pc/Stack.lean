import XrtcServer.Ice.Validated
import XrtcServer.Pc.Model.MediaTransport
import XrtcServer.Pc.Moves
/-!
# A channel and the DTLS transport over it

The DTLS transport sees the channel through its signals. It misses none, so
that between two events its flags are those of the channel. And it starts a
handshake over a channel that is writable only, so that a check has been
answered before.
-/

namespace XrtcServer

namespace Pc

open Base Common Ice Dtls MediaTransport

variable {o : Outside} {m m' : MediaTransport} {e : MediaEvent} {es : List MediaEvent}
variable {lib : Libraries} {t u : DtlsTransport}

/-! ## The events of the channel -/

namespace MediaTransport

/-- What an event is for the channel. -/
def iceEvent (m : MediaTransport) : MediaEvent → Option DatagramEvent
  | .datagram portIndex addr data id now _ => some (.datagram portIndex addr data id now)
  | .tick transactionId now => some (.tick transactionId now)
  | .setRemoteDescription params _ now => some (.setRemoteIceParams params now)
  | .dtlsEvent .. => none
  | .write data => some (.sendPacket data)
  | .send rtcp packet cipher => (m.protectPacket cipher rtcp packet).map .sendPacket
  | .destroy now => some (.destroyChannel now)

/-- What a run is for the channel. -/
def iceEvents (o : Outside) (m : MediaTransport) : List MediaEvent → List DatagramEvent
  | [] => []
  | e :: es =>
    (m.iceEvent e).toList ++
      match m.step o e with
      | none => []
      | some m' => iceEvents o m' es

end MediaTransport

/-- The channel signals with the event. -/
def Dtls.Event.isSignal : Dtls.Event → Bool
  | .iceWritable _ | .iceReceiving _ => true
  | _ => false

/-- **What a step does**: the channel has its event, and the DTLS transport
hears what the channel signals, and nothing more of the channel. -/
structure Stepped (o : Outside) (m : MediaTransport) (e : MediaEvent) (m' : MediaTransport) :
    Prop where
  isOpen : m.ice.channel.closed = false
  ice : run (DatagramChannel.step o.rtc o.iceParams o.movingAverage) m.ice (m.iceEvent e).toList =
    some m'.ice
  dtls : ∃ us, m'.dtls = us.foldl (handle o.lib) m.dtls ∧
    (us.filter Dtls.Event.isSignal = signalled m.ice.channel m'.ice.channel ∨
      us = [] ∧ m'.ice.channel.closed = true)

theorem isSignal_of_signalled {before after : IceTransportChannel} :
    ∀ f ∈ signalled before after, f.isSignal = true := by
  intro f hf
  obtain ⟨emitted, -, hsignal⟩ := List.mem_filterMap.1 hf
  unfold dtlsSignal at hsignal
  split at hsignal
  · obtain rfl := Option.some.inj hsignal
    rfl
  · obtain rfl := Option.some.inj hsignal
    rfl
  · cases hsignal

theorem filter_signalled (before after : IceTransportChannel) :
    (signalled before after).filter Dtls.Event.isSignal = signalled before after :=
  List.filter_eq_self.2 isSignal_of_signalled

theorem onIce_eq_some {f : DatagramEvent} (h : m.onIce o f = some m') :
    m.ice.step o.rtc o.iceParams o.movingAverage f = some m'.ice ∧
      m'.dtls = (signalled m.ice.channel m'.ice.channel).foldl (handle o.lib) m.dtls ∧
      m'.received = m.received := by
  obtain ⟨ice, hice, rfl⟩ := Option.map_eq_some_iff.1 h
  exact ⟨hice, rfl, rfl⟩

theorem signalled_self (ch : IceTransportChannel) : signalled ch ch = [] := by
  unfold signalled
  rw [List.drop_length, List.filterMap_nil]

/-- The packets that are passed up leave the channel alone. -/
theorem foldl_onReadPacket (cipher : Cipher) (m : MediaTransport) (passed : List (List UInt8)) :
    (passed.foldl (fun m buf => m.onReadPacket o cipher buf) m).ice = m.ice ∧
      (passed.foldl (fun m buf => m.onReadPacket o cipher buf) m).dtls =
        (passed.map Dtls.Event.icePacket).foldl (handle o.lib) m.dtls := by
  induction passed generalizing m with
  | nil => exact ⟨rfl, rfl⟩
  | cons buf passed ih => exact ih (m.onReadPacket o cipher buf)

theorem stepped_of_step (h : m.step o e = some m') : Stepped o m e m' := by
  unfold MediaTransport.step at h
  split at h
  · cases h
  rename_i hopen
  have hopen' : m.ice.channel.closed = false := Bool.not_eq_true _ ▸ hopen
  have hone : ∀ {f : DatagramEvent} {n : MediaTransport}, m.onIce o f = some n →
      m.iceEvent e = some f → n.ice = m'.ice →
      run (DatagramChannel.step o.rtc o.iceParams o.movingAverage) m.ice (m.iceEvent e).toList =
        some m'.ice := by
    intro f n hf hevent hn
    rw [hevent, Option.toList_some, run_cons, (onIce_eq_some hf).1, hn]
    rfl
  cases e with
  | datagram portIndex addr data id now cipher =>
    obtain ⟨n, hn, rfl⟩ := Option.map_eq_some_iff.1 h
    obtain ⟨hice, hdtls⟩ := foldl_onReadPacket (o := o) cipher n
      (passedUp o.rtc o.iceParams m.ice.channel (.datagram portIndex addr data id now))
    refine ⟨hopen', hone hn rfl hice.symm, signalled m.ice.channel n.ice.channel ++
      (passedUp o.rtc o.iceParams m.ice.channel (.datagram portIndex addr data id now)).map
        Dtls.Event.icePacket, ?_, .inl ?_⟩
    · rw [hdtls, (onIce_eq_some hn).2.1, ← List.foldl_append]
    · rw [List.filter_append, filter_signalled, hice]
      refine (congrArg _ (List.filter_eq_nil_iff.2 fun f hf => ?_)).trans (List.append_nil _)
      obtain ⟨buf, -, rfl⟩ := List.mem_map.1 hf
      exact Bool.false_ne_true
  | tick transactionId now =>
    exact ⟨hopen', hone h rfl rfl, _, (onIce_eq_some h).2.1, .inl (filter_signalled _ _)⟩
  | setRemoteDescription params fingerprint now =>
    obtain ⟨n, hn, rfl⟩ := Option.map_eq_some_iff.1 h
    refine ⟨hopen', hone hn rfl rfl, signalled m.ice.channel n.ice.channel ++
      [.remoteFingerprint fingerprint], ?_, .inl ?_⟩
    · rw [List.foldl_append, ← (onIce_eq_some hn).2.1]
      rfl
    · rw [List.filter_append, filter_signalled]
      exact List.append_nil _
  | dtlsEvent seOpen seRead seClose results error =>
    obtain ⟨dtls, hdtls, rfl⟩ := Option.map_eq_some_iff.1 h
    refine ⟨hopen', rfl, [.dtlsEvent seOpen seRead seClose results error], ?_, .inl ?_⟩
    · unfold Dtls.step at hdtls
      split at hdtls
      · cases hdtls
      · obtain rfl := Option.some.inj hdtls
        rfl
    · rw [signalled_self]
      rfl
  | write data =>
    dsimp only at h
    split at h
    · cases h
    · exact ⟨hopen', hone h rfl rfl, _, (onIce_eq_some h).2.1, .inl (filter_signalled _ _)⟩
  | send rtcp packet cipher =>
    dsimp only at h
    cases hprotect : m.protectPacket cipher rtcp packet with
    | none =>
      rw [hprotect] at h
      obtain rfl := Option.some.inj h
      refine ⟨hopen', ?_, [.send], rfl, .inl ?_⟩
      · unfold iceEvent
        dsimp only
        rw [hprotect]
        rfl
      · rw [signalled_self]
        rfl
    | some data =>
      rw [hprotect] at h
      obtain ⟨hice, hdtls, -⟩ := onIce_eq_some h
      refine ⟨hopen', ?_, .send :: signalled m.ice.channel m'.ice.channel, hdtls, .inl ?_⟩
      · unfold iceEvent
        dsimp only
        rw [hprotect, Option.map_some, Option.toList_some, run_cons, hice]
        rfl
      · rw [List.filter_cons_of_neg Bool.false_ne_true]
        exact filter_signalled _ _
  | destroy now =>
    obtain ⟨ice, hice, rfl⟩ := Option.map_eq_some_iff.1 h
    refine ⟨hopen', ?_, [], rfl, .inr ⟨rfl, ?_⟩⟩
    · unfold iceEvent
      rw [Option.toList_some, run_cons, hice]
      rfl
    · have hstep := handled_of_step (DatagramChannel.step_eq_some.1 hice).1
      show ice.channel.closed = true
      generalize ice.channel = ch at hstep
      cases hstep
      rfl

theorem iceEvents_append (h : run (MediaTransport.step o) m es = some m') (fs : List MediaEvent) :
    iceEvents o m (es ++ fs) = iceEvents o m es ++ iceEvents o m' fs := by
  induction es generalizing m with
  | nil =>
    obtain rfl := Option.some.inj h
    rfl
  | cons e es ih =>
    obtain ⟨n, hn, hrest⟩ := Option.bind_eq_some_iff.1 h
    rw [List.cons_append, iceEvents, iceEvents, hn, List.append_assoc]
    exact congrArg _ (ih hrest)

/-- **A run of a transport is one of its channel.** -/
theorem run_ice (h : run (MediaTransport.step o) m es = some m') :
    run (DatagramChannel.step o.rtc o.iceParams o.movingAverage) m.ice (iceEvents o m es) =
      some m'.ice := by
  induction es generalizing m with
  | nil =>
    obtain rfl := Option.some.inj h
    rfl
  | cons e es ih =>
    obtain ⟨n, hn, hrest⟩ := Option.bind_eq_some_iff.1 h
    rw [iceEvents, hn, run_append, (stepped_of_step hn).ice, Option.bind_some]
    exact ih hrest

/-! ## The flags -/

def writableSignal : Dtls.Event → Option Bool
  | .iceWritable writable => some writable
  | _ => none

def receivingSignal : Dtls.Event → Option Bool
  | .iceReceiving receiving => some receiving
  | _ => none

theorem foldl_channelWritable (lib : Libraries) (t : DtlsTransport) (us : List Dtls.Event) :
    (us.foldl (handle lib) t).channelWritable =
      (us.filterMap writableSignal).foldl (fun _ b => b) t.channelWritable := by
  induction us generalizing t with
  | nil => rfl
  | cons e us ih =>
    rw [List.foldl_cons, ih, (handle_flags lib t e).1]
    cases e with
    | iceReceiving receiving =>
      unfold heard
      dsimp only
      split <;> rfl
    | iceWritable | localCertificate | remoteFingerprint | icePacket | dtlsEvent | send => rfl

theorem foldl_channelReceiving (lib : Libraries) {t : DtlsTransport}
    (h : t.receiving = t.channelReceiving) (us : List Dtls.Event) :
    (us.foldl (handle lib) t).channelReceiving =
        (us.filterMap receivingSignal).foldl (fun _ b => b) t.channelReceiving ∧
      (us.foldl (handle lib) t).receiving = (us.foldl (handle lib) t).channelReceiving := by
  induction us generalizing t with
  | nil => exact ⟨rfl, h⟩
  | cons e us ih =>
    obtain ⟨-, hchannel, hreceiving⟩ := handle_flags lib t e
    cases e with
    | iceReceiving receiving =>
      have hheard : (heard t (.iceReceiving receiving)).channelReceiving = receiving ∧
          (heard t (.iceReceiving receiving)).receiving = receiving := by
        unfold heard
        dsimp only
        split
        · rename_i hsame
          exact ⟨hsame.symm, h.trans hsame.symm⟩
        · exact ⟨rfl, rfl⟩
      rw [hheard.1] at hchannel
      rw [hheard.2] at hreceiving
      have hrest := ih (hreceiving.trans hchannel.symm)
      rw [hchannel] at hrest
      exact hrest
    | iceWritable | localCertificate | remoteFingerprint | icePacket | dtlsEvent | send =>
      have hrest := ih ((hreceiving.trans h).trans hchannel.symm)
      rw [hchannel] at hrest
      exact hrest

/-- What is heard of a kind of signals is what the channel has announced. -/
theorem filterMap_dtlsSignal {pick : Dtls.Event → Option Bool} {signal : ChannelSignal}
    {value : Emitted → Bool}
    (hpick : ∀ emitted, (dtlsSignal emitted).bind pick =
      if emitted.signal = signal then some (value emitted) else none) (signals : List Emitted) :
    (signals.filterMap dtlsSignal).filterMap pick =
      (signals.filter (·.signal = signal)).map value := by
  rw [List.filterMap_filterMap]
  induction signals with
  | nil => rfl
  | cons emitted signals ih =>
    rw [List.filterMap_cons, hpick, List.filter_cons, ih]
    by_cases hsignal : emitted.signal = signal
    · rw [if_pos hsignal, if_pos (decide_eq_true hsignal)]
      rfl
    · rw [if_neg hsignal, if_neg (by simpa using hsignal)]

/-- **The value is the last one heard.** -/
theorem foldl_signalled {pick : Dtls.Event → Option Bool} {signal : ChannelSignal}
    {value : Emitted → Bool} {before after : IceTransportChannel} {old new : Bool}
    (hpick : ∀ emitted, (dtlsSignal emitted).bind pick =
      if emitted.signal = signal then some (value emitted) else none)
    (hgrows : before.trace.signals <+: after.trace.signals)
    (hbefore : Announced false (announced before signal value) old)
    (hafter : Announced false (announced after signal value) new) :
    ((signalled before after).filterMap pick).foldl (fun _ b => b) old = new := by
  obtain ⟨more, hmore⟩ := hgrows
  have hsince : announced after signal value =
      announced before signal value ++ (signalled before after).filterMap pick := by
    unfold announced signalled
    rw [filterMap_dtlsSignal hpick, ← hmore, List.drop_left, List.filter_append, List.map_append]
  rw [← hafter.latest, hsince, List.foldl_append, hbefore.latest]

/-- **The transport is up to date with its channel.** -/
structure Joined (m : MediaTransport) : Prop where
  writable : m.dtls.channelWritable = m.ice.channel.writable
  channelReceiving : m.dtls.channelReceiving = m.ice.channel.receiving
  receiving : m.dtls.receiving = m.dtls.channelReceiving

theorem filterMap_isSignal {pick : Dtls.Event → Option Bool}
    (hpick : ∀ f, f.isSignal = false → pick f = none) (us : List Dtls.Event) :
    (us.filter Dtls.Event.isSignal).filterMap pick = us.filterMap pick := by
  rw [List.filterMap_filter]
  refine List.filterMap_congr fun f _ => ?_
  split
  · rfl
  · rename_i hno
    exact (hpick f (Bool.not_eq_true _ ▸ hno)).symm

theorem writableSignal_dtlsSignal (emitted : Emitted) : (dtlsSignal emitted).bind writableSignal =
    if emitted.signal = .writableStateChange then some emitted.writable else none := by
  unfold dtlsSignal
  cases emitted.signal <;> rfl

theorem receivingSignal_dtlsSignal (emitted : Emitted) : (dtlsSignal emitted).bind receivingSignal =
    if emitted.signal = .receivingStateChange then some emitted.receiving else none := by
  unfold dtlsSignal
  cases emitted.signal <;> rfl

/-- In a step the channel has one event at most. -/
theorem Stepped.channel (h : Stepped o m e m') : m'.ice = m.ice ∨
    ∃ f, m.ice.step o.rtc o.iceParams o.movingAverage f = some m'.ice := by
  have hice := h.ice
  cases hevent : m.iceEvent e with
  | none =>
    rw [hevent] at hice
    exact .inl (Option.some.inj hice).symm
  | some f =>
    rw [hevent] at hice
    obtain ⟨ice, hone, hnil⟩ := Option.bind_eq_some_iff.1 hice
    obtain rfl := Option.some.inj hnil
    exact .inr ⟨f, hone⟩

theorem Stepped.signals (h : Stepped o m e m') :
    m.ice.channel.trace.signals <+: m'.ice.channel.trace.signals := by
  rcases h.channel with hsame | ⟨f, hf⟩
  · rw [hsame]
  · exact step_signals (DatagramChannel.step_eq_some.1 hf).1

theorem Stepped.settled (h : Stepped o m e m') (hs : Ice.Settled m.ice.channel) :
    Ice.Settled m'.ice.channel := by
  rcases h.channel with hsame | ⟨f, hf⟩
  · rwa [hsame]
  · exact step_settled hs (DatagramChannel.step_eq_some.1 hf).1

/-- **A step leaves the transport up to date.** -/
theorem Joined.step (h : Joined m) (hs : Ice.Settled m.ice.channel) (hstep : Stepped o m e m')
    (hopen : m'.ice.channel.closed = false) : Joined m' := by
  obtain ⟨us, hdtls, hsignals | ⟨-, hclosed⟩⟩ := hstep.dtls
  · have hs' := hstep.settled hs
    obtain ⟨hchannel, hreceiving⟩ := foldl_channelReceiving o.lib h.receiving us
    refine ⟨?_, ?_, ?_⟩
    · rw [hdtls, foldl_channelWritable, h.writable,
        ← filterMap_isSignal (fun f hf => by cases f <;> first | rfl | cases hf), hsignals]
      exact foldl_signalled writableSignal_dtlsSignal hstep.signals hs.writableSignals
        hs'.writableSignals
    · rw [hdtls, hchannel, h.channelReceiving,
        ← filterMap_isSignal (fun f hf => by cases f <;> first | rfl | cases hf), hsignals]
      exact foldl_signalled receivingSignal_dtlsSignal hstep.signals hs.receivingSignals
        hs'.receivingSignals
    · rw [hdtls]
      exact hreceiving
  · rw [hopen] at hclosed
    cases hclosed

variable {localPriorities : List UInt32} {certificate : Option ℕ}

/-- What is outside of the second end. -/
def secondOutside : Outside := ⟨blankRtc, secondParams, fun x _ _ => x, obliging⟩

/-- A cipher that changes nothing. -/
def plain : Cipher := ⟨fun _ _ packet => some packet, fun _ _ packet => some packet⟩

/-- The first end asks, its answer comes, and it is pinged and responds. -/
def establishing : List MediaEvent :=
  [.datagram 0 firstAddress (requestFrom [98, 58, 97] [.uint32 STUN_ATTR_PRIORITY 7]) 0 1000 plain,
    .setRemoteDescription freshParams ⟨⟨"sha-256", [1]⟩, by decide, by decide⟩ 1010,
    .tick (List.replicate 12 9) 1100,
    .datagram 0 firstAddress (success blankRtc freshParams secondAddress (List.replicate 12 9)) 1 1200
      plain]

theorem establishing_flags : (run (MediaTransport.step secondOutside)
    (.init secondOutside [0] (some 1)) establishing).map (fun m =>
      (m.ice.channel.closed, m.dtls.channelWritable, m.dtls.receiving, m.dtls.calls)) =
    some (false, true, true, [.setPeerCertificateDigest 0 "sha-256" [1], .startSSL 0]) := by
  decide +kernel

/-- A handshake has been started. -/
def Dtls.DtlsTransport.HasStarted (t : DtlsTransport) : Prop :=
  ∃ adapter, .startSSL adapter ∈ t.calls

theorem Dtls.Move.started (h : Move lib t u) (hu : u.HasStarted) :
    t.HasStarted ∨ t.channelWritable = true := by
  obtain ⟨adapter, hmem⟩ := hu
  have hstate : ∀ (v : DtlsTransport) state, .startSSL adapter ∈ (v.setDtlsState lib state).calls →
      .startSSL adapter ∈ v.calls := by
    intro v state hv
    obtain ⟨srtp, heq⟩ := setDtlsState_eq lib v state
    rwa [heq] at hv
  cases h with
  | aside h => exact .inl ⟨adapter, h.started adapter hmem⟩
  | startSSL _ hwritable => exact .inr hwritable
  | setDtlsState state => exact .inl ⟨adapter, hstate t state hmem⟩
  | createAdapter => exact .inl ⟨adapter, hmem⟩
  | dropAdapter => exact .inl ⟨adapter, hstate { t with dtls := none } .new hmem⟩
  | useSrtp => exact .inl ⟨adapter, hmem⟩

/-- The channel has been writable, so far as the transport has heard. -/
def HeardWritable (t : DtlsTransport) : Prop := t.HasStarted ∨ t.channelWritable = true

theorem handle_heardWritable (e : Dtls.Event) (h : HeardWritable (handle lib t e)) :
    HeardWritable t ∨ e = .iceWritable true := by
  have hheard : HeardWritable (heard t e) := by
    by_contra hno
    refine Moves.keep (I := fun v => ¬ HeardWritable v) (fun v w hv hmove hw => hv ?_)
      (moves_handle lib t e) hno h
    rcases hw with hstarted | hwritable
    · exact hmove.started hstarted
    · exact .inr (hmove.flags.1.symm.trans hwritable)
  cases e with
  | iceWritable writable =>
    rcases hheard with hstarted | hwritable
    · exact .inl (.inl hstarted)
    · exact .inr (congrArg _ hwritable)
  | iceReceiving receiving =>
    left
    unfold heard at hheard
    dsimp only at hheard
    split at hheard <;> exact hheard
  | localCertificate | remoteFingerprint | icePacket | dtlsEvent | send => exact .inl hheard

theorem foldl_heardWritable {us : List Dtls.Event} (h : HeardWritable (us.foldl (handle lib) t)) :
    HeardWritable t ∨ .iceWritable true ∈ us := by
  induction us generalizing t with
  | nil => exact .inl h
  | cons e us ih =>
    rcases ih h with hfirst | hmem
    · rcases handle_heardWritable e hfirst with ht | rfl
      · exact .inl ht
      · exact .inr List.mem_cons_self
    · exact .inr (List.mem_cons_of_mem e hmem)

theorem onceWritable_of_signalled {before after : IceTransportChannel}
    (h : .iceWritable true ∈ signalled before after) : OnceWritable after := by
  obtain ⟨emitted, hmem, hsignal⟩ := List.mem_filterMap.1 h
  have hpick := writableSignal_dtlsSignal emitted
  rw [hsignal] at hpick
  unfold OnceWritable announced
  refine List.mem_map.2 ⟨emitted, List.mem_filter.2 ⟨List.mem_of_mem_drop hmem, ?_⟩, ?_⟩
  · by_contra hno
    rw [if_neg (by simpa using hno)] at hpick
    cases hpick
  · split at hpick
    · exact (Option.some.inj hpick).symm
    · cases hpick

/-- What the transport has heard the channel has announced. -/
theorem Stepped.heardWritable (h : Stepped o m e m')
    (hbefore : HeardWritable m.dtls → OnceWritable m.ice.channel) (hafter : HeardWritable m'.dtls) :
    OnceWritable m'.ice.channel := by
  have hkept : OnceWritable m.ice.channel → OnceWritable m'.ice.channel := fun honce =>
    ((h.signals.filter _).map _).subset honce
  obtain ⟨us, hdtls, hsignals⟩ := h.dtls
  rw [hdtls] at hafter
  rcases foldl_heardWritable hafter with hheard | hmem
  · exact hkept (hbefore hheard)
  · rcases hsignals with hfilter | ⟨rfl, -⟩
    · have hsignalled : .iceWritable true ∈ signalled m.ice.channel m'.ice.channel := by
        rw [← hfilter]
        exact List.mem_filter.2 ⟨hmem, rfl⟩
      exact onceWritable_of_signalled hsignalled
    · cases hmem

/-- **No handshake before a check.** Where a handshake has been started, the
peer had answered a ping of the channel with success, under the password that
the ping was sent with. -/
theorem handshake_after_check (o : Outside) (localPriorities : List UInt32)
    (certificate : Option ℕ) (es : List MediaEvent) (m : MediaTransport)
    (hrun : run (MediaTransport.step o) (.init o localPriorities certificate) es = some m)
    (hstarted : m.dtls.HasStarted) :
    ∃ portIndex addr, HasAnswered o.rtc o.iceParams o.movingAverage localPriorities
      (iceEvents o (.init o localPriorities certificate) es) portIndex addr := by
  have honce : HeardWritable m.dtls → OnceWritable m.ice.channel := by
    refine inv_of_run (I := fun m => HeardWritable m.dtls → OnceWritable m.ice.channel)
      (fun n f n' hI hstep => (stepped_of_step hstep).heardWritable hI) (fun h => ?_) hrun
    cases certificate with
    | none => rcases h with ⟨adapter, h⟩ | h <;> cases h
    | some certificate => rcases h with ⟨adapter, h⟩ | h <;> cases h
  exact answered_of_onceWritable (run_ice hrun) (honce (.inl hstarted))

theorem handshake_after_check_established : ∃ m,
    run (MediaTransport.step secondOutside) (.init secondOutside [0] (some 1)) establishing = some m ∧
      ∃ portIndex addr, HasAnswered blankRtc secondParams (fun x _ _ => x) [0]
        (iceEvents secondOutside (.init secondOutside [0] (some 1)) establishing) portIndex addr := by
  obtain ⟨m, hrun, hflags⟩ := Option.map_eq_some_iff.1 establishing_flags
  obtain ⟨-, -, -, hcalls⟩ := by simpa only [Prod.mk.injEq] using hflags
  refine ⟨m, hrun, handshake_after_check secondOutside [0] (some 1) establishing m hrun ⟨0, ?_⟩⟩
  rw [hcalls]
  exact List.mem_cons_of_mem _ (List.mem_singleton_self _)

end Pc

end XrtcServer
