import XrtcServer.Common.Run
import XrtcServer.Pc.Model.DtlsTransport
/-!
# The SRTP sessions and the handshake they come from

The sessions are there while the DTLS state is connected and hold the keys
of the adapter there is. Every change of the state goes through
`setDtlsState`, which signals it: away from connected the sessions go, and
to connected they come, the transport having been made writable before. So
what is proved of `setDtlsState` carries over every handler.
-/

namespace XrtcServer

namespace Pc

namespace Dtls

open Base Common

/-- The two sessions hold what an adapter exports. -/
def KeysOf (lib : Libraries) (adapter : ℕ) (srtp : DtlsSrtpTransport) : Prop :=
  ∃ suite sendKey recvKey, extractKeys lib adapter = some (suite, sendKey, recvKey) ∧
    srtp.sendSession = some ⟨suite, sendKey⟩ ∧ srtp.recvSession = some ⟨suite, recvKey⟩

/-- In the connected state the sessions hold the keys of the adapter, in
any other there are none. -/
def Settled (lib : Libraries) (state : DtlsTransportState) (dtls : Option ℕ)
    (srtp : DtlsSrtpTransport) : Prop :=
  (state = .connected ∧ ∃ adapter, dtls = some adapter ∧ KeysOf lib adapter srtp) ∨
    (state ≠ .connected ∧ srtp.sendSession = none ∧ srtp.recvSession = none)

/-- The transport is settled, and its sessions have been used for this. -/
structure Good (lib : Libraries) (used : List SrtpSession) (t : DtlsTransport) : Prop where
  active : t.dtls.isSome = true ∨ t.localCertificate.isSome = true → t.dtlsActive = true
  srtp : ∃ srtp, t.srtp = some srtp ∧ srtp.used = used ∧
    Settled lib t.dtlsState t.dtls srtp

variable {lib : Libraries} {used : List SrtpSession} {t : DtlsTransport}
variable {srtp : DtlsSrtpTransport} {state : DtlsTransportState}

theorem Settled.of_not_connected {dtls dtls' : Option ℕ} {state' : DtlsTransportState}
    (h : Settled lib state dtls srtp) (hs : state ≠ .connected) (hs' : state' ≠ .connected) :
    Settled lib state' dtls' srtp := by
  rcases h with ⟨hc, -⟩ | ⟨-, hnone⟩
  · exact absurd hc hs
  · exact .inr ⟨hs', hnone⟩

/-- A change of the state touches nothing but the state and the sessions. -/
theorem setDtlsState_eq (lib : Libraries) (t : DtlsTransport) (state : DtlsTransportState) :
    ∃ srtp, t.setDtlsState lib state = { t with dtlsState := state, srtp := srtp } := by
  rw [DtlsTransport.setDtlsState]
  split
  · rename_i h
    exact ⟨t.srtp, by rw [← h]⟩
  · exact ⟨_, rfl⟩

section Keys

variable (hkeys : ∀ adapter, (extractKeys lib adapter).isSome = true)
variable (hset : ∀ cs key, lib.setKey cs key = true)

include hkeys hset

/-- Without sessions, and connected, the sessions of the adapter are made. -/
theorem keysOf_maybeSetupDtlsSrtp {adapter : ℕ} (hstate : t.dtlsState = .connected)
    (hactive : t.dtlsActive = true) (hdtls : t.dtls = some adapter) (hw : t.writable = true)
    (hsend : srtp.sendSession = none) :
    KeysOf lib adapter (t.maybeSetupDtlsSrtp lib srtp) ∧
      (t.maybeSetupDtlsSrtp lib srtp).used = srtp.used := by
  obtain ⟨⟨suite, sendKey, recvKey⟩, hextract⟩ := Option.isSome_iff_exists.1 (hkeys adapter)
  have hparams : t.extractParams lib = some (suite, sendKey, recvKey) := by
    simp [DtlsTransport.extractParams, hactive, hstate, hdtls, hextract]
  have hsetup : t.maybeSetupDtlsSrtp lib srtp =
      { srtp with sendSession := some ⟨suite, sendKey⟩, recvSession := some ⟨suite, recvKey⟩ } := by
    simp [DtlsTransport.maybeSetupDtlsSrtp, DtlsSrtpTransport.isSrtpActive, hsend, hw, hparams,
      DtlsSrtpTransport.setRtpParams, hset]
  rw [hsetup]
  exact ⟨⟨suite, sendKey, recvKey, hextract, rfl, rfl⟩, rfl⟩

/-- **A change of the state settles the sessions.** Before it they need
only be settled where the state stays, or where it becomes connected. -/
theorem good_setDtlsState
    (hactive : t.dtls.isSome = true ∨ t.localCertificate.isSome = true → t.dtlsActive = true)
    (hs : t.srtp = some srtp) (hu : srtp.used = used)
    (hsame : t.dtlsState = state → Settled lib t.dtlsState t.dtls srtp)
    (hopen : state = .connected → t.dtlsState ≠ .connected →
      t.writable = true ∧ t.dtls.isSome = true ∧ srtp.sendSession = none) :
    Good lib used (t.setDtlsState lib state) := by
  rw [DtlsTransport.setDtlsState]
  split
  · rename_i heq
    exact ⟨hactive, srtp, hs, hu, hsame heq⟩
  · rename_i hne
    by_cases hc : state = .connected
    · obtain ⟨hw, hdtls, hsend⟩ := hopen hc fun h => hne (h.trans hc.symm)
      obtain ⟨adapter, hadapter⟩ := Option.isSome_iff_exists.1 hdtls
      obtain ⟨hk, hused⟩ := keysOf_maybeSetupDtlsSrtp (t := { t with dtlsState := state })
        hkeys hset hc (hactive (.inl hdtls)) hadapter hw hsend
      refine ⟨hactive, _, congrArg (Option.map _) hs, ?_, .inl ⟨hc, adapter, hadapter, ?_⟩⟩
      · rw [DtlsTransport.onDtlsState, if_neg (not_not.2 hc), hused, hu]
      · rw [DtlsTransport.onDtlsState, if_neg (not_not.2 hc)]
        exact hk
    · refine ⟨hactive, _, congrArg (Option.map _) hs, ?_, .inr ⟨hc, ?_⟩⟩
      · rw [DtlsTransport.onDtlsState, if_pos hc]
        exact hu
      · rw [DtlsTransport.onDtlsState, if_pos hc]
        exact ⟨rfl, rfl⟩

/-- Away from connected. -/
theorem Good.setDtlsState (h : Good lib used t) (hc : state ≠ .connected) :
    Good lib used (t.setDtlsState lib state) := by
  obtain ⟨srtp, hs, hu, hsettled⟩ := h.srtp
  exact good_setDtlsState hkeys hset h.active hs hu (fun _ => hsettled) fun h => absurd h hc

/-! ## The handlers -/

omit hkeys hset in
theorem Good.handleDtlsPacket (h : Good lib used t) (data : List UInt8) :
    Good lib used (t.handleDtlsPacket data).1 := by
  rw [DtlsTransport.handleDtlsPacket]
  split
  · exact ⟨h.active, h.srtp⟩
  · exact h

theorem Good.replayClientHello (h : Good lib used t) :
    Good lib used (t.replayClientHello lib) := by
  rw [DtlsTransport.replayClientHello]
  split
  · exact h
  · have hp := h.handleDtlsPacket t.catchedClientHello
    rcases hh : t.handleDtlsPacket t.catchedClientHello with ⟨t', ok⟩
    rw [hh] at hp
    cases ok with
    | true => exact ⟨hp.active, hp.srtp⟩
    | false =>
      have hf : Good lib used (t'.setDtlsState lib .failed) := hp.setDtlsState hkeys hset nofun
      exact ⟨hf.active, hf.srtp⟩

theorem Good.maybeStartDtls (h : Good lib used t) : Good lib used (t.maybeStartDtls lib) := by
  rw [DtlsTransport.maybeStartDtls]
  split
  · exact h
  · rename_i adapter hd
    split
    · exact h
    · have hcall : Good lib used (t.call (.startSSL adapter)) := ⟨h.active, h.srtp⟩
      have hfailed : Good lib used ((t.call (.startSSL adapter)).setDtlsState lib .failed) :=
        hcall.setDtlsState hkeys hset nofun
      have hconnecting : Good lib used
          ((t.call (.startSSL adapter)).setDtlsState lib .connecting) :=
        hcall.setDtlsState hkeys hset nofun
      simp only
      split
      · exact hfailed
      · exact hconnecting.replayClientHello hkeys hset

omit hkeys hset in
theorem Good.setDigest (h : Good lib used t) (adapter : ℕ) :
    Good lib used (t.setDigest lib adapter).1 :=
  ⟨h.active, h.srtp⟩

theorem Good.configureAdapter (h : Good lib used t) (adapter : ℕ) :
    Good lib used (t.configureAdapter lib adapter).1 := by
  have hdigest : Good lib used (t.offerDigest lib adapter).1 := by
    rw [DtlsTransport.offerDigest]
    split
    · exact h
    · exact h.setDigest adapter
  rw [DtlsTransport.configureAdapter]
  simp only
  split
  · exact hdigest
  · split
    · exact hdigest
    · exact hdigest.maybeStartDtls hkeys hset

/-- A new adapter for a transport that is not connected. -/
theorem Good.setupDtls (h : Good lib used t) (hactive : t.dtlsActive = true)
    (hc : t.dtlsState ≠ .connected) : Good lib used (t.setupDtls lib).1 := by
  have hnew : Good lib used (t.createAdapter lib) := by
    obtain ⟨srtp, hs, hu, hsettled⟩ := h.srtp
    exact ⟨fun _ => hactive, srtp, hs, hu, hsettled.of_not_connected hc hc⟩
  rw [DtlsTransport.setupDtls]
  split
  · exact hnew
  · exact hnew.configureAdapter hkeys hset t.created

omit hkeys hset in
theorem Good.setLocalCertificate (h : Good lib used t) (certificate : Option ℕ) :
    Good lib used (t.setLocalCertificate certificate) := by
  unfold DtlsTransport.setLocalCertificate
  split
  · exact h
  · cases certificate with
    | none => exact h
    | some certificate => exact ⟨fun _ => rfl, h.srtp⟩

/-- What a handler does about a call that failed. -/
theorem Good.or_failed {r : DtlsTransport × Bool} (h : Good lib used r.1) :
    Good lib used (if r.2 then r.1 else r.1.setDtlsState lib .failed) := by
  split
  · exact h
  · exact h.setDtlsState hkeys hset nofun

omit hkeys hset in
/-- Without an adapter a transport is not connected. -/
theorem Good.not_connected (h : Good lib used t) (hnone : t.dtls = none) :
    t.dtlsState ≠ .connected := by
  intro hc
  obtain ⟨srtp, -, -, hsettled⟩ := h.srtp
  rcases hsettled with ⟨-, adapter, hd, -⟩ | ⟨hne, -⟩
  · rw [hnone] at hd
    cases hd
  · exact hne hc

/-- The fingerprint of another association ends the one there is. -/
theorem Good.applyFingerprint (h : Good lib used t) (hactive : t.dtlsActive = true)
    (change : Bool) : Good lib used (t.applyFingerprint lib change) := by
  unfold DtlsTransport.applyFingerprint
  split
  · rename_i adapter _
    exact (h.setDigest adapter).or_failed hkeys hset
  · obtain ⟨srtp, hs, hu, hsettled⟩ := h.srtp
    -- without its adapter the transport is settled once it is new again
    have hnew : Good lib used ({ t with dtls := none }.setDtlsState lib .new) :=
      good_setDtlsState hkeys hset (fun _ => hactive) hs hu
        (fun hst => hsettled.of_not_connected (by rw [hst]; nofun) (by rw [hst]; nofun)) nofun
    have hreset : Good lib used
        (({ t with dtls := none }.setDtlsState lib .new).setWritableState false) :=
      ⟨hnew.active, hnew.srtp⟩
    obtain ⟨srtp', heq⟩ := setDtlsState_eq lib { t with dtls := none } .new
    rw [heq] at hreset ⊢
    exact (hreset.setupDtls hkeys hset hactive nofun).or_failed hkeys hset
  · rename_i hnone
    exact (h.setupDtls hkeys hset hactive (h.not_connected hnone)).or_failed hkeys hset

theorem Good.setRemoteFingerprint (h : Good lib used t) {digestAlg : String}
    (halg : digestAlg ≠ "") (digest : List UInt8) :
    Good lib used (t.setRemoteFingerprint lib digestAlg digest) := by
  rw [DtlsTransport.setRemoteFingerprint, if_neg halg]
  split
  · exact h
  · split
    · exact h
    · rename_i hactive
      have hstored : Good lib used
          { t with remoteFingerprintValue := digest, remoteFingerprintAlg := digestAlg } :=
        ⟨h.active, h.srtp⟩
      exact hstored.applyFingerprint hkeys hset (by simpa using hactive) _

theorem Good.onWritableState (h : Good lib used t) : Good lib used (t.onWritableState lib) := by
  rw [DtlsTransport.onWritableState]
  split
  · exact ⟨h.active, h.srtp⟩
  · split
    · exact h.maybeStartDtls hkeys hset
    · exact ⟨h.active, h.srtp⟩
    · exact h

theorem Good.readDtls (h : Good lib used t) (results : List StreamResult) :
    Good lib used (t.readDtls lib results) := by
  have hclosed : Good lib used ((t.setWritableState false).setDtlsState lib .closed) := by
    have hw : Good lib used (t.setWritableState false) := ⟨h.active, h.srtp⟩
    exact hw.setDtlsState hkeys hset nofun
  induction results with
  | nil => exact h
  | cons result results ih =>
    cases result with
    | success => exact ih
    | eos => exact hclosed
    | error => exact hclosed
    | block => exact h

/-- What an adapter signals. The transport is made writable before it is
connected, so that the sessions can be made then. -/
theorem Good.onDtlsEvent (h : Good lib used t) (hdtls : t.dtls.isSome = true)
    (seOpen seRead seClose : Bool) (results : List StreamResult) (error : ℤ) :
    Good lib used (t.onDtlsEvent lib seOpen seRead seClose results error) := by
  have hopen : Good lib used
      (if seOpen then (t.setWritableState true).setDtlsState lib .connected else t) := by
    split
    · obtain ⟨srtp, hs, hu, hsettled⟩ := h.srtp
      refine good_setDtlsState hkeys hset h.active hs hu (fun _ => hsettled) ?_
      intro _ hne
      refine ⟨rfl, hdtls, ?_⟩
      rcases hsettled with ⟨hc, -⟩ | ⟨-, hsend, -⟩
      · exact absurd hc hne
      · exact hsend
    · exact h
  have hread : ∀ t', Good lib used t' →
      Good lib used (if seRead then t'.readDtls lib results else t') := by
    intro t' h'
    split
    · exact h'.readDtls hkeys hset results
    · exact h'
  have hclose : ∀ t' : DtlsTransport, Good lib used t' → Good lib used
      (if seClose then
        (t'.setWritableState false).setDtlsState lib (if error = 0 then .closed else .failed)
      else t') := by
    intro t' h'
    split
    · have hw : Good lib used (t'.setWritableState false) := ⟨h'.active, h'.srtp⟩
      exact hw.setDtlsState hkeys hset (by split <;> nofun)
    · exact h'
  exact hclose _ (hread _ hopen)

/-! ## Runs -/

/-- A key exported from the adapter of a connected transport. -/
def CurrentKey (lib : Libraries) (t : DtlsTransport) (session : SrtpSession) : Prop :=
  t.dtlsState = .connected ∧ ∃ adapter suite sendKey recvKey, t.dtls = some adapter ∧
    extractKeys lib adapter = some (suite, sendKey, recvKey) ∧
    (session = ⟨suite, sendKey⟩ ∨ session = ⟨suite, recvKey⟩)

omit hkeys hset in
/-- A packet is protected with the session it is given to, where there are
both, and changes neither. -/
theorem Good.use (h : Good lib used t) {g : DtlsSrtpTransport → DtlsSrtpTransport}
    (hg : ∀ srtp, g srtp = srtp ∨ g srtp = srtp.use srtp.sendSession ∨
      g srtp = srtp.use srtp.recvSession) :
    ∃ more, Good lib (used ++ more) { t with srtp := t.srtp.map g } ∧
      ∀ session ∈ more, CurrentKey lib t session := by
  obtain ⟨srtp, hs, hu, hsettled⟩ := h.srtp
  have hsame : g srtp = srtp → ∃ more, Good lib (used ++ more) { t with srtp := t.srtp.map g } ∧
      ∀ session ∈ more, CurrentKey lib t session := by
    intro heq
    refine ⟨[], ⟨h.active, srtp, ?_, by rw [hu, List.append_nil], hsettled⟩, by simp⟩
    show t.srtp.map g = some srtp
    rw [hs, Option.map_some, heq]
  rcases hsettled with ⟨hc, adapter, hd, suite, sendKey, recvKey, hextract, hsend, hrecv⟩ |
    ⟨hne, hsend, hrecv⟩
  · have hactive : srtp.isSrtpActive = true := by
      simp [DtlsSrtpTransport.isSrtpActive, hsend, hrecv]
    -- one of the two sessions, both of them the adapter's
    have hgood : ∀ session, g srtp = { srtp with used := srtp.used ++ [session] } →
        Good lib (used ++ [session]) { t with srtp := t.srtp.map g } := by
      intro session heq
      refine ⟨h.active, _, congrArg (Option.map g) hs, ?_, .inl ⟨hc, adapter, hd, ?_⟩⟩
      · rw [heq, hu]
      · rw [heq]
        exact ⟨suite, sendKey, recvKey, hextract, hsend, hrecv⟩
    rcases hg srtp with heq | heq | heq
    · exact hsame heq
    · have hused : g srtp = { srtp with used := srtp.used ++ [⟨suite, sendKey⟩] } := by
        rw [heq, DtlsSrtpTransport.use, if_pos hactive, hsend]
        rfl
      refine ⟨[⟨suite, sendKey⟩], hgood _ hused, fun session hmem => ?_⟩
      obtain rfl := List.mem_singleton.1 hmem
      exact ⟨hc, adapter, suite, sendKey, recvKey, hd, hextract, .inl rfl⟩
    · have hused : g srtp = { srtp with used := srtp.used ++ [⟨suite, recvKey⟩] } := by
        rw [heq, DtlsSrtpTransport.use, if_pos hactive, hrecv]
        rfl
      refine ⟨[⟨suite, recvKey⟩], hgood _ hused, fun session hmem => ?_⟩
      obtain rfl := List.mem_singleton.1 hmem
      exact ⟨hc, adapter, suite, sendKey, recvKey, hd, hextract, .inr rfl⟩
  · have hinactive : ∀ session, srtp.use session = srtp := by
      intro session
      simp [DtlsSrtpTransport.use, DtlsSrtpTransport.isSrtpActive, hrecv]
    rcases hg srtp with heq | heq | heq
    · exact hsame heq
    · exact hsame (heq.trans (hinactive _))
    · exact hsame (heq.trans (hinactive _))

omit hkeys hset in
theorem onReadPacket_eq (srtp : DtlsSrtpTransport) (packet : List UInt8) :
    srtp.onReadPacket packet = srtp ∨ srtp.onReadPacket packet = srtp.use srtp.sendSession ∨
      srtp.onReadPacket packet = srtp.use srtp.recvSession := by
  unfold DtlsSrtpTransport.onReadPacket
  split
  · exact .inl rfl
  · exact .inr (.inr rfl)
  · exact .inr (.inr rfl)

/-- What a packet from the channel does. Media goes to the sessions, the
rest to the adapter. -/
theorem Good.onReadPacket (h : Good lib used t) (buf : List UInt8) :
    ∃ more, Good lib (used ++ more) (t.onReadPacket lib buf) ∧
      ∀ session ∈ more, CurrentKey lib t session := by
  have hquiet : ∀ t' : DtlsTransport, Good lib used t' → ∃ more, Good lib (used ++ more) t' ∧
      ∀ session ∈ more, CurrentKey lib t session := by
    intro t' h'
    exact ⟨[], by rwa [List.append_nil], by simp⟩
  unfold DtlsTransport.onReadPacket
  split
  · rename_i hstate
    split
    · have hcached : Good lib used { t with catchedClientHello := buf } := ⟨h.active, h.srtp⟩
      simp only
      split
      · rename_i hsetup
        have hcert := (Bool.and_eq_true_iff.1 hsetup).2
        exact hquiet _ (hcached.setupDtls hkeys hset (h.active (.inr hcert)) (by rw [hstate]; nofun))
      · exact hquiet _ hcached
    · exact hquiet _ h
  · split
    · exact hquiet _ (h.handleDtlsPacket buf)
    · split
      · exact hquiet _ h
      · split
        · exact hquiet _ h
        · exact h.use fun srtp => onReadPacket_eq srtp buf
  · split
    · exact hquiet _ (h.handleDtlsPacket buf)
    · split
      · exact hquiet _ h
      · split
        · exact hquiet _ h
        · exact h.use fun srtp => onReadPacket_eq srtp buf
  · exact hquiet _ h

/-- **Every event leaves the transport settled**, and uses current keys only. -/
theorem Good.step (h : Good lib used t) {e : Event} {t' : DtlsTransport}
    (hs : step lib t e = some t') :
    ∃ more, Good lib (used ++ more) t' ∧ ∀ session ∈ more, CurrentKey lib t session := by
  have hquiet : Good lib used t' → ∃ more, Good lib (used ++ more) t' ∧
      ∀ session ∈ more, CurrentKey lib t session := by
    intro h'
    exact ⟨[], by rwa [List.append_nil], by simp⟩
  unfold Dtls.step at hs
  split at hs
  · cases hs
  · rename_i e _ _ hevent
    obtain rfl := Option.some.inj hs
    cases e with
    | localCertificate certificate => exact hquiet (h.setLocalCertificate certificate)
    | remoteFingerprint fingerprint =>
      exact hquiet (h.setRemoteFingerprint hkeys hset fingerprint.algorithm_ne fingerprint.digest)
    | iceWritable writable =>
      refine hquiet ?_
      show Good lib used (if _ then _ else _)
      split
      · exact h
      · have hflag : Good lib used { t with channelWritable := writable } := ⟨h.active, h.srtp⟩
        exact hflag.onWritableState hkeys hset
    | iceReceiving receiving =>
      refine hquiet ?_
      show Good lib used (if _ then _ else _)
      split
      · exact h
      · exact ⟨h.active, h.srtp⟩
    | icePacket buf => exact h.onReadPacket hkeys hset buf
    | dtlsEvent seOpen seRead seClose results error =>
      have hdtls : t.dtls.isSome = true := by
        rcases hd : t.dtls with _ | adapter
        · exact absurd hd (hevent seOpen seRead seClose results error rfl)
        · rfl
      exact hquiet (h.onDtlsEvent hkeys hset hdtls seOpen seRead seClose results error)
    | send => exact h.use fun srtp => .inr (.inl rfl)

omit hkeys hset in
theorem good_start (channelWritable channelReceiving : Bool) :
    Good lib [] (start lib channelWritable channelReceiving) := by
  refine ⟨fun h => ?_, _, rfl, ?_, .inr ⟨nofun, ?_, ?_⟩⟩
  · rcases h with h | h <;> cases h
  all_goals rfl

omit hkeys hset in
/-- The sessions of a transport that is settled. -/
theorem Settled.isSome_iff {dtls : Option ℕ} (h : Settled lib state dtls srtp) :
    (srtp.sendSession.isSome = true ∧ srtp.recvSession.isSome = true) ↔ state = .connected := by
  rcases h with ⟨hc, adapter, -, suite, sendKey, recvKey, -, hsend, hrecv⟩ | ⟨hne, hsend, -⟩
  · simp [hc, hsend, hrecv]
  · simp [hne, hsend]

/-- **The SRTP sessions are those of the association there is.** In every
run, between two events, both sessions exist exactly in the connected state,
with the keys of the current adapter, and no packet is protected or
unprotected with any other key. -/
theorem sessions_of_current_adapter {channelWritable channelReceiving : Bool} {es : List Event}
    (h : run (step lib) (start lib channelWritable channelReceiving) es = some t) :
    ∃ srtp, t.srtp = some srtp ∧
      ((srtp.sendSession.isSome = true ∧ srtp.recvSession.isSome = true) ↔
        t.dtlsState = .connected) ∧
      Settled lib t.dtlsState t.dtls srtp ∧
      ∀ e t', step lib t e = some t' → ∃ srtp' more, t'.srtp = some srtp' ∧
        srtp'.used = srtp.used ++ more ∧ ∀ session ∈ more, CurrentKey lib t session := by
  obtain ⟨used, hgood⟩ : ∃ used, Good lib used t := by
    refine inv_of_run (I := fun t => ∃ used, Good lib used t) ?_ ⟨[], good_start _ _⟩ h
    rintro s e s' ⟨used, hs⟩ he
    obtain ⟨more, hgood, -⟩ := hs.step hkeys hset he
    exact ⟨used ++ more, hgood⟩
  obtain ⟨srtp, hs, hu, hsettled⟩ := hgood.srtp
  refine ⟨srtp, hs, hsettled.isSome_iff, hsettled, fun e t' he => ?_⟩
  obtain ⟨more, hgood', hcurrent⟩ := hgood.step hkeys hset he
  obtain ⟨srtp', hs', hu', -⟩ := hgood'.srtp
  exact ⟨srtp', more, hs', by rw [hu', hu], hcurrent⟩

end Keys

/-- The keys of an association that was replaced are gone: the fingerprint
changes, another handshake is made, and what is sent then is protected with
the key of the second adapter. -/
theorem sessions_of_current_adapter_replaced :
    ∃ t, run (step obliging) (start obliging true false)
        [.localCertificate (some 1), .remoteFingerprint ⟨⟨"sha-256", [1]⟩, nofun, nofun⟩,
          .dtlsEvent true false false [] 0, .send,
          .remoteFingerprint ⟨⟨"sha-256", [2]⟩, nofun, nofun⟩, .send,
          .dtlsEvent true false false [] 0] = some t ∧
      t.dtlsState = .connected ∧ t.dtls = some 1 ∧
      ∃ srtp, t.srtp = some srtp ∧ srtp.used.length = 1 ∧
        ((srtp.sendSession.isSome = true ∧ srtp.recvSession.isSome = true) ↔
          t.dtlsState = .connected) ∧
        Settled obliging t.dtlsState t.dtls srtp ∧
        ∀ e t', step obliging t e = some t' → ∃ srtp' more, t'.srtp = some srtp' ∧
          srtp'.used = srtp.used ++ more ∧ ∀ session ∈ more, CurrentKey obliging t session := by
  have h : run (step obliging) (start obliging true false)
      [.localCertificate (some 1), .remoteFingerprint ⟨⟨"sha-256", [1]⟩, nofun, nofun⟩,
        .dtlsEvent true false false [] 0, .send,
        .remoteFingerprint ⟨⟨"sha-256", [2]⟩, nofun, nofun⟩, .send,
        .dtlsEvent true false false [] 0] = some _ := rfl
  obtain ⟨srtp, hs, hrest⟩ := sessions_of_current_adapter (fun _ => rfl) (fun _ _ => rfl) h
  obtain rfl := Option.some.inj hs
  exact ⟨_, h, rfl, rfl, _, rfl, rfl, hrest⟩

end Dtls

end Pc

end XrtcServer
