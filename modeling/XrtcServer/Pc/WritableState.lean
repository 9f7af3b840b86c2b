import XrtcServer.Pc.HandshakeStart
/-!
# When the transport is writable

The flag is set by the end of the handshake, and where the transport is
connected it follows the channel. Everything that leaves the connected state
clears it, but one path: a first fingerprint that the adapter refuses fails
the transport and leaves the flag. And the end of the handshake does not look
at the channel. Apart from these two (`Orderly`) a writable transport is
connected over a writable channel.
-/

namespace XrtcServer

namespace Pc

namespace Dtls

open Base Common

/-- A writable transport is connected, over a writable channel. -/
def OverWritable (t : DtlsTransport) : Prop :=
  t.writable = true → t.dtlsState = .connected ∧ t.channelWritable = true

instance (t : DtlsTransport) : Decidable (OverWritable t) :=
  inferInstanceAs (Decidable (_ → _))

/-- The results of `Read` end with the stream closed. -/
def readEnds : List StreamResult → Bool
  | .success :: results => readEnds results
  | .eos :: _ | .error :: _ => true
  | _ => false

/-- The handshake is not over while the channel is not writable, unless the
connection is closed at once, and the adapter of a writable transport does
not refuse the first fingerprint. -/
def Orderly (lib : Libraries) (t : DtlsTransport) : Event → Prop
  | .dtlsEvent true seRead seClose results _ =>
    t.channelWritable = true ∨ (seRead && readEnds results) = true ∨ seClose = true
  | .remoteFingerprint fp =>
    t.writable = true → t.remoteFingerprintValue ≠ fp.digest → t.remoteFingerprintAlg = "" →
      ∀ adapter, t.dtls = some adapter →
        lib.setPeerCertificateDigest adapter fp.algorithm fp.digest = none
  | _ => True

/-- The transport has a certificate, and is neither writable nor connected
without an adapter. -/
structure Certified (t : DtlsTransport) : Prop where
  active : t.dtlsActive = true
  bare : t.dtls = none → t.writable = false ∧ t.dtlsState ≠ .connected

/-- Neither writable nor connected. -/
structure Idle (t : DtlsTransport) : Prop where
  active : t.dtlsActive = true
  writable : t.writable = false
  state : t.dtlsState ≠ .connected

variable {lib : Libraries} {t u : DtlsTransport} {state : DtlsTransportState}

theorem Idle.certified (h : Idle t) : Certified t := ⟨h.active, fun _ => ⟨h.writable, h.state⟩⟩

theorem Idle.overWritable (h : Idle t) : OverWritable t := by
  intro hw
  rw [h.writable] at hw
  cases hw

/-! ## Idle transports -/

theorem Idle.setDtlsState (h : Idle t) (hc : state ≠ .connected) :
    Idle (t.setDtlsState lib state) := by
  obtain ⟨srtp, heq⟩ := setDtlsState_eq lib t state
  rw [heq]
  exact ⟨h.active, h.writable, hc⟩

theorem Idle.handleDtlsPacket (h : Idle t) (data : List UInt8) :
    Idle (t.handleDtlsPacket data).1 := by
  unfold DtlsTransport.handleDtlsPacket
  split
  · exact ⟨h.active, h.writable, h.state⟩
  · exact h

theorem Idle.replayClientHello (h : Idle t) : Idle (t.replayClientHello lib) := by
  unfold DtlsTransport.replayClientHello
  split
  · exact h
  · have hhandled := h.handleDtlsPacket t.catchedClientHello
    have hreplayed : Idle (if (t.handleDtlsPacket t.catchedClientHello).2 then
        (t.handleDtlsPacket t.catchedClientHello).1
        else (t.handleDtlsPacket t.catchedClientHello).1.setDtlsState lib .failed) := by
      split
      · exact hhandled
      · exact hhandled.setDtlsState (by decide)
    exact ⟨hreplayed.active, hreplayed.writable, hreplayed.state⟩

theorem Idle.maybeStartDtls (h : Idle t) : Idle (t.maybeStartDtls lib) := by
  unfold DtlsTransport.maybeStartDtls
  split
  · exact h
  · rename_i adapter _
    split
    · exact h
    · have hcalled : Idle (t.call (.startSSL adapter)) := ⟨h.active, h.writable, h.state⟩
      dsimp only
      split
      · exact hcalled.setDtlsState (by decide)
      · exact (hcalled.setDtlsState (by decide)).replayClientHello

theorem Idle.configureAdapter (h : Idle t) (adapter : ℕ) :
    Idle (t.configureAdapter lib adapter).1 := by
  have hoffered : Idle (t.offerDigest lib adapter).1 := by
    unfold DtlsTransport.offerDigest
    split
    · exact h
    · exact ⟨h.active, h.writable, h.state⟩
  unfold DtlsTransport.configureAdapter
  dsimp only
  split
  · exact hoffered
  · split
    · exact hoffered
    · exact hoffered.maybeStartDtls

theorem Idle.setupDtls (h : Idle t) : Idle (t.setupDtls lib).1 := by
  have hcreated : Idle (t.createAdapter lib) := ⟨h.active, h.writable, h.state⟩
  unfold DtlsTransport.setupDtls
  split
  · exact hcreated
  · exact hcreated.configureAdapter t.created

/-- Failing to set an adapter up is no way out either. -/
theorem Idle.setupOrFail (lib : Libraries) (h : Idle t) :
    Idle (if (t.setupDtls lib).2 then (t.setupDtls lib).1
      else (t.setupDtls lib).1.setDtlsState lib .failed) := by
  split
  · exact h.setupDtls
  · exact h.setupDtls.setDtlsState (by decide)

/-! ## The events -/

/-- What an event comes to: a certified transport stays so, and the flag is
right after the event exactly when the condition holds. -/
structure Outcome (u : DtlsTransport) (condition : Prop) : Prop where
  certified : Certified u
  exact_iff : OverWritable u ↔ condition

theorem Idle.outcome (h : Idle t) : Outcome t True :=
  ⟨h.certified, iff_of_true h.overWritable trivial⟩

theorem outcome_of_same (h : Certified t) (hover : OverWritable t)
    (hactive : u.dtlsActive = t.dtlsActive) (hdtls : u.dtls = t.dtls)
    (hwritable : u.writable = t.writable) (hstate : u.dtlsState = t.dtlsState)
    (hchannel : u.channelWritable = t.channelWritable) : Outcome u True := by
  refine ⟨⟨hactive.trans h.active, fun hnone => ?_⟩, iff_of_true (fun hw => ?_) trivial⟩
  · rw [hwritable, hstate]
    exact h.bare (hdtls ▸ hnone)
  · rw [hstate, hchannel]
    exact hover (hwritable ▸ hw)

/-- A transport that is not connected is idle. -/
theorem Certified.idle (h : Certified t) (hover : OverWritable t)
    (hstate : t.dtlsState ≠ .connected) : Idle t := by
  refine ⟨h.active, ?_, hstate⟩
  rw [← Bool.not_eq_true]
  exact fun hw => hstate (hover hw).1

/-- **A fingerprint.** -/
theorem outcome_applyFingerprint (lib : Libraries) (change : Bool) (h : Certified t)
    (hover : OverWritable t) :
    Outcome (t.applyFingerprint lib change) (t.writable = true → change = false →
      ∀ adapter, t.dtls = some adapter →
        lib.setPeerCertificateDigest adapter t.remoteFingerprintAlg t.remoteFingerprintValue =
          none) := by
  unfold DtlsTransport.applyFingerprint
  cases hd : t.dtls with
  | none =>
    obtain ⟨hw, hstate⟩ := h.bare hd
    have hidle : Idle t := ⟨h.active, hw, hstate⟩
    have hafter := (hidle.setupOrFail lib).outcome
    exact ⟨hafter.certified, hafter.exact_iff.trans (iff_of_true trivial nofun)⟩
  | some adapter =>
    cases change with
    | true =>
      obtain ⟨srtp, heq⟩ := setDtlsState_eq lib { t with dtls := none } .new
      have hidle : Idle (({ t with dtls := none }.setDtlsState lib .new).setWritableState
          false) := by
        rw [heq]
        exact ⟨h.active, rfl, fun hstate => by cases hstate⟩
      have hafter := (hidle.setupOrFail lib).outcome
      exact ⟨hafter.certified, hafter.exact_iff.trans (iff_of_true trivial nofun)⟩
    | false =>
      dsimp only [DtlsTransport.setDigest]
      split
      · rename_i hnone
        have hsame := outcome_of_same h hover (u := t.call (.setPeerCertificateDigest adapter
          t.remoteFingerprintAlg t.remoteFingerprintValue)) rfl rfl rfl rfl rfl
        refine ⟨hsame.certified, hsame.exact_iff.trans (iff_of_true trivial ?_)⟩
        rintro - - _ ⟨⟩
        exact Option.isNone_iff_eq_none.1 hnone
      · rename_i hsome
        obtain ⟨srtp, heq⟩ := setDtlsState_eq lib (t.call (.setPeerCertificateDigest adapter
          t.remoteFingerprintAlg t.remoteFingerprintValue)) .failed
        rw [heq]
        refine ⟨⟨h.active, fun hnone => ?_⟩, fun hover' hw => ?_, fun hok hw => ?_⟩
        · cases hd.symm.trans hnone
        · cases (hover' hw).1
        · have hnone := hok hw rfl adapter rfl
          exact absurd (Option.isNone_iff_eq_none.2 hnone) hsome

theorem outcome_fingerprint (fp : RemoteFingerprint) (h : Certified t) (hover : OverWritable t) :
    Outcome (handle lib t (.remoteFingerprint fp)) (Orderly lib t (.remoteFingerprint fp)) := by
  unfold Orderly handle DtlsTransport.setRemoteFingerprint
  dsimp only
  by_cases hsame : t.remoteFingerprintValue = fp.digest
  · rw [if_pos (by simp [h.active, hsame])]
    have hafter := outcome_of_same h hover (u := t) rfl rfl rfl rfl rfl
    exact ⟨hafter.certified, hafter.exact_iff.trans
      (iff_of_true trivial fun _ hne => absurd hsame hne)⟩
  · rw [if_neg (by simp [hsame]), if_neg fp.algorithm_ne, if_neg (by simp [h.active])]
    have hafter := outcome_applyFingerprint lib (decide (t.remoteFingerprintAlg ≠ ""))
      (t := { t with remoteFingerprintValue := fp.digest, remoteFingerprintAlg := fp.algorithm })
      ⟨h.active, h.bare⟩ hover
    refine ⟨hafter.certified, hafter.exact_iff.trans ?_⟩
    simp [hsame]

theorem outcome_writable (writable : Bool) (h : Certified t) (hover : OverWritable t) :
    Outcome (handle lib t (.iceWritable writable)) True := by
  unfold handle
  dsimp only
  split
  · exact outcome_of_same h hover rfl rfl rfl rfl rfl
  · unfold DtlsTransport.onWritableState
    rw [if_neg (by simp [h.active])]
    have hidle : t.dtlsState ≠ .connected → Idle { t with channelWritable := writable } :=
      fun hnot => ⟨h.active, (h.idle hover hnot).writable, hnot⟩
    split
    · rename_i hnew
      have hnot : t.dtlsState ≠ .connected := fun hc => by cases hnew.symm.trans hc
      exact (hidle hnot).maybeStartDtls.outcome
    · rename_i hconnected
      refine ⟨⟨h.active, fun hnone => ?_⟩, iff_of_true (fun hw => ⟨hconnected, hw⟩) trivial⟩
      exact absurd hconnected (h.bare hnone).2
    · rename_i hnot
      exact (hidle hnot).outcome

theorem outcome_packet (buf : List UInt8) (h : Certified t) (hover : OverWritable t) :
    Outcome (t.onReadPacket lib buf) True := by
  have hsame : ∀ u : DtlsTransport, u.dtlsActive = t.dtlsActive → u.dtls = t.dtls →
      u.writable = t.writable → u.dtlsState = t.dtlsState →
      u.channelWritable = t.channelWritable → Outcome u True :=
    fun u => outcome_of_same h hover
  have hhandled : Outcome (t.handleDtlsPacket buf).1 True := by
    unfold DtlsTransport.handleDtlsPacket
    split <;> exact hsame _ rfl rfl rfl rfl rfl
  unfold DtlsTransport.onReadPacket
  split
  · rename_i hnew
    have hidle := h.idle hover (by rw [hnew]; decide)
    split
    · dsimp only
      split
      · exact Idle.outcome (Idle.setupDtls ⟨hidle.active, hidle.writable, hidle.state⟩)
      · exact hsame _ rfl rfl rfl rfl rfl
    · exact hsame _ rfl rfl rfl rfl rfl
  · split
    · exact hhandled
    · split
      · exact hsame _ rfl rfl rfl rfl rfl
      · split <;> exact hsame _ rfl rfl rfl rfl rfl
  · split
    · exact hhandled
    · split
      · exact hsame _ rfl rfl rfl rfl rfl
      · split <;> exact hsame _ rfl rfl rfl rfl rfl
  · exact hsame _ rfl rfl rfl rfl rfl

/-! ## The adapter signals -/

/-- The flag cleared and the state left: idle. -/
theorem idle_closed (lib : Libraries) (hactive : t.dtlsActive = true) (hc : state ≠ .connected) :
    Idle ((t.setWritableState false).setDtlsState lib state) := by
  obtain ⟨srtp, heq⟩ := setDtlsState_eq lib (t.setWritableState false) state
  rw [heq]
  exact ⟨hactive, rfl, hc⟩

theorem readDtls_eq (t : DtlsTransport) (results : List StreamResult) :
    t.readDtls lib results =
      if readEnds results then (t.setWritableState false).setDtlsState lib .closed else t := by
  induction results with
  | nil => rfl
  | cons result results ih =>
    cases result with
    | success => exact ih
    | block => rfl
    | eos => rfl
    | error => rfl

/-- One more reason to close. -/
theorem Outcome.closing {condition : Prop} (h : Outcome u condition) (lib : Libraries) (b : Bool)
    (hc : state ≠ .connected) :
    Outcome (if b then (u.setWritableState false).setDtlsState lib state else u)
      (b = true ∨ condition) := by
  cases b with
  | true =>
    have hafter := (idle_closed lib h.certified.active hc).outcome
    exact ⟨hafter.certified, hafter.exact_iff.trans (iff_of_true trivial (.inl rfl))⟩
  | false => exact ⟨h.certified, h.exact_iff.trans (by simp)⟩

/-- **What the adapter signals**: the handshake is over first, then the
stream is read and may close, then the connection is closed. -/
theorem outcome_dtlsEvent (seOpen seRead seClose : Bool) (results : List StreamResult) (error : ℤ)
    (h : Certified t) (hover : OverWritable t) (hd : t.dtls ≠ none) :
    Outcome (t.onDtlsEvent lib seOpen seRead seClose results error)
      (Orderly lib t (.dtlsEvent seOpen seRead seClose results error)) := by
  have hopen : Outcome
      (if seOpen then (t.setWritableState true).setDtlsState lib .connected else t)
      (seOpen = true → t.channelWritable = true) := by
    cases seOpen with
    | false =>
      have hsame := outcome_of_same h hover (u := t) rfl rfl rfl rfl rfl
      exact ⟨hsame.certified, hsame.exact_iff.trans (by simp)⟩
    | true =>
      obtain ⟨srtp, heq⟩ := setDtlsState_eq lib (t.setWritableState true) .connected
      rw [if_pos rfl, heq]
      refine ⟨⟨h.active, fun hnone => absurd hnone hd⟩, fun hover' _ => (hover' rfl).2, ?_⟩
      exact fun hchannel _ => ⟨rfl, hchannel rfl⟩
  have hread : ∀ u : DtlsTransport, (if seRead then u.readDtls lib results else u) =
      if seRead && readEnds results then (u.setWritableState false).setDtlsState lib .closed
      else u := by
    intro u
    rw [readDtls_eq]
    cases seRead <;> rfl
  have hclose : (if error = 0 then DtlsTransportState.closed else .failed) ≠ .connected := by
    split <;> decide
  have hended : DtlsTransportState.closed ≠ .connected := by decide
  have hall := (hopen.closing lib (seRead && readEnds results) hended).closing lib seClose hclose
  unfold DtlsTransport.onDtlsEvent
  dsimp only
  rw [hread]
  refine ⟨hall.certified, hall.exact_iff.trans ?_⟩
  cases seOpen with
  | false => simp [Orderly]
  | true => simp [Orderly, or_comm, or_left_comm]

theorem outcome_step {e : Event} (h : Certified t) (hover : OverWritable t)
    (hstep : step lib t e = some u) : Outcome u (Orderly lib t e) := by
  have hsame : ∀ v : DtlsTransport, v.dtlsActive = t.dtlsActive → v.dtls = t.dtls →
      v.writable = t.writable → v.dtlsState = t.dtlsState →
      v.channelWritable = t.channelWritable → Outcome v True :=
    fun v => outcome_of_same h hover
  obtain ⟨rfl, hd⟩ : u = handle lib t e ∧ (t.dtls = none → ∀ seOpen seRead seClose results error,
      e ≠ .dtlsEvent seOpen seRead seClose results error) := by
    unfold step at hstep
    split at hstep
    · cases hstep
    · rename_i hpossible
      exact ⟨(Option.some.inj hstep).symm, fun hnone _ _ _ _ _ he =>
        hpossible _ _ _ _ _ he hnone⟩
  cases e with
  | localCertificate certificate =>
    have hnone : t.setLocalCertificate certificate = t := by
      unfold DtlsTransport.setLocalCertificate
      rw [if_pos h.active]
    exact hsame _ (congrArg _ hnone) (congrArg _ hnone) (congrArg _ hnone) (congrArg _ hnone)
      (congrArg _ hnone)
  | remoteFingerprint fp => exact outcome_fingerprint fp h hover
  | iceWritable writable => exact outcome_writable writable h hover
  | iceReceiving receiving =>
    unfold handle
    dsimp only
    split <;> exact hsame _ rfl rfl rfl rfl rfl
  | icePacket buf => exact outcome_packet buf h hover
  | dtlsEvent seOpen seRead seClose results error =>
    exact outcome_dtlsEvent seOpen seRead seClose results error h hover fun hnone =>
      hd hnone _ _ _ _ _ rfl
  | send => exact hsame _ rfl rfl rfl rfl rfl

/-- **A writable transport is connected over a writable channel**, in every
state of a run, exactly when the run is orderly. -/
theorem overWritable_iff_orderly (lib : Libraries) (certificate : ℕ) (writable receiving : Bool)
    (srtp : Option DtlsSrtpTransport) (es : List Event) :
    EveryStep (step lib) (fun _ _ t => OverWritable t)
        (fresh certificate writable receiving srtp) es ↔
      EveryStep (step lib) (fun t e _ => Orderly lib t e)
        (fresh certificate writable receiving srtp) es := by
  refine everyStep_iff_of_inv (I := fun t => Certified t ∧ OverWritable t)
    (fun t e u hinv hstep => ?_) (fun t e u hinv hstep hover => ?_) ⟨⟨rfl, ?_⟩, ?_⟩
  · exact (outcome_step hinv.1 hinv.2 hstep).exact_iff
  · exact ⟨(outcome_step hinv.1 hinv.2 hstep).certified, hover⟩
  · exact fun _ => ⟨rfl, fun hc => by cases hc⟩
  · exact fun hw => by cases hw

/-- The channel stops being writable while the handshake is under way, and
the handshake ends. -/
theorem writable_over_unwritable :
    (Common.run (step obliging) (fresh 7 true true none)
      [.remoteFingerprint ⟨⟨"sha-256", [1]⟩, nofun, nofun⟩, .iceWritable false,
        .dtlsEvent true false false [] 0]).map (fun t => decide (OverWritable t)) = some false := by
  decide

end Dtls

end Pc

end XrtcServer
