import XrtcServer.Pc.HandshakeStart
/-!
# Datagrams whose records do not fit

A DTLS datagram whose records do not fill it is refused by
`_handle_dtls_packet`, and so changes nothing where it is checked at once. A
ClientHello that arrives before the handshake is not checked but cached
(`Caches`). It is not seen then until `StartSSL` is called, and where it is
still cached at that moment its replay fails the transport.
-/

namespace XrtcServer

namespace Pc

namespace Dtls

open Base Common

/-- A datagram that looks like DTLS and is not made of whole records. -/
structure Malformed (d : List UInt8) : Prop where
  dtls : isDtlsPacket d = true
  unfit : recordsFit d.length d = false

/-- The datagram is cached: it looks like a ClientHello, before the
handshake. -/
def Caches (t : DtlsTransport) (d : List UInt8) : Prop :=
  t.dtlsState = .new ∧ isDtlsClientHelloPacket d = true

/-- Another ClientHello in the cache. -/
def DtlsTransport.cache (t : DtlsTransport) (d : List UInt8) : DtlsTransport :=
  { t with catchedClientHello := d }

/-- `StartSSL` is not called in the event. -/
def StaysUnstarted (lib : Libraries) (t : DtlsTransport) (e : Event) : Prop :=
  starts (handle lib t e).calls = starts t.calls

/-- No ClientHello is cached in the event. -/
def Keeps (t : DtlsTransport) (e : Event) : Prop :=
  ∀ buf, e = .icePacket buf → ¬ Caches t buf

variable {lib : Libraries} {t u : DtlsTransport} {d : List UInt8} {adapter : ℕ} {e : Event}
variable {state : DtlsTransportState}

theorem not_keeps : ¬ Keeps t e ↔ ∃ buf, e = .icePacket buf ∧ Caches t buf := by
  simp [Keeps]

/-! ## What does not look at the cache -/

namespace DtlsTransport

@[simp] theorem cache_dtls : (t.cache d).dtls = t.dtls := rfl
@[simp] theorem cache_dtlsState : (t.cache d).dtlsState = t.dtlsState := rfl
@[simp] theorem cache_channelWritable : (t.cache d).channelWritable = t.channelWritable := rfl
@[simp] theorem cache_channelReceiving : (t.cache d).channelReceiving = t.channelReceiving := rfl
@[simp] theorem cache_dtlsActive : (t.cache d).dtlsActive = t.dtlsActive := rfl
@[simp] theorem cache_calls : (t.cache d).calls = t.calls := rfl
@[simp] theorem cache_created : (t.cache d).created = t.created := rfl

theorem setDtlsState_cache (lib : Libraries) (t : DtlsTransport) (d : List UInt8)
    (state : DtlsTransportState) :
    (t.cache d).setDtlsState lib state = (t.setDtlsState lib state).cache d := by
  unfold setDtlsState
  rw [cache_dtlsState]
  split <;> rfl

theorem setDtlsState_calls (lib : Libraries) (t : DtlsTransport) (state : DtlsTransportState) :
    (t.setDtlsState lib state).calls = t.calls := by
  obtain ⟨srtp, heq⟩ := setDtlsState_eq lib t state
  rw [heq]

theorem handleDtlsPacket_cache (t : DtlsTransport) (d data : List UInt8) :
    (t.cache d).handleDtlsPacket data =
      ((t.handleDtlsPacket data).1.cache d, (t.handleDtlsPacket data).2) := by
  unfold handleDtlsPacket
  split <;> rfl

theorem readDtls_cache (lib : Libraries) (t : DtlsTransport) (d : List UInt8)
    (results : List StreamResult) :
    (t.cache d).readDtls lib results = (t.readDtls lib results).cache d := by
  induction results with
  | nil => rfl
  | cons result results ih =>
    cases result with
    | success => exact ih
    | block => rfl
    | eos => exact setDtlsState_cache lib (t.setWritableState false) d .closed
    | error => exact setDtlsState_cache lib (t.setWritableState false) d .closed

theorem offerDigest_cache (lib : Libraries) (t : DtlsTransport) (d : List UInt8) (adapter : ℕ) :
    (t.cache d).offerDigest lib adapter =
      ((t.offerDigest lib adapter).1.cache d, (t.offerDigest lib adapter).2) := by
  unfold offerDigest
  show (if t.remoteFingerprintValue = [] then _ else _) = _
  split <;> rfl

/-! ## Calls of `StartSSL` -/

theorem handleDtlsPacket_of_unfit {data : List UInt8} (h : recordsFit data.length data = false) :
    t.handleDtlsPacket data = (t, false) := by
  unfold handleDtlsPacket
  rw [h, if_neg Bool.false_ne_true]

theorem starts_replayClientHello (lib : Libraries) (t : DtlsTransport) :
    starts (t.replayClientHello lib).calls = starts t.calls := by
  unfold replayClientHello
  split
  · rfl
  · cases hfit : recordsFit t.catchedClientHello.length t.catchedClientHello with
    | true =>
      have hhandled : t.handleDtlsPacket t.catchedClientHello =
          (t.call (.onReceivedPacket t.downward t.catchedClientHello), true) := by
        rw [handleDtlsPacket, hfit, if_pos rfl]
      rw [hhandled]
      exact starts_append [.onReceivedPacket t.downward t.catchedClientHello]
    | false =>
      rw [handleDtlsPacket_of_unfit hfit]
      exact congrArg starts (setDtlsState_calls lib t .failed)

/-- `_maybe_start_dtls` calls it where there is an adapter over a writable
channel. -/
theorem starts_maybeStartDtls (lib : Libraries) (t : DtlsTransport) :
    starts (t.maybeStartDtls lib).calls =
      starts t.calls + if t.dtls.isSome && t.channelWritable then 1 else 0 := by
  unfold maybeStartDtls
  cases t.dtls with
  | none => rfl
  | some adapter =>
    cases t.channelWritable with
    | false => rfl
    | true =>
      have hcall : starts (t.call (.startSSL adapter)).calls = starts t.calls + 1 := starts_append _
      simp only [Bool.true_eq_false, if_false]
      split
      · rw [setDtlsState_calls, hcall]
        rfl
      · rw [starts_replayClientHello, setDtlsState_calls, hcall]
        rfl

theorem starts_offerDigest (lib : Libraries) (t : DtlsTransport) (adapter : ℕ) :
    starts (t.offerDigest lib adapter).1.calls = starts t.calls := by
  unfold offerDigest
  split
  · rfl
  · exact starts_append _

/-! ## Until it is called -/

/-- Without a call of it `_maybe_start_dtls` does nothing. -/
theorem maybeStartDtls_of_unstarted
    (h : starts (t.maybeStartDtls lib).calls = starts t.calls) :
    t.dtls = none ∨ t.channelWritable = false := by
  rw [starts_maybeStartDtls] at h
  by_contra hnot
  rw [not_or, ← ne_eq, ← Option.isSome_iff_ne_none, Bool.not_eq_false] at hnot
  rw [hnot.1, hnot.2] at h
  simp at h

theorem maybeStartDtls_cache (h : starts (t.maybeStartDtls lib).calls = starts t.calls) :
    (t.cache d).maybeStartDtls lib = (t.maybeStartDtls lib).cache d := by
  have hnot := maybeStartDtls_of_unstarted h
  rw [maybeStartDtls_of_not hnot, maybeStartDtls_of_not (t := t.cache d) hnot]

theorem configureAdapter_cache
    (h : starts (t.configureAdapter lib adapter).1.calls = starts t.calls) :
    (t.cache d).configureAdapter lib adapter =
      ((t.configureAdapter lib adapter).1.cache d, (t.configureAdapter lib adapter).2) := by
  have hoffered := starts_offerDigest lib t adapter
  unfold configureAdapter at h ⊢
  rw [offerDigest_cache]
  dsimp only at h ⊢
  split
  · rfl
  · split
    · rfl
    · rename_i hok hsuites
      rw [if_neg hok, if_neg hsuites] at h
      rw [maybeStartDtls_cache (h.trans hoffered.symm)]

theorem setupDtls_cache (h : starts (t.setupDtls lib).1.calls = starts t.calls) :
    (t.cache d).setupDtls lib = ((t.setupDtls lib).1.cache d, (t.setupDtls lib).2) := by
  unfold setupDtls at h ⊢
  rw [cache_created]
  split
  · rfl
  · rename_i hcreate
    rw [if_neg hcreate] at h
    exact configureAdapter_cache (t := t.createAdapter lib) h

/-- What a handler does about a call that failed. -/
theorem orFailed_cache (lib : Libraries) (r : DtlsTransport × Bool) (d : List UInt8) :
    (if r.2 then r.1.cache d else (r.1.cache d).setDtlsState lib .failed) =
      (if r.2 then r.1 else r.1.setDtlsState lib .failed).cache d := by
  split
  · rfl
  · exact setDtlsState_cache lib r.1 d .failed

theorem orFailed_starts (lib : Libraries) (r : DtlsTransport × Bool) :
    starts (if r.2 then r.1 else r.1.setDtlsState lib .failed).calls = starts r.1.calls := by
  split
  · rfl
  · rw [setDtlsState_calls]

theorem applyFingerprint_cache {change : Bool}
    (h : starts (t.applyFingerprint lib change).calls = starts t.calls) :
    (t.cache d).applyFingerprint lib change = (t.applyFingerprint lib change).cache d := by
  have hsetup : ∀ v : DtlsTransport,
      starts (if (v.setupDtls lib).2 then (v.setupDtls lib).1
        else (v.setupDtls lib).1.setDtlsState lib .failed).calls = starts v.calls →
      (if ((v.cache d).setupDtls lib).2 then ((v.cache d).setupDtls lib).1
        else ((v.cache d).setupDtls lib).1.setDtlsState lib .failed) =
      (if (v.setupDtls lib).2 then (v.setupDtls lib).1
        else (v.setupDtls lib).1.setDtlsState lib .failed).cache d := by
    intro v hv
    rw [orFailed_starts] at hv
    rw [setupDtls_cache hv]
    exact orFailed_cache lib (v.setupDtls lib) d
  unfold applyFingerprint at h ⊢
  rw [cache_dtls]
  cases hd : t.dtls with
  | none =>
    rw [hd] at h
    exact hsetup t h
  | some adapter =>
    rw [hd] at h
    cases change with
    | false => exact orFailed_cache lib (t.setDigest lib adapter) d
    | true =>
      let v := ({ t with dtls := none }.setDtlsState lib .new).setWritableState false
      have hv : starts v.calls = starts t.calls :=
        congrArg starts (setDtlsState_calls lib { t with dtls := none } .new)
      have hcache : ({ t.cache d with dtls := none }.setDtlsState lib .new).setWritableState false =
          v.cache d := by
        have hset := setDtlsState_cache lib { t with dtls := none } d .new
        exact congrArg (setWritableState · false) hset
      dsimp only
      rw [hcache]
      exact hsetup v (h.trans hv.symm)

theorem onReadPacket_hello (h : Caches t d) :
    t.onReadPacket lib d =
      if t.dtls.isNone && t.localCertificate.isSome then ((t.cache d).setupDtls lib).1
      else t.cache d := by
  unfold onReadPacket
  split
  · rw [if_pos h.2]
    rfl
  · rename_i hstate
    rw [h.1] at hstate
    cases hstate
  · rename_i hstate
    rw [h.1] at hstate
    cases hstate
  · rename_i hnew _ _
    exact absurd h.1 hnew

/-- Another ClientHello takes the place of the one cached. -/
theorem onReadPacket_cache_of_caches {buf : List UInt8} (h : Caches t buf) :
    (t.cache d).onReadPacket lib buf = t.onReadPacket lib buf := by
  rw [onReadPacket_hello h, onReadPacket_hello (t := t.cache d) h]
  rfl

theorem onReadPacket_cache {buf : List UInt8} (h : ¬ Caches t buf) :
    (t.cache d).onReadPacket lib buf = (t.onReadPacket lib buf).cache d := by
  unfold onReadPacket
  rw [cache_dtlsState]
  cases hstate : t.dtlsState with
  | new =>
    dsimp only
    have hnot : ¬ isDtlsClientHelloPacket buf = true := fun hhello => h ⟨hstate, hhello⟩
    rw [if_neg hnot, if_neg hnot]
  | closed => rfl
  | failed => rfl
  | connecting =>
    dsimp only
    rw [handleDtlsPacket_cache]
    split <;> rfl
  | connected =>
    dsimp only
    rw [handleDtlsPacket_cache]
    split
    · rfl
    · split
      · rfl
      · split <;> rfl

theorem setLocalCertificate_cache (t : DtlsTransport) (d : List UInt8) (certificate : Option ℕ) :
    (t.cache d).setLocalCertificate certificate = (t.setLocalCertificate certificate).cache d := by
  unfold setLocalCertificate
  rw [cache_dtlsActive]
  split
  · rfl
  · cases certificate <;> rfl

theorem setRemoteFingerprint_cache {digestAlg : String} {digest : List UInt8}
    (h : starts (t.setRemoteFingerprint lib digestAlg digest).calls = starts t.calls) :
    (t.cache d).setRemoteFingerprint lib digestAlg digest =
      (t.setRemoteFingerprint lib digestAlg digest).cache d := by
  unfold setRemoteFingerprint at h ⊢
  show (if t.dtlsActive && t.remoteFingerprintValue = digest then _ else _) = _
  split
  · rfl
  · rename_i hsame
    rw [if_neg hsame] at h
    split
    · rfl
    · rename_i halg
      rw [if_neg halg] at h
      show (if t.dtlsActive = false then _ else _) = _
      split
      · rfl
      · rename_i hactive
        rw [if_neg hactive] at h
        exact applyFingerprint_cache h

theorem onWritableState_cache (h : starts (t.onWritableState lib).calls = starts t.calls) :
    (t.cache d).onWritableState lib = (t.onWritableState lib).cache d := by
  unfold onWritableState at h ⊢
  rw [cache_dtlsActive, cache_dtlsState]
  split
  · rfl
  · rename_i hactive
    rw [if_neg hactive] at h
    split
    · rename_i hstate
      rw [hstate] at h
      exact maybeStartDtls_cache h
    · rfl
    · rfl

theorem onDtlsEvent_cache (lib : Libraries) (t : DtlsTransport) (d : List UInt8)
    (seOpen seRead seClose : Bool) (results : List StreamResult) (error : ℤ) :
    (t.cache d).onDtlsEvent lib seOpen seRead seClose results error =
      (t.onDtlsEvent lib seOpen seRead seClose results error).cache d := by
  have hopen : (if seOpen then ((t.cache d).setWritableState true).setDtlsState lib .connected
      else t.cache d) =
      (if seOpen then (t.setWritableState true).setDtlsState lib .connected else t).cache d := by
    split
    · exact setDtlsState_cache lib (t.setWritableState true) d .connected
    · rfl
  have hread : ∀ v : DtlsTransport,
      (if seRead then (v.cache d).readDtls lib results else v.cache d) =
        (if seRead then v.readDtls lib results else v).cache d := by
    intro v
    split
    · exact readDtls_cache lib v d results
    · rfl
  unfold onDtlsEvent
  dsimp only
  rw [hopen, hread]
  split
  · exact setDtlsState_cache lib (setWritableState _ false) d _
  · rfl

end DtlsTransport

open DtlsTransport

/-- **Until `StartSSL` is called a cached ClientHello is not seen.** -/
theorem handle_cache (h : StaysUnstarted lib t e) (hkeeps : Keeps t e) :
    handle lib (t.cache d) e = (handle lib t e).cache d := by
  unfold StaysUnstarted handle at h
  unfold handle
  cases e with
  | localCertificate certificate => exact setLocalCertificate_cache t d certificate
  | remoteFingerprint fp => exact setRemoteFingerprint_cache h
  | iceWritable writable =>
    dsimp only at h ⊢
    rw [cache_channelWritable]
    split
    · rfl
    · rename_i hchanged
      rw [if_neg hchanged] at h
      exact onWritableState_cache (t := { t with channelWritable := writable }) h
  | iceReceiving receiving =>
    dsimp only
    rw [cache_channelReceiving]
    split <;> rfl
  | icePacket buf => exact onReadPacket_cache (hkeeps buf rfl)
  | dtlsEvent seOpen seRead seClose results error =>
    exact onDtlsEvent_cache lib t d seOpen seRead seClose results error
  | send => rfl

/-- The cache holds the same ClientHello after such an event. -/
theorem handle_cached (h : StaysUnstarted lib t e) (hkeeps : Keeps t e) :
    (handle lib t e).catchedClientHello = t.catchedClientHello := by
  have hsame : handle lib t e = (handle lib t e).cache t.catchedClientHello := handle_cache h hkeeps
  rw [hsame]
  rfl

/-- Whether an event can happen depends on whether there is an adapter. -/
theorem step_of_dtls {v : DtlsTransport} (h : step lib t e = some v) :
    v = handle lib t e ∧ ∀ u, u.dtls = t.dtls → step lib u e = some (handle lib u e) := by
  unfold step at h ⊢
  split at h
  · cases h
  · rename_i hpossible
    refine ⟨(Option.some.inj h).symm, fun u hu => ?_⟩
    split
    · rename_i hnone
      exact (hpossible _ _ _ _ _ rfl (hu ▸ hnone)).elim
    · rfl

/-- The same of a run. -/
theorem run_cache {es : List Event} (h : Common.run (step lib) t es = some u)
    (hunstarted : EveryStep (step lib) (fun s e _ => StaysUnstarted lib s e) t es) :
    ∃ u', Common.run (step lib) (t.cache d) es = some u' ∧ (u' = u.cache d ∨ u' = u) := by
  induction es generalizing t with
  | nil =>
    obtain rfl : t = u := Option.some.inj h
    exact ⟨_, rfl, .inl rfl⟩
  | cons e es ih =>
    obtain ⟨v, hstep, hrest⟩ := Option.bind_eq_some_iff.1 h
    obtain ⟨hstays, hthen⟩ := hunstarted v hstep
    obtain ⟨rfl, hsame⟩ := step_of_dtls hstep
    rw [run_cons, hsame (t.cache d) rfl, Option.bind_some]
    by_cases hkeeps : Keeps t e
    · rw [handle_cache hstays hkeeps]
      exact ih hrest hthen
    · -- another ClientHello is cached
      obtain ⟨buf, rfl, hcaches⟩ := not_keeps.1 hkeeps
      have hagain : handle lib (t.cache d) (.icePacket buf) = handle lib t (.icePacket buf) :=
        onReadPacket_cache_of_caches hcaches
      rw [hagain]
      exact ⟨u, hrest, .inr rfl⟩

/-- What is cached stays cached. -/
theorem run_cached {es : List Event} (h : Common.run (step lib) t es = some u)
    (hkept : EveryStep (step lib) (fun s e _ => StaysUnstarted lib s e ∧ Keeps s e) t es) :
    u.catchedClientHello = t.catchedClientHello := by
  induction es generalizing t with
  | nil =>
    obtain rfl : t = u := Option.some.inj h
    rfl
  | cons e es ih =>
    obtain ⟨v, hstep, hrest⟩ := Option.bind_eq_some_iff.1 h
    obtain ⟨⟨hstays, hkeeps⟩, hthen⟩ := hkept v hstep
    obtain ⟨rfl, -⟩ := step_of_dtls hstep
    exact (ih hrest hthen).trans (handle_cached hstays hkeeps)

/-! ## Where it is called -/

theorem Malformed.ne_nil (h : Malformed d) : d ≠ [] := by
  rintro rfl
  cases h.dtls

namespace DtlsTransport

theorem setDtlsState_dtlsState (lib : Libraries) (t : DtlsTransport) (state : DtlsTransportState) :
    (t.setDtlsState lib state).dtlsState = state := by
  obtain ⟨srtp, heq⟩ := setDtlsState_eq lib t state
  rw [heq]

theorem replayClientHello_failed (lib : Libraries) (hbad : Malformed t.catchedClientHello) :
    (t.replayClientHello lib).dtlsState = .failed := by
  unfold replayClientHello
  rw [if_neg hbad.ne_nil, handleDtlsPacket_of_unfit hbad.unfit]
  exact setDtlsState_dtlsState lib t .failed

/-- **`StartSSL` with a malformed ClientHello in the cache** fails the
transport, whatever it answers. -/
theorem maybeStartDtls_failed (hbad : Malformed t.catchedClientHello)
    (h : starts (t.maybeStartDtls lib).calls ≠ starts t.calls) :
    (t.maybeStartDtls lib).dtlsState = .failed := by
  unfold maybeStartDtls at h ⊢
  split
  · rename_i hd
    rw [hd] at h
    exact absurd rfl h
  · rename_i adapter hd
    rw [hd] at h
    dsimp only at h
    split
    · rename_i hw
      rw [if_pos hw] at h
      exact absurd rfl h
    · dsimp only
      split
      · exact setDtlsState_dtlsState lib _ .failed
      · obtain ⟨srtp, hstate⟩ := setDtlsState_eq lib (t.call (.startSSL adapter)) .connecting
        rw [hstate]
        exact replayClientHello_failed lib hbad

theorem configureAdapter_failed (hbad : Malformed t.catchedClientHello)
    (h : starts (t.configureAdapter lib adapter).1.calls ≠ starts t.calls) :
    (t.configureAdapter lib adapter).1.dtlsState = .failed := by
  have hoffered := starts_offerDigest lib t adapter
  have hcached : (t.offerDigest lib adapter).1.catchedClientHello = t.catchedClientHello := by
    unfold offerDigest
    split <;> rfl
  unfold configureAdapter at h ⊢
  dsimp only at h ⊢
  split
  · rename_i hok
    rw [if_pos hok] at h
    exact absurd hoffered h
  · rename_i hok
    rw [if_neg hok] at h
    split
    · rename_i hsuites
      rw [if_pos hsuites] at h
      exact absurd hoffered h
    · rename_i hsuites
      rw [if_neg hsuites] at h
      exact maybeStartDtls_failed (hcached ▸ hbad) fun hsame => h (hsame.trans hoffered)

theorem setupDtls_failed (hbad : Malformed t.catchedClientHello)
    (h : starts (t.setupDtls lib).1.calls ≠ starts t.calls) :
    (t.setupDtls lib).1.dtlsState = .failed := by
  unfold setupDtls at h ⊢
  split
  · rename_i hcreate
    rw [if_pos hcreate] at h
    exact absurd rfl h
  · rename_i hcreate
    rw [if_neg hcreate] at h
    exact configureAdapter_failed (t := t.createAdapter lib) hbad h

theorem applyFingerprint_failed {change : Bool} (hbad : Malformed t.catchedClientHello)
    (h : starts (t.applyFingerprint lib change).calls ≠ starts t.calls) :
    (t.applyFingerprint lib change).dtlsState = .failed := by
  have hsetup : ∀ v : DtlsTransport, Malformed v.catchedClientHello →
      starts (if (v.setupDtls lib).2 then (v.setupDtls lib).1
        else (v.setupDtls lib).1.setDtlsState lib .failed).calls ≠ starts v.calls →
      (if (v.setupDtls lib).2 then (v.setupDtls lib).1
        else (v.setupDtls lib).1.setDtlsState lib .failed).dtlsState = .failed := by
    intro v hv hstarts
    rw [orFailed_starts] at hstarts
    split
    · exact setupDtls_failed hv hstarts
    · exact setDtlsState_dtlsState lib _ .failed
  unfold applyFingerprint at h ⊢
  cases hd : t.dtls with
  | none =>
    rw [hd] at h
    exact hsetup t hbad h
  | some adapter =>
    rw [hd] at h
    cases change with
    | false =>
      have hdigest : starts (t.setDigest lib adapter).1.calls = starts t.calls := starts_append _
      exact absurd ((orFailed_starts lib (t.setDigest lib adapter)).trans hdigest) h
    | true =>
      let v := ({ t with dtls := none }.setDtlsState lib .new).setWritableState false
      obtain ⟨srtp, hstate⟩ := setDtlsState_eq lib { t with dtls := none } .new
      have hv : v = { t with dtls := none, dtlsState := .new, srtp := srtp, writable := false } :=
        congrArg (setWritableState · false) hstate
      have hcached : v.catchedClientHello = t.catchedClientHello := by rw [hv]
      have hcalls : v.calls = t.calls := by rw [hv]
      exact hsetup v (hcached ▸ hbad) (hcalls ▸ h)

theorem onWritableState_failed (hbad : Malformed t.catchedClientHello)
    (h : starts (t.onWritableState lib).calls ≠ starts t.calls) :
    (t.onWritableState lib).dtlsState = .failed := by
  unfold onWritableState at h ⊢
  by_cases hactive : t.dtlsActive = false
  · rw [if_pos hactive] at h
    exact absurd rfl h
  · rw [if_neg hactive] at h ⊢
    split at h
    · rename_i hnew
      exact maybeStartDtls_failed hbad h
    · exact absurd rfl h
    · exact absurd rfl h

theorem starts_readDtls (lib : Libraries) (t : DtlsTransport) (results : List StreamResult) :
    starts (t.readDtls lib results).calls = starts t.calls := by
  induction results with
  | nil => rfl
  | cons result results ih =>
    cases result with
    | success => exact ih
    | block => rfl
    | eos => exact congrArg starts (setDtlsState_calls lib (t.setWritableState false) .closed)
    | error => exact congrArg starts (setDtlsState_calls lib (t.setWritableState false) .closed)

theorem starts_onDtlsEvent (lib : Libraries) (t : DtlsTransport) (seOpen seRead seClose : Bool)
    (results : List StreamResult) (error : ℤ) :
    starts (t.onDtlsEvent lib seOpen seRead seClose results error).calls = starts t.calls := by
  have hset : ∀ (v : DtlsTransport) writable state,
      starts ((v.setWritableState writable).setDtlsState lib state).calls = starts v.calls :=
    fun v writable state =>
      congrArg starts (setDtlsState_calls lib (v.setWritableState writable) state)
  have hopen : starts (if seOpen then (t.setWritableState true).setDtlsState lib .connected
      else t).calls = starts t.calls := by
    split
    · exact hset t true .connected
    · rfl
  have hread : ∀ v : DtlsTransport,
      starts (if seRead then v.readDtls lib results else v).calls = starts v.calls := by
    intro v
    split
    · exact starts_readDtls lib v results
    · rfl
  unfold onDtlsEvent
  dsimp only
  split
  · rw [hset, hread, hopen]
  · rw [hread, hopen]

theorem starts_onReadPacket (lib : Libraries) (t : DtlsTransport) {buf : List UInt8}
    (h : ¬ Caches t buf) : starts (t.onReadPacket lib buf).calls = starts t.calls := by
  have hhandled : starts (t.handleDtlsPacket buf).1.calls = starts t.calls := by
    unfold handleDtlsPacket
    split
    · exact starts_append _
    · rfl
  have hstarted : starts (if isDtlsPacket buf then (t.handleDtlsPacket buf).1
      else if t.dtlsState ≠ .connected then t
      else if isRtpPacket buf = false then t
      else { t with srtp := t.srtp.map (·.onReadPacket buf) }).calls = starts t.calls := by
    split
    · exact hhandled
    · split
      · rfl
      · split <;> rfl
  unfold onReadPacket
  split
  · rename_i hstate
    rw [if_neg fun hhello => h ⟨hstate, hhello⟩]
  · exact hstarted
  · exact hstarted
  · rfl

end DtlsTransport

/-- **An event in which `StartSSL` is called**, with a malformed ClientHello
in the cache, ends in the failed state. -/
theorem handle_failed (hbad : Malformed t.catchedClientHello) (hkeeps : Keeps t e)
    (h : ¬ StaysUnstarted lib t e) :
    (handle lib t e).dtlsState = .failed := by
  unfold StaysUnstarted at h
  cases e with
  | localCertificate certificate =>
    refine absurd ?_ h
    show starts (t.setLocalCertificate certificate).calls = _
    unfold setLocalCertificate
    split
    · rfl
    · cases certificate <;> rfl
  | remoteFingerprint fp =>
    have h : starts (t.setRemoteFingerprint lib fp.algorithm fp.digest).calls ≠ starts t.calls := h
    show (t.setRemoteFingerprint lib fp.algorithm fp.digest).dtlsState = .failed
    unfold setRemoteFingerprint at h ⊢
    split
    · rename_i hsame
      rw [if_pos hsame] at h
      exact absurd rfl h
    · rename_i hsame
      rw [if_neg hsame, if_neg fp.algorithm_ne] at h
      rw [if_neg fp.algorithm_ne]
      split
      · rename_i hactive
        rw [if_pos hactive] at h
        exact absurd rfl h
      · rename_i hactive
        rw [if_neg hactive] at h
        exact applyFingerprint_failed hbad h
  | iceWritable writable =>
    unfold handle at h ⊢
    dsimp only at h ⊢
    split
    · rename_i hsame
      rw [if_pos hsame] at h
      exact absurd rfl h
    · rename_i hsame
      rw [if_neg hsame] at h
      exact onWritableState_failed (t := { t with channelWritable := writable }) hbad h
  | iceReceiving receiving =>
    refine absurd ?_ h
    unfold handle
    dsimp only
    split <;> rfl
  | icePacket buf => exact absurd (starts_onReadPacket lib t (hkeeps buf rfl)) h
  | dtlsEvent seOpen seRead seClose results error =>
    exact absurd (starts_onDtlsEvent lib t seOpen seRead seClose results error) h
  | send => exact absurd rfl h

/-! ## A malformed datagram -/

/-- Where it is not cached it changes nothing. -/
theorem step_malformed (hbad : Malformed d) (h : ¬ Caches t d) :
    step lib t (.icePacket d) = some t := by
  have hread : t.onReadPacket lib d = t := by
    unfold onReadPacket
    split
    · rename_i hstate
      rw [if_neg fun hhello => h ⟨hstate, hhello⟩]
    · rw [if_pos hbad.dtls, handleDtlsPacket_of_unfit hbad.unfit]
    · rw [if_pos hbad.dtls, handleDtlsPacket_of_unfit hbad.unfit]
    · rfl
  exact congrArg some hread

theorem setupDtls_unstarted (h : starts (t.setupDtls lib).1.calls = starts t.calls) :
    (t.setupDtls lib).1.dtlsState = t.dtlsState := by
  unfold setupDtls configureAdapter at h ⊢
  have hoffered := starts_offerDigest lib (t.createAdapter lib) t.created
  have hstate : ((t.createAdapter lib).offerDigest lib t.created).1.dtlsState = t.dtlsState := by
    unfold offerDigest
    split <;> rfl
  dsimp only at h ⊢
  split
  · rfl
  · rename_i hcreate
    rw [if_neg hcreate] at h
    split
    · exact hstate
    · rename_i hok
      rw [if_neg hok] at h
      split
      · exact hstate
      · rename_i hsuites
        rw [if_neg hsuites] at h
        rw [maybeStartDtls_of_not (maybeStartDtls_of_unstarted (h.trans hoffered.symm))]
        exact hstate

/-- What a ClientHello that is cached does: the transport stays as it was
but for the cache, or sets an adapter up. -/
theorem handle_hello (h : Caches t d) :
    handle lib t (.icePacket d) =
      if t.dtls.isNone && t.localCertificate.isSome then ((t.cache d).setupDtls lib).1
      else t.cache d :=
  onReadPacket_hello h

/-- What a malformed datagram does when it is cached, and what it does
later. -/
structure CachedMalformed (lib : Libraries) (t : DtlsTransport) (d : List UInt8) : Prop where
  /-- `StartSSL` is not called: the datagram waits in the cache. -/
  waits : StaysUnstarted lib t (.icePacket d) →
    (handle lib t (.icePacket d)).dtlsState = .new ∧
      (handle lib t (.icePacket d)).catchedClientHello = d
  /-- It is called at once. -/
  fails : ¬ StaysUnstarted lib t (.icePacket d) → (handle lib t (.icePacket d)).dtlsState = .failed
  /-- No adapter is made: what follows is as without the datagram until
  `StartSSL` is called, but for the cache. -/
  unseen : t.dtls ≠ none ∨ t.localCertificate = none → ∀ es u,
    Common.run (step lib) t es = some u →
    EveryStep (step lib) (fun s e _ => StaysUnstarted lib s e) t es →
    ∃ u', Common.run (step lib) t (.icePacket d :: es) = some u' ∧ (u' = u.cache d ∨ u' = u)
  /-- `StartSSL` is called while the datagram is still in the cache. -/
  replayed : StaysUnstarted lib t (.icePacket d) → ∀ es u e v,
    Common.run (step lib) t (.icePacket d :: es) = some u →
    EveryStep (step lib) (fun s e _ => StaysUnstarted lib s e ∧ Keeps s e)
      (handle lib t (.icePacket d)) es →
    step lib u e = some v → Keeps u e → ¬ StaysUnstarted lib u e → v.dtlsState = .failed

theorem cachedMalformed (hbad : Malformed d) (h : Caches t d) : CachedMalformed lib t d := by
  have hwaits : StaysUnstarted lib t (.icePacket d) →
      (handle lib t (.icePacket d)).dtlsState = .new ∧
        (handle lib t (.icePacket d)).catchedClientHello = d := by
    intro hstays
    unfold StaysUnstarted at hstays
    rw [handle_hello h] at hstays ⊢
    split
    · rename_i hsetup
      rw [if_pos hsetup] at hstays
      refine ⟨(setupDtls_unstarted (t := t.cache d) hstays).trans h.1, ?_⟩
      have hcache := setupDtls_cache (t := t.cache d) (d := d) hstays
      exact congrArg (fun r => r.1.catchedClientHello) hcache
    · exact ⟨h.1, rfl⟩
  refine ⟨hwaits, fun hstarts => ?_, fun hidle es u hrun hunstarted => ?_,
    fun hstays es u e v hrun hkept hstep hkeeps hstarts => ?_⟩
  · unfold StaysUnstarted at hstarts
    rw [handle_hello h] at hstarts ⊢
    split
    · rename_i hsetup
      rw [if_pos hsetup] at hstarts
      exact setupDtls_failed (t := t.cache d) hbad hstarts
    · rename_i hsetup
      rw [if_neg hsetup] at hstarts
      exact absurd rfl hstarts
  · have hcache : step lib t (.icePacket d) = some (t.cache d) := by
      have hno : ¬ (t.dtls.isNone && t.localCertificate.isSome) = true := by
        rcases hidle with hd | hcert
        · simp [hd]
        · simp [hcert]
      refine congrArg some ((handle_hello h).trans ?_)
      rw [if_neg hno]
    rw [run_cons, hcache, Option.bind_some]
    exact run_cache hrun hunstarted
  · obtain ⟨-, hcached⟩ := hwaits hstays
    have hfirst : step lib t (.icePacket d) = some (handle lib t (.icePacket d)) := rfl
    rw [run_cons, hfirst, Option.bind_some] at hrun
    have hstill : u.catchedClientHello = d := (run_cached hrun hkept).trans hcached
    obtain ⟨rfl, -⟩ := step_of_dtls hstep
    exact handle_failed (hstill.symm ▸ hbad) hkeeps hstarts

/-- **A malformed datagram is dropped wherever it is checked at once**; one
that is cached fails the transport when `StartSSL` is called, unless another
has taken its place. -/
theorem dropped_or_cached (lib : Libraries) (t : DtlsTransport) (hbad : Malformed d) :
    (¬ Caches t d → ∀ es,
      Common.run (step lib) t (.icePacket d :: es) = Common.run (step lib) t es) ∧
    (Caches t d → CachedMalformed lib t d) := by
  refine ⟨fun h es => ?_, cachedMalformed hbad⟩
  rw [run_cons, step_malformed hbad h, Option.bind_some]

/-- A ClientHello whose record says one byte more than the datagram has. -/
def truncatedHello : List UInt8 :=
  [22, 254, 253, 0, 0, 0, 0, 0, 0, 0, 0, 0, 6, 1, 0, 0, 1, 1]

/-- A new transport with a certificate caches it. -/
theorem dropped_or_cached_truncated :
    CachedMalformed obliging (fresh 7 false false none) truncatedHello :=
  (dropped_or_cached obliging (fresh 7 false false none) ⟨rfl, rfl⟩).2 ⟨rfl, rfl⟩

/-- It arrives before the channel is writable, and the transport fails when
the channel becomes so; without it the transport is still new. -/
theorem truncated_fails :
    Malformed truncatedHello ∧
    (Common.run (step obliging) (start obliging false false)
        [.localCertificate (some 7), .icePacket truncatedHello, .iceWritable true]).map
      DtlsTransport.dtlsState = some .failed ∧
    (Common.run (step obliging) (start obliging false false)
        [.localCertificate (some 7), .iceWritable true]).map
      DtlsTransport.dtlsState = some .new :=
  ⟨⟨rfl, rfl⟩, by decide, by decide⟩

end Dtls

end Pc

end XrtcServer
