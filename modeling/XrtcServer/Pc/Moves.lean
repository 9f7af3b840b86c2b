import Mathlib.Logic.Relation
import XrtcServer.Pc.Sessions
/-!
# What the handlers of a DTLS transport are made of

Every handler is a sequence of a few moves: the adapter is created, started
or dropped, the state is set, a session is used, and the rest leaves all of
this alone. What each move keeps is kept by every event.
-/

namespace XrtcServer

namespace Pc

namespace Dtls

open Relation DtlsTransport

variable {lib : Libraries} {t u v : DtlsTransport} {e : Event}

/-! ## Moves -/

/-- Neither the adapter, the state, the sessions nor the flags are touched,
and no handshake is started. -/
structure Aside (t u : DtlsTransport) : Prop where
  state : u.dtlsState = t.dtlsState
  dtls : u.dtls = t.dtls
  srtp : u.srtp = t.srtp
  channelWritable : u.channelWritable = t.channelWritable
  channelReceiving : u.channelReceiving = t.channelReceiving
  receiving : u.receiving = t.receiving
  started : ∀ adapter, .startSSL adapter ∈ u.calls → .startSSL adapter ∈ t.calls

/-- **One move.** -/
inductive Move (lib : Libraries) : DtlsTransport → DtlsTransport → Prop
  | aside {t u : DtlsTransport} : Aside t u → Move lib t u
  /-- The handshake is started over a channel that is writable. -/
  | startSSL {t : DtlsTransport} (adapter : ℕ) : t.channelWritable = true →
      Move lib t (t.call (.startSSL adapter))
  | setDtlsState (t : DtlsTransport) (state : DtlsTransportState) :
      Move lib t (t.setDtlsState lib state)
  /-- Where the transport is connected, an adapter is not replaced. -/
  | createAdapter {t : DtlsTransport} : (t.dtlsState = .connected → t.dtls = none) →
      Move lib t (t.createAdapter lib)
  /-- The adapter goes, and the transport is new. -/
  | dropAdapter (t : DtlsTransport) : Move lib t ({ t with dtls := none }.setDtlsState lib .new)
  /-- A packet is protected or unprotected. -/
  | useSrtp (t : DtlsTransport) (g : DtlsSrtpTransport → DtlsSrtpTransport) :
      (∀ srtp, (g srtp).sendSession = srtp.sendSession ∧
        (g srtp).recvSession = srtp.recvSession) →
      Move lib t { t with srtp := t.srtp.map g }

/-- Some moves. -/
abbrev Moves (lib : Libraries) : DtlsTransport → DtlsTransport → Prop := ReflTransGen (Move lib)

theorem Aside.moves (h : Aside t u) : Moves lib t u := .single (.aside h)

theorem Move.moves (h : Move lib t u) : Moves lib t u := .single h

theorem aside_rest (t : DtlsTransport) (catchedClientHello remoteFingerprintValue : List UInt8)
    (remoteFingerprintAlg : String) (localCertificate : Option ℕ) (dtlsActive writable : Bool) :
    Aside t { t with
      catchedClientHello := catchedClientHello
      remoteFingerprintValue := remoteFingerprintValue
      remoteFingerprintAlg := remoteFingerprintAlg
      localCertificate := localCertificate
      dtlsActive := dtlsActive
      writable := writable } := ⟨rfl, rfl, rfl, rfl, rfl, rfl, fun _ h => h⟩

theorem aside_call (t : DtlsTransport) {c : SslCall} (h : ∀ adapter, c ≠ .startSSL adapter) :
    Aside t (t.call c) := by
  refine ⟨rfl, rfl, rfl, rfl, rfl, rfl, fun adapter hmem => ?_⟩
  rcases List.mem_append.1 hmem with hmem | hmem
  · exact hmem
  · exact absurd (List.mem_singleton.1 hmem).symm (h adapter)

/-! ## The handlers -/

theorem moves_setWritableState (t : DtlsTransport) (writable : Bool) :
    Moves lib t (t.setWritableState writable) :=
  (aside_rest t _ _ _ _ _ writable).moves

/-- What a handler does about a call that failed. -/
theorem moves_orFailed {r : DtlsTransport × Bool} (h : Moves lib t r.1) :
    Moves lib t (if r.2 then r.1 else r.1.setDtlsState lib .failed) := by
  split
  · exact h
  · exact h.tail (.setDtlsState _ .failed)

theorem moves_handleDtlsPacket (t : DtlsTransport) (data : List UInt8) :
    Moves lib t (t.handleDtlsPacket data).1 := by
  unfold handleDtlsPacket
  split
  · exact (aside_call t fun _ h => by cases h).moves
  · exact .refl

theorem moves_replayClientHello (t : DtlsTransport) : Moves lib t (t.replayClientHello lib) := by
  unfold replayClientHello
  split
  · exact .refl
  · have hcleared : ∀ u : DtlsTransport, Moves lib u { u with catchedClientHello := [] } :=
      fun u => (aside_rest u [] _ _ _ _ _).moves
    exact (moves_orFailed (moves_handleDtlsPacket t t.catchedClientHello)).trans (hcleared _)

theorem moves_maybeStartDtls (t : DtlsTransport) : Moves lib t (t.maybeStartDtls lib) := by
  unfold maybeStartDtls
  split
  · exact .refl
  · rename_i adapter _
    split
    · exact .refl
    · rename_i hwritable
      have hstart : Moves lib t (t.call (.startSSL adapter)) :=
        (Move.startSSL adapter (Bool.not_eq_false _ ▸ hwritable)).moves
      dsimp only
      split
      · exact hstart.tail (.setDtlsState _ .failed)
      · exact (hstart.tail (.setDtlsState _ .connecting)).trans (moves_replayClientHello _)

theorem moves_setDigest (t : DtlsTransport) (adapter : ℕ) :
    Moves lib t (t.setDigest lib adapter).1 :=
  (aside_call t fun _ h => by cases h).moves

theorem moves_configureAdapter (t : DtlsTransport) (adapter : ℕ) :
    Moves lib t (t.configureAdapter lib adapter).1 := by
  have hdigest : Moves lib t (t.offerDigest lib adapter).1 := by
    unfold offerDigest
    split
    · exact .refl
    · exact moves_setDigest t adapter
  unfold configureAdapter
  dsimp only
  split
  · exact hdigest
  · split
    · exact hdigest
    · exact hdigest.trans (moves_maybeStartDtls _)

theorem moves_setupDtls (h : t.dtlsState = .connected → t.dtls = none) :
    Moves lib t (t.setupDtls lib).1 := by
  have hcreated : Moves lib t (t.createAdapter lib) := (Move.createAdapter h).moves
  unfold setupDtls
  split
  · exact hcreated
  · exact hcreated.trans (moves_configureAdapter _ _)

theorem moves_setLocalCertificate (t : DtlsTransport) (certificate : Option ℕ) :
    Moves lib t (t.setLocalCertificate certificate) := by
  unfold setLocalCertificate
  split
  · exact .refl
  · cases certificate with
    | none => exact .refl
    | some certificate => exact (aside_rest t _ _ _ (some certificate) true _).moves

theorem moves_applyFingerprint (t : DtlsTransport) (change : Bool) :
    Moves lib t (t.applyFingerprint lib change) := by
  unfold applyFingerprint
  split
  · exact moves_orFailed (moves_setDigest t _)
  · have hdropped : Moves lib t
        (({ t with dtls := none }.setDtlsState lib .new).setWritableState false) :=
      (Move.dropAdapter t).moves.trans (moves_setWritableState _ false)
    obtain ⟨srtp, heq⟩ := setDtlsState_eq lib { t with dtls := none } .new
    rw [heq] at hdropped ⊢
    exact moves_orFailed (hdropped.trans (moves_setupDtls fun _ => rfl))
  · rename_i hnone
    exact moves_orFailed (moves_setupDtls fun _ => hnone)

theorem moves_setRemoteFingerprint (t : DtlsTransport) (digestAlg : String) (digest : List UInt8) :
    Moves lib t (t.setRemoteFingerprint lib digestAlg digest) := by
  unfold setRemoteFingerprint
  split
  · exact .refl
  · split
    · exact (aside_rest t _ _ _ _ false _).moves
    · split
      · exact .refl
      · exact (aside_rest t _ digest digestAlg _ _ _).moves.trans (moves_applyFingerprint _ _)

theorem moves_onWritableState (t : DtlsTransport) : Moves lib t (t.onWritableState lib) := by
  unfold onWritableState
  split
  · exact moves_setWritableState t _
  · split
    · exact moves_maybeStartDtls t
    · exact moves_setWritableState t _
    · exact .refl

theorem moves_readDtls (t : DtlsTransport) (results : List StreamResult) :
    Moves lib t (t.readDtls lib results) := by
  have hclosed : Moves lib t ((t.setWritableState false).setDtlsState lib .closed) :=
    (moves_setWritableState t false).tail (.setDtlsState _ .closed)
  induction results with
  | nil => exact .refl
  | cons result results ih =>
    cases result with
    | success => exact ih
    | eos => exact hclosed
    | error => exact hclosed
    | block => exact .refl

theorem moves_onDtlsEvent (t : DtlsTransport) (seOpen seRead seClose : Bool)
    (results : List StreamResult) (error : ℤ) :
    Moves lib t (t.onDtlsEvent lib seOpen seRead seClose results error) := by
  have hset : ∀ (u : DtlsTransport) (writable : Bool) (state : DtlsTransportState),
      Moves lib u ((u.setWritableState writable).setDtlsState lib state) :=
    fun u writable state => (moves_setWritableState u writable).tail (.setDtlsState _ state)
  have hopen : Moves lib t
      (if seOpen then (t.setWritableState true).setDtlsState lib .connected else t) := by
    split
    · exact hset t true .connected
    · exact .refl
  have hread : ∀ u : DtlsTransport, Moves lib u (if seRead then u.readDtls lib results else u) := by
    intro u
    split
    · exact moves_readDtls u results
    · exact .refl
  have hclose : ∀ u : DtlsTransport, Moves lib u
      (if seClose then
        (u.setWritableState false).setDtlsState lib (if error = 0 then .closed else .failed)
      else u) := by
    intro u
    split
    · exact hset u false _
    · exact .refl
  exact (hopen.trans (hread _)).trans (hclose _)

theorem use_sessions (srtp : DtlsSrtpTransport) (session : Option SrtpSession) :
    (srtp.use session).sendSession = srtp.sendSession ∧
      (srtp.use session).recvSession = srtp.recvSession := by
  unfold DtlsSrtpTransport.use
  split
  · exact ⟨rfl, rfl⟩
  · exact ⟨rfl, rfl⟩

theorem moves_onReadPacket (t : DtlsTransport) (buf : List UInt8) :
    Moves lib t (t.onReadPacket lib buf) := by
  have hmedia : Moves lib t { t with srtp := t.srtp.map (·.onReadPacket buf) } := by
    refine (Move.useSrtp t (·.onReadPacket buf) fun srtp => ?_).moves
    rcases onReadPacket_eq srtp buf with h | h | h
    · rw [h]
      exact ⟨rfl, rfl⟩
    · rw [h]
      exact use_sessions srtp _
    · rw [h]
      exact use_sessions srtp _
  have hpacket : Moves lib t (if isDtlsPacket buf then (t.handleDtlsPacket buf).1
      else if t.dtlsState ≠ .connected then t
      else if isRtpPacket buf = false then t
      else { t with srtp := t.srtp.map (·.onReadPacket buf) }) := by
    split
    · exact moves_handleDtlsPacket t buf
    · split
      · exact .refl
      · split
        · exact .refl
        · exact hmedia
  unfold onReadPacket
  split
  · rename_i hnew
    split
    · have hcached : Moves lib t { t with catchedClientHello := buf } :=
        (aside_rest t buf _ _ _ _ _).moves
      dsimp only
      split
      · exact hcached.trans (moves_setupDtls fun hc => by rw [hnew] at hc; cases hc)
      · exact hcached
    · exact .refl
  · exact hpacket
  · exact hpacket
  · exact .refl

/-! ## Events -/

/-- What the channel says in an event. -/
def heard (t : DtlsTransport) : Event → DtlsTransport
  | .iceWritable writable => { t with channelWritable := writable }
  | .iceReceiving receiving =>
    if receiving = t.channelReceiving then t
    else { t with channelReceiving := receiving, receiving := receiving }
  | _ => t

/-- **Every event is some moves**, once the flags of the channel are noted. -/
theorem moves_handle (lib : Libraries) (t : DtlsTransport) (e : Event) :
    Moves lib (heard t e) (handle lib t e) := by
  cases e with
  | localCertificate certificate => exact moves_setLocalCertificate t certificate
  | remoteFingerprint fingerprint => exact moves_setRemoteFingerprint t _ _
  | iceWritable writable =>
    show Moves lib { t with channelWritable := writable } (if writable = t.channelWritable then t
      else { t with channelWritable := writable }.onWritableState lib)
    split
    · rename_i hsame
      rw [hsame]
    · exact moves_onWritableState _
  | iceReceiving receiving => exact .refl
  | icePacket buf => exact moves_onReadPacket t buf
  | dtlsEvent seOpen seRead seClose results error => exact moves_onDtlsEvent t _ _ _ _ _
  | send => exact (Move.useSrtp t (·.send) fun srtp => use_sessions srtp _).moves

/-- **The rule of the moves**: what each move keeps is kept by some. -/
theorem Moves.keep {I : DtlsTransport → Prop} (hI : ∀ t u, I t → Move lib t u → I u)
    (h : Moves lib t u) (ht : I t) : I u := by
  induction h with
  | refl => exact ht
  | tail _ hmove ih => exact hI _ _ ih hmove

/-! ## The flags of the channel -/

theorem Move.flags (h : Move lib t u) : u.channelWritable = t.channelWritable ∧
    u.channelReceiving = t.channelReceiving ∧ u.receiving = t.receiving := by
  have hstate : ∀ (v : DtlsTransport) state,
      (v.setDtlsState lib state).channelWritable = v.channelWritable ∧
        (v.setDtlsState lib state).channelReceiving = v.channelReceiving ∧
        (v.setDtlsState lib state).receiving = v.receiving := by
    intro v state
    obtain ⟨srtp, heq⟩ := setDtlsState_eq lib v state
    rw [heq]
    exact ⟨rfl, rfl, rfl⟩
  cases h with
  | aside h => exact ⟨h.channelWritable, h.channelReceiving, h.receiving⟩
  | startSSL => exact ⟨rfl, rfl, rfl⟩
  | setDtlsState state => exact hstate t state
  | createAdapter => exact ⟨rfl, rfl, rfl⟩
  | dropAdapter => exact hstate { t with dtls := none } .new
  | useSrtp => exact ⟨rfl, rfl, rfl⟩

/-- **A transport knows of the channel what it has heard.** -/
theorem handle_flags (lib : Libraries) (t : DtlsTransport) (e : Event) :
    (handle lib t e).channelWritable = (heard t e).channelWritable ∧
      (handle lib t e).channelReceiving = (heard t e).channelReceiving ∧
      (handle lib t e).receiving = (heard t e).receiving := by
  let I : DtlsTransport → Prop := fun v => v.channelWritable = (heard t e).channelWritable ∧
    v.channelReceiving = (heard t e).channelReceiving ∧ v.receiving = (heard t e).receiving
  refine Moves.keep (I := I) (fun v w hv hmove => ?_) (moves_handle lib t e) ⟨rfl, rfl, rfl⟩
  have hflags := hmove.flags
  exact ⟨hflags.1.trans hv.1, hflags.2.1.trans hv.2.1, hflags.2.2.trans hv.2.2⟩

end Dtls

end Pc

end XrtcServer
