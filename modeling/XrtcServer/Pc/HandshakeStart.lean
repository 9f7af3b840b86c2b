import XrtcServer.Pc.Sessions
/-!
# The start of the handshake

A ClientHello, the fingerprint of the answer and the channel becoming
writable reach a new transport in any order, each any number of times. Until
there is an adapter over a writable channel the transport waits, and every
handler ends where `_maybe_start_dtls` would leave it; from then on the
handshake is under way and nothing starts it again.
-/

namespace XrtcServer

namespace Pc

namespace Dtls

open Base Common

/-! ## What arrives -/

/-- A ClientHello that fills its datagram with whole records. -/
structure ClientHello where
  bytes : List UInt8
  isHello : isDtlsClientHelloPacket bytes = true
  fits : recordsFit bytes.length bytes = true

/-- What reaches the transport before the handshake and while it is under way. -/
inductive Arrival where
  | clientHello (hello : ClientHello)
  | fingerprint
  | writable (writable : Bool)

/-- The event, where the answer has this fingerprint. -/
def Arrival.event (fp : RemoteFingerprint) : Arrival → Event
  | .clientHello hello => .icePacket hello.bytes
  | .fingerprint => .remoteFingerprint fp
  | .writable b => .iceWritable b

/-- Whether it makes the transport create an adapter. -/
def Arrival.creates : Arrival → Bool
  | .clientHello _ | .fingerprint => true
  | .writable _ => false

def Arrival.isFingerprint : Arrival → Bool
  | .fingerprint => true
  | _ => false

/-- A new transport with a certificate. -/
def fresh (certificate : ℕ) (writable receiving : Bool) (srtp : Option DtlsSrtpTransport) :
    DtlsTransport :=
  DtlsTransport.setLocalCertificate
    { channelWritable := writable, channelReceiving := receiving, srtp := srtp } (some certificate)

/-- The transport after what arrived. -/
def after (lib : Libraries) (fp : RemoteFingerprint) (t : DtlsTransport) (as : List Arrival) :
    DtlsTransport :=
  (as.map (Arrival.event fp)).foldl (handle lib) t

/-- The ClientHellos, in order. -/
def hellos (as : List Arrival) : List (List UInt8) :=
  as.filterMap fun
    | .clientHello hello => some hello.bytes
    | _ => none

/-- Whether the channel is writable in the end. -/
def writableAfter (writable : Bool) (as : List Arrival) : Bool :=
  as.foldl (fun w a => match a with | .writable b => b | _ => w) writable

/-- There is an adapter and the channel is writable. -/
def Ready (writable : Bool) (as : List Arrival) : Prop :=
  as.any Arrival.creates = true ∧ writableAfter writable as = true

/-- It never was so. -/
def NeverReady (writable : Bool) (as : List Arrival) : Prop :=
  ∀ bs, bs <+: as → ¬ Ready writable bs

/-! ## What the adapter is called with -/

/-- The adapter of a call. -/
def SslCall.adapter : SslCall → Option ℕ
  | .setPeerCertificateDigest adapter _ _ => some adapter
  | .startSSL adapter => some adapter
  | .onReceivedPacket adapter _ => adapter

def starts (calls : List SslCall) : ℕ :=
  calls.countP fun
    | .startSSL _ => true
    | _ => false

/-- The packets injected, in order. -/
def injected (calls : List SslCall) : List (List UInt8) :=
  calls.filterMap fun
    | .onReceivedPacket _ packet => some packet
    | _ => none

/-- The digests set, in order. -/
def digests (calls : List SslCall) : List (String × List UInt8) :=
  calls.filterMap fun
    | .setPeerCertificateDigest _ digestAlg digest => some (digestAlg, digest)
    | _ => none

/-- What the claim on `StartSSL` needs of the libraries. -/
structure Libraries.Succeeds (lib : Libraries) : Prop where
  create : ∀ adapter, lib.create adapter = true
  startSSL : ∀ adapter, lib.startSSL adapter = 0
  setPeerCertificateDigest : ∀ adapter digestAlg digest,
    lib.setPeerCertificateDigest adapter digestAlg digest = none
  setDtlsSrtpCryptoSuites : ∀ adapter, lib.setDtlsSrtpCryptoSuites adapter = true

/-- **The handshake is started once, at the first moment it can be.** Before
that moment the state is new and nothing is injected; after it the state is
connecting, and the adapter has got the latest ClientHello of those before
and every later one. It has the digest once the fingerprint is there. -/
structure StartsOnce (writable : Bool) (fp : RemoteFingerprint) (as : List Arrival)
    (t : DtlsTransport) : Prop where
  dtls : t.dtls = if as.any Arrival.creates then some 0 else none
  calls : ∀ c ∈ t.calls, c.adapter = t.dtls
  digests : digests t.calls =
    if as.any Arrival.isFingerprint then [(fp.algorithm, fp.digest)] else []
  phase :
    (NeverReady writable as ∧ starts t.calls = 0 ∧ t.dtlsState = .new ∧ injected t.calls = []) ∨
    (∃ before a rest, as = before ++ a :: rest ∧ NeverReady writable before ∧
      Ready writable (before ++ [a]) ∧ starts t.calls = 1 ∧ t.dtlsState = .connecting ∧
      injected t.calls = (hellos (before ++ [a])).getLast?.toList ++ hellos rest)

variable {lib : Libraries} {fp : RemoteFingerprint} {t : DtlsTransport} {as : List Arrival}
variable {a : Arrival} {w writable made told : Bool} {calls : List SslCall}

/-! ## Lists that grow at the end -/

theorem hellos_append (as bs : List Arrival) : hellos (as ++ bs) = hellos as ++ hellos bs :=
  List.filterMap_append

theorem writableAfter_concat :
    writableAfter w (as ++ [a]) = match a with | .writable b => b | _ => writableAfter w as := by
  rw [writableAfter, List.foldl_append]
  rfl

theorem starts_append (more : List SslCall) :
    starts (calls ++ more) = starts calls + starts more :=
  List.countP_append

theorem injected_append (more : List SslCall) :
    injected (calls ++ more) = injected calls ++ injected more :=
  List.filterMap_append

theorem digests_append (more : List SslCall) :
    digests (calls ++ more) = digests calls ++ digests more :=
  List.filterMap_append

theorem neverReady_concat (h : NeverReady w as) (ha : ¬ Ready w (as ++ [a])) :
    NeverReady w (as ++ [a]) := by
  intro bs hbs
  rcases List.prefix_concat_iff.1 hbs with rfl | hbs
  · exact ha
  · exact h bs hbs

theorem NeverReady.not_ready (h : NeverReady w as) : ¬ Ready w as := h as (List.prefix_refl as)

/-! ## Starting -/

/-- What `_maybe_start_dtls` does with an adapter over a writable channel. -/
theorem maybeStartDtls_eq (hlib : lib.Succeeds) {adapter : ℕ} (hd : t.dtls = some adapter)
    (hw : t.channelWritable = true)
    (hfit : recordsFit t.catchedClientHello.length t.catchedClientHello = true) :
    ∃ srtp, t.maybeStartDtls lib = { t with
      dtlsState := .connecting
      srtp := srtp
      catchedClientHello := []
      calls := t.calls ++ .startSSL adapter ::
        (if t.catchedClientHello = [] then []
          else [.onReceivedPacket t.downward t.catchedClientHello]) } := by
  obtain ⟨srtp, hstate⟩ := setDtlsState_eq lib (t.call (.startSSL adapter)) .connecting
  refine ⟨srtp, ?_⟩
  have hstart : t.maybeStartDtls lib =
      DtlsTransport.replayClientHello lib
        { t.call (.startSSL adapter) with dtlsState := .connecting, srtp := srtp } := by
    rw [← hstate]
    simp [DtlsTransport.maybeStartDtls, hd, hw, hlib.startSSL]
  rw [hstart, DtlsTransport.replayClientHello]
  by_cases hc : t.catchedClientHello = []
  · simp [DtlsTransport.call, hc]
  · simp [DtlsTransport.call, DtlsTransport.handleDtlsPacket, hc, hfit]

/-- Without an adapter, or over a channel that is not writable, it does nothing. -/
theorem maybeStartDtls_of_not (h : t.dtls = none ∨ t.channelWritable = false) :
    t.maybeStartDtls lib = t := by
  unfold DtlsTransport.maybeStartDtls
  split
  · rfl
  · rename_i hd
    rcases h with h | h
    · rw [h] at hd
      cases hd
    · rw [if_pos h]

/-- A new adapter is told the fingerprint there is, and started if it can be. -/
theorem setupDtls_eq (hlib : lib.Succeeds) :
    t.setupDtls lib = (DtlsTransport.maybeStartDtls lib { t with
      created := t.created + 1
      downward := some t.created
      dtls := some t.created
      calls := t.calls ++
        (if t.remoteFingerprintValue = [] then []
          else [.setPeerCertificateDigest t.created t.remoteFingerprintAlg
            t.remoteFingerprintValue]) }, true) := by
  by_cases hv : t.remoteFingerprintValue = []
  · simp [DtlsTransport.setupDtls, DtlsTransport.createAdapter, DtlsTransport.configureAdapter,
      DtlsTransport.offerDigest, hlib.create, hlib.setDtlsSrtpCryptoSuites, hv]
  · simp [DtlsTransport.setupDtls, DtlsTransport.createAdapter, DtlsTransport.configureAdapter,
      DtlsTransport.offerDigest, DtlsTransport.setDigest, DtlsTransport.call, hlib.create,
      hlib.setPeerCertificateDigest, hlib.setDtlsSrtpCryptoSuites, hv]

/-! ## The invariant -/

/-- What holds of the transport whether it waits or has started: the
channel's flag, and whether there is an adapter and it has been told the
fingerprint. -/
structure Reflects (fp : RemoteFingerprint) (channel made told : Bool) (t : DtlsTransport) :
    Prop where
  channel : t.channelWritable = channel
  active : t.dtlsActive = true
  certified : t.localCertificate.isSome = true
  value : t.remoteFingerprintValue = if told then fp.digest else []
  alg : t.remoteFingerprintAlg = if told then fp.algorithm else ""
  dtls : t.dtls = if made then some 0 else none
  downward : t.downward = t.dtls
  unmade : made = false → t.created = 0 ∧ t.calls = []
  calls : ∀ c ∈ t.calls, c.adapter = t.dtls
  digests : Dtls.digests t.calls = if told then [(fp.algorithm, fp.digest)] else []

/-- The same, of what arrived. -/
abbrev ReflectsAll (w : Bool) (fp : RemoteFingerprint) (as : List Arrival) (t : DtlsTransport) :
    Prop :=
  Reflects fp (writableAfter w as) (as.any Arrival.creates) (as.any Arrival.isFingerprint) t

/-- Nothing has been started; the latest ClientHello is cached. -/
structure Waiting (as : List Arrival) (t : DtlsTransport) : Prop where
  starts : starts t.calls = 0
  state : t.dtlsState = .new
  injected : injected t.calls = []
  cached : t.catchedClientHello = (hellos as).getLast?.getD []
  fits : recordsFit t.catchedClientHello.length t.catchedClientHello = true

/-- The handshake has been started, after `before`, with `a`. -/
structure Started (before : List Arrival) (a : Arrival) (rest : List Arrival)
    (t : DtlsTransport) : Prop where
  starts : starts t.calls = 1
  state : t.dtlsState = .connecting
  injected : injected t.calls =
    (hellos (before ++ [a])).getLast?.toList ++ hellos rest

/-- The transport waits while it never was ready, and then has started. -/
def Phase (w : Bool) (as : List Arrival) (t : DtlsTransport) : Prop :=
  (NeverReady w as ∧ Waiting as t) ∨
    ∃ before a rest, as = before ++ a :: rest ∧ NeverReady w before ∧
      Ready w (before ++ [a]) ∧ Started before a rest t

theorem hellos_ne_nil (as : List Arrival) : ∀ bytes ∈ hellos as, bytes ≠ [] := by
  intro bytes hmem hnil
  obtain ⟨a, -, ha⟩ := List.mem_filterMap.1 hmem
  cases a with
  | clientHello hello =>
    obtain rfl := Option.some.inj ha
    have hh := hello.isHello
    rw [hnil] at hh
    simp [isDtlsClientHelloPacket, isDtlsPacket, k_dtls_record_header_len] at hh
  | fingerprint => cases ha
  | writable b => cases ha

/-- **Where every handler of a waiting transport ends.** It has made its
changes, and starts what can be started. -/
theorem phase_maybeStartDtls (hlib : lib.Succeeds) (hr : ReflectsAll w fp (as ++ [a]) t)
    (hnever : NeverReady w as) (hwait : Waiting (as ++ [a]) t) :
    ReflectsAll w fp (as ++ [a]) (t.maybeStartDtls lib) ∧
      Phase w (as ++ [a]) (t.maybeStartDtls lib) := by
  by_cases hready : Ready w (as ++ [a])
  · have hd : t.dtls = some 0 := by rw [hr.dtls, if_pos hready.1]
    have hw : t.channelWritable = true := hr.channel.trans hready.2
    obtain ⟨srtp, heq⟩ := maybeStartDtls_eq hlib hd hw hwait.fits
    rw [heq]
    have hmore : ∀ c ∈ (if t.catchedClientHello = [] then []
        else [.onReceivedPacket t.downward t.catchedClientHello] : List SslCall),
        c = .onReceivedPacket t.downward t.catchedClientHello := by
      intro c hc
      split at hc
      · cases hc
      · exact List.mem_singleton.1 hc
    refine ⟨{ hr with unmade := fun h => ?_, calls := fun c hc => ?_, digests := ?_ },
      .inr ⟨as, a, [], rfl, hnever, hready, ?_, rfl, ?_⟩⟩
    · rw [hready.1] at h
      cases h
    · rcases List.mem_append.1 hc with hc | hc
      · exact hr.calls c hc
      · rcases List.mem_cons.1 hc with rfl | hc
        · exact hd.symm
        · rw [hmore c hc]
          exact hr.downward
    · rw [digests_append, hr.digests]
      split <;> split <;> simp [Dtls.digests]
    · rw [starts_append, hwait.starts]
      split <;> simp [starts]
    · -- the cached ClientHello is the latest of those that arrived
      rw [injected_append, hwait.injected, List.nil_append]
      have hcached := hwait.cached
      rcases hlast : (hellos (as ++ [a])).getLast? with _ | bytes
      · rw [hlast, Option.getD_none] at hcached
        rw [if_pos hcached]
        rfl
      · rw [hlast, Option.getD_some] at hcached
        have hne := hellos_ne_nil _ bytes (List.mem_of_getLast? hlast)
        rw [hcached, if_neg hne]
        rfl
  · have hsame : t.maybeStartDtls lib = t := by
      refine maybeStartDtls_of_not ?_
      rw [hr.dtls, hr.channel]
      by_cases hc : (as ++ [a]).any Arrival.creates = true
      · refine .inr ?_
        rw [← Bool.not_eq_true]
        exact fun hw => hready ⟨hc, hw⟩
      · rw [if_neg hc]
        exact .inl rfl
    rw [hsame]
    exact ⟨hr, .inl ⟨neverReady_concat hnever hready, hwait⟩⟩

/-! ## One arrival -/

theorem any_concat (p : Arrival → Bool) : (as ++ [a]).any p = (as.any p || p a) := by
  simp [List.any_append]

theorem creates_of_fingerprint (h : as.any Arrival.isFingerprint = true) :
    as.any Arrival.creates = true := by
  obtain ⟨a, hmem, ha⟩ := List.any_eq_true.1 h
  refine List.any_eq_true.2 ⟨a, hmem, ?_⟩
  cases a with
  | fingerprint => rfl
  | clientHello hello => cases ha
  | writable b => cases ha

/-- A waiting transport with an adapter is over a channel that is not writable. -/
theorem not_writable_of_waiting (hr : ReflectsAll w fp as t) (hnever : NeverReady w as)
    (hc : as.any Arrival.creates = true) : t.channelWritable = false := by
  rw [hr.channel, ← Bool.not_eq_true]
  exact fun hw => hnever.not_ready ⟨hc, hw⟩

theorem Waiting.hello (hwait : Waiting as t) (hello : ClientHello) :
    Waiting (as ++ [.clientHello hello]) { t with catchedClientHello := hello.bytes } := by
  refine { hwait with cached := ?_, fits := hello.fits }
  rw [hellos_append]
  show hello.bytes = (hellos as ++ [hello.bytes]).getLast?.getD []
  rw [List.getLast?_concat, Option.getD_some]

/-- What arrives beside ClientHellos changes none of what is cached. -/
theorem Waiting.other (hwait : Waiting as t) (ha : hellos [a] = []) : Waiting (as ++ [a]) t := by
  refine { hwait with cached := ?_ }
  rw [hellos_append, ha, List.append_nil]
  exact hwait.cached

/-- The adapter a waiting transport creates, once what is cached and known
of the fingerprint is up to date. -/
theorem setupDtls_reflects (hlib : lib.Succeeds) {channel : Bool} (told : Bool)
    (hchannel : t.channelWritable = channel) (hactive : t.dtlsActive = true)
    (hcert : t.localCertificate.isSome = true)
    (hvalue : t.remoteFingerprintValue = if told then fp.digest else [])
    (halg : t.remoteFingerprintAlg = if told then fp.algorithm else "")
    (hcreated : t.created = 0) (hcalls : t.calls = []) :
    ∃ t', t.setupDtls lib = (t'.maybeStartDtls lib, true) ∧ Reflects fp channel true told t' ∧
      t'.dtlsState = t.dtlsState ∧ t'.catchedClientHello = t.catchedClientHello ∧
      starts t'.calls = 0 ∧ injected t'.calls = [] := by
  refine ⟨_, setupDtls_eq hlib, ⟨hchannel, hactive, hcert, hvalue, halg, ?_, rfl, nofun, ?_, ?_⟩,
    rfl, rfl, ?_, ?_⟩ <;> simp only [hcreated, hcalls, List.nil_append]
  · rfl
  · intro c hc
    split at hc
    · cases hc
    · obtain rfl := List.mem_singleton.1 hc
      rfl
  · rw [hvalue, halg]
    cases told with
    | false => rfl
    | true => simp [Dtls.digests, fp.digest_ne]
  · split <;> rfl
  · split <;> rfl

/-- A ClientHello while the state is new. -/
theorem onReadPacket_new (hs : t.dtlsState = .new) (hello : ClientHello) :
    t.onReadPacket lib hello.bytes =
      if t.dtls.isNone && t.localCertificate.isSome then
        (DtlsTransport.setupDtls lib { t with catchedClientHello := hello.bytes }).1
      else { t with catchedClientHello := hello.bytes } := by
  unfold DtlsTransport.onReadPacket
  rw [hs]
  simp only [hello.isHello, if_true]

/-- A ClientHello reaches a waiting transport. -/
theorem phase_hello (hlib : lib.Succeeds) (hr : ReflectsAll w fp as t) (hnever : NeverReady w as)
    (hwait : Waiting as t) (hello : ClientHello) :
    ∃ t', handle lib t (.icePacket hello.bytes) = t'.maybeStartDtls lib ∧
      Reflects fp (writableAfter w as) true (as.any Arrival.isFingerprint) t' ∧
      Waiting (as ++ [.clientHello hello]) t' := by
  have hcached := hwait.hello hello
  by_cases hc : as.any Arrival.creates = true
  · -- the adapter is there already
    have hd : t.dtls = some 0 := by rw [hr.dtls, if_pos hc]
    have hnw : t.channelWritable = false := not_writable_of_waiting hr hnever hc
    have hidle : DtlsTransport.maybeStartDtls lib { t with catchedClientHello := hello.bytes } =
        { t with catchedClientHello := hello.bytes } := maybeStartDtls_of_not (.inr hnw)
    refine ⟨{ t with catchedClientHello := hello.bytes }, ?_, { hr with dtls := hd, unmade := nofun },
      hcached⟩
    show t.onReadPacket lib hello.bytes = _
    rw [hidle, onReadPacket_new hwait.state, hd, if_neg (by simp)]
  · -- the first ClientHello, before the fingerprint
    have hnone : t.dtls = none := by rw [hr.dtls, if_neg hc]
    obtain ⟨hcreated, hcalls⟩ := hr.unmade (by simpa using hc)
    obtain ⟨t', hsetup, hr', hstate, hcache, hstarts, hinjected⟩ :=
      setupDtls_reflects hlib _ (t := { t with catchedClientHello := hello.bytes }) hr.channel
        hr.active hr.certified hr.value hr.alg hcreated hcalls
    refine ⟨t', ?_, hr', ⟨hstarts, hstate.trans hwait.state, hinjected, ?_, ?_⟩⟩
    · show t.onReadPacket lib hello.bytes = _
      rw [onReadPacket_new hwait.state, hsetup, if_pos (by simp [hnone, hr.certified])]
    · rw [hcache]
      exact hcached.cached
    · rw [hcache]
      exact hcached.fits

/-- The fingerprint reaches a transport with an adapter, which is told once. -/
theorem fingerprint_made (hlib : lib.Succeeds) (hr : Reflects fp writable true told t) :
    ∃ more, handle lib t (.remoteFingerprint fp) = { t with
        remoteFingerprintValue := fp.digest
        remoteFingerprintAlg := fp.algorithm
        calls := t.calls ++ more } ∧
      (∀ c ∈ more, c.adapter = t.dtls) ∧ starts more = 0 ∧ injected more = [] ∧
      digests (t.calls ++ more) = [(fp.algorithm, fp.digest)] := by
  have hd : t.dtls = some 0 := hr.dtls
  cases told with
  | true =>
    have hvalue : t.remoteFingerprintValue = fp.digest := hr.value
    have halg : t.remoteFingerprintAlg = fp.algorithm := hr.alg
    refine ⟨[], ?_, nofun, rfl, rfl, by rw [List.append_nil, hr.digests]; rfl⟩
    show t.setRemoteFingerprint lib fp.algorithm fp.digest = _
    rw [DtlsTransport.setRemoteFingerprint, if_pos (by simp [hr.active, hvalue]), ← hvalue, ← halg,
      List.append_nil]
  | false =>
    have hvalue : t.remoteFingerprintValue = [] := hr.value
    have halg : t.remoteFingerprintAlg = "" := hr.alg
    refine ⟨[.setPeerCertificateDigest 0 fp.algorithm fp.digest], ?_, ?_, rfl, rfl, ?_⟩
    · show t.setRemoteFingerprint lib fp.algorithm fp.digest = _
      rw [DtlsTransport.setRemoteFingerprint, if_neg (by simp [hvalue, fp.digest_ne.symm]),
        if_neg fp.algorithm_ne, if_neg (by simp [hr.active])]
      simp [DtlsTransport.applyFingerprint, hd, halg, DtlsTransport.setDigest, DtlsTransport.call,
        hlib.setPeerCertificateDigest]
    · intro c hc
      obtain rfl := List.mem_singleton.1 hc
      exact hd.symm
    · rw [digests_append, hr.digests]
      rfl

theorem reflects_told (hr : Reflects fp writable true told t) {more : List SslCall}
    (hmore : ∀ c ∈ more, c.adapter = t.dtls)
    (hdigests : digests (t.calls ++ more) = [(fp.algorithm, fp.digest)]) :
    Reflects fp writable true true { t with
      remoteFingerprintValue := fp.digest
      remoteFingerprintAlg := fp.algorithm
      calls := t.calls ++ more } := by
  refine { hr with value := rfl, alg := rfl, unmade := nofun, calls := fun c hc => ?_
                   digests := hdigests }
  rcases List.mem_append.1 hc with hc | hc
  · exact hr.calls c hc
  · exact hmore c hc

/-- The fingerprint reaches a waiting transport, for the first time or again. -/
theorem phase_fingerprint (hlib : lib.Succeeds) (hr : ReflectsAll w fp as t)
    (hnever : NeverReady w as) (hwait : Waiting as t) :
    ∃ t', handle lib t (.remoteFingerprint fp) = t'.maybeStartDtls lib ∧
      Reflects fp (writableAfter w as) true true t' ∧ Waiting (as ++ [.fingerprint]) t' := by
  have hcached : Waiting (as ++ [.fingerprint]) t := hwait.other rfl
  by_cases hc : as.any Arrival.creates = true
  · have hnw : t.channelWritable = false := not_writable_of_waiting hr hnever hc
    have hr' := hr
    rw [ReflectsAll, hc] at hr'
    obtain ⟨more, heq, hmore, hstarts, hinjected, hdigests⟩ := fingerprint_made hlib hr'
    have hidle : ∀ t' : DtlsTransport, t'.channelWritable = false →
        t' = t'.maybeStartDtls lib := fun t' h => (maybeStartDtls_of_not (.inr h)).symm
    refine ⟨_, heq.trans (hidle _ hnw), reflects_told hr' hmore hdigests,
      { hcached with starts := ?_, injected := ?_ }⟩
    · exact (starts_append more).trans (by rw [hwait.starts, hstarts])
    · exact (injected_append more).trans (by rw [hwait.injected, hinjected]; rfl)
  · -- the answer is the first to arrive
    have hnone : t.dtls = none := by rw [hr.dtls, if_neg hc]
    have htold : as.any Arrival.isFingerprint = false := by
      rw [← Bool.not_eq_true]
      exact fun h => hc (creates_of_fingerprint h)
    have hvalue : t.remoteFingerprintValue = [] := by rw [hr.value, htold, if_neg (by simp)]
    obtain ⟨hcreated, hcalls⟩ := hr.unmade (by simpa using hc)
    obtain ⟨t', hsetup, hr', hstate, hcache, hstarts, hinjected⟩ :=
      setupDtls_reflects hlib true
        (t := { t with remoteFingerprintValue := fp.digest, remoteFingerprintAlg := fp.algorithm })
        hr.channel hr.active hr.certified rfl rfl hcreated hcalls
    refine ⟨t', ?_, hr', ⟨hstarts, hstate.trans hwait.state, hinjected, ?_, ?_⟩⟩
    · show t.setRemoteFingerprint lib fp.algorithm fp.digest = _
      rw [DtlsTransport.setRemoteFingerprint, if_neg (by simp [hvalue, fp.digest_ne.symm]),
        if_neg fp.algorithm_ne, if_neg (by simp [hr.active])]
      unfold DtlsTransport.applyFingerprint
      simp only [hnone]
      rw [← hnone, hsetup]
      rfl
    · rw [hcache]
      exact hcached.cached
    · rw [hcache]
      exact hcached.fits

/-- The channel signals while the transport waits. -/
theorem phase_writable (hr : ReflectsAll w fp as t) (hnever : NeverReady w as)
    (hwait : Waiting as t) (b : Bool) :
    ∃ t', handle lib t (.iceWritable b) = t'.maybeStartDtls lib ∧
      Reflects fp b (as.any Arrival.creates) (as.any Arrival.isFingerprint) t' ∧
      Waiting (as ++ [.writable b]) t' := by
  have hcached : Waiting (as ++ [.writable b]) t := hwait.other rfl
  refine ⟨{ t with channelWritable := b }, ?_, { hr with channel := rfl }, { hcached with }⟩
  show (if b = t.channelWritable then t else _) = _
  split
  · rename_i hb
    have hsame : ({ t with channelWritable := b } : DtlsTransport) = t := by rw [hb]
    rw [hsame]
    refine (maybeStartDtls_of_not ?_).symm
    by_cases hc : as.any Arrival.creates = true
    · exact .inr (not_writable_of_waiting hr hnever hc)
    · exact .inl (by rw [hr.dtls, if_neg hc])
  · unfold DtlsTransport.onWritableState
    simp only [hr.active, hwait.state]
    rfl

/-- What reaches a transport that has started. Nothing starts it again. -/
theorem started_step {before : List Arrival} {a₀ : Arrival} {rest : List Arrival}
    (hlib : lib.Succeeds) (hr : Reflects fp writable true told t)
    (h : Started before a₀ rest t) (a : Arrival) :
    Reflects fp (match a with | .writable b => b | _ => writable) true (told || a.isFingerprint)
        (handle lib t (a.event fp)) ∧
      Started before a₀ (rest ++ [a]) (handle lib t (a.event fp)) := by
  have hd : t.dtls = some 0 := hr.dtls
  have hsame : ∀ a' : Arrival, hellos [a'] = [] → Started before a₀ (rest ++ [a']) t := by
    intro a' ha'
    refine { h with injected := ?_ }
    rw [hellos_append rest, ha', List.append_nil]
    exact h.injected
  cases a with
  | clientHello hello =>
    -- straight to the adapter
    have hdtls : isDtlsPacket hello.bytes = true := by
      have hh := hello.isHello
      rw [isDtlsClientHelloPacket] at hh
      split at hh
      · cases hh
      · rename_i hne
        simpa using hne
    have heq : handle lib t (.icePacket hello.bytes) =
        t.call (.onReceivedPacket t.downward hello.bytes) := by
      show t.onReadPacket lib hello.bytes = _
      simp [DtlsTransport.onReadPacket, h.state, hdtls, DtlsTransport.handleDtlsPacket, hello.fits]
    show Reflects fp writable true (told || false) (handle lib t (.icePacket hello.bytes)) ∧
      Started before a₀ (rest ++ [_]) (handle lib t (.icePacket hello.bytes))
    rw [heq, Bool.or_false]
    refine ⟨{ hr with
      unmade := fun hmade => (by cases hmade), calls := fun c hc => ?_, digests := ?_ },
      ⟨?_, h.state, ?_⟩⟩
    · rcases List.mem_append.1 hc with hc | hc
      · exact hr.calls c hc
      · obtain rfl := List.mem_singleton.1 hc
        exact hr.downward
    · exact (digests_append _).trans ((List.append_nil _).trans hr.digests)
    · exact (starts_append _).trans h.starts
    · rw [hellos_append rest, ← List.append_assoc, ← h.injected]
      exact injected_append _
  | fingerprint =>
    show Reflects fp writable true (told || true) (handle lib t (.remoteFingerprint fp)) ∧
      Started before a₀ (rest ++ [_]) (handle lib t (.remoteFingerprint fp))
    obtain ⟨more, heq, hmore, hstarts, hinjected, hdigests⟩ := fingerprint_made hlib hr
    rw [heq, Bool.or_true]
    have hafter := hsame .fingerprint rfl
    refine ⟨reflects_told hr hmore hdigests, { hafter with starts := ?_, injected := ?_ }⟩
    · exact (starts_append more).trans (by rw [h.starts, hstarts])
    · exact (injected_append more).trans (by rw [hafter.injected, hinjected, List.append_nil])
  | writable b =>
    show Reflects fp b true (told || false) (handle lib t (.iceWritable b)) ∧
      Started before a₀ (rest ++ [_]) (handle lib t (.iceWritable b))
    have heq : handle lib t (.iceWritable b) = { t with channelWritable := b } := by
      show (if b = t.channelWritable then t else _) = _
      split
      · rename_i hb
        rw [hb]
      · unfold DtlsTransport.onWritableState
        simp only [hr.active, h.state]
        rfl
    rw [heq, Bool.or_false]
    exact ⟨{ hr with channel := rfl }, { hsame (.writable b) rfl with }⟩

/-- One more arrival. -/
theorem phase_step (hlib : lib.Succeeds) (hr : ReflectsAll w fp as t) (hphase : Phase w as t) :
    ReflectsAll w fp (as ++ [a]) (handle lib t (a.event fp)) ∧
      Phase w (as ++ [a]) (handle lib t (a.event fp)) := by
  rcases hphase with ⟨hnever, hwait⟩ | ⟨before, a₀, rest, rfl, hnever, hready, hstarted⟩
  · -- one handler for each kind, all of them ending in `_maybe_start_dtls`
    have hend : ∃ t', handle lib t (a.event fp) = t'.maybeStartDtls lib ∧
        ReflectsAll w fp (as ++ [a]) t' ∧ Waiting (as ++ [a]) t' := by
      simp only [ReflectsAll, writableAfter_concat, any_concat]
      cases a with
      | clientHello hello =>
        obtain ⟨t', heq, hr', hw⟩ := phase_hello hlib hr hnever hwait hello
        exact ⟨t', heq, by simpa [Arrival.creates, Arrival.isFingerprint] using hr', hw⟩
      | fingerprint =>
        obtain ⟨t', heq, hr', hw⟩ := phase_fingerprint hlib hr hnever hwait
        exact ⟨t', heq, by simpa [Arrival.creates, Arrival.isFingerprint] using hr', hw⟩
      | writable b =>
        obtain ⟨t', heq, hr', hw⟩ := phase_writable hr hnever hwait b
        exact ⟨t', heq, by simpa [Arrival.creates, Arrival.isFingerprint] using hr', hw⟩
    obtain ⟨t', heq, hr', hw⟩ := hend
    rw [heq]
    exact phase_maybeStartDtls hlib hr' hnever hw
  · have hmade : (before ++ a₀ :: rest).any Arrival.creates = true := by
      have hany := hready.1
      rw [any_concat, Bool.or_eq_true] at hany
      simp only [List.any_append, List.any_cons, Bool.or_eq_true]
      rcases hany with h | h
      · exact .inl h
      · exact .inr (.inl h)
    rw [ReflectsAll, hmade] at hr
    obtain ⟨hr', hs'⟩ := started_step hlib hr hstarted a
    refine ⟨?_, .inr ⟨before, a₀, rest ++ [a], by simp, hnever, hready, hs'⟩⟩
    rw [ReflectsAll, writableAfter_concat, any_concat, any_concat, hmade]
    exact hr'

/-- **The handshake starts once**, whatever the order in which the
ClientHellos, the fingerprint and the channel's signals arrive. -/
theorem startsOnce_after (hlib : lib.Succeeds) (certificate : ℕ) (writable receiving : Bool)
    (srtp : Option DtlsSrtpTransport) (fp : RemoteFingerprint) (as : List Arrival) :
    StartsOnce writable fp as (after lib fp (fresh certificate writable receiving srtp) as) := by
  have hinv : ReflectsAll writable fp as
        (after lib fp (fresh certificate writable receiving srtp) as) ∧
      Phase writable as (after lib fp (fresh certificate writable receiving srtp) as) := by
    induction as using List.reverseRecOn with
    | nil =>
      refine ⟨⟨rfl, rfl, rfl, rfl, rfl, rfl, rfl, fun _ => ⟨rfl, rfl⟩, nofun, rfl⟩,
        .inl ⟨?_, ⟨rfl, rfl, rfl, rfl, rfl⟩⟩⟩
      intro bs hbs hready
      obtain rfl := List.prefix_nil.1 hbs
      cases hready.1
    | append_singleton as a ih =>
      rw [after, List.map_append, List.foldl_append]
      exact phase_step hlib ih.1 ih.2
  obtain ⟨hr, hphase⟩ := hinv
  refine ⟨hr.dtls, hr.calls, hr.digests, ?_⟩
  rcases hphase with ⟨hnever, hwait⟩ | ⟨before, a, rest, heq, hnever, hready, hs⟩
  · exact .inl ⟨hnever, hwait.starts, hwait.state, hwait.injected⟩
  · exact .inr ⟨before, a, rest, heq, hnever, hready, hs.starts, hs.state, hs.injected⟩

/-- A ClientHello of one record, told apart by its last byte. -/
def oneRecordHello (last : UInt8) : ClientHello where
  bytes := [22, 254, 253, 0, 0, 0, 0, 0, 0, 0, 0, 0, 5, 1, 0, 0, 1, last]
  isHello := rfl
  fits := by simp [recordsFit, k_dtls_record_header_len]

/-- Two ClientHellos before the channel is writable, one after: the second
is replayed and the third goes straight to the adapter. -/
theorem startsOnce_after_retransmission :
    StartsOnce false ⟨⟨"sha-256", [1]⟩, nofun, nofun⟩
        [.clientHello (oneRecordHello 1), .clientHello (oneRecordHello 2),
          .writable true, .fingerprint, .clientHello (oneRecordHello 3)]
        (after obliging ⟨⟨"sha-256", [1]⟩, nofun, nofun⟩ (fresh 7 false false none)
          [.clientHello (oneRecordHello 1), .clientHello (oneRecordHello 2),
            .writable true, .fingerprint, .clientHello (oneRecordHello 3)]) ∧
      ((injected (after obliging ⟨⟨"sha-256", [1]⟩, nofun, nofun⟩ (fresh 7 false false none)
          [.clientHello (oneRecordHello 1), .clientHello (oneRecordHello 2),
            .writable true, .fingerprint,
            .clientHello (oneRecordHello 3)]).calls).map (·.getLast?)) =
        [some 2, some 3] :=
  ⟨startsOnce_after ⟨fun _ => rfl, fun _ => rfl, fun _ _ _ => rfl, fun _ => rfl⟩ _ _ _ _ _ _,
    by decide⟩

end Dtls

end Pc

end XrtcServer
