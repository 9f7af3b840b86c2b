import XrtcServer.Stream.Registry
import XrtcServer.Stream.Model.Packets
import XrtcServer.Pc.Finishes
/-!
# Packets from stream to stream

A packet goes to the stream that the other map has under the sender's name,
and from there to the transport named `audio`. The map may have lost the
stream it is for, to one that overwrote its entry; and the one transport of
a stream is named after its first section (`Wired`), which is not always
`audio`. Where neither is so the packet is handed on, once.
-/

namespace XrtcServer

namespace Stream

open Base Pc Pc.TransportController

/-! ## What holds of every stream -/

section Streams

variable {PC : Type} {ops : PeerConnectionOps PC} {m m' : RtcStreamManager PC}
variable {t : RtcStreamType} {n : String} {id uid : ℕ} {s : RtcStream PC}
variable {P : RtcStream PC → Prop}

namespace RtcStreamManager

/-- Every live stream is so. -/
def AllStreams (P : RtcStream PC → Prop) (m : RtcStreamManager PC) : Prop :=
  ∀ id s, m.streams id = some s → P s

theorem AllStreams.update (h : m.AllStreams P) {o : Option (RtcStream PC)}
    (hm : m'.streams = Function.update m.streams id o) (ho : ∀ s, o = some s → P s) :
    m'.AllStreams P := by
  intro i s hs
  rw [hm] at hs
  by_cases hi : i = id
  · subst hi
    rw [Function.update_self] at hs
    exact ho s hs
  · rw [Function.update_of_ne hi] at hs
    exact h i s hs

theorem AllStreams.setStream (h : m.AllStreams P) (id : ℕ) (hs : P s) :
    (m.setStream id (some s)).AllStreams P := by
  refine h.update rfl ?_
  rintro _ ⟨⟩
  exact hs

theorem AllStreams.addStream (h : m.AllStreams P) (hs : P s) : (m.addStream s).AllStreams P := by
  refine h.update rfl ?_
  rintro _ ⟨⟩
  exact hs

theorem AllStreams.removeStream (h : m.AllStreams P) : (m.removeStream t uid n).AllStreams P := by
  rcases removeStream_cases m t uid n with heq | ⟨id, s, -, -, heq⟩
  · rwa [heq]
  · rw [heq]
    refine h.update rfl ?_
    rintro _ ⟨⟩

end RtcStreamManager

open RtcStreamManager

/-- **What a step leaves of every stream** is what its creation, its answer
and its two callbacks leave of one. -/
theorem allStreams_step {e : Event} (h : m.AllStreams P) (hs : step ops m e = some m')
    (hcreate : ∀ (s : RtcStream PC) cert audio video, s.pc = ops.make →
      P (RtcStream.createOffer ops (s.start ops cert)).1 ∧
      P (RtcStream.createOffer ops ((s.addSources ops audio video).start ops cert)).1)
    (hanswer : ∀ s sdp, P s → P (RtcStream.setRemoteSdp ops s sdp).1)
    (hcallback : ∀ (s : RtcStream PC) state timer, P s →
      P { s with state := state, iceTimeout := timer }) :
    m'.AllStreams P := by
  cases step_changes hs with
  | kept => exact h
  | removed => exact h.removeStream
  | pushed uid name audio video logId certificate s hpc =>
    exact h.addStream (hcreate s certificate [] [] hpc).1
  | pulled uid name audio video logId certificate s push pushId hpush hpc =>
    exact h.removeStream.addStream (hcreate s certificate _ _ hpc).2
  | answered uid name answer type t id s htype hfound =>
    exact h.setStream id (hanswer s answer (h id s (findStream_eq_some.1 hfound).2))
  | told id s state timer hlive => exact h.setStream id (hcallback s state timer (h id s hlive))
  | gaveUp id s state timer hlive =>
    exact (h.setStream id (hcallback s state timer (h id s hlive))).removeStream

end Streams

/-! ## The transport of a stream -/

section Answers

variable {rtc : RtcText}

/-- What a description leaves, whether or not it is applied to its end. -/
def leftBy : Except (Fault × TransportController) TransportController → TransportController
  | .ok tc => tc
  | .error (_, tc) => tc

theorem srtp_applyContent (desc : SessionDescription) (tc : TransportController)
    (content : MediaContentDescription) :
    (leftBy (applyContent desc tc content)).dtlsSrtpTransportByName =
      tc.dtlsSrtpTransportByName := by
  unfold applyContent
  dsimp only
  split
  · rfl
  · split
    · rfl
    · split <;> rfl

/-- **An answer makes and removes no SRTP transport.** -/
theorem srtp_setRemoteDescription (tc : TransportController) (desc : SessionDescription) :
    (leftBy (tc.setRemoteDescription desc)).dtlsSrtpTransportByName =
      tc.dtlsSrtpTransportByName := by
  unfold setRemoteDescription
  induction desc.contents generalizing tc with
  | nil => rfl
  | cons content contents ih =>
    have hfirst := srtp_applyContent desc tc content
    rw [List.foldlM_cons]
    cases happly : applyContent desc tc content with
    | error e =>
      rw [happly] at hfirst
      exact hfirst
    | ok tc' =>
      rw [happly] at hfirst
      exact (ih tc').trans hfirst

theorem srtp_setRemoteSdp (pc : PeerConnection) (sdp : String) :
    (pc.setRemoteSdp rtc sdp).1.transportController.dtlsSrtpTransportByName =
      pc.transportController.dtlsSrtpTransportByName := by
  unfold PeerConnection.setRemoteSdp
  dsimp only
  split
  · rfl
  · split
    · rfl
    · rfl
    · rename_i st _
      have hleft := srtp_setRemoteDescription pc.transportController st.finish
      split
      · rename_i happly
        rw [happly] at hleft
        exact hleft
      · rename_i happly
        rw [happly] at hleft
        exact hleft

end Answers

variable {rtc : RtcText} {outside : Surroundings} {m m' : RtcStreamManager PeerConnection}
variable {s : RtcStream PeerConnection} {id : ℕ} {name : String}

/-- **Every transport of a stream is one of those its offer creates.** -/
def Wired (s : RtcStream PeerConnection) : Prop :=
  ∀ name srtp, s.transport name = some srtp → name ∈ createdNames s.offerOptions

/-- An offer bundles: there is one transport, of the first section. -/
theorem createdNames_offerOptions (s : RtcStream PeerConnection) :
    createdNames s.offerOptions =
      if s.audio then ["audio"] else if s.video then ["video"] else [] := by
  unfold createdNames offeredMids RtcStream.offerOptions
  cases s.streamType <;> cases s.audio <;> cases s.video <;> rfl

/-- A stream without audio has no transport of that name. -/
theorem Wired.transport_audio (h : Wired s) (haudio : s.audio = false) :
    s.transport "audio" = none := by
  rw [Option.eq_none_iff_forall_ne_some]
  intro srtp hsrtp
  have hmem := h "audio" srtp hsrtp
  rw [createdNames_offerOptions, haudio] at hmem
  cases hvideo : s.video with
  | false => simp [hvideo] at hmem
  | true => simp [hvideo] at hmem

/-- And one with audio has no other. -/
theorem Wired.name_audio {srtp : DtlsSrtpTransport} (h : Wired s) (haudio : s.audio = true)
    (hsrtp : s.transport name = some srtp) : name = "audio" := by
  have hmem := h name srtp hsrtp
  rw [createdNames_offerOptions, if_pos haudio] at hmem
  exact List.mem_singleton.1 hmem

/-- **An offer wires its stream.** -/
theorem wired_createOffer (certificate : Option ℕ)
    (hpc : s.pc.transportController = {}) :
    Wired (RtcStream.createOffer (ops rtc outside) (s.start (ops rtc outside) certificate)).1 := by
  intro name srtp hsrtp
  change name ∈ createdNames s.offerOptions
  by_cases hnone : s.offerOptions.dtlsOn = true ∧ (s.pc.init certificate).certificate = none
  · -- without a certificate there is no offer, and no transport
    have hkept : (PeerConnection.createOffer rtc outside (s.pc.init certificate) s.offerOptions).1 =
        s.pc.init certificate := by
      rw [PeerConnection.createOffer, if_pos hnone]
    have hinit : (s.pc.init certificate).transportController.dtlsSrtpTransportByName name =
        some srtp := hkept ▸ hsrtp
    rw [PeerConnection.init, hpc] at hinit
    cases hinit
  · have hoffered : Offered certificate (createdNames s.offerOptions)
        (PeerConnection.createOffer rtc outside (s.pc.init certificate)
          s.offerOptions).1.transportController := by
      refine createOffer_offered ?_ hnone
      rw [PeerConnection.init, hpc]
      rfl
    by_contra hnot
    have hsrtp' := hoffered.srtp name
    rw [if_neg hnot] at hsrtp'
    cases hsrtp.symm.trans hsrtp'

/-- **What a transport is asked to hand on**: data of a kind, once more. -/
def handed (srtp : DtlsSrtpTransport) (data : List UInt8) : PacketKind → DtlsSrtpTransport
  | .rtp => { srtp with rtpHanded := srtp.rtpHanded ++ [data] }
  | .rtcp => { srtp with rtcpHanded := srtp.rtcpHanded ++ [data] }

namespace RtcStream

/-- `send_rtp` or `send_rtcp`. -/
def sendPacket (s : RtcStream PeerConnection) (data : List UInt8) :
    PacketKind → RtcStream PeerConnection
  | .rtp => s.sendRtp data
  | .rtcp => s.sendRtcp data

theorem transport_setTransport (s : RtcStream PeerConnection) (name : String)
    (srtp : DtlsSrtpTransport) :
    (s.setTransport name srtp).transport = Function.update s.transport name (some srtp) := rfl

/-- **What sending comes to**, where there is a transport to send on. -/
theorem sendPacket_some {srtp : DtlsSrtpTransport} (h : s.transport "audio" = some srtp)
    (data : List UInt8) (kind : PacketKind) :
    s.sendPacket data kind =
      s.setTransport "audio" (if srtp.srtpActive then handed srtp data kind else srtp) := by
  have hsend : ∀ send, s.pc.transportController.send "audio" send =
      s.pc.transportController.setDtlsSrtpTransport "audio" (send srtp) := by
    intro send
    unfold TransportController.send
    rw [show s.pc.transportController.dtlsSrtpTransportByName "audio" = some srtp from h]
  cases kind with
  | rtp =>
    simp only [sendPacket, sendRtp, PeerConnection.sendRtp, TransportController.sendRtp, hsend]
    rfl
  | rtcp =>
    simp only [sendPacket, sendRtcp, PeerConnection.sendRtcp, TransportController.sendRtcp, hsend]
    rfl

/-- Without a transport named `audio` nothing is sent. -/
theorem sendPacket_none (h : s.transport "audio" = none) (data : List UInt8) (kind : PacketKind) :
    s.sendPacket data kind = s := by
  have hsend : ∀ send, s.pc.transportController.send "audio" send = s.pc.transportController := by
    intro send
    unfold TransportController.send
    rw [show s.pc.transportController.dtlsSrtpTransportByName "audio" = none from h]
  cases kind with
  | rtp => simp only [sendPacket, sendRtp, PeerConnection.sendRtp, TransportController.sendRtp, hsend]
  | rtcp =>
    simp only [sendPacket, sendRtcp, PeerConnection.sendRtcp, TransportController.sendRtcp, hsend]

end RtcStream

theorem wired_setTransport {srtp srtp' : DtlsSrtpTransport} (h : Wired s)
    (hname : s.transport name = some srtp) : Wired (s.setTransport name srtp') := by
  intro other srtp'' hother
  rw [RtcStream.transport_setTransport] at hother
  by_cases heq : other = name
  · subst heq
    exact h other srtp hname
  · rw [Function.update_of_ne heq] at hother
    exact h other srtp'' hother

theorem wired_sendPacket (h : Wired s) (data : List UInt8) (kind : PacketKind) :
    Wired (s.sendPacket data kind) := by
  cases haudio : s.transport "audio" with
  | none =>
    rw [RtcStream.sendPacket_none haudio]
    exact h
  | some srtp =>
    rw [RtcStream.sendPacket_some haudio]
    exact wired_setTransport h haudio

/-! ## The way of a packet -/

open RtcStreamManager

/-- The kinds that a stream's packets are relayed as. -/
def Relays (s : RtcStream PeerConnection) (kind : PacketKind) : Prop :=
  kind = .rtp → s.streamType = .push

/-- **What the manager does with a packet**: it goes to the stream found under
the same name in the other map. -/
theorem onPacketReceived_eq (m : RtcStreamManager PeerConnection) (data : List UInt8)
    {kind : PacketKind} (h : Relays s kind) :
    m.onPacketReceived s data kind =
      match m.findStream s.streamType.other s.streamName with
      | none => m
      | some (id, found) => m.setStream id (some (found.sendPacket data kind)) := by
  cases kind with
  | rtp =>
    have hpush : s.streamType = .push := h rfl
    rw [onPacketReceived, onRtpPacketReceived, if_pos hpush, hpush]
    rfl
  | rtcp =>
    rw [onPacketReceived, onRtcpPacketReceived]
    cases htype : s.streamType with
    | push => rfl
    | pull => rfl

theorem onPacketReceived_found {found : RtcStream PeerConnection} (data : List UInt8)
    {kind : PacketKind} (h : Relays s kind)
    (hfound : m.findStream s.streamType.other s.streamName = some (id, found)) :
    m.onPacketReceived s data kind = m.setStream id (some (found.sendPacket data kind)) := by
  rw [onPacketReceived_eq m data h, hfound]

/-- A pull stream's RTP goes nowhere. -/
theorem onPacketReceived_dropped (m : RtcStreamManager PeerConnection) (data : List UInt8)
    {kind : PacketKind} (h : ¬ Relays s kind) : m.onPacketReceived s data kind = m := by
  unfold Relays at h
  push Not at h
  obtain ⟨rfl, hpull⟩ := h
  exact if_neg hpull

/-- **A step with its packets keeps every stream wired**, and the maps sound. -/
theorem wired_step {e : MediaEvent} (h : m.WellFormed ∧ m.AllStreams Wired)
    (hs : mediaStep rtc m e = some m') : m'.WellFormed ∧ m'.AllStreams Wired := by
  obtain ⟨hw, hall⟩ := h
  cases e with
  | stream outside event =>
    refine ⟨wellFormed_step hw hs, allStreams_step hall hs ?_ ?_ ?_⟩
    · intro s cert audio video hpc
      refine ⟨wired_createOffer cert ?_, wired_createOffer cert ?_⟩
      · rw [hpc]
        rfl
      · rw [RtcStream.addSources, hpc]
        rfl
    · intro s sdp hwired name srtp hsrtp
      rw [setRemoteSdp_ops] at hsrtp ⊢
      exact hwired name srtp ((congrFun (srtp_setRemoteSdp s.pc sdp) name).symm.trans hsrtp)
    · exact fun s state timer hwired => hwired
  | srtp id name active =>
    obtain ⟨s, hid, hs⟩ := Option.bind_eq_some_iff.1 hs
    obtain ⟨srtp, hsrtp, rfl⟩ := Option.map_eq_some_iff.1 hs
    exact ⟨hw.setStream hid rfl rfl, hall.setStream _ (wired_setTransport (hall id s hid) hsrtp)⟩
  | packet id name kind data =>
    obtain ⟨s, hid, hs⟩ := Option.bind_eq_some_iff.1 hs
    obtain ⟨srtp, -, hs⟩ := Option.bind_eq_some_iff.1 hs
    split at hs
    swap
    · cases hs
    obtain rfl := Option.some.inj hs
    by_cases hrelays : Relays s kind
    · rw [onPacketReceived_eq m data hrelays]
      split
      · exact ⟨hw, hall⟩
      · rename_i id' found hfound
        have hlive := (findStream_eq_some.1 hfound).2
        refine ⟨hw.setStream hlive ?_ ?_, hall.setStream _ (wired_sendPacket (hall _ _ hlive) data kind)⟩
        · cases kind <;> rfl
        · cases kind <;> rfl
    · rw [onPacketReceived_dropped m data hrelays]
      exact ⟨hw, hall⟩

theorem wired_run {es : List MediaEvent} (h : Common.run (mediaStep rtc) init es = some m) :
    m.WellFormed ∧ m.AllStreams Wired :=
  Common.inv_of_run (fun _ _ _ hw hs => wired_step hw hs)
    ⟨wellFormed_init, fun _ _ h => by cases h⟩ h

/-- Some transport of the stream has SRTP sessions. -/
def SrtpActive (s : RtcStream PeerConnection) : Prop :=
  ∃ name srtp, s.transport name = some srtp ∧ srtp.srtpActive = true

/-- **The stream has handed the data on once**, on a transport with SRTP
sessions, and nothing else about it has changed. -/
def HandedOnce (m' : RtcStreamManager PeerConnection) (id : ℕ) (s : RtcStream PeerConnection)
    (data : List UInt8) (kind : PacketKind) : Prop :=
  ∃ name srtp, s.transport name = some srtp ∧ srtp.srtpActive = true ∧
    m'.streams id = some (s.setTransport name (handed srtp data kind))

/-- **Streams of other names are as they were.** -/
def Isolated (m m' : RtcStreamManager PeerConnection) (streamName : String) : Prop :=
  ∀ id s, m.streams id = some s → s.streamName ≠ streamName → m'.streams id = some s

variable {sender receiver : RtcStream PeerConnection} {i j : ℕ} {data : List UInt8}
variable {kind : PacketKind}

/-- A packet handed on can be told from one that was not. -/
theorem not_handedOnce (h : m'.streams j = some receiver) :
    ¬ HandedOnce m' j receiver data kind := by
  rintro ⟨name, srtp, hsrtp, -, hhanded⟩
  have hsame : receiver = receiver.setTransport name (handed srtp data kind) :=
    Option.some.inj (h.symm.trans hhanded)
  rw [hsame, RtcStream.transport_setTransport, Function.update_self] at hsrtp
  have hlog := Option.some.inj hsrtp
  cases kind with
  | rtp =>
    have hlen := congrArg (fun srtp => srtp.rtpHanded.length) hlog
    simp [handed] at hlen
  | rtcp =>
    have hlen := congrArg (fun srtp => srtp.rtcpHanded.length) hlog
    simp [handed] at hlen

/-- **No packet gets to a stream of another name.** -/
theorem isolated_onPacketReceived (hw : m.WellFormed) (sender : RtcStream PeerConnection)
    (data : List UInt8) (kind : PacketKind) :
    Isolated m (m.onPacketReceived sender data kind) sender.streamName := by
  intro id s hid hname
  by_cases hrelays : Relays sender kind
  swap
  · rwa [onPacketReceived_dropped m data hrelays]
  rw [onPacketReceived_eq m data hrelays]
  split
  · exact hid
  · rename_i id' found hfound
    obtain ⟨hentry, hlive⟩ := findStream_eq_some.1 hfound
    obtain ⟨s', hs', -, hname'⟩ := hw.entry _ _ _ hentry
    have hne : id ≠ id' := by
      rintro rfl
      obtain rfl : s = s' := Option.some.inj (hid.symm.trans hs')
      exact hname hname'
    rw [setStream_streams, Function.update_of_ne hne]
    exact hid

/-- **When a packet is relayed.** In every run: to a stream that the map still
has, and whose sections begin with the audio. -/
theorem relayed_iff {es : List MediaEvent} (hm : Common.run (mediaStep rtc) init es = some m)
    (hi : m.streams i = some sender) (hj : m.streams j = some receiver)
    (htype : receiver.streamType = sender.streamType.other)
    (hname : receiver.streamName = sender.streamName) (hkind : Relays sender kind)
    (hactive : SrtpActive receiver)
    (hs : mediaStep rtc m (.packet i name kind data) = some m') :
    HandedOnce m' j receiver data kind ∧ Isolated m m' sender.streamName ↔
      m.table receiver.streamType receiver.streamName = some j ∧ receiver.audio = true := by
  obtain ⟨hw, hwired⟩ := wired_run hm
  obtain ⟨s, hid, hs⟩ := Option.bind_eq_some_iff.1 hs
  obtain rfl : sender = s := Option.some.inj (hi.symm.trans hid)
  obtain ⟨srtp, -, hs⟩ := Option.bind_eq_some_iff.1 hs
  split at hs
  swap
  · cases hs
  obtain rfl := Option.some.inj hs
  have hisolated := isolated_onPacketReceived hw sender data kind
  have hreceiver := hwired j receiver hj
  constructor
  · rintro ⟨hhanded, -⟩
    cases hfound : m.findStream receiver.streamType receiver.streamName with
    | none =>
      rw [htype, hname] at hfound
      have hdropped : m.onPacketReceived sender data kind = m := by
        rw [onPacketReceived_eq m data hkind, hfound]
      exact absurd hhanded (not_handedOnce (hdropped.symm ▸ hj))
    | some found =>
      obtain ⟨k, found⟩ := found
      obtain ⟨hentry, hlive⟩ := findStream_eq_some.1 hfound
      rw [htype, hname] at hfound
      have hrelay := onPacketReceived_found data hkind hfound
      obtain rfl : k = j := by
        by_contra hk
        refine not_handedOnce ?_ hhanded
        rw [hrelay, setStream_streams, Function.update_of_ne (Ne.symm hk)]
        exact hj
      obtain rfl : found = receiver := Option.some.inj (hlive.symm.trans hj)
      refine ⟨hentry, ?_⟩
      by_contra haudio
      have hnone := hreceiver.transport_audio (Bool.eq_false_iff.2 haudio)
      refine not_handedOnce ?_ hhanded
      rw [hrelay, RtcStream.sendPacket_none hnone, setStream_streams, Function.update_self]
  · rintro ⟨hentry, haudio⟩
    obtain ⟨name, srtp, hsrtp, hon⟩ := hactive
    obtain rfl := hreceiver.name_audio haudio hsrtp
    refine ⟨⟨"audio", srtp, hsrtp, hon, ?_⟩, hisolated⟩
    have hfound := findStream_eq_some.2 ⟨hentry, hj⟩
    rw [htype, hname] at hfound
    rw [onPacketReceived_found data hkind hfound, setStream_streams, Function.update_self,
      RtcStream.sendPacket_some hsrtp, if_pos hon]

/-- User 7 pushes `room`, with both sections; user 8 pulls it, with a video
section and perhaps an audio one. Both transports have their sessions. -/
def relayRun (audio : Bool) : List MediaEvent :=
  [.stream blankSurroundings (.createPushStream 7 "room" true true 1 (some 0)),
    .stream blankSurroundings (.createPullStream 8 "room" audio true 2 (some 0)),
    .srtp 0 "audio" true, .srtp 1 (if audio then "audio" else "video") true]

/-- What is looked at of a stream and its transport. -/
structure Seen where
  streamType : RtcStreamType
  streamName : String
  audio : Bool
  active : Option Bool
  deriving DecidableEq

def seen (m : RtcStreamManager PeerConnection) (id : ℕ) (name : String) : Option Seen :=
  (m.streams id).map fun s =>
    ⟨s.streamType, s.streamName, s.audio, (s.transport name).map (·.srtpActive)⟩

theorem of_seen {t : RtcStreamType} {n : String} {audio active : Bool}
    (h : seen m id name = some ⟨t, n, audio, some active⟩) : ∃ s srtp, m.streams id = some s ∧
      s.streamType = t ∧ s.streamName = n ∧ s.audio = audio ∧ s.transport name = some srtp ∧
      srtp.srtpActive = active := by
  obtain ⟨s, hs, heq⟩ := Option.map_eq_some_iff.1 h
  obtain ⟨ht, hn, haudio, hactive⟩ := Seen.mk.inj heq
  obtain ⟨srtp, hsrtp, hactive⟩ := Option.map_eq_some_iff.1 hactive
  exact ⟨s, srtp, hs, ht, hn, haudio, hsrtp, hactive⟩

/-- Where the run of `relayRun` gets. -/
theorem relayRun_seen (audio : Bool) : ∃ m,
    Common.run (mediaStep blankText) init (relayRun audio) = some m ∧
    seen m 0 "audio" = some ⟨.push, "room", true, some true⟩ ∧
    seen m 1 (if audio then "audio" else "video") = some ⟨.pull, "room", audio, some true⟩ ∧
    m.table .push "room" = some 0 ∧ m.table .pull "room" = some 1 := by
  have hseen : (Common.run (mediaStep blankText) init (relayRun audio)).map (fun m =>
      ([seen m 0 "audio", seen m 1 (if audio then "audio" else "video")],
        m.table .push "room", m.table .pull "room")) =
      some ([some ⟨.push, "room", true, some true⟩, some ⟨.pull, "room", audio, some true⟩],
        some 0, some 1) := by
    cases audio <;> decide +kernel
  obtain ⟨m, hm, heq⟩ := Option.map_eq_some_iff.1 hseen
  simp only [Prod.mk.injEq, List.cons.injEq, and_true] at heq
  obtain ⟨⟨hpush, hpull⟩, hentries⟩ := heq
  exact ⟨m, hm, hpush, hpull, hentries⟩

/-- A packet is relayed to a pull stream with both sections. -/
theorem relayed_iff_both : ∃ m m' receiver,
    Common.run (mediaStep blankText) init (relayRun true) = some m ∧
    m.streams 1 = some receiver ∧ mediaStep blankText m (.packet 0 "audio" .rtp [128]) = some m' ∧
    HandedOnce m' 1 receiver [128] .rtp ∧ Isolated m m' "room" := by
  obtain ⟨m, hm, hpush, hpull, -, hentry⟩ := relayRun_seen true
  obtain ⟨sender, srtp, hi, hti, hni, -, hsrtp, hon⟩ := of_seen hpush
  obtain ⟨receiver, srtp', hj, htj, hnj, haudio, hsrtp', hon'⟩ := of_seen hpull
  have hs : mediaStep blankText m (.packet 0 "audio" .rtp [128]) =
      some (m.onPacketReceived sender [128] .rtp) := by
    rw [mediaStep, hi, Option.bind_some, hsrtp, Option.bind_some, if_pos hon]
  have hrelayed := (relayed_iff hm hi hj (by rw [htj, hti]; rfl) (hnj.trans hni.symm)
    (fun _ => hti) ⟨_, srtp', hsrtp', hon'⟩ hs).2 ⟨by rw [htj, hnj]; exact hentry, haudio⟩
  rw [hni] at hrelayed
  exact ⟨m, _, receiver, hm, hj, hs, hrelayed⟩

/-- A packet does not get to a pull stream that has no audio section. -/
theorem video_only_dropped : ∃ m m' sender receiver,
    Common.run (mediaStep blankText) init (relayRun false) = some m ∧
    m.findPushStream "room" = some (0, sender) ∧ m.findPullStream "room" = some (1, receiver) ∧
    SrtpActive receiver ∧ mediaStep blankText m (.packet 0 "audio" .rtp [128]) = some m' ∧
    ¬ HandedOnce m' 1 receiver [128] .rtp := by
  obtain ⟨m, hm, hpush, hpull, hentry, hentry'⟩ := relayRun_seen false
  obtain ⟨sender, srtp, hi, hti, hni, -, hsrtp, hon⟩ := of_seen hpush
  obtain ⟨receiver, srtp', hj, htj, hnj, haudio, hsrtp', hon'⟩ := of_seen hpull
  have hfound : m.findPullStream "room" = some (1, receiver) :=
    findStream_eq_some.2 ⟨hentry', hj⟩
  refine ⟨m, m.onPacketReceived sender [128] .rtp, sender, receiver, hm,
    findStream_eq_some.2 ⟨hentry, hi⟩, hfound, ⟨_, srtp', hsrtp', hon'⟩, ?_, ?_⟩
  · rw [mediaStep, hi, Option.bind_some, hsrtp, Option.bind_some, if_pos hon]
  · have hnone := ((wired_run hm).2 1 receiver hj).transport_audio haudio
    have hfound' : m.findStream sender.streamType.other sender.streamName = some (1, receiver) := by
      rw [hti, hni]
      exact hfound
    refine not_handedOnce ?_
    rw [onPacketReceived_found [128] (fun _ => hti) hfound', RtcStream.sendPacket_none hnone,
      setStream_streams, Function.update_self]

end Stream

end XrtcServer
