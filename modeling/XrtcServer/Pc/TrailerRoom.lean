import XrtcServer.Pc.Model.SrtpSession
/-!
# Room for what SRTP appends

Protecting a packet makes it longer: by the RTP tag, or by the RTCP tag and
the index of four bytes. `send_rtp` and `send_rtcp` allocate for that, and
the session checks again before it calls libsrtp. For RTCP the check counts
the RTP tag, so with tags of different lengths it lets too small a buffer
pass or refuses one that is large enough.
-/

namespace XrtcServer

namespace Pc

namespace Srtp

/-- The sums of lengths are in the range of `int`. -/
def Fits (rtp rtcp : CryptoPolicy) (len : ℕ) : Prop :=
  len + max rtp.authTagLen rtcp.authTagLen + 4 < 2 ^ 31

/-- Where a buffer of `maxLen` bytes is passed to libsrtp it has room for
what is appended to the packet, and `send_rtp` and `send_rtcp` get past the
check. -/
structure Roomy (cipher : Cipher) (s r : SrtpSession) (rtp rtcp : CryptoPolicy)
    (data : List UInt8) (maxLen : ℕ) : Prop where
  protectRtp : (s.protectRtp cipher data data.length maxLen).isPassed = true →
    data.length + rtp.authTagLen ≤ maxLen
  protectRtcp : (s.protectRtcp cipher data data.length maxLen).isPassed = true →
    data.length + rtcp.authTagLen + 4 ≤ maxLen
  sendRtp : ((⟨some s, some r⟩ : SrtpTransport).sendRtp cipher data).map (·.isPassed) = some true
  sendRtcp : ((⟨some s, some r⟩ : SrtpTransport).sendRtcp cipher data).map (·.isPassed) = some true

variable {lib : Libsrtp} {cipher : Cipher} {s s₀ r : SrtpSession} {g g' : Usage}
variable {type : SsrcType} {cs : ℤ} {key : Option (List UInt8)} {rtp rtcp : CryptoPolicy}
variable {data : List UInt8} {maxLen : ℕ}

theorem asInt_of_lt {n : ℕ} (h : n < 2 ^ 31) : asInt n = n := by
  unfold asInt
  rw [Int.bmod_eq_of_le] <;> omega

/-- A session that was given a key knows the tags of its suite. -/
theorem doSetKey_tags (hrtp : lib.policyForRtp g.calls cs = some rtp)
    (hrtcp : lib.policyForRtcp g.calls cs = some rtcp)
    (h : s₀.doSetKey lib g type cs key = (s, g', true)) :
    s.session.isSome = true ∧ s.rtpAuthTagLen = rtp.authTagLen ∧
      s.rtcpAuthTagLen = rtcp.authTagLen := by
  have hfalse : ∀ {u v : SrtpSession} {a b : Usage}, (u, a, false) ≠ (v, b, true) := by
    intro u v a b heq
    cases heq
  unfold SrtpSession.doSetKey at h
  rw [hrtp, hrtcp] at h
  dsimp only at h
  split at h
  · exact absurd h hfalse
  · split at h
    · exact absurd h hfalse
    · unfold SrtpSession.install at h
      dsimp only at h
      split at h
      · split at h
        · obtain ⟨rfl, -⟩ := Prod.mk.inj h
          exact ⟨rfl, rfl, rfl⟩
        · exact absurd h hfalse
      · split at h
        · obtain ⟨rfl, -⟩ := Prod.mk.inj h
          exact ⟨rfl, rfl, rfl⟩
        · exact absurd h hfalse

/-! ## The checks -/

theorem protectRtp_passed (cipher : Cipher) (maxLen : ℕ) (hs : s.session.isSome = true)
    (hfits : data.length + s.rtpAuthTagLen < 2 ^ 31) :
    (s.protectRtp cipher data data.length maxLen).isPassed = true ↔
      data.length + s.rtpAuthTagLen ≤ maxLen := by
  obtain ⟨policy, hpolicy⟩ := Option.isSome_iff_exists.1 hs
  have hneed : asInt ((data.length : ℤ) + s.rtpAuthTagLen) = (data.length + s.rtpAuthTagLen : ℕ) :=
    asInt_of_lt hfits
  unfold SrtpSession.protectRtp
  rw [hpolicy]
  dsimp only
  rw [hneed]
  split
  · rename_i hlt
    simp only [Protection.isPassed, Bool.false_eq_true, false_iff]
    omega
  · rename_i hge
    simp only [Protection.isPassed, true_iff]
    omega

theorem protectRtcp_passed (cipher : Cipher) (maxLen : ℕ) (hs : s.session.isSome = true)
    (hfits : data.length + s.rtpAuthTagLen + 4 < 2 ^ 31) :
    (s.protectRtcp cipher data data.length maxLen).isPassed = true ↔
      data.length + s.rtpAuthTagLen + 4 ≤ maxLen := by
  obtain ⟨policy, hpolicy⟩ := Option.isSome_iff_exists.1 hs
  have hsum : asInt ((data.length : ℤ) + s.rtpAuthTagLen) = (data.length + s.rtpAuthTagLen : ℕ) :=
    asInt_of_lt (Nat.lt_of_le_of_lt (Nat.le_add_right _ 4) hfits)
  have hneed : asInt ((data.length + s.rtpAuthTagLen : ℕ) + 4) =
      (data.length + s.rtpAuthTagLen + 4 : ℕ) := asInt_of_lt hfits
  unfold SrtpSession.protectRtcp
  rw [hpolicy]
  dsimp only
  rw [hsum, hneed]
  split
  · rename_i hlt
    simp only [Protection.isPassed, Bool.false_eq_true, false_iff]
    omega
  · rename_i hge
    simp only [Protection.isPassed, true_iff]
    omega

/-! ## What is allocated -/

theorem sendRtp_passed (cipher : Cipher) (r : SrtpSession) (hs : s.session.isSome = true)
    (hfits : data.length + s.rtpAuthTagLen < 2 ^ 31) :
    ((⟨some s, some r⟩ : SrtpTransport).sendRtp cipher data).map (·.isPassed) = some true := by
  have htag : s.getAuthTagLen.1 = s.rtpAuthTagLen := by
    unfold SrtpSession.getAuthTagLen
    rw [if_neg (by simp [Option.isNone_eq_false_iff.2 hs])]
  have hlen : asInt data.length = data.length :=
    asInt_of_lt (Nat.lt_of_le_of_lt (Nat.le_add_right _ _) hfits)
  have hcapacity : asInt (max data.length (data.length + s.rtpAuthTagLen) : ℕ) =
      (data.length + s.rtpAuthTagLen : ℕ) := by
    rw [Nat.max_eq_right (Nat.le_add_right _ _)]
    exact asInt_of_lt hfits
  show some (s.protectRtp cipher data (asInt data.length)
    (asInt (max data.length (data.length + s.getAuthTagLen.1) : ℕ))).isPassed = some true
  rw [htag, hlen, hcapacity, (protectRtp_passed cipher _ hs hfits).2 (Nat.le_refl _)]

theorem sendRtcp_passed (cipher : Cipher) (r : SrtpSession) (hs : s.session.isSome = true)
    (hfits : data.length + s.rtpAuthTagLen + 4 < 2 ^ 31)
    (hfits' : data.length + s.rtcpAuthTagLen + 4 < 2 ^ 31) :
    ((⟨some s, some r⟩ : SrtpTransport).sendRtcp cipher data).map (·.isPassed) = some true ↔
      s.rtpAuthTagLen ≤ s.rtcpAuthTagLen := by
  have htag : s.getAuthTagLen.2 = s.rtcpAuthTagLen := by
    unfold SrtpSession.getAuthTagLen
    rw [if_neg (by simp [Option.isNone_eq_false_iff.2 hs])]
  have hlen : asInt data.length = data.length := asInt_of_lt (by omega)
  have hcapacity : asInt (max data.length (data.length + s.rtcpAuthTagLen + 4) : ℕ) =
      (data.length + s.rtcpAuthTagLen + 4 : ℕ) := by
    rw [Nat.max_eq_right (by omega)]
    exact asInt_of_lt hfits'
  show some (s.protectRtcp cipher data (asInt data.length)
    (asInt (max data.length (data.length + s.getAuthTagLen.2 + 4) : ℕ))).isPassed = some true ↔ _
  rw [htag, hlen, hcapacity, Option.some_inj, protectRtcp_passed cipher _ hs hfits]
  omega

/-! ## Suites -/

/-- **One packet and one buffer.** The RTCP tag is not the shorter one, and
the buffer is not one that has room by the RTP tag only. -/
theorem roomy_iff (hs : s.session.isSome = true) (htag : s.rtpAuthTagLen = rtp.authTagLen)
    (htag' : s.rtcpAuthTagLen = rtcp.authTagLen) (hfits : Fits rtp rtcp data.length) :
    Roomy cipher s r rtp rtcp data maxLen ↔
      rtp.authTagLen ≤ rtcp.authTagLen ∧
        (maxLen < data.length + rtp.authTagLen + 4 ∨
          data.length + rtcp.authTagLen + 4 ≤ maxLen) := by
  unfold Fits at hfits
  have hrtp : data.length + s.rtpAuthTagLen + 4 < 2 ^ 31 := by omega
  have hrtcp : data.length + s.rtcpAuthTagLen + 4 < 2 ^ 31 := by omega
  have hsend := sendRtcp_passed cipher r hs hrtp hrtcp
  have hpassed := protectRtcp_passed cipher maxLen hs hrtp
  rw [htag] at hpassed
  rw [htag, htag'] at hsend
  constructor
  · intro h
    refine ⟨hsend.1 h.sendRtcp, ?_⟩
    by_cases hlt : maxLen < data.length + rtp.authTagLen + 4
    · exact .inl hlt
    · exact .inr (h.protectRtcp (hpassed.2 (Nat.le_of_not_lt hlt)))
  · rintro ⟨hle, hroom⟩
    refine ⟨fun h => ?_, fun h => ?_, sendRtp_passed cipher r hs (by omega), hsend.2 hle⟩
    · rw [← htag]
      exact (protectRtp_passed cipher maxLen hs (by omega)).1 h
    · have := hpassed.1 h
      omega

/-- **Whether the buffers have room** is a matter of the suite: they do for
every packet and every buffer exactly when its two tags are of one length. -/
theorem roomy_iff_tags (cipher : Cipher) (r : SrtpSession)
    (hrtp : lib.policyForRtp g.calls cs = some rtp)
    (hrtcp : lib.policyForRtcp g.calls cs = some rtcp)
    (h : s₀.doSetKey lib g type cs key = (s, g', true)) :
    (∀ data maxLen, Fits rtp rtcp data.length →
      (Roomy cipher s r rtp rtcp data maxLen ↔
        rtp.authTagLen ≤ rtcp.authTagLen ∧
          (maxLen < data.length + rtp.authTagLen + 4 ∨
            data.length + rtcp.authTagLen + 4 ≤ maxLen))) ∧
    (Fits rtp rtcp 0 → ((∀ data maxLen, Fits rtp rtcp data.length →
      Roomy cipher s r rtp rtcp data maxLen) ↔ rtp.authTagLen = rtcp.authTagLen)) := by
  obtain ⟨hs, htag, htag'⟩ := doSetKey_tags hrtp hrtcp h
  have hone : ∀ data maxLen, Fits rtp rtcp data.length →
      (Roomy cipher s r rtp rtcp data maxLen ↔
        rtp.authTagLen ≤ rtcp.authTagLen ∧
          (maxLen < data.length + rtp.authTagLen + 4 ∨
            data.length + rtcp.authTagLen + 4 ≤ maxLen)) :=
    fun data maxLen hfits => roomy_iff hs htag htag' hfits
  refine ⟨hone, fun hzero => ⟨fun hall => ?_, fun heq data maxLen hfits => ?_⟩⟩
  · -- the empty packet in a buffer that has just room by the RTP tag
    obtain ⟨hle, hroom⟩ := (hone [] (rtp.authTagLen + 4) hzero).1 (hall [] _ hzero)
    simp only [List.length_nil] at hroom
    omega
  · refine (hone data maxLen hfits).2 ⟨Nat.le_of_eq heq, ?_⟩
    omega

/-- The profile of a four-byte tag for RTP and a ten-byte tag for RTCP, and
what answers with it. -/
def shortTag : Libsrtp where
  init _ := true
  installEventHandler _ := true
  policyForRtp _ cs := if cs = 2 then some ⟨30, 4⟩ else none
  policyForRtcp _ cs := if cs = 2 then some ⟨30, 10⟩ else none
  create _ _ := true
  update _ _ := true

/-- A session with this profile. -/
def shortTagSession : SrtpSession :=
  (({} : SrtpSession).doSetKey shortTag {} .ssrcAnyOutbound 2 (some (List.replicate 30 7))).1

/-- Eight bytes of RTCP in a buffer of sixteen are passed on, and become
twenty-two. -/
theorem shortTag_overruns :
    shortTagSession.rtcpAuthTagLen = 10 ∧
      (shortTagSession.protectRtcp ⟨fun _ _ => none, fun _ _ => none⟩ [128, 200, 0, 1, 0, 0, 0, 9]
        8 16).isPassed = true ∧ ¬ 8 + shortTagSession.rtcpAuthTagLen + 4 ≤ 16 := by
  decide

theorem roomy_iff_tags_shortTag :
    ¬ ∀ data maxLen, Fits ⟨30, 4⟩ ⟨30, 10⟩ data.length →
      Roomy ⟨fun _ _ => none, fun _ _ => none⟩ shortTagSession {} ⟨30, 4⟩ ⟨30, 10⟩ data maxLen := by
  have hrtp : shortTag.policyForRtp ({} : Usage).calls 2 = some ⟨30, 4⟩ := rfl
  have hrtcp : shortTag.policyForRtcp ({} : Usage).calls 2 = some ⟨30, 10⟩ := rfl
  have hset : ({} : SrtpSession).doSetKey shortTag {} .ssrcAnyOutbound 2
      (some (List.replicate 30 7)) = (shortTagSession, _, true) := rfl
  have hfits : Fits ⟨30, 4⟩ ⟨30, 10⟩ 0 := by
    show 0 + max 4 10 + 4 < 2 ^ 31
    omega
  have hiff := (roomy_iff_tags ⟨fun _ _ => none, fun _ _ => none⟩ {} hrtp hrtcp hset).2 hfits
  exact fun hall => absurd (hiff.1 hall) (by decide)

end Srtp

end Pc

end XrtcServer
