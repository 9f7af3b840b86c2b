import XrtcServer.Ice.Consent
/-!
# How much a stranger is sent

A source address can be forged, and an answer goes to whoever has it. So the
bytes that are sent to an address from which nobody has asked for a
connection are counted against those that have come from there.
-/

namespace XrtcServer

namespace Ice

open Base Common StunMessage UDPPort IceTransportChannel

variable {rtc : Rtc} {iceParams : IceParameters} {data answer : List UInt8}

/-! ## Lengths -/

theorem Sized.write_length {msg : StunMessage} (h : Sized msg) (rtc : Rtc) :
    (msg.write rtc).length = 8 + msg.transactionId.length + totalSize msg.attrs := by
  rw [h.write rtc, List.length_append, wires_length]
  unfold header
  simp only [List.length_append, length_beBytes]

theorem read_transactionId {msg : StunMessage} {rest : List UInt8}
    (h : StunMessage.read rtc data = some (msg, rest)) : msg.transactionId.length ≤ 16 := by
  unfold StunMessage.read at h
  split at h
  · cases h
  · split at h
    · cases h
    · split at h
      · cases h
      · split at h
        · cases h
        · rename_i cookie buf hcookie
          split at h
          · cases h
          · rename_i transactionId body htid
            dsimp only at h
            split at h
            · cases h
            · obtain ⟨p, -, heq⟩ := Option.map_eq_some_iff.1 h
              obtain ⟨rfl, -⟩ := Prod.mk.inj heq
              rw [Rtc.readBytes_eq] at hcookie htid
              have hfour : cookie.length = 4 := (readExact_some hcookie).2
              have htwelve : transactionId.length = 12 := (readExact_some htid).2
              show (if _ then _ else _ : List UInt8).length ≤ 16
              split
              · rw [List.length_append]
                omega
              · omega

/-- **An error response is shorter than twice the request.** -/
theorem IsRefusal.length_lt (h : IsRefusal rtc iceParams data answer) :
    answer.length < 2 * data.length := by
  obtain ⟨msg, errCode, hparses, -, hcode, rfl⟩ := h
  have htid := read_transactionId hparses.2
  have hdata : 28 ≤ data.length := by
    have hvalid := hparses.1
    unfold validateFingerprint at hvalid
    dsimp only at hvalid
    split at hvalid
    · cases hvalid
    · rename_i hlength
      unfold k_stun_header_size k_stun_attribute_header_size at hlength
      simp only [Bool.or_eq_true, decide_eq_true_eq, not_or] at hlength
      omega
  have hplain : ¬ (errCode ≠ STUN_ERROR_BAD_REQUEST ∧ errCode ≠ STUN_ERROR_UNAUTHORIZED) := by
    rintro ⟨hbad, hunauthorized⟩
    exact hcode.elim hbad hunauthorized
  let error : StunAttribute := .ofErrorCode errCode (toBytes (errorReason errCode))
  let empty : StunMessage :=
    { type := STUN_BINDING_ERROR_RESPONSE, transactionId := msg.transactionId }
  have hsize : totalSize [error] = 20 := by
    rcases hcode with rfl | rfl <;> decide
  have hsized : Sized (empty.addAttribute error) := by
    have hempty : Sized empty := ⟨rfl, Nat.two_pow_pos 16⟩
    refine hempty.addAttribute error ?_
    show totalSize [error] < 2 ^ 16
    omega
  obtain ⟨built, hbuilt, hsized', hattrs, -, hbuiltTid⟩ := hsized.addFingerprint rtc (by
    show totalSize [error] + 8 < 2 ^ 16
    omega)
  have htotal : totalSize built.attrs = 28 := by
    rw [hattrs, totalSize_concat, fingerprint_size]
    show totalSize [error] + 8 = 28
    omega
  have hkept : built.transactionId = msg.transactionId := hbuiltTid
  unfold bindingErrorResponse
  dsimp only
  rw [if_neg hplain, hbuilt, hsized'.write_length, htotal, hkept]
  omega

/-! ## Runs -/

/-- The bytes sent to an address. -/
def bytesTo (portIndex : ℕ) (addr : SocketAddress) (sent : List Sent) : ℕ :=
  (sent.map fun x => if x.port = portIndex ∧ x.address = addr then x.data.length else 0).sum

/-- The bytes that have come from it. -/
def bytesFrom (portIndex : ℕ) (addr : SocketAddress) (es : List DatagramEvent) : ℕ :=
  (es.map fun
    | .datagram p a data _ _ => if p = portIndex ∧ a = addr then data.length else 0
    | _ => 0).sum

/-- **A stranger is sent at most twice what it sends.** As long as no
authentic request has come from an address, the bytes sent to it in a whole
run are at most twice those that have come from it. -/
theorem amplification_bounded (rtc : Rtc) (iceParams : IceParameters)
    (movingAverage : ℤ → ℤ → ℤ → ℤ) (localPriorities : List UInt32) (es : List DatagramEvent)
    (v : DatagramChannel) (portIndex : ℕ) (addr : SocketAddress)
    (hrun : run (DatagramChannel.step rtc iceParams movingAverage) ⟨.init localPriorities, []⟩ es =
      some v)
    (hstranger : ∀ name, ¬ HasAsked rtc iceParams es (portIndex, addr, name)) :
    bytesTo portIndex addr v.sent ≤ 2 * bytesFrom portIndex addr es := by
  refine (inv_of_history (I := fun es v => Invited (HasAsked rtc iceParams es) v.channel ∧
    ((∀ name, ¬ HasAsked rtc iceParams es (portIndex, addr, name)) →
      bytesTo portIndex addr v.sent ≤ 2 * bytesFrom portIndex addr es)) ?_
    ⟨invited_init localPriorities, fun _ => Nat.zero_le _⟩ hrun).2 hstranger
  rintro es u e v ⟨h, hbefore⟩ hstep
  obtain ⟨hchannel, happend⟩ := DatagramChannel.step_eq_some.1 hstep
  refine ⟨h.concat hchannel, fun hnone => ?_⟩
  have hold := hbefore fun name hasked => hnone name (hasked.concat e)
  have hto : bytesTo portIndex addr v.sent = bytesTo portIndex addr u.sent +
      bytesTo portIndex addr (u.channel.sends rtc iceParams movingAverage e) := by
    unfold bytesTo
    rw [happend, List.map_append, List.sum_append]
  have hfrom : bytesFrom portIndex addr (es ++ [e]) =
      bytesFrom portIndex addr es + bytesFrom portIndex addr [e] := by
    unfold bytesFrom
    rw [List.map_append, List.sum_append]
  -- what the event itself brings and is answered with
  have hone : bytesTo portIndex addr (u.channel.sends rtc iceParams movingAverage e) ≤
      2 * bytesFrom portIndex addr [e] := by
    rcases h.sends rtc iceParams movingAverage e with
      ⟨p, a, data, id, now, rfl, hempty | ⟨answer, hanswer, hkind⟩⟩ | ⟨-, hplaces⟩
    · rw [hempty]
      exact Nat.zero_le _
    · rw [hanswer]
      by_cases hhere : p = portIndex ∧ a = addr
      · obtain ⟨rfl, rfl⟩ := hhere
        rcases hkind with hrefusal | ⟨msg, remoteUfrag, -, hparses, htype, hauth, -⟩
        · have hlt := hrefusal.length_lt
          simp only [bytesTo, bytesFrom, List.map_cons, List.map_nil, List.sum_cons, List.sum_nil,
            and_self, if_true]
          omega
        · refine absurd ⟨data, id, now, msg, ?_, hparses, htype, hauth⟩ (hnone remoteUfrag)
          exact List.mem_append_right _ (List.mem_singleton_self _)
      · simp [bytesTo, bytesFrom, hhere]
    · refine (List.sum_eq_zero ?_).le.trans (Nat.zero_le _)
      intro n hn
      obtain ⟨x, hx, rfl⟩ := List.mem_map.1 hn
      rw [if_neg]
      rintro ⟨rfl, rfl⟩
      obtain ⟨name, hasked⟩ := hplaces x hx
      exact hnone name (hasked.concat e)
  rw [hto, hfrom]
  omega

/-- A request that names another end. -/
def forged : List UInt8 := requestFrom [120, 58, 98] []

theorem forged_not_authentic (hname : iceParams.iceUfrag ≠ "x") {msg : StunMessage}
    {remoteUfrag : String} (hparses : Parses blankRtc forged msg) :
    ¬ Authentic blankRtc iceParams forged msg remoteUfrag := by
  intro hauth
  let got := received blankRtc STUN_BINDING_REQUEST (List.replicate 12 7)
    [.byteString STUN_ATTR_USERNAME [120, 58, 98]] [] freshParams.icePwd
  have hread : StunMessage.read blankRtc forged = some (got, []) := by
    refine datagram_read blankRtc (by decide) (by decide) (fun attr hattr => ?_) (by simp) (by decide)
    obtain rfl := List.mem_singleton.1 hattr
    exact ⟨_, rfl⟩
  obtain rfl : got = msg := (Prod.mk.inj (Option.some.inj (hread.symm.trans hparses.2))).1
  obtain ⟨bytes, hbytes, hfields⟩ := hauth.username
  have husername : got.getByteString STUN_ATTR_USERNAME = some [120, 58, 98] := rfl
  obtain rfl := Option.some.inj (husername.symm.trans hbytes)
  have hsplit : blankRtc.split (ofBytes [120, 58, 98]) ':' = ["x", "b"] := by decide +kernel
  exact hname (List.cons.inj (hsplit.symm.trans hfields)).1.symm

def forgedRun : List DatagramEvent := [.datagram 0 firstAddress forged 0 1000]

theorem forgedRun_not_asked (name : String) :
    ¬ HasAsked blankRtc freshParams forgedRun (0, firstAddress, name) := by
  rintro ⟨data, id, now, msg, hmem, hparses, -, hauth⟩
  obtain ⟨-, -, rfl, -, -⟩ := DatagramEvent.datagram.inj (List.mem_singleton.1 hmem)
  exact forged_not_authentic (by decide) hparses hauth

theorem amplification_bounded_stranger : ∃ v : DatagramChannel,
    run (DatagramChannel.step blankRtc freshParams fun x _ _ => x) ⟨.init [0], []⟩ forgedRun =
      some v ∧ bytesTo 0 firstAddress v.sent = 48 ∧
    bytesTo 0 firstAddress v.sent ≤ 2 * bytesFrom 0 firstAddress forgedRun := by
  have hsent : (run (DatagramChannel.step blankRtc freshParams fun x _ _ => x) ⟨.init [0], []⟩
      forgedRun).map (fun v => bytesTo 0 firstAddress v.sent) = some 48 := by decide +kernel
  obtain ⟨v, hrun, hbytes⟩ := Option.map_eq_some_iff.1 hsent
  exact ⟨v, hrun, hbytes, amplification_bounded blankRtc freshParams (fun x _ _ => x) [0] forgedRun
    v 0 firstAddress hrun forgedRun_not_asked⟩

end Ice

end XrtcServer
