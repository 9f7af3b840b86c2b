import XrtcServer.Pc.Delivered
import XrtcServer.Pc.LineEnds
import XrtcServer.Pc.ReadBack
/-!
# The text of a pull offer

An offer is printed line by line, and the line parser cuts it at the same
places (`sdpLines_toString`). What an offer prints around its tracks is
quiet: it is taken, it stays in its section and it says nothing of SSRCs.
So the parse of a pull offer comes down to that of its tracks.
-/

namespace XrtcServer

namespace Pc

open Base Common XrtcServer.Stream

variable {rtc : RtcText} {outside : Surroundings} {line key text media : String}
variable {lines head : List String} {type : MediaType}

/-! ## The text and its lines -/

/-- **A printed text is cut into the lines it was printed from.** -/
theorem sdpLines_join (h : ∀ line ∈ lines, '\n' ∉ line.toList) :
    sdpLines rtc (String.join (lines.map fun line => line ++ "\r\n")) = lines :=
  sdpLines_ended_crlf h

/-! ## Quiet lines -/

/-- The keys that the line parser looks for in a section. -/
def sectionKeys : List String :=
  ["m=", "a=ice-ufrag", "a=ice-pwd", "a=fingerprint", "a=ssrc:", "a=ssrc-group:"]

/-- A line without any of them. -/
def Keyless (line : String) : Prop := ∀ key ∈ sectionKeys, found line key = false

instance (line : String) : Decidable (Keyless line) := by
  unfold Keyless
  infer_instance

/-- **A line that is taken, stays in its section and says nothing of SSRCs.** -/
structure Quiet (rtc : RtcText) (line : String) : Prop where
  stays : Stays rtc line
  silent : Silent line
  newline : '\n' ∉ line.toList

/-- A line that says nothing of SSRCs says nothing wrong of them. -/
theorem Silent.fits (h : Silent line) : Fits rtc line := by
  have hok : parseSsrcInfo rtc [] line = .ok [] := by
    rw [parseSsrcInfo, h.1]
    rfl
  exact fits_of_ok hok

theorem Keyless.quiet (h : Keyless line) (hnewline : '\n' ∉ line.toList) : Quiet rtc line := by
  have hufrag := h "a=ice-ufrag" (by decide)
  have hpwd := h "a=ice-pwd" (by decide)
  have hfingerprint := h "a=fingerprint" (by decide)
  have hnone : ¬ FingerprintLine line := by
    rintro ⟨-, hfound⟩
    rw [hfingerprint] at hfound
    cases hfound
  refine ⟨⟨?_, ?_, fun hshort => hnone hshort.1⟩, ⟨h _ (by decide), h _ (by decide)⟩, hnewline⟩
  · rw [isMedia, h "m=" (by decide), Bool.and_false]
  · rintro (⟨hcred, -⟩ | hrefused)
    · rcases hcred with hfound | hfound
      · rw [hufrag] at hfound
        cases hfound
      · rw [hpwd] at hfound
        cases hfound
    · exact hnone hrefused.1

/-- **In an attribute with no other equals sign**, only keys of its first letter
can be found. -/
theorem not_found_attribute {c : Char} {rest : List Char}
    (hline : line.toList = 'a' :: '=' :: c :: rest) (hfree : '=' ∉ c :: rest)
    (hkey : key = "m=" ∨ ∃ c' key', c' ≠ c ∧ key.toList = 'a' :: '=' :: c' :: key') :
    found line key = false := by
  have hbehind : ∀ y key', ¬ y :: '=' :: key' <:+: '=' :: c :: rest := by
    intro y key' hinside
    rcases List.infix_cons_iff.1 hinside with hstarts | hinside
    · have hrest := (List.cons_prefix_cons.1 hstarts).2
      exact hfree (hrest.subset List.mem_cons_self)
    · exact hfree (hinside.subset (List.mem_cons_of_mem _ List.mem_cons_self))
  rw [found, decide_eq_false_iff_not, hline, List.infix_cons_iff]
  rcases hkey with rfl | ⟨c', key', hc, hkey⟩
  · rintro (hstarts | hinside)
    · exact absurd (List.cons_prefix_cons.1 hstarts).1 (by decide)
    · exact hbehind _ _ hinside
  · rw [hkey]
    rintro (hstarts | hinside)
    · have hsecond := (List.cons_prefix_cons.1 hstarts).2
      have hthird := (List.cons_prefix_cons.1 hsecond).2
      exact hc (List.cons_prefix_cons.1 hthird).1
    · exact hbehind _ _ hinside

/-- A line of another attribute. -/
theorem keyless_attribute {c : Char} {rest : List Char}
    (hline : line.toList = 'a' :: '=' :: c :: rest) (hfree : '=' ∉ c :: rest)
    (hc : 'i' ≠ c ∧ 'f' ≠ c ∧ 's' ≠ c) : Keyless line := by
  obtain ⟨hi, hf, hs⟩ := hc
  intro key hkey
  refine not_found_attribute hline hfree ?_
  simp only [sectionKeys, List.mem_cons, List.not_mem_nil, or_false] at hkey
  rcases hkey with rfl | rfl | rfl | rfl | rfl | rfl
  · exact .inl rfl
  · exact .inr ⟨'i', _, hi, rfl⟩
  · exact .inr ⟨'i', _, hi, rfl⟩
  · exact .inr ⟨'f', _, hf, rfl⟩
  · exact .inr ⟨'s', _, hs, rfl⟩
  · exact .inr ⟨'s', _, hs, rfl⟩

/-! ## The lines of a transport -/

/-- **A credential is read where it is a word without colons.** -/
theorem quiet_credential (hkey : key = "a=ice-ufrag" ∨ key = "a=ice-pwd") (hne : text ≠ "")
    (htext : ∀ c ∈ [':', '=', '\n'], c ∉ text.toList) : Quiet rtc (key ++ ":" ++ text) := by
  have hcolon : ':' ∉ text.toList := htext _ (by decide)
  have hequal : '=' ∉ text.toList := htext _ (by decide)
  have hnewline : '\n' ∉ text.toList := htext _ (by decide)
  have hchars : (key ++ ":" ++ text).toList = key.toList ++ ':' :: text.toList := by
    simp
  have hkey' : ∃ rest, key.toList = 'a' :: '=' :: 'i' :: rest ∧ '=' ∉ 'i' :: rest ∧
      ':' ∉ key.toList ∧ '\n' ∉ key.toList := by
    rcases hkey with rfl | rfl
    · exact ⟨_, rfl, by decide, by decide, by decide⟩
    · exact ⟨_, rfl, by decide, by decide, by decide⟩
  obtain ⟨rest, hrest, hfree, hkeyColon, hkeyNewline⟩ := hkey'
  have hline : (key ++ ":" ++ text).toList = 'a' :: '=' :: 'i' :: (rest ++ ':' :: text.toList) := by
    rw [hchars, hrest]
    rfl
  have hfree' : '=' ∉ 'i' :: (rest ++ ':' :: text.toList) := by
    rw [List.mem_cons, not_or] at hfree ⊢
    rw [List.mem_append, List.mem_cons, not_or, not_or]
    exact ⟨hfree.1, hfree.2, by decide, hequal⟩
  have hfingerprint : found (key ++ ":" ++ text) "a=fingerprint" = false :=
    not_found_attribute hline hfree' (.inr ⟨'f', _, by decide, rfl⟩)
  have hnone : ¬ FingerprintLine (key ++ ":" ++ text) := by
    rintro ⟨-, hfound⟩
    rw [hfingerprint] at hfound
    cases hfound
  refine ⟨⟨?_, ?_, fun hshort => hnone hshort.1⟩, ⟨?_, ?_⟩, ?_⟩
  · rw [isMedia, not_found_attribute hline hfree' (.inl rfl), Bool.and_false]
  · rintro (⟨-, hlen⟩ | hrefused)
    · -- the key and the credential are the two fields
      refine hlen ?_
      have hword : text.toList ≠ [] := fun hnil => hne (String.toList_eq_nil_iff.1 hnil)
      rw [rtc.tokenize_eq, hchars, tokens_append_cons hkeyColon (by simp [hrest]), tokens,
        List.splitOn_eq_singleton hcolon, List.filter_cons_of_pos (by simp [hword])]
      rfl
    · exact hnone hrefused.1
  · exact not_found_attribute hline hfree' (.inr ⟨'s', _, by decide, rfl⟩)
  · exact not_found_attribute hline hfree' (.inr ⟨'s', _, by decide, rfl⟩)
  · rw [hchars, List.mem_append, List.mem_cons, not_or, not_or]
    exact ⟨hkeyNewline, by decide, hnewline⟩

/-- What stands in no text of a fingerprint. -/
theorem not_isFingerprintChar : ∀ c ∈ [' ', '=', '\n'], isFingerprintChar c = false :=
  forall_mem_of_all (by decide)

/-- The algorithms are words, in small letters. -/
theorem fipsAlgorithms_words : ∀ algorithm ∈ fipsAlgorithms, toLower algorithm = algorithm ∧
    ∀ c ∈ [' ', '=', '\n'], c ∉ algorithm.toList := by
  have hall : ∀ algorithm ∈ fipsAlgorithms, toLower algorithm = algorithm ∧
      ([' ', '=', '\n'].all fun c => decide (c ∉ algorithm.toList)) = true := by decide
  intro algorithm h
  obtain ⟨hlower, hwords⟩ := hall algorithm h
  exact ⟨hlower, forall_mem_of_all hwords⟩

/-- **The fingerprint of a certificate is read.** -/
theorem quiet_fingerprint {certificate : ℕ} {fingerprint : SSLFingerprint}
    (h : rtc.createFromCertificate certificate = some fingerprint) :
    Quiet rtc ("a=fingerprint:" ++ fingerprint.algorithm ++ " " ++
      rtc.getRfc4572Fingerprint fingerprint) := by
  obtain ⟨halg, hne, hchars, hcreate⟩ := rtc.createFromCertificate_some certificate fingerprint h
  generalize rtc.getRfc4572Fingerprint fingerprint = text at hne hchars hcreate ⊢
  generalize fingerprint.algorithm = alg at halg hcreate ⊢
  obtain ⟨hlower, hword⟩ := fipsAlgorithms_words alg halg
  have htext : ∀ c ∈ [' ', '=', '\n'], c ∉ text.toList := by
    intro c hc hmem
    have hno := not_isFingerprintChar c hc
    rw [hchars c hmem] at hno
    cases hno
  have hitem : ' ' ∉ "a=fingerprint:".toList ++ alg.toList := by
    rw [List.mem_append, not_or]
    exact ⟨by decide, hword _ (by decide)⟩
  have hsplit : ("a=fingerprint:" ++ alg ++ " " ++ text).toList =
      ("a=fingerprint:".toList ++ alg.toList) ++ ' ' :: text.toList := by
    simp
  have hline : ("a=fingerprint:" ++ alg ++ " " ++ text).toList =
      'a' :: '=' :: 'f' :: ("ingerprint:".toList ++ alg.toList ++ ' ' :: text.toList) := by
    rw [hsplit]
    rfl
  have hfree : '=' ∉ 'f' :: ("ingerprint:".toList ++ alg.toList ++ ' ' :: text.toList) := by
    rw [List.mem_cons, List.mem_append, List.mem_append, List.mem_cons, not_or, not_or, not_or,
      not_or]
    exact ⟨by decide, ⟨by decide, hword _ (by decide)⟩, by decide, htext _ (by decide)⟩
  have htokens : rtc.tokenize ("a=fingerprint:" ++ alg ++ " " ++ text) ' ' =
      [String.ofList ("a=fingerprint:".toList ++ alg.toList), text] := by
    have hnil : text.toList ≠ [] := fun hnil => hne (String.toList_eq_nil_iff.1 hnil)
    rw [rtc.tokenize_eq, hsplit, tokens_append_cons hitem (by simp), tokens,
      List.splitOn_eq_singleton (htext _ (by decide)), List.filter_cons_of_pos (by simp [hnil])]
    simp
  have hlong : 14 ≤ (String.ofList ("a=fingerprint:".toList ++ alg.toList)).length := by
    rw [String.length_ofList, List.length_append]
    exact Nat.le_add_right 14 _
  have hbehind : behind (String.ofList ("a=fingerprint:".toList ++ alg.toList)) 14 = alg := by
    rw [behind, String.toList_ofList]
    exact String.ofList_toList
  refine ⟨⟨?_, ?_, ?_⟩, ⟨?_, ?_⟩, ?_⟩
  · rw [isMedia, not_found_attribute hline hfree (.inl rfl), Bool.and_false]
  · rintro (⟨hcred, -⟩ | ⟨-, hrefused⟩)
    · rcases hcred with hfound | hfound
      · rw [not_found_attribute hline hfree (.inr ⟨'i', _, by decide, rfl⟩)] at hfound
        cases hfound
      · rw [not_found_attribute hline hfree (.inr ⟨'i', _, by decide, rfl⟩)] at hfound
        cases hfound
    · have hnone := (hrefused _ _ htokens).2
      rw [hbehind, hlower, hcreate] at hnone
      cases hnone
  · rintro ⟨-, item, content, htokens', hlt⟩
    rw [htokens] at htokens'
    obtain ⟨rfl, -⟩ := List.cons.inj htokens'
    omega
  · exact not_found_attribute hline hfree (.inr ⟨'s', _, by decide, rfl⟩)
  · exact not_found_attribute hline hfree (.inr ⟨'s', _, by decide, rfl⟩)
  · rw [hsplit, List.mem_append, List.mem_append, List.mem_cons, not_or, not_or, not_or]
    exact ⟨⟨by decide, hword _ (by decide)⟩, by decide, htext _ (by decide)⟩

/-- **What is printed of a transport.** -/
theorem quiet_buildTransport {td : TransportDescription}
    (hufrag : td.iceUfrag ≠ "" ∧ ∀ c ∈ [':', '=', '\n'], c ∉ td.iceUfrag.toList)
    (hpwd : td.icePwd ≠ "" ∧ ∀ c ∈ [':', '=', '\n'], c ∉ td.icePwd.toList)
    (hfingerprint : ∀ fingerprint ∈ td.identityFingerprint, ∃ certificate,
      rtc.createFromCertificate certificate = some fingerprint) :
    ∀ line ∈ buildTransport rtc td, Quiet rtc line := by
  have hsetup : ∀ role, Quiet rtc ("a=setup:" ++ connectionRoleToString role) := by
    intro role
    cases role
    · exact Keyless.quiet (by decide) (by decide)
    · exact Keyless.quiet (by decide) (by decide)
    · exact Keyless.quiet (by decide) (by decide)
    · exact Keyless.quiet (by decide) (by decide)
    · exact Keyless.quiet (by decide) (by decide)
  intro line hline
  rw [buildTransport] at hline
  rcases List.mem_append.1 hline with hline | hline
  · rcases List.mem_pair.1 hline with rfl | rfl
    · exact quiet_credential (.inl rfl) hufrag.1 hufrag.2
    · exact quiet_credential (.inr rfl) hpwd.1 hpwd.2
  · split at hline
    · exact absurd hline List.not_mem_nil
    · rename_i fingerprint hsome
      obtain ⟨certificate, hcert⟩ := hfingerprint fingerprint hsome
      rcases List.mem_pair.1 hline with rfl | rfl
      · exact quiet_fingerprint hcert
      · exact hsetup _

/-! ## The lines of a media section -/

/-- The digits of a number. -/
theorem notMem_toString {c : Char} (hc : c.isDigit = false) (n : ℕ) : c ∉ (toString n).toList := by
  intro hmem
  have hdigits : (toString n).toList = Nat.toDigits 10 n := Nat.toList_repr
  rw [hdigits] at hmem
  have hdigit := Nat.isDigit_of_mem_toDigits (by decide) (by decide) hmem
  rw [hc] at hdigit
  cases hdigit

/-- A candidate that was gathered here. -/
def Gathered (rtc : RtcText) (c : Candidate) : Prop :=
  ∃ ip port, c = createIceCandidate rtc ip port

theorem quiet_buildCandidate {content : MediaContentDescription}
    (h : ∀ c ∈ content.candidates, Gathered rtc c) :
    ∀ line ∈ buildCandidate content, Quiet rtc line := by
  intro line hline
  obtain ⟨c, hc, rfl⟩ := List.mem_map.1 hline
  obtain ⟨ip, port, rfl⟩ := h c hc
  obtain ⟨rest, hrest, hfree⟩ : ∃ rest, ("a=candidate:" ++ (createIceCandidate rtc ip port).foundation
      ++ " " ++ toString (createIceCandidate rtc ip port).component ++ " " ++
      (createIceCandidate rtc ip port).protocol ++ " " ++
      toString (createIceCandidate rtc ip port).priority.toNat ++ " " ++
      ipToString (createIceCandidate rtc ip port).address.ip ++ " " ++
      toString (createIceCandidate rtc ip port).address.port.toNat ++ " typ " ++
      (createIceCandidate rtc ip port).type).toList = 'a' :: '=' :: 'c' :: rest ∧
      ∀ d ∈ ['=', '\n'], d ∉ 'c' :: rest := by
    refine ⟨"andidate:".toList ++ _, by simp only [String.toList_append, List.append_assoc]; rfl,
      fun d hd => ?_⟩
    have hchars : ∀ d ∈ ['=', '\n'], d.isDigit = false ∧ d ∉ "candidate: .udptyphost".toList :=
      forall_mem_of_all (by decide)
    -- words of letters, numbers, and dots between numbers
    obtain ⟨hdigit, hwords⟩ := hchars d hd
    have hnum : ∀ n : ℕ, d ∉ (toString n).toList := notMem_toString hdigit
    simp only [createIceCandidate, computeFoundation, ipToString, RTP, LOCAL_PORT_TYPE,
      String.toList_append, List.mem_cons, List.mem_append, hnum]
    simp at hwords ⊢
    simp [hwords]
  refine (keyless_attribute hrest (hfree _ (by decide)) (by decide)).quiet ?_
  rw [hrest, List.mem_cons, List.mem_cons, not_or, not_or]
  exact ⟨by decide, by decide, hfree _ (by decide)⟩

/-- The content of a type, as its constructor makes it. -/
def newContent : MediaType → MediaContentDescription
  | .audio => audioContentDescription
  | .video => videoContentDescription

/-- The first line of a section. -/
def mediaLine (type : MediaType) : String :=
  "m=" ++ type.mid ++ " 9 UDP/TLS/RTP/SAVPF" ++
    String.join ((newContent type).codecs.map fun codec => " " ++ toString codec.id)

/-- It is found by no other key than its own. -/
theorem found_mediaLine (type : MediaType) :
    ∀ key ∈ "a=group:BUNDLE" :: sectionKeys.tail, found (mediaLine type) key = false := by
  cases type <;> decide +kernel

theorem silent_mediaLine (type : MediaType) : Silent (mediaLine type) :=
  ⟨found_mediaLine type _ (by decide), found_mediaLine type _ (by decide)⟩

theorem isMedia_mediaLine (type : MediaType) : isMedia (mediaLine type) = true := by
  have hkey : found (mediaLine type) "m=" = true := by
    refine decide_eq_true (List.IsPrefix.isInfix ?_)
    rw [mediaLine, String.append_assoc, String.append_assoc, String.toList_append]
    exact List.prefix_append _ _
  rw [isMedia, hkey, found_mediaLine type _ List.mem_cons_self]
  rfl

/-- **The first line opens its section**, wherever it stands. -/
theorem opens_mediaLine (rtc : RtcText) (type : MediaType) (media : String) :
    ¬ Short rtc media (mediaLine type) ∧ ¬ Refused rtc media (mediaLine type) ∧
      sectionAt rtc media (mediaLine type) = type.mid := by
  have hkeys : ∀ key ∈ sectionKeys.tail, found (mediaLine type) key = false :=
    fun key hkey => found_mediaLine type key (List.mem_cons_of_mem _ hkey)
  have hlen : (rtc.split (mediaLine type) ' ').length = 3 + (newContent type).codecs.length := by
    rw [rtc.split_eq, List.length_map]
    cases type <;> decide +kernel
  have hfirst : firstWord rtc (mediaLine type) = "m=" ++ type.mid := by
    rw [firstWord, rtc.split_eq]
    cases type <;> decide +kernel
  have hbehind : behind ("m=" ++ type.mid) 2 = type.mid := by
    cases type <;> decide
  have hnone : ¬ FingerprintLine (mediaLine type) := by
    rintro ⟨-, hfound⟩
    rw [hkeys "a=fingerprint" (by decide)] at hfound
    cases hfound
  have hcred : ¬ CredentialLine (mediaLine type) := by
    rintro (hfound | hfound)
    · rw [hkeys "a=ice-ufrag" (by decide)] at hfound
      cases hfound
    · rw [hkeys "a=ice-pwd" (by decide)] at hfound
      cases hfound
  have hssrc : ¬ found (mediaLine type) "a=ssrc:" = true := by
    rw [hkeys "a=ssrc:" (by decide)]
    exact Bool.false_ne_true
  refine ⟨?_, ?_, ?_⟩
  · rintro (⟨-, -, hshort⟩ | ⟨-, -, hshort⟩)
    · rw [hfirst, String.length_append] at hshort
      exact absurd (Nat.le_add_right 2 _) (Nat.not_le_of_lt hshort)
    · rcases hshort with hshort | ⟨-, hshort⟩
      · exact hnone hshort.1
      · exact hssrc hshort.1
  · rintro (⟨-, hrefused⟩ | ⟨-, -, hrefused⟩)
    · omega
    · rcases hrefused with (hrefused | hrefused) | ⟨-, hrefused⟩
      · exact hcred hrefused.1
      · exact hnone hrefused.1
      · exact hssrc hrefused.1
  · rw [sectionAt, if_pos (isMedia_mediaLine type), hfirst, hbehind]

/-- A section as an offer prints it. -/
structure PrintedSection (rtc : RtcText) (type : MediaType) (content : MediaContentDescription)
    (td : Option TransportDescription) : Prop where
  kind : content.type = type
  codecs : content.codecs = (newContent type).codecs
  candidates : ∀ c ∈ content.candidates, Gathered rtc c
  transport : ∀ td' ∈ td, ∀ line ∈ buildTransport rtc td', Quiet rtc line

/-- **What an offer prints of a section**: the line that opens it, quiet lines,
and its tracks. -/
theorem contentLines_eq (desc : SessionDescription) (content : MediaContentDescription)
    (h : PrintedSection rtc type content (desc.getTransportInfo type.mid)) :
    ∃ head, desc.contentLines rtc content =
      mediaLine type :: head ++ content.sendStreams.flatMap addTrackLines ∧
      ∀ line ∈ head, Quiet rtc line := by
  obtain ⟨htype, hcodecs, hcandidates, htransport⟩ := h
  have hmid : content.mid = type.mid := congrArg MediaType.mid htype
  have hmap : ∀ line ∈ buildRtpMap content, Quiet rtc line := by
    have hconst : ∀ line ∈ buildRtpMap (newContent type), Keyless line ∧ '\n' ∉ line.toList := by
      cases type <;> decide +kernel
    intro line hline
    have hsame : buildRtpMap content = buildRtpMap (newContent type) := by
      rw [buildRtpMap, buildRtpMap, hcodecs, htype]
      cases type <;> rfl
    rw [hsame] at hline
    obtain ⟨hkeyless, hnewline⟩ := hconst line hline
    exact hkeyless.quiet hnewline
  have hdirection : Quiet rtc (buildRtpDirection content) := by
    unfold buildRtpDirection
    split <;> exact Keyless.quiet (by decide) (by decide)
  have hsection : Quiet rtc ("a=mid:" ++ content.mid) := by
    rw [hmid]
    cases type <;> exact Keyless.quiet (by decide) (by decide)
  refine ⟨["c=IN IP4 0.0.0.0", "a=rtcp:9 IN IP4 0.0.0.0"] ++ buildCandidate content ++
    (desc.getTransportInfo content.mid).elim [] (buildTransport rtc) ++
    ["a=mid:" ++ content.mid, buildRtpDirection content] ++
    (if content.rtcpMux then ["a=rtcp-mux"] else []) ++
    ["a=extmap:12 http://www.webrtc.org/experiments/rtp-hdrext/abs-capture-time"] ++
    buildRtpMap content, ?_, ?_⟩
  · have hfirst : "m=" ++ content.mid ++ " 9 UDP/TLS/RTP/SAVPF" ++
        String.join (content.codecs.map fun codec => " " ++ toString codec.id) =
          mediaLine type := by
      rw [hmid, hcodecs]
      rfl
    rw [SessionDescription.contentLines, hfirst]
    cases desc.getTransportInfo content.mid <;>
      simp only [buildSsrc, Option.elim_none, Option.elim_some, List.append_assoc,
        List.cons_append, List.nil_append]
  · intro line hline
    simp only [List.mem_append, List.mem_cons, List.not_mem_nil, or_false] at hline
    rcases hline with ((((((rfl | rfl) | hline) | hline) | rfl | rfl) | hline) | rfl) | hline
    · exact Keyless.quiet (by decide) (by decide)
    · exact Keyless.quiet (by decide) (by decide)
    · exact quiet_buildCandidate hcandidates line hline
    · rw [hmid] at hline
      cases hinfo : desc.getTransportInfo type.mid with
      | none =>
        rw [hinfo] at hline
        exact absurd hline List.not_mem_nil
      | some td =>
        rw [hinfo] at hline
        exact htransport td hinfo line hline
    · exact hsection
    · exact hdirection
    · split at hline
      · obtain rfl := List.mem_singleton.1 hline
        exact Keyless.quiet (by decide) (by decide)
      · exact absurd hline List.not_mem_nil
    · exact Keyless.quiet (by decide +kernel) (by decide +kernel)
    · exact hmap line hline

end Pc

end XrtcServer
