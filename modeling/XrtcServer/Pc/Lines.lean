import XrtcServer.Pc.Model.PeerConnection
/-!
# What a line of an SDP does

Whether a line is taken, refused or cuts a `substr` short depends on its
text and on the section it stands in, and on nothing else that was read
before (`parseLine_cases`). The conditions are read off the text.
-/

namespace XrtcServer

namespace Pc

open Base Common XrtcServer.Stream

/-- The text from a position on. -/
def behind (s : String) (pos : ℕ) : String := String.ofList (s.toList.drop pos)

/-- The line opens a media section, or tries to. -/
def isMedia (line : String) : Bool := !found line "a=group:BUNDLE" && found line "m="

def InSection (media : String) : Prop := media = "audio" ∨ media = "video"

/-- The line sets a credential. -/
def CredentialLine (line : String) : Prop :=
  found line "a=ice-ufrag" = true ∨ found line "a=ice-pwd" = true

/-- The line sets a fingerprint: the credentials are looked for first. -/
def FingerprintLine (line : String) : Prop :=
  ¬ CredentialLine line ∧ found line "a=fingerprint" = true

section Conditions

variable (rtc : RtcText)

def firstWord (line : String) : String := (rtc.split line ' ').headD ""

/-- The section a line stands in or opens, behind lines of section `media`. -/
def sectionAt (media line : String) : String :=
  if isMedia line then behind (firstWord rtc line) 2 else media

/-! ## A line that is cut short, or refused -/

def ShortMedia (line : String) : Prop :=
  isMedia line = true ∧ 2 < (rtc.split line ' ').length ∧ (firstWord rtc line).length < 2

def RefusedMedia (line : String) : Prop :=
  isMedia line = true ∧ (rtc.split line ' ').length ≤ 2

def ShortFingerprint (line : String) : Prop :=
  FingerprintLine line ∧
    ∃ item content, rtc.tokenize line ' ' = [item, content] ∧ item.length < 14

def RefusedFingerprint (line : String) : Prop :=
  FingerprintLine line ∧ ∀ item content, rtc.tokenize line ' ' = [item, content] →
    14 ≤ item.length ∧ rtc.createUniqueFromRfc4572 (toLower (behind item 14)) content = none

def RefusedTransport (line : String) : Prop :=
  CredentialLine line ∧ (rtc.tokenize line ':').length ≠ 2 ∨ RefusedFingerprint rtc line

def ShortSsrc (line : String) : Prop :=
  found line "a=ssrc:" = true ∧
    ∃ field1 field2, rtc.tokenizeFirst (behind line 2) ' ' = some (field1, field2) ∧
      field1.length < 5

/-- However far the parse of the line goes, it does not go through. -/
def RefusedSsrc (line : String) : Prop :=
  found line "a=ssrc:" = true ∧
    ∀ field1 field2, rtc.tokenizeFirst (behind line 2) ' ' = some (field1, field2) →
      5 ≤ field1.length ∧
      ∀ ssrc attr value, rtc.fromString (behind field1 5) = some ssrc →
        rtc.tokenizeFirst field2 ':' = some (attr, value) →
        attr = "msid" ∧ isMsid rtc value = false

def ShortSection (line : String) : Prop :=
  ShortFingerprint rtc line ∨ ¬ RefusedTransport rtc line ∧ ShortSsrc rtc line

def RefusedSection (line : String) : Prop :=
  RefusedTransport rtc line ∨ ¬ ShortFingerprint rtc line ∧ RefusedSsrc rtc line

/-- **The line starts a `substr` past the end of its text.** -/
def Short (media line : String) : Prop :=
  ShortMedia rtc line ∨
    ¬ RefusedMedia rtc line ∧ InSection (sectionAt rtc media line) ∧ ShortSection rtc line

/-- **The line makes the parser return `-1`.** -/
def Refused (media line : String) : Prop :=
  RefusedMedia rtc line ∨
    ¬ ShortMedia rtc line ∧ InSection (sectionAt rtc media line) ∧ RefusedSection rtc line

end Conditions

variable {rtc : RtcText} {s line media : String} {pos : ℕ} {td : TransportDescription}
variable {infos : List SsrcInfo} {st : SdpParse} {type : MediaType}

/-! ## Texts -/

theorem substr_of_le (h : pos ≤ s.length) : substr s pos = .ok (behind s pos) := if_pos h

theorem substr_of_lt (h : s.length < pos) : substr s pos = .error .outOfRange :=
  if_neg (Nat.not_le.2 h)

theorem length_of_found {key : String} (h : found line key = true) : key.length ≤ line.length := by
  have hinside : key.toList <:+: line.toList := of_decide_eq_true h
  have hlen := hinside.length_le
  rwa [String.length_toList, String.length_toList] at hlen

theorem ne_empty_of_mem_tokenize {c : Char} {token : String} (h : token ∈ rtc.tokenize s c) :
    token ≠ "" := by
  rw [rtc.tokenize_eq] at h
  obtain ⟨text, htext, rfl⟩ := List.mem_map.1 h
  have hne := (List.mem_filter.1 htext).2
  rintro hempty
  rw [← String.toList_inj, String.toList_ofList] at hempty
  subst hempty
  exact absurd hne (by decide)

/-- An attribute is there where the line has two fields. -/
theorem getAttribute_eq_empty : getAttribute rtc line = "" ↔ (rtc.tokenize line ':').length ≠ 2 := by
  have hne : ∀ token ∈ rtc.tokenize line ':', token ≠ "" := fun _ => ne_empty_of_mem_tokenize
  unfold getAttribute
  split
  · rename_i key value heq
    rw [heq] at hne ⊢
    have hvalue := hne value (by simp)
    simp [hvalue]
  · rename_i hother
    simp only [true_iff]
    intro hlen
    obtain ⟨key, value, heq⟩ := List.length_eq_two.1 hlen
    exact hother key value heq

/-! ## The transport line -/

/-- A fingerprint as the library makes them. -/
def KnownFingerprint (fingerprint : SSLFingerprint) : Prop :=
  fingerprint.algorithm ∈ fipsAlgorithms ∧ fingerprint.digest ≠ []

/-- The fingerprint is set, where the line sets it, and else kept. -/
def Fingerprinted (set : Prop) (td td' : TransportDescription) : Prop :=
  set ∧ (∃ fingerprint, td'.identityFingerprint = some fingerprint ∧
    KnownFingerprint fingerprint) ∨
  ¬ set ∧ td'.identityFingerprint = td.identityFingerprint

theorem parseFingerprint_cases (h : FingerprintLine line) (td : TransportDescription) :
    (ShortFingerprint rtc line ∧ parseFingerprint rtc td line = .error .outOfRange) ∨
    (RefusedFingerprint rtc line ∧ parseFingerprint rtc td line = .error .refused) ∨
    (¬ ShortFingerprint rtc line ∧ ¬ RefusedFingerprint rtc line ∧ ∃ fingerprint,
      parseFingerprint rtc td line = .ok { td with identityFingerprint := some fingerprint } ∧
      KnownFingerprint fingerprint) := by
  unfold parseFingerprint
  split
  · rename_i item content htokens
    -- the only two tokens there are
    have hpair : ∀ item' content', rtc.tokenize line ' ' = [item', content'] →
        item' = item ∧ content' = content := by
      intro item' content' h'
      rw [htokens] at h'
      cases h'
      exact ⟨rfl, rfl⟩
    rcases Nat.lt_or_ge item.length 14 with hlt | hge
    · refine .inl ⟨⟨h, item, content, htokens, hlt⟩, ?_⟩
      rw [substr_of_lt hlt]
      rfl
    · have hlong : ¬ ShortFingerprint rtc line := by
        rintro ⟨-, item', content', h', hlt⟩
        obtain ⟨rfl, rfl⟩ := hpair _ _ h'
        omega
      rw [substr_of_le hge]
      cases hcreate : rtc.createUniqueFromRfc4572 (toLower (behind item 14)) content with
      | none =>
        refine .inr (.inl ⟨⟨h, fun item' content' h' => ?_⟩, ?_⟩)
        · obtain ⟨rfl, rfl⟩ := hpair _ _ h'
          exact ⟨hge, hcreate⟩
        · simp only [bind, Except.bind, hcreate]
      | some fingerprint =>
        refine .inr (.inr ⟨hlong, ?_, fingerprint, ?_, ?_⟩)
        · rintro ⟨-, hrefused⟩
          rw [(hrefused item content htokens).2] at hcreate
          cases hcreate
        · simp only [bind, Except.bind, hcreate]
        · obtain ⟨halg, heq, hdigest⟩ := rtc.createUniqueFromRfc4572_some _ _ _ hcreate
          exact ⟨heq ▸ halg, hdigest⟩
  · rename_i hother
    exact .inr (.inl ⟨⟨h, fun item content htokens => absurd htokens (hother item content)⟩, rfl⟩)

/-- A line is not both cut short and refused. -/
theorem not_refusedFingerprint_of_short (h : ShortFingerprint rtc line) :
    ¬ RefusedFingerprint rtc line := by
  obtain ⟨-, item, content, htokens, hlt⟩ := h
  rintro ⟨-, hrefused⟩
  have hge := (hrefused item content htokens).1
  omega

theorem not_refusedTransport_of_short (h : ShortFingerprint rtc line) :
    ¬ RefusedTransport rtc line := by
  rintro (⟨hcred, -⟩ | hrefused)
  · exact h.1.1 hcred
  · exact not_refusedFingerprint_of_short h hrefused

/-- **What a line does to the transport of its section.** -/
theorem parseTransportInfo_cases (rtc : RtcText) (line : String) (td : TransportDescription) :
    (ShortFingerprint rtc line ∧ parseTransportInfo rtc td line = .error .outOfRange) ∨
    (RefusedTransport rtc line ∧ parseTransportInfo rtc td line = .error .refused) ∨
    (¬ ShortFingerprint rtc line ∧ ¬ RefusedTransport rtc line ∧ ∃ td',
      parseTransportInfo rtc td line = .ok td' ∧ td'.mid = td.mid ∧
      Fingerprinted (FingerprintLine line) td td') := by
  -- a credential line, the first key or the second, is refused or taken alike
  have hcredential : CredentialLine line → ∀ td', td'.mid = td.mid →
      td'.identityFingerprint = td.identityFingerprint →
      parseTransportInfo rtc td line =
        (if getAttribute rtc line = "" then .error .refused else .ok td') →
      (RefusedTransport rtc line ∧ parseTransportInfo rtc td line = .error .refused) ∨
      (¬ ShortFingerprint rtc line ∧ ¬ RefusedTransport rtc line ∧ ∃ td',
        parseTransportInfo rtc td line = .ok td' ∧ td'.mid = td.mid ∧
        Fingerprinted (FingerprintLine line) td td') := by
    intro hcred td' hmid hfp heq
    have hnot : ¬ FingerprintLine line := fun h => h.1 hcred
    rw [heq]
    by_cases hattr : getAttribute rtc line = ""
    · exact .inl ⟨.inl ⟨hcred, getAttribute_eq_empty.1 hattr⟩, if_pos hattr⟩
    · refine .inr ⟨fun h => hnot h.1, ?_, td', if_neg hattr, hmid, .inr ⟨hnot, hfp⟩⟩
      rintro (⟨-, hlen⟩ | h)
      · exact hattr (getAttribute_eq_empty.2 hlen)
      · exact hnot h.1
  by_cases hufrag : found line "a=ice-ufrag" = true
  · refine .inr (hcredential (.inl hufrag) { td with iceUfrag := getAttribute rtc line } rfl rfl ?_)
    rw [parseTransportInfo, if_pos hufrag]
  · by_cases hpwd : found line "a=ice-pwd" = true
    · refine .inr (hcredential (.inr hpwd) { td with icePwd := getAttribute rtc line } rfl rfl ?_)
      rw [parseTransportInfo, if_neg hufrag, if_pos hpwd]
    · have hcred : ¬ CredentialLine line := by
        rintro (h | h)
        · exact hufrag h
        · exact hpwd h
      rw [parseTransportInfo, if_neg hufrag, if_neg hpwd]
      by_cases hkey : found line "a=fingerprint" = true
      · have hline : FingerprintLine line := ⟨hcred, hkey⟩
        rw [if_pos hkey]
        rcases parseFingerprint_cases hline td with
          ⟨hs, h⟩ | ⟨hr, h⟩ | ⟨hs, hr, fingerprint, h, hknown⟩
        · exact .inl ⟨hs, h⟩
        · exact .inr (.inl ⟨.inr hr, h⟩)
        · refine .inr (.inr ⟨hs, ?_, _, h, rfl, .inl ⟨hline, fingerprint, rfl, hknown⟩⟩)
          rintro (⟨h, -⟩ | h)
          · exact hcred h
          · exact hr h
      · have hline : ¬ FingerprintLine line := fun h => hkey h.2
        rw [if_neg hkey]
        refine .inr (.inr ⟨fun h => hline h.1, ?_, td, rfl, rfl, .inr ⟨hline, rfl⟩⟩)
        rintro (⟨h, -⟩ | h)
        · exact hcred h
        · exact hline h.1

/-! ## The SSRC line -/

/-- **What a line does to the SSRCs of its section.** -/
theorem parseSsrcInfo_cases (rtc : RtcText) (line : String) (infos : List SsrcInfo) :
    (ShortSsrc rtc line ∧ parseSsrcInfo rtc infos line = .error .outOfRange) ∨
    (RefusedSsrc rtc line ∧ parseSsrcInfo rtc infos line = .error .refused) ∨
    (¬ ShortSsrc rtc line ∧ ¬ RefusedSsrc rtc line ∧ ∃ infos',
      parseSsrcInfo rtc infos line = .ok infos') := by
  by_cases hkey : found line "a=ssrc:" = true
  · have hlen : 2 ≤ line.length := le_trans (by decide) (length_of_found hkey)
    simp only [parseSsrcInfo, if_pos hkey, substr_of_le hlen, bind, Except.bind]
    cases hfields : rtc.tokenizeFirst (behind line 2) ' ' with
    | none =>
      refine .inr (.inl ⟨⟨hkey, fun field1 field2 h => ?_⟩, rfl⟩)
      rw [hfields] at h
      cases h
    | some fields =>
      obtain ⟨field1, field2⟩ := fields
      rcases Nat.lt_or_ge field1.length 5 with hlt | hge
      · refine .inl ⟨⟨hkey, field1, field2, hfields, hlt⟩, ?_⟩
        simp only [substr_of_lt hlt]
      · have hlong : ¬ ShortSsrc rtc line := by
          rintro ⟨-, f1, f2, h, hlt⟩
          obtain ⟨rfl, rfl⟩ := Prod.mk.inj (Option.some.inj (hfields.symm.trans h))
          omega
        -- the line is refused where a later part of it is
        have hrefuse : (∀ ssrc attr value, rtc.fromString (behind field1 5) = some ssrc →
            rtc.tokenizeFirst field2 ':' = some (attr, value) →
            attr = "msid" ∧ isMsid rtc value = false) ↔ RefusedSsrc rtc line := by
          constructor
          · intro h
            refine ⟨hkey, fun f1 f2 hf => ?_⟩
            obtain ⟨rfl, rfl⟩ := Prod.mk.inj (Option.some.inj (hfields.symm.trans hf))
            exact ⟨hge, h⟩
          · rintro ⟨-, h⟩
            exact (h field1 field2 hfields).2
        simp only [substr_of_le hge, ← hrefuse]
        cases hssrc : rtc.fromString (behind field1 5) with
        | none =>
          refine .inr (.inl ⟨fun ssrc attr value h => ?_, rfl⟩)
          cases h
        | some ssrc =>
          cases hattr : rtc.tokenizeFirst field2 ':' with
          | none =>
            refine .inr (.inl ⟨fun ssrc attr value _ h => ?_, rfl⟩)
            cases h
          | some pair =>
            obtain ⟨attr, value⟩ := pair
            by_cases hmsid : attr = "msid" ∧ isMsid rtc value = false
            · refine .inr (.inl ⟨?_, if_pos hmsid⟩)
              rintro _ _ _ _ h
              cases h
              exact hmsid
            · exact .inr (.inr ⟨hlong, fun h => hmsid (h _ _ _ rfl rfl), _, if_neg hmsid⟩)
  · refine .inr (.inr ⟨fun h => hkey h.1, fun h => hkey h.1, infos, ?_⟩)
    rw [parseSsrcInfo, if_neg hkey]

/-! ## The line as a whole -/

/-- The content that an `m=` line adds. -/
def openedContent (rtc : RtcText) (line : String) : Option MediaContentDescription :=
  if isMedia line = false then none
  else if behind (firstWord rtc line) 2 = "audio" then some audioContentDescription
  else if behind (firstWord rtc line) 2 = "video" then some videoContentDescription
  else none

/-- The group that a line adds. -/
def namedGroup (rtc : RtcText) (line : String) :
    Option { group : ContentGroup // group.contentNames ≠ [] } :=
  if found line "a=group:BUNDLE" then bundleGroup rtc line else none

/-- The line opens a section of the type. -/
def opens (rtc : RtcText) (type : MediaType) (line : String) : Bool :=
  isMedia line && behind (firstWord rtc line) 2 = type.mid

/-- The transport of the sections of a type. -/
def SdpParse.tdOf (st : SdpParse) : MediaType → TransportDescription
  | .audio => st.audioTd
  | .video => st.videoTd

/-- **What a line that is taken makes of the parse**, where it sets the
fingerprints of the types `sets`. -/
structure LineRead (rtc : RtcText) (line : String) (sets : MediaType → Prop) (st st' : SdpParse) :
    Prop where
  mediaType : st'.mediaType = sectionAt rtc st.mediaType line
  groups : st'.remoteDesc.contentGroups =
    st.remoteDesc.contentGroups ++ (namedGroup rtc line).toList
  contents : st'.remoteDesc.contents = st.remoteDesc.contents ++ (openedContent rtc line).toList
  transportInfos : st'.remoteDesc.transportInfos = st.remoteDesc.transportInfos
  mid : ∀ type, (st'.tdOf type).mid =
    if opens rtc type line then type.mid else (st.tdOf type).mid
  fingerprint : ∀ type, Fingerprinted (sets type) (st.tdOf type) (st'.tdOf type)

/-- A line read as a header sets no fingerprint. -/
def HeaderRead (rtc : RtcText) (line : String) : SdpParse → SdpParse → Prop :=
  LineRead rtc line fun _ => False

theorem headerRead_bundle (h : found line "a=group:BUNDLE" = true) (st : SdpParse) :
    HeaderRead rtc line st (st.parseBundle rtc line) := by
  have hmedia : isMedia line = false := by simp [isMedia, h]
  have hopened : openedContent rtc line = none := if_pos hmedia
  have hsection : sectionAt rtc st.mediaType line = st.mediaType := by simp [sectionAt, hmedia]
  have hopens : ∀ type, opens rtc type line = false := fun type => by simp [opens, hmedia]
  have hnamed : namedGroup rtc line = bundleGroup rtc line := if_pos h
  unfold SdpParse.parseBundle
  cases hgroup : bundleGroup rtc line with
  | none =>
    constructor <;> simp [hopened, hsection, hopens, hnamed, hgroup, Fingerprinted]
  | some group =>
    refine ⟨hsection.symm, ?_, ?_, rfl, fun type => ?_, fun type => ?_⟩
    · rw [hnamed, hgroup]
      rfl
    · rw [hopened]
      exact (List.append_nil _).symm
    · rw [hopens]
      cases type <;> rfl
    · exact .inr ⟨id, by cases type <;> rfl⟩

theorem headerRead_other (hbundle : found line "a=group:BUNDLE" = false)
    (hmedia : found line "m=" = false) (st : SdpParse) : HeaderRead rtc line st st := by
  have hmedia : isMedia line = false := by simp [isMedia, hmedia]
  constructor <;>
    simp [openedContent, sectionAt, opens, namedGroup, hbundle, hmedia, Fingerprinted]

theorem parseMedia_cases (h : isMedia line = true) (st : SdpParse) :
    (ShortMedia rtc line ∧ st.parseMedia rtc line = .error .outOfRange) ∨
    (¬ ShortMedia rtc line ∧ RefusedMedia rtc line ∧
      st.parseMedia rtc line = .error .refused) ∨
    (¬ ShortMedia rtc line ∧ ¬ RefusedMedia rtc line ∧ ∃ st',
      st.parseMedia rtc line = .ok st' ∧ HeaderRead rtc line st st') := by
  have hbundle : found line "a=group:BUNDLE" = false := by
    simp only [isMedia, Bool.and_eq_true, Bool.not_eq_true'] at h
    exact h.1
  have hnamed : namedGroup rtc line = none := if_neg (by simp [hbundle])
  unfold SdpParse.parseMedia
  split
  · rename_i item second third words hwords
    have hfirst : firstWord rtc line = item := by rw [firstWord, hwords, List.headD_cons]
    have hrefused : ¬ RefusedMedia rtc line := by
      rintro ⟨-, hlen⟩
      rw [hwords] at hlen
      simp at hlen
    rcases Nat.lt_or_ge item.length 2 with hlt | hge
    · refine .inl ⟨⟨h, by rw [hwords]; simp, by rw [hfirst]; exact hlt⟩, ?_⟩
      rw [substr_of_lt hlt]
      rfl
    · have hshort : ¬ ShortMedia rtc line := by
        rintro ⟨-, -, hlt⟩
        rw [hfirst] at hlt
        omega
      refine .inr (.inr ⟨hshort, hrefused, ?_⟩)
      have hsection : sectionAt rtc st.mediaType line = behind item 2 := by
        rw [sectionAt, if_pos h, hfirst]
      simp only [substr_of_le hge, bind, Except.bind]
      by_cases haudio : behind item 2 = "audio"
      · have hopens : ∀ type, opens rtc type line = decide (type = .audio) := by
          intro type
          cases type <;> simp [opens, h, hfirst, haudio, MediaType.mid]
        refine ⟨_, if_pos haudio, hsection.symm, ?_, ?_, rfl, fun type => ?_, fun type => ?_⟩
        · rw [hnamed]
          exact (List.append_nil _).symm
        · simp [openedContent, h, hfirst, haudio, SessionDescription.addContent]
        · rw [hopens]
          cases type <;> rfl
        · exact .inr ⟨id, by cases type <;> rfl⟩
      · by_cases hvideo : behind item 2 = "video"
        · have hopens : ∀ type, opens rtc type line = decide (type = .video) := by
            intro type
            cases type <;> simp [opens, h, hfirst, hvideo, MediaType.mid]
          refine ⟨_, (if_neg haudio).trans (if_pos hvideo), hsection.symm, ?_, ?_, rfl,
            fun type => ?_, fun type => ?_⟩
          · rw [hnamed]
            exact (List.append_nil _).symm
          · simp [openedContent, h, hfirst, hvideo, SessionDescription.addContent]
          · rw [hopens]
            cases type <;> rfl
          · exact .inr ⟨id, by cases type <;> rfl⟩
        · have hopens : ∀ type, opens rtc type line = false := by
            intro type
            cases type <;> simp [opens, h, hfirst, haudio, hvideo, MediaType.mid]
          refine ⟨_, (if_neg haudio).trans (if_neg hvideo), hsection.symm, ?_, ?_, rfl,
            fun type => ?_, fun type => ?_⟩
          · rw [hnamed]
            exact (List.append_nil _).symm
          · simp [openedContent, h, hfirst, haudio, hvideo]
          · rw [hopens]
            cases type <;> rfl
          · exact .inr ⟨id, by cases type <;> rfl⟩
  · rename_i hother
    have hlen : (rtc.split line ' ').length ≤ 2 := by
      match hwords : rtc.split line ' ' with
      | [] | [_] | [_, _] => simp
      | _ :: _ :: _ :: _ => exact absurd hwords (hother _ _ _ _)
    refine .inr (.inl ⟨fun hshort => ?_, ⟨h, hlen⟩, rfl⟩)
    have hlt := hshort.2.1
    omega

/-- **What a line says as a header.** -/
theorem parseHeader_cases (rtc : RtcText) (line : String) (st : SdpParse) :
    (ShortMedia rtc line ∧ st.parseHeader rtc line = .error .outOfRange) ∨
    (¬ ShortMedia rtc line ∧ RefusedMedia rtc line ∧
      st.parseHeader rtc line = .error .refused) ∨
    (¬ ShortMedia rtc line ∧ ¬ RefusedMedia rtc line ∧ ∃ st',
      st.parseHeader rtc line = .ok st' ∧ HeaderRead rtc line st st') := by
  unfold SdpParse.parseHeader
  by_cases hbundle : found line "a=group:BUNDLE" = true
  · have hmedia : ¬ isMedia line = true := by simp [isMedia, hbundle]
    rw [if_pos hbundle]
    exact .inr (.inr ⟨fun h => hmedia h.1, fun h => hmedia h.1, _, rfl,
      headerRead_bundle hbundle st⟩)
  · rw [if_neg hbundle]
    rw [Bool.not_eq_true] at hbundle
    by_cases hkey : found line "m=" = true
    · rw [if_pos hkey]
      exact parseMedia_cases (by simp [isMedia, hbundle, hkey]) st
    · have hmedia : ¬ isMedia line = true := by simp [isMedia, hkey]
      rw [if_neg hkey]
      rw [Bool.not_eq_true] at hkey
      exact .inr (.inr ⟨fun h => hmedia h.1, fun h => hmedia h.1, _, rfl,
        headerRead_other hbundle hkey st⟩)

/-! ## The line in its section -/

/-- What a section's line is read as, transport first. -/
def sectionLine (rtc : RtcText) (td : TransportDescription) (infos : List SsrcInfo)
    (line : String) : Except Stop (TransportDescription × List SsrcInfo) := do
  let td ← parseTransportInfo rtc td line
  let infos ← parseSsrcInfo rtc infos line
  .ok (td, infos)

theorem sectionLine_cases (rtc : RtcText) (line : String) (td : TransportDescription)
    (infos : List SsrcInfo) :
    (ShortSection rtc line ∧ sectionLine rtc td infos line = .error .outOfRange) ∨
    (RefusedSection rtc line ∧ sectionLine rtc td infos line = .error .refused) ∨
    (¬ ShortSection rtc line ∧ ¬ RefusedSection rtc line ∧ ∃ td' infos',
      sectionLine rtc td infos line = .ok (td', infos') ∧ td'.mid = td.mid ∧
      Fingerprinted (FingerprintLine line) td td') := by
  unfold sectionLine
  rcases parseTransportInfo_cases rtc line td with
    ⟨hs, h⟩ | ⟨hr, h⟩ | ⟨hs, hr, td', h, hmid, hfp⟩
  · rw [h]
    exact .inl ⟨.inl hs, rfl⟩
  · rw [h]
    exact .inr (.inl ⟨.inl hr, rfl⟩)
  · rw [h]
    rcases parseSsrcInfo_cases rtc line infos with
      ⟨hs', h'⟩ | ⟨hr', h'⟩ | ⟨hs', hr', infos', h'⟩
    · refine .inl ⟨.inr ⟨hr, hs'⟩, ?_⟩
      simp only [bind, Except.bind, h']
    · refine .inr (.inl ⟨.inr ⟨hs, hr'⟩, ?_⟩)
      simp only [bind, Except.bind, h']
    · refine .inr (.inr ⟨?_, ?_, td', infos', ?_, hmid, hfp⟩)
      · rintro (h | ⟨-, h⟩)
        · exact hs h
        · exact hs' h
      · rintro (h | ⟨-, h⟩)
        · exact hr h
        · exact hr' h
      · simp only [bind, Except.bind, h']

theorem not_refusedSection_of_short (h : ShortSection rtc line) : ¬ RefusedSection rtc line := by
  rintro (hr | ⟨hs, hr⟩)
  · rcases h with h | ⟨hnot, -⟩
    · exact not_refusedTransport_of_short h hr
    · exact hnot hr
  · rcases h with h | ⟨-, -, field1, field2, hfields, hlt⟩
    · exact hs h
    · have hge := (hr.2 field1 field2 hfields).1
      omega

/-- A line is not both cut short and refused. -/
theorem not_refused_of_short (h : Short rtc media line) : ¬ Refused rtc media line := by
  rcases h with hs | ⟨hnot, hin, hs⟩
  · rintro (⟨-, hr⟩ | ⟨hnot, -⟩)
    · have hlen := hs.2.1
      omega
    · exact hnot hs
  · rintro (hr | ⟨-, -, hr⟩)
    · exact hnot hr
    · exact not_refusedSection_of_short hs hr

/-- The SSRCs of the sections of a type. -/
def SdpParse.infosOf (st : SdpParse) : MediaType → List SsrcInfo
  | .audio => st.audioSsrcInfo
  | .video => st.videoSsrcInfo

/-- The groups after a line of a video section. -/
def SdpParse.groupsAfter (rtc : RtcText) (line : String) (st : SdpParse) : List SsrcGroup :=
  (parseSsrcGroupInfo rtc st.videoSsrcGroups line).getD st.videoSsrcGroups

/-- The parse after a line of a section was read. -/
def SdpParse.readAs (rtc : RtcText) (line : String) (st : SdpParse) :
    MediaType → TransportDescription × List SsrcInfo → SdpParse
  | .audio, (td, infos) => { st with audioTd := td, audioSsrcInfo := infos }
  | .video, (td, infos) => { st with
      videoTd := td
      videoSsrcGroups := st.groupsAfter rtc line
      videoSsrcInfo := infos }

theorem parseSection_of_mid (h : st.mediaType = type.mid) : st.parseSection rtc line =
    (sectionLine rtc (st.tdOf type) (st.infosOf type) line).map (st.readAs rtc line type) := by
  cases type with
  | audio =>
    have haudio : st.mediaType = "audio" := h
    simp only [SdpParse.parseSection, if_pos haudio, sectionLine, SdpParse.tdOf, SdpParse.infosOf]
    cases parseTransportInfo rtc st.audioTd line with
    | error stop => rfl
    | ok td => cases parseSsrcInfo rtc st.audioSsrcInfo line <;> rfl
  | video =>
    have hvideo : st.mediaType = "video" := h
    have hne : ¬ st.mediaType = "audio" := by
      rw [hvideo]
      decide
    simp only [SdpParse.parseSection, if_neg hne, if_pos hvideo, sectionLine, SdpParse.tdOf,
      SdpParse.infosOf]
    cases parseTransportInfo rtc st.videoTd line with
    | error stop => rfl
    | ok td => cases parseSsrcInfo rtc st.videoSsrcInfo line <;> rfl

theorem parseSection_of_not (h : ¬ InSection st.mediaType) : st.parseSection rtc line = .ok st := by
  rw [SdpParse.parseSection, if_neg fun h' => h (.inl h'), if_neg fun h' => h (.inr h')]

/-- A section is one of a type. -/
theorem inSection_iff : InSection media ↔ ∃ type : MediaType, media = type.mid := by
  constructor
  · rintro (h | h)
    · exact ⟨.audio, h⟩
    · exact ⟨.video, h⟩
  · rintro ⟨type, h⟩
    cases type with
    | audio => exact .inl h
    | video => exact .inr h

theorem mid_injective : Function.Injective MediaType.mid := by
  intro type type' h
  cases type <;> cases type' <;> simp_all [MediaType.mid]

/-- A line read in its section changes its transport's fingerprint only. -/
theorem tdOf_readAs {type' : MediaType} (td : TransportDescription) (infos : List SsrcInfo) :
    (st.readAs rtc line type (td, infos)).tdOf type' =
      if type' = type then td else st.tdOf type' := by
  cases type <;> cases type' <;> rfl

@[simp] theorem readAs_remoteDesc (p : TransportDescription × List SsrcInfo) :
    (st.readAs rtc line type p).remoteDesc = st.remoteDesc := by
  cases type <;> rfl

@[simp] theorem readAs_mediaType (p : TransportDescription × List SsrcInfo) :
    (st.readAs rtc line type p).mediaType = st.mediaType := by
  cases type <;> rfl

/-- **The line in its section**, behind what it said as a header. -/
theorem parseSection_cases {st₀ : SdpParse} (hhead : HeaderRead rtc line st₀ st) :
    (InSection st.mediaType ∧ ShortSection rtc line ∧
      st.parseSection rtc line = .error .outOfRange) ∨
    (InSection st.mediaType ∧ RefusedSection rtc line ∧
      st.parseSection rtc line = .error .refused) ∨
    (¬ (InSection st.mediaType ∧ ShortSection rtc line) ∧
      ¬ (InSection st.mediaType ∧ RefusedSection rtc line) ∧ ∃ st',
      st.parseSection rtc line = .ok st' ∧
      LineRead rtc line (fun type => st.mediaType = type.mid ∧ FingerprintLine line) st₀ st') := by
  by_cases hin : InSection st.mediaType
  · obtain ⟨type, hmid⟩ := inSection_iff.1 hin
    rw [parseSection_of_mid hmid]
    rcases sectionLine_cases rtc line (st.tdOf type) (st.infosOf type) with
      ⟨hs, h⟩ | ⟨hr, h⟩ | ⟨hs, hr, td, infos, h, htd, hfp⟩
    · rw [h]
      exact .inl ⟨hin, hs, rfl⟩
    · rw [h]
      exact .inr (.inl ⟨hin, hr, rfl⟩)
    · rw [h]
      refine .inr (.inr ⟨fun h => hs h.2, fun h => hr h.2, _, rfl, ?_⟩)
      refine ⟨?_, ?_, ?_, ?_, fun type' => ?_, fun type' => ?_⟩
      · rw [readAs_mediaType, hhead.mediaType]
      · rw [readAs_remoteDesc, hhead.groups]
      · rw [readAs_remoteDesc, hhead.contents]
      · rw [readAs_remoteDesc, hhead.transportInfos]
      · rw [tdOf_readAs, ← hhead.mid]
        split
        · rename_i heq
          rw [heq, htd]
        · rfl
      · have hold : (st.tdOf type').identityFingerprint = (st₀.tdOf type').identityFingerprint :=
          ((hhead.fingerprint type').resolve_left fun h => h.1).2
        rw [tdOf_readAs, hmid]
        split
        · rename_i heq
          subst heq
          rcases hfp with ⟨hline, hset⟩ | ⟨hline, hkept⟩
          · exact .inl ⟨⟨rfl, hline⟩, hset⟩
          · exact .inr ⟨fun h => hline h.2, hkept.trans hold⟩
        · rename_i hne
          exact .inr ⟨fun h => hne (mid_injective h.1).symm, hold⟩
  · rw [parseSection_of_not hin]
    refine .inr (.inr ⟨fun h => hin h.1, fun h => hin h.1, st, rfl, ?_⟩)
    have hnot : ∀ type : MediaType, ¬ st.mediaType = type.mid := fun type h =>
      hin (inSection_iff.2 ⟨type, h⟩)
    exact ⟨hhead.mediaType, hhead.groups, hhead.contents, hhead.transportInfos, hhead.mid,
      fun type => .inr ⟨fun h => hnot type h.1,
        ((hhead.fingerprint type).resolve_left fun h => h.1).2⟩⟩

/-- The types whose fingerprint a line sets. -/
def sets (rtc : RtcText) (media line : String) (type : MediaType) : Prop :=
  sectionAt rtc media line = type.mid ∧ FingerprintLine line

/-- **What a line does**: it is cut short, refused, or read. -/
theorem parseLine_cases (rtc : RtcText) (line : String) (st : SdpParse) :
    (Short rtc st.mediaType line ∧ ∃ desc, st.parseLine rtc line = .error (.outOfRange, desc)) ∨
    (Refused rtc st.mediaType line ∧ ∃ desc, st.parseLine rtc line = .error (.refused, desc)) ∨
    (¬ Short rtc st.mediaType line ∧ ¬ Refused rtc st.mediaType line ∧ ∃ st',
      st.parseLine rtc line = .ok st' ∧
      LineRead rtc line (sets rtc st.mediaType line) st st') := by
  unfold SdpParse.parseLine
  rcases parseHeader_cases rtc line st with
    ⟨hs, h⟩ | ⟨hs, hr, h⟩ | ⟨hs, hr, st₁, h, hhead⟩
  · rw [h]
    exact .inl ⟨.inl hs, _, rfl⟩
  · rw [h]
    exact .inr (.inl ⟨.inl hr, _, rfl⟩)
  · simp only [h]
    have hmedia := hhead.mediaType
    rcases parseSection_cases hhead with ⟨hin, hs', h'⟩ | ⟨hin, hr', h'⟩ | ⟨hs', hr', st', h', hread⟩
    · rw [h']
      rw [hmedia] at hin
      exact .inl ⟨.inr ⟨hr, hin, hs'⟩, _, rfl⟩
    · rw [h']
      rw [hmedia] at hin
      exact .inr (.inl ⟨.inr ⟨hs, hin, hr'⟩, _, rfl⟩)
    · rw [hmedia] at hs' hr' hread
      rw [h']
      refine .inr (.inr ⟨?_, ?_, st', rfl, hread⟩)
      · rintro (h | ⟨-, hin, h⟩)
        · exact hs h
        · exact hs' ⟨hin, h⟩
      · rintro (h | ⟨-, hin, h⟩)
        · exact hr h
        · exact hr' ⟨hin, h⟩

end Pc

end XrtcServer
