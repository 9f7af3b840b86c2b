import XrtcServer.Pc.Sections
/-!
# The lines of a track

The keys of the line parser are looked for anywhere in a line. In a line of
a track they are found in what the track prints and nowhere else
(`found_addSsrcLine`, `found_addSsrcGroupLine`), and such a line is read as
a line of its section exactly where what it prints is harmless.
-/

namespace XrtcServer

namespace Pc

open Base Common XrtcServer.Stream

/-- A key whose second or third letter tells it from the start of a track's
line. -/
def IsKey (key : String) : Prop :=
  ' ' ∉ key.toList ∧ (∃ key', key.toList = 'm' :: '=' :: key') ∨
  ' ' ∉ key.toList ∧ ∃ c key', c ≠ 's' ∧ key.toList = 'a' :: '=' :: c :: key'

variable {rtc : RtcText} {key line text attr value media : String} {ssrc : UInt32}

theorem isKey_media : IsKey "m=" := .inl ⟨by decide, _, rfl⟩

theorem isKey_ufrag : IsKey "a=ice-ufrag" := .inr ⟨by decide, 'i', _, by decide, rfl⟩

theorem isKey_pwd : IsKey "a=ice-pwd" := .inr ⟨by decide, 'i', _, by decide, rfl⟩

theorem isKey_fingerprint : IsKey "a=fingerprint" := .inr ⟨by decide, 'f', _, by decide, rfl⟩

theorem isKey_bundle : IsKey "a=group:BUNDLE" := .inr ⟨by decide, 'g', _, by decide, rfl⟩

/-- **A key is found behind the front of a track's line.** -/
theorem found_behind (hkey : IsKey key) {front behind : List Char}
    (hline : line.toList = 'a' :: '=' :: 's' :: (front ++ behind)) (hfree : '=' ∉ front)
    (hlast : front.getLast? = some ':') :
    found line key = decide (key.toList <:+: behind) := by
  unfold found
  rw [hline]
  congr 1
  rcases hkey with ⟨-, key', hkey⟩ | ⟨-, c, key', hc, hkey⟩
  · rw [hkey]
    have hbehind : 'm' :: '=' :: key' <:+: ('s' :: front) ++ behind ↔ 'm' :: '=' :: key' <:+: behind := by
      refine infix_append_iff_of_notMem ?_ ?_
      · simpa using hfree
      · rw [List.getLast?_cons, hlast]
        simp
    rw [List.infix_cons_iff, List.infix_cons_iff, List.cons_prefix_cons, List.cons_prefix_cons]
    rw [List.cons_append] at hbehind
    rw [hbehind]
    simp
  · rw [hkey]
    have hbehind : 'a' :: '=' :: c :: key' <:+: ('s' :: front) ++ behind ↔
        'a' :: '=' :: c :: key' <:+: behind := by
      refine infix_append_iff_of_notMem ?_ ?_
      · simpa using hfree
      · rw [List.getLast?_cons, hlast]
        simp
    rw [List.cons_append] at hbehind
    rw [List.infix_cons_iff, List.infix_cons_iff, hbehind]
    simp [List.cons_prefix_cons, hc]

/-! ## The line of an SSRC -/

/-- The attributes that are printed of an SSRC. -/
def ssrcAttrs : List String := ["cname", "msid", "mslabel", "label"]

/-- The digits of an SSRC. -/
def ssrcDigits (ssrc : UInt32) : List Char := (toString ssrc.toNat).toList

theorem isDigit_of_mem_ssrcDigits {c : Char} (h : c ∈ ssrcDigits ssrc) : c.isDigit = true := by
  have hdigits : ssrcDigits ssrc = Nat.toDigits 10 ssrc.toNat := Nat.toList_repr
  rw [hdigits] at h
  exact Nat.isDigit_of_mem_toDigits (by decide) (by decide) h

theorem notMem_ssrcDigits {c : Char} (hc : c.isDigit = false) : c ∉ ssrcDigits ssrc := by
  intro h
  rw [isDigit_of_mem_ssrcDigits h] at hc
  cases hc

theorem toList_addSsrcLine : (addSsrcLine ssrc attr value).toList =
    "a=ssrc:".toList ++ ssrcDigits ssrc ++ ' ' :: (attr.toList ++ ':' :: value.toList) := by
  simp [addSsrcLine, ssrcDigits]

/-- What there is to know of an attribute. -/
theorem attr_chars (h : attr ∈ ssrcAttrs) : '=' ∉ attr.toList ∧ ':' ∉ attr.toList ∧
    ' ' ∉ attr.toList ∧ attr.toList ≠ [] := by
  simp only [ssrcAttrs, List.mem_cons, List.not_mem_nil, or_false] at h
  rcases h with rfl | rfl | rfl | rfl <;> decide

theorem found_addSsrcLine (hkey : IsKey key) (hattr : attr ∈ ssrcAttrs) :
    found (addSsrcLine ssrc attr value) key = found value key := by
  obtain ⟨hequal, -, -, -⟩ := attr_chars hattr
  let front := ("src:".toList ++ ssrcDigits ssrc ++ ' ' :: attr.toList) ++ [':']
  have hline : (addSsrcLine ssrc attr value).toList =
      'a' :: '=' :: 's' :: (front ++ value.toList) := by
    rw [toList_addSsrcLine]
    simp [front]
  refine found_behind hkey hline ?_ ?_
  · have hdigits : '=' ∉ ssrcDigits ssrc := notMem_ssrcDigits (by decide)
    simp [front, hequal, hdigits]
  · exact List.getLast?_concat

/-- **How the line of an SSRC is read.** -/
theorem parseSsrcInfo_addSsrcLine (hattr : attr ∈ ssrcAttrs) (infos : List SsrcInfo)
    (hmsid : attr = "msid" → isMsid rtc (String.ofList (value.toList.dropWhile (· == ':'))) = true) :
    parseSsrcInfo rtc infos (addSsrcLine ssrc attr value) =
      .ok (upsert SsrcInfo.ssrcId { ssrcId := ssrc }
        (SsrcInfo.set rtc attr (String.ofList (value.toList.dropWhile (· == ':')))) infos) := by
  obtain ⟨-, hcolon, hblank, hne⟩ := attr_chars hattr
  have hdigits : ' ' ∉ ssrcDigits ssrc := notMem_ssrcDigits (by decide)
  have hkey : found (addSsrcLine ssrc attr value) "a=ssrc:" = true := by
    refine decide_eq_true ?_
    rw [toList_addSsrcLine, List.append_assoc]
    exact List.infix_append_left
  have hlen : 2 ≤ (addSsrcLine ssrc attr value).length :=
    le_trans (by decide) (length_of_found hkey)
  have hbehind : behind (addSsrcLine ssrc attr value) 2 =
      String.ofList (("ssrc:".toList ++ ssrcDigits ssrc) ++
        ' ' :: (attr.toList ++ ':' :: value.toList)) := by
    rw [behind, toList_addSsrcLine]
    rfl
  have hfields : rtc.tokenizeFirst (behind (addSsrcLine ssrc attr value) 2) ' ' =
      some (String.ofList ("ssrc:".toList ++ ssrcDigits ssrc),
        String.ofList (attr.toList ++ ':' :: value.toList)) := by
    have hfree : ' ' ∉ "ssrc:".toList ++ ssrcDigits ssrc := by
      rw [List.mem_append, not_or]
      exact ⟨by decide, hdigits⟩
    -- nothing more is skipped: an attribute does not start with a blank
    have hskip : (attr.toList ++ ':' :: value.toList).dropWhile (· == ' ') =
        attr.toList ++ ':' :: value.toList := by
      obtain ⟨c, rest, hcons⟩ := List.exists_cons_of_ne_nil hne
      have hc : c ≠ ' ' := by
        rintro rfl
        exact hblank (hcons ▸ List.mem_cons_self)
      simp [hcons, hc]
    rw [hbehind, rtc.tokenizeFirst_eq, String.toList_ofList, cutFirst_append hfree, hskip]
    rfl
  have hssrc : rtc.fromString (behind (String.ofList ("ssrc:".toList ++ ssrcDigits ssrc)) 5) =
      some ssrc := by
    have htext : behind (String.ofList ("ssrc:".toList ++ ssrcDigits ssrc)) 5 =
        toString ssrc.toNat := by
      rw [behind, String.toList_ofList]
      exact String.ofList_toList
    rw [htext, rtc.fromString_toString]
  have hattrValue : rtc.tokenizeFirst (String.ofList (attr.toList ++ ':' :: value.toList)) ':' =
      some (attr, String.ofList (value.toList.dropWhile (· == ':'))) := by
    rw [rtc.tokenizeFirst_eq, String.toList_ofList, cutFirst_append hcolon, Option.map_some,
      String.ofList_toList]
  have hlong : 5 ≤ (String.ofList ("ssrc:".toList ++ ssrcDigits ssrc)).length := by
    rw [String.length_ofList, List.length_append]
    exact Nat.le_add_right 5 _
  have hrefuse : ¬ (attr = "msid" ∧
      isMsid rtc (String.ofList (value.toList.dropWhile (· == ':'))) = false) := by
    rintro ⟨heq, hnot⟩
    rw [hmsid heq] at hnot
    cases hnot
  simp only [parseSsrcInfo, if_pos hkey, substr_of_le hlen, bind, Except.bind, hfields,
    substr_of_le hlong, hssrc, hattrValue, if_neg hrefuse]

/-! ## What is harmless -/

/-- **What the line of an SSRC may print** and still be read as its line. -/
def HarmlessText (value : String) : Prop :=
  ¬ CredentialLine value ∧ found value "a=fingerprint" = false ∧
    (found value "m=" = true → found value "a=group:BUNDLE" = true)

instance (value : String) : Decidable (HarmlessText value) := by
  unfold HarmlessText CredentialLine
  infer_instance

/-- **What the line of a group may name.** -/
def HarmlessSemantics (semantics : String) : Prop :=
  found semantics "m=" = false ∧
    (found semantics "a=fingerprint" = true → CredentialLine semantics)

/-- **A track whose lines are read as they were printed.** -/
structure HarmlessTrack (track : StreamParams) : Prop where
  cname : HarmlessText track.cname
  streamId : HarmlessText track.streamId
  id : HarmlessText track.id
  groups : ∀ group ∈ track.ssrcGroups, HarmlessSemantics group.semantics

/-- A line that is taken in its section, and stays in it. -/
def Stays (rtc : RtcText) (line : String) : Prop :=
  isMedia line = false ∧ ¬ RefusedTransport rtc line ∧ ¬ ShortFingerprint rtc line

theorem isMedia_addSsrcLine (hattr : attr ∈ ssrcAttrs) :
    isMedia (addSsrcLine ssrc attr value) = isMedia value := by
  rw [isMedia, isMedia, found_addSsrcLine isKey_bundle hattr, found_addSsrcLine isKey_media hattr]

theorem credentialLine_addSsrcLine (ssrc : UInt32) (value : String) (hattr : attr ∈ ssrcAttrs) :
    CredentialLine (addSsrcLine ssrc attr value) ↔ CredentialLine value := by
  rw [CredentialLine, CredentialLine, found_addSsrcLine isKey_ufrag hattr,
    found_addSsrcLine isKey_pwd hattr]

/-- The fields of the line of an SSRC, cut at every colon: three or more,
where something is printed. -/
theorem three_le_tokenize (rtc : RtcText) (ssrc : UInt32) (hattr : attr ∈ ssrcAttrs) {c : Char}
    (hc : c ∈ value.toList) (hcolon : c ≠ ':') :
    3 ≤ (rtc.tokenize (addSsrcLine ssrc attr value) ':').length := by
  obtain ⟨-, hfree, -, -⟩ := attr_chars hattr
  have hline : (addSsrcLine ssrc attr value).toList =
      "a=ssrc".toList ++ ':' :: ((ssrcDigits ssrc ++ ' ' :: attr.toList) ++ ':' :: value.toList) := by
    rw [toList_addSsrcLine]
    simp
  have hmiddle : ':' ∉ ssrcDigits ssrc ++ ' ' :: attr.toList := by
    have hdigits : ':' ∉ ssrcDigits ssrc := notMem_ssrcDigits (by decide)
    simp [hdigits, hfree]
  have htokens : 0 < (tokens ':' value.toList).length := by
    obtain ⟨field, hfield, hmem⟩ := exists_field_of_mem hc hcolon
    refine List.length_pos_of_mem (List.mem_filter.2 ⟨hfield, ?_⟩)
    simpa using List.ne_nil_of_mem hmem
  rw [rtc.tokenize_eq, hline, tokens_append_cons (by decide) (by decide),
    tokens_append_cons hmiddle (by simp)]
  simp only [List.map_cons, List.length_cons, List.length_map]
  omega

theorem toLower_of_isDigit {c : Char} (h : c.isDigit = true) : c.toLower = c := by
  unfold Char.toLower
  split
  · rename_i hupper
    simp only [Char.isDigit, Bool.and_eq_true, decide_eq_true_eq] at h
    have hle : c.val ≤ '9'.val := h.2
    have hge : 'A'.val ≤ c.val := hupper.1
    exact absurd (UInt32.le_trans hge hle) (by decide)
  · rfl

/-- A fingerprint's algorithm is not a number. -/
theorem createUnique_digits {text content : String} (h : ∀ c ∈ text.toList, c.isDigit = true) :
    rtc.createUniqueFromRfc4572 (toLower text) content = none := by
  rw [Option.eq_none_iff_forall_ne_some]
  intro fingerprint hcreate
  obtain ⟨halg, -, -⟩ := rtc.createUniqueFromRfc4572_some _ _ _ hcreate
  have hletter : ∀ algorithm ∈ fipsAlgorithms, 's' ∈ algorithm.toList := by decide
  have hmem := hletter _ halg
  rw [toLower, String.toList_ofList, List.mem_map] at hmem
  obtain ⟨c, hc, hlower⟩ := hmem
  rw [toLower_of_isDigit (h c hc)] at hlower
  have hdigit := h c hc
  rw [hlower] at hdigit
  exact absurd hdigit (by decide)

/-- The first word of the line of an SSRC. -/
theorem tokenize_addSsrcLine (rtc : RtcText) (ssrc : UInt32) (attr value : String) : ∃ words,
    rtc.tokenize (addSsrcLine ssrc attr value) ' ' =
      String.ofList ("a=ssrc:".toList ++ ssrcDigits ssrc) :: words := by
  have hfree : ' ' ∉ "a=ssrc:".toList ++ ssrcDigits ssrc := by
    have hdigits : ' ' ∉ ssrcDigits ssrc := notMem_ssrcDigits (by decide)
    rw [List.mem_append, not_or]
    exact ⟨by decide, hdigits⟩
  rw [rtc.tokenize_eq, toList_addSsrcLine, tokens_append_cons hfree (by simp)]
  exact ⟨_, List.map_cons⟩

theorem mem_of_found {c : Char} (h : found value key = true) (hc : c ∈ key.toList) :
    c ∈ value.toList :=
  (of_decide_eq_true h : key.toList <:+: value.toList).subset hc

/-- **The line of an SSRC stays in its section** exactly where it prints
nothing harmful. -/
theorem stays_addSsrcLine (hattr : attr ∈ ssrcAttrs) :
    Stays rtc (addSsrcLine ssrc attr value) ↔ HarmlessText value := by
  have hcred := credentialLine_addSsrcLine ssrc value hattr
  have hfound : found (addSsrcLine ssrc attr value) "a=fingerprint" = found value "a=fingerprint" :=
    found_addSsrcLine isKey_fingerprint hattr
  have hmedia : isMedia value = false ↔
      (found value "m=" = true → found value "a=group:BUNDLE" = true) := by
    unfold isMedia
    cases found value "m=" <;> cases found value "a=group:BUNDLE" <;> simp
  unfold Stays HarmlessText
  rw [isMedia_addSsrcLine hattr, hmedia]
  constructor
  · rintro ⟨hgroup, hrefused, hshort⟩
    have hnocred : ¬ CredentialLine value := by
      intro h
      have hletter : 'a' ∈ value.toList := by
        rcases h with h | h
        · exact mem_of_found h (by decide)
        · exact mem_of_found h (by decide)
      have hlen := three_le_tokenize rtc ssrc hattr hletter (by decide)
      exact hrefused (.inl ⟨hcred.2 h, by omega⟩)
    refine ⟨hnocred, ?_, hgroup⟩
    by_contra hkey
    rw [Bool.not_eq_false] at hkey
    have hline : FingerprintLine (addSsrcLine ssrc attr value) :=
      ⟨fun h => hnocred (hcred.1 h), hfound.trans hkey⟩
    refine hrefused (.inr ⟨hline, fun item content htokens => ⟨?_, ?_⟩⟩)
    · by_contra hlt
      exact hshort ⟨hline, item, content, htokens, by omega⟩
    · obtain ⟨words, hwords⟩ := tokenize_addSsrcLine rtc ssrc attr value
      rw [htokens] at hwords
      obtain ⟨rfl, -⟩ := List.cons.inj hwords
      refine createUnique_digits fun c hc => ?_
      -- behind the fourteenth letter there are only digits
      have hdigits : (behind (String.ofList ("a=ssrc:".toList ++ ssrcDigits ssrc)) 14).toList =
          (ssrcDigits ssrc).drop 7 := by
        rw [behind, String.toList_ofList, String.toList_ofList]
        rfl
      rw [hdigits] at hc
      exact isDigit_of_mem_ssrcDigits (List.mem_of_mem_drop hc)
  · rintro ⟨hnocred, hkey, hgroup⟩
    have hline : ¬ FingerprintLine (addSsrcLine ssrc attr value) := by
      rintro ⟨-, h⟩
      rw [hfound, hkey] at h
      cases h
    refine ⟨hgroup, ?_, fun h => hline h.1⟩
    rintro (⟨h, -⟩ | h)
    · exact hnocred (hcred.1 h)
    · exact hline h.1

/-! ## The line of a group -/

/-- The line of a group that is not empty. -/
def groupLine (group : SsrcGroup) : String :=
  "a=ssrc-group:" ++ group.semantics ++
    String.join (group.ssrcs.map fun ssrc => " " ++ toString ssrc.toNat)

/-- **A group as one is read**: with a name of one field, and an SSRC. -/
structure NamedGroup (group : SsrcGroup) : Prop where
  ne : group.semantics ≠ ""
  colon : ':' ∉ group.semantics.toList
  blank : ' ' ∉ group.semantics.toList
  ssrcs : group.ssrcs ≠ []

variable {group : SsrcGroup}

theorem toList_groupLine : (groupLine group).toList =
    ("a=ssrc-group:".toList ++ group.semantics.toList) ++
      (group.ssrcs.map ssrcDigits).flatMap (' ' :: ·) := by
  have hrest : (String.join (group.ssrcs.map fun ssrc => " " ++ toString ssrc.toNat)).toList =
      (group.ssrcs.map ssrcDigits).flatMap (' ' :: ·) := by
    rw [String.toList_join, List.flatMap_map, List.flatMap_map]
    refine List.flatMap_congr fun ssrc _ => ?_
    rw [String.toList_append]
    rfl
  rw [groupLine, String.toList_append, String.toList_append, hrest]

/-- What follows the name of a group holds digits and blanks. -/
theorem notMem_ssrcs {c : Char} (hdigit : c.isDigit = false) (hblank : c ≠ ' ') :
    c ∉ (group.ssrcs.map ssrcDigits).flatMap (' ' :: ·) := by
  intro h
  obtain ⟨field, hfield, hc⟩ := List.mem_flatMap.1 h
  obtain ⟨ssrc, -, rfl⟩ := List.mem_map.1 hfield
  rcases List.mem_cons.1 hc with rfl | hc
  · exact hblank rfl
  · exact notMem_ssrcDigits hdigit hc

/-- A key that is free of blanks is found in the name of the group. -/
theorem infix_semantics {key : List Char} (hblank : ' ' ∉ key) (hequal : '=' ∈ key) :
    key <:+: group.semantics.toList ++ (group.ssrcs.map ssrcDigits).flatMap (' ' :: ·) ↔
      key <:+: group.semantics.toList := by
  have hfree : '=' ∉ (group.ssrcs.map ssrcDigits).flatMap (' ' :: ·) :=
    notMem_ssrcs (by decide) (by decide)
  cases hssrcs : group.ssrcs with
  | nil => simp
  | cons ssrc ssrcs =>
    rw [hssrcs] at hfree
    rw [List.map_cons, List.flatMap_cons, List.cons_append] at hfree ⊢
    rw [infix_append_cons_iff hblank, or_iff_left]
    exact fun h => hfree (List.mem_cons_of_mem _ (h.subset hequal))

theorem found_groupLine (hkey : IsKey key) : found (groupLine group) key = found group.semantics key := by
  have hchars : ' ' ∉ key.toList ∧ '=' ∈ key.toList := by
    rcases hkey with ⟨hblank, key', h⟩ | ⟨hblank, c, key', -, h⟩
    · exact ⟨hblank, by simp [h]⟩
    · exact ⟨hblank, by simp [h]⟩
  have hline : (groupLine group).toList = 'a' :: '=' :: 's' :: ("src-group:".toList ++
      (group.semantics.toList ++ (group.ssrcs.map ssrcDigits).flatMap (' ' :: ·))) := by
    rw [toList_groupLine, List.append_assoc]
    rfl
  rw [found_behind hkey hline (by decide) (by decide), found, decide_eq_decide]
  exact infix_semantics hchars.1 hchars.2

theorem found_bundle_groupLine (h : NamedGroup group) :
    found (groupLine group) "a=group:BUNDLE" = false := by
  rw [found_groupLine isKey_bundle]
  by_contra hfound
  rw [Bool.not_eq_false] at hfound
  exact h.colon (mem_of_found hfound (by decide))

/-- The words of the line of a group. -/
theorem splitOn_groupLine (h : NamedGroup group) : (groupLine group).toList.splitOn ' ' =
    ("a=ssrc-group:".toList ++ group.semantics.toList) :: group.ssrcs.map ssrcDigits := by
  rw [toList_groupLine]
  refine splitOn_append_flatMap_cons ?_ ?_
  · rw [List.mem_append, not_or]
    exact ⟨by decide, h.blank⟩
  · intro field hfield
    obtain ⟨ssrc, -, rfl⟩ := List.mem_map.1 hfield
    exact notMem_ssrcDigits (by decide)

/-- An algorithm has no sign of equality. -/
theorem createUnique_equal {text content : String} (h : '=' ∈ text.toList) :
    rtc.createUniqueFromRfc4572 (toLower text) content = none := by
  rw [Option.eq_none_iff_forall_ne_some]
  intro fingerprint hcreate
  obtain ⟨halg, -, -⟩ := rtc.createUniqueFromRfc4572_some _ _ _ hcreate
  have hletter : ∀ algorithm ∈ fipsAlgorithms, '=' ∉ algorithm.toList := by decide
  refine hletter _ halg ?_
  rw [toLower, String.toList_ofList, List.mem_map]
  exact ⟨'=', h, by decide⟩

/-- **The line of a group stays in its section** exactly where its name is
harmless. -/
theorem stays_groupLine (h : NamedGroup group) :
    Stays rtc (groupLine group) ↔ HarmlessSemantics group.semantics := by
  have hcred : CredentialLine (groupLine group) ↔ CredentialLine group.semantics := by
    rw [CredentialLine, CredentialLine, found_groupLine isKey_ufrag, found_groupLine isKey_pwd]
  have hfound : found (groupLine group) "a=fingerprint" = found group.semantics "a=fingerprint" :=
    found_groupLine isKey_fingerprint
  have hmedia : isMedia (groupLine group) = found group.semantics "m=" := by
    rw [isMedia, found_bundle_groupLine h, found_groupLine isKey_media, Bool.not_false,
      Bool.true_and]
  have hne : group.semantics.toList ≠ [] := fun hnil => h.ne (String.toList_eq_nil_iff.1 hnil)
  unfold Stays HarmlessSemantics
  rw [hmedia]
  refine and_congr_right fun _ => ?_
  constructor
  · rintro ⟨hrefused, hshort⟩ hkey
    by_contra hnocred
    have hline : FingerprintLine (groupLine group) :=
      ⟨fun h => hnocred (hcred.1 h), hfound.trans hkey⟩
    refine hrefused (.inr ⟨hline, fun item content htokens => ⟨?_, ?_⟩⟩)
    · by_contra hlt
      exact hshort ⟨hline, item, content, htokens, by omega⟩
    · rw [rtc.tokenize_eq, tokens, splitOn_groupLine h, List.filter_cons_of_pos (by simp),
        List.map_cons] at htokens
      obtain ⟨rfl, -⟩ := List.cons.inj htokens
      refine createUnique_equal ?_
      -- the name, without its first letter
      have hbehind : (behind (String.ofList ("a=ssrc-group:".toList ++ group.semantics.toList))
          14).toList = group.semantics.toList.drop 1 := by
        rw [behind, String.toList_ofList, String.toList_ofList]
        rfl
      rw [hbehind]
      obtain ⟨c, rest, hcons⟩ := List.exists_cons_of_ne_nil hne
      have hinside : "a=fingerprint".toList <:+: c :: rest := hcons ▸ of_decide_eq_true hkey
      rw [hcons, List.drop_one, List.tail_cons]
      rcases List.infix_cons_iff.1 hinside with hstarts | hinside
      · have hrest := (List.cons_prefix_cons.1 hstarts).2
        exact hrest.subset (by decide)
      · exact hinside.subset (by decide)
  · intro hkey
    have hline : ¬ FingerprintLine (groupLine group) := by
      rintro ⟨hnocred, hfp⟩
      exact hnocred (hcred.2 (hkey (hfound.symm.trans hfp)))
    refine ⟨?_, fun h => hline h.1⟩
    rintro (⟨-, hlen⟩ | h')
    · -- the one colon of the line leaves two fields
      have hfree : ':' ∉ group.semantics.toList ++
          (group.ssrcs.map ssrcDigits).flatMap (' ' :: ·) := by
        rw [List.mem_append, not_or]
        exact ⟨h.colon, notMem_ssrcs (by decide) (by decide)⟩
      have hsplit : (groupLine group).toList = "a=ssrc-group".toList ++ ':' ::
          (group.semantics.toList ++ (group.ssrcs.map ssrcDigits).flatMap (' ' :: ·)) := by
        rw [toList_groupLine, List.append_assoc]
        rfl
      refine hlen ?_
      rw [rtc.tokenize_eq, hsplit, tokens_append_cons (by decide) (by decide), tokens,
        List.splitOn_eq_singleton hfree, List.filter_cons_of_pos (by simp [hne])]
      rfl
    · exact hline h'.1

/-- The line of a group says nothing of an SSRC. -/
theorem found_ssrc_groupLine (h : NamedGroup group) :
    found (groupLine group) "a=ssrc:" = false := by
  by_contra hfound
  rw [Bool.not_eq_false] at hfound
  have hinside : 'a' :: '=' :: "ssrc:".toList <:+: 'a' :: '=' :: ("ssrc-group:".toList ++
      (group.semantics.toList ++ (group.ssrcs.map ssrcDigits).flatMap (' ' :: ·))) := by
    have hline := of_decide_eq_true hfound
    rw [toList_groupLine, List.append_assoc] at hline
    exact hline
  rw [List.infix_cons_iff, List.infix_cons_iff,
    infix_append_iff_of_notMem (by decide) (by decide), infix_semantics (by decide) (by decide)]
    at hinside
  rcases hinside with hstarts | hstarts | hinside
  · simp [List.cons_prefix_cons] at hstarts
  · simp [List.cons_prefix_cons] at hstarts
  · exact h.colon (hinside.subset (by decide))

theorem readSsrc_groupLine (h : NamedGroup group) (infos : List SsrcInfo) :
    readSsrc rtc infos (groupLine group) = infos := by
  rw [readSsrc, parseSsrcInfo, found_ssrc_groupLine h]
  rfl

/-- **A group is read as it was printed.** -/
theorem readGroup_groupLine (h : NamedGroup group) (groups : List SsrcGroup) :
    readGroup rtc groups (groupLine group) = groups ++ [group] := by
  have hkey : found (groupLine group) "a=ssrc-group:" = true := by
    refine decide_eq_true ?_
    rw [toList_groupLine, List.append_assoc]
    exact List.infix_append_left
  have hwords : rtc.split (String.ofList ((groupLine group).toList.drop 2)) ' ' =
      String.ofList ("ssrc-group:".toList ++ group.semantics.toList) ::
        group.ssrcs.map fun ssrc => toString ssrc.toNat := by
    have hdrop : (groupLine group).toList.drop 2 =
        ("ssrc-group:".toList ++ group.semantics.toList) ++
          (group.ssrcs.map ssrcDigits).flatMap (' ' :: ·) := by
      rw [toList_groupLine, List.append_assoc, List.append_assoc]
      rfl
    have hdigits : ∀ ssrc, String.ofList (ssrcDigits ssrc) = toString ssrc.toNat := fun _ =>
      String.ofList_toList
    rw [rtc.split_eq, String.toList_ofList, hdrop, splitOn_append_flatMap_cons, List.map_cons,
      List.map_map]
    · simp only [Function.comp_def, hdigits]
    · rw [List.mem_append, not_or]
      exact ⟨by decide, h.blank⟩
    · intro field hfield
      obtain ⟨ssrc, -, rfl⟩ := List.mem_map.1 hfield
      exact notMem_ssrcDigits (by decide)
  have hname : getAttribute rtc (String.ofList ("ssrc-group:".toList ++ group.semantics.toList)) =
      group.semantics := by
    have hsplit : "ssrc-group:".toList ++ group.semantics.toList =
        "ssrc-group".toList ++ ':' :: group.semantics.toList := rfl
    have hne : group.semantics.toList ≠ [] := fun hnil => h.ne (String.toList_eq_nil_iff.1 hnil)
    rw [getAttribute, rtc.tokenize_eq, String.toList_ofList, hsplit,
      tokens_append_cons (by decide) (by decide), tokens, List.splitOn_eq_singleton h.colon,
      List.filter_cons_of_pos (by simp [hne]), List.filter_nil]
    exact String.ofList_toList
  have hssrcs : ∀ ssrcs : List UInt32,
      (ssrcs.map fun ssrc => toString ssrc.toNat).mapM rtc.fromString = some ssrcs := by
    intro ssrcs
    induction ssrcs with
    | nil => rfl
    | cons ssrc ssrcs ih =>
      rw [List.map_cons, List.mapM_cons, rtc.fromString_toString, ih]
      rfl
  obtain ⟨ssrc, ssrcs, hcons⟩ := List.exists_cons_of_ne_nil h.ssrcs
  rw [readGroup, parseSsrcGroupInfo, if_pos hkey, hwords]
  have hall := hssrcs group.ssrcs
  rw [hcons] at hall ⊢
  rw [List.map_cons] at hall ⊢
  simp only [hname, if_neg h.ne, hall, Option.map_some, Option.getD_some]
  rw [← hcons]

/-- **The line of an SSRC is read as no group**, whatever it prints. -/
theorem readGroup_addSsrcLine (hattr : attr ∈ ssrcAttrs) (groups : List SsrcGroup) :
    readGroup rtc groups (addSsrcLine ssrc attr value) = groups := by
  obtain ⟨c, rest, hcons, hdigit, hsign, hblank⟩ : ∃ c rest, attr.toList = c :: rest ∧
      c.isDigit = false ∧ c ≠ '-' ∧ c ≠ ' ' := by
    simp only [ssrcAttrs, List.mem_cons, List.not_mem_nil, or_false] at hattr
    rcases hattr with rfl | rfl | rfl | rfl
    · exact ⟨'c', _, rfl, by decide⟩
    · exact ⟨'m', _, rfl, by decide⟩
    · exact ⟨'m', _, rfl, by decide⟩
    · exact ⟨'l', _, rfl, by decide⟩
  have hfree : ' ' ∉ "ssrc:".toList ++ ssrcDigits ssrc := by
    have hdigits : ' ' ∉ ssrcDigits ssrc := notMem_ssrcDigits (by decide)
    rw [List.mem_append, not_or]
    exact ⟨by decide, hdigits⟩
  have hdrop : (addSsrcLine ssrc attr value).toList.drop 2 = ("ssrc:".toList ++ ssrcDigits ssrc) ++
      ' ' :: c :: (rest ++ ':' :: value.toList) := by
    rw [toList_addSsrcLine, hcons]
    rfl
  -- the second word starts with a letter, and is no number
  obtain ⟨first, words, hwords⟩ := List.exists_cons_of_ne_nil
    (List.splitOn_ne_nil ' ' (rest ++ ':' :: value.toList))
  have hsplit : rtc.split (String.ofList ((addSsrcLine ssrc attr value).toList.drop 2)) ' ' =
      String.ofList ("ssrc:".toList ++ ssrcDigits ssrc) :: String.ofList (c :: first) ::
        words.map String.ofList := by
    rw [rtc.split_eq, String.toList_ofList, hdrop, List.splitOn_append_cons_self_of_not_mem hfree,
      List.splitOn_cons_eq_if_modifyHead, if_neg (by simpa using hblank), hwords]
    rfl
  have hnone : rtc.fromString (String.ofList (c :: first)) = none := by
    rw [Option.eq_none_iff_forall_ne_some]
    intro n hn
    have hchars := (rtc.fromString_chars _ _ hn).2 c (by simp)
    rw [hdigit] at hchars
    rcases hchars with h | h
    · cases h
    · exact hsign h
  have hmapM : (String.ofList (c :: first) :: words.map String.ofList).mapM rtc.fromString =
      none := by
    rw [List.mapM_cons, hnone]
    rfl
  rw [readGroup, parseSsrcGroupInfo, hsplit]
  simp only [hmapM, Option.map_none]
  split
  · split <;> rfl
  · rfl

end Pc

end XrtcServer
