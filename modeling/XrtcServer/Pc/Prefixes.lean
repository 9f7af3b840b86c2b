import XrtcServer.Pc.Keys
import XrtcServer.Pc.LineEnds
/-!
# Keys at the start of a line

A parser of SDP tells lines by what they begin with. The one of
`set_remote_sdp` searches a line for its keys, and takes a key that stands
inside a value for one. The two make the same of a text where every key that
is found begins its line (`read_by_prefix_iff`).
-/

namespace XrtcServer

namespace Pc

open Base Common XrtcServer.Stream

/-- A line `<letter>=<value>`. -/
structure SdpLine where
  letter : Char
  value : String
  isLetter : letter.isAlpha = true
  newline : '\n' ∉ value.toList
  carriageReturn : '\r' ∉ value.toList

def SdpLine.text (line : SdpLine) : String :=
  String.ofList (line.letter :: '=' :: line.value.toList)

/-- The line begins with the key. -/
def begins (line key : String) : Bool := decide (key.toList <+: line.toList)

section Reference

variable (rtc : RtcText)

/-- The section that a line opens, or else the one before it. -/
def opened (media line : String) : String :=
  if begins line Key.media.text then behind (firstWord rtc line) 2 else media

/-- **The section of the last line that begins with `m=`**, behind lines of
section `media`. -/
def lastOpened (media : String) (lines : List String) : String := lines.foldl (opened rtc) media

/-- **The reference parser**: the tests of a line by what it begins with. -/
def SdpParse.parseByPrefix (st : SdpParse) (lines : List String) :
    Except (Stop × SessionDescription) SdpParse :=
  lines.foldlM (fun st line => (readLine begins rtc line tests st).2) st

/-- `set_remote_sdp` with the reference parser. -/
def PeerConnection.setRemoteByPrefix (pc : PeerConnection) (lines : List String) :
    PeerConnection × Except Fault ℤ :=
  if lines = [] then (pc, .ok (-1)) else pc.conclude (SdpParse.parseByPrefix rtc {} lines)

/-- **Every line that the loop gets to is taken for what it begins with**, in
the section that the last `m=` line opened. -/
structure TakenByPrefix (st : SdpParse) (lines : List String) : Prop where
  media : ∀ before after, lines = before ++ after → ∀ st', st.parseLines rtc before = .ok st' →
    st'.mediaType = lastOpened rtc st.mediaType before
  taken : ∀ before line after, lines = before ++ line :: after →
    ∀ st', st.parseLines rtc before = .ok st' →
      (readLine found rtc line tests st').1 = (readLine begins rtc line tests st').1

/-! ## The condition on the lines -/

/-- The line stops the parse where it is taken for the key. -/
def Stops (line : String) : Key → Prop
  | .media => ShortMedia rtc line ∨ RefusedMedia rtc line
  | .iceUfrag | .icePwd => getAttribute rtc line = ""
  | .fingerprint => ShortFingerprint rtc line ∨ RefusedFingerprint rtc line
  | .ssrc => ShortSsrc rtc line ∨ RefusedSsrc rtc line
  | .bundle | .ssrcGroup => False

/-- The section behind a line that is taken for the key. -/
def mediaRead (line media : String) : Key → String
  | .media => behind (firstWord rtc line) 2
  | _ => media

/-- **What the tests find in a line begins it**, as far as the parse goes. -/
def KeysBegin (line : String) : String → List (String → List Key) → Prop
  | _, [] => True
  | media, keys :: tests =>
    match takenFor found line (keys media) with
    | none => KeysBegin line media tests
    | some key => begins line key.text = true ∧
        (¬ Stops rtc line key → KeysBegin line (mediaRead rtc line media key) tests)

/-- **No key is found inside a line**, up to one that stops the parse. -/
def AllKeysBegin (media : String) : List String → Prop
  | [] => True
  | line :: lines => KeysBegin rtc line media tests ∧
      (¬ Short rtc media line → ¬ Refused rtc media line →
        AllKeysBegin (sectionAt rtc media line) lines)

end Reference

variable {rtc : RtcText} {line key : String} {lines : List String} {st st' : SdpParse}

/-! ## One test -/

theorem found_of_begins (h : begins line key = true) : found line key = true :=
  decide_eq_true (of_decide_eq_true h).isInfix

/-- **A test is made alike** where what it finds begins the line. -/
theorem takenFor_eq_iff {keys : List Key} :
    takenFor found line keys = takenFor begins line keys ↔
      ∀ key, takenFor found line keys = some key → begins line key.text = true := by
  induction keys with
  | nil => simp [takenFor]
  | cons key keys ih =>
    unfold takenFor at ih ⊢
    rw [List.find?_cons, List.find?_cons]
    cases hfound : found line key.text with
    | true =>
      cases hbegins : begins line key.text with
      | true => simp [hbegins]
      | false =>
        dsimp only
        constructor
        · intro h
          have hkey : begins line key.text = true := by simpa using List.find?_some h.symm
          rw [hbegins] at hkey
          cases hkey
        · intro h
          have hkey := h key rfl
          rw [hbegins] at hkey
          cases hkey
    | false =>
      have hbegins : begins line key.text = false := by
        rw [← Bool.not_eq_true]
        intro h
        rw [found_of_begins h] at hfound
        cases hfound
      rw [hbegins]
      exact ih

/-! ## What a test does with a line, but for its values -/

theorem error_map_iff {α β : Type} {x : Except Stop α} {f : α → β} :
    (∃ stop, x.map f = .error stop) ↔ ∃ stop, x = .error stop := by
  cases x with
  | error stop => simp [Except.map]
  | ok a => simp [Except.map]

theorem part_error_iff {α : Type} {f : α → Except Stop α} {audio video : α}
    {putAudio putVideo : α → SdpParse} {p : Prop}
    (hin : st.mediaType = "audio" ∨ st.mediaType = "video")
    (hf : ∀ a, (∃ stop, f a = .error stop) ↔ p) :
    (∃ stop, (if st.mediaType = "audio" then (f audio).map putAudio
      else if st.mediaType = "video" then (f video).map putVideo
      else .ok st) = .error stop) ↔ p := by
  split
  · rw [error_map_iff, hf]
  · rename_i haudio
    rw [if_pos (hin.resolve_left haudio), error_map_iff, hf]

theorem updateTd_error_iff {f : TransportDescription → Except Stop TransportDescription} {p : Prop}
    (hin : st.mediaType = "audio" ∨ st.mediaType = "video")
    (hf : ∀ td, (∃ stop, f td = .error stop) ↔ p) : (∃ stop, st.updateTd f = .error stop) ↔ p :=
  part_error_iff hin hf

theorem updateInfos_error_iff {f : List SsrcInfo → Except Stop (List SsrcInfo)} {p : Prop}
    (hin : st.mediaType = "audio" ∨ st.mediaType = "video")
    (hf : ∀ infos, (∃ stop, f infos = .error stop) ↔ p) :
    (∃ stop, st.updateInfos f = .error stop) ↔ p :=
  part_error_iff hin hf

theorem parseFingerprint_error_iff (h : FingerprintLine line) (td : TransportDescription) :
    (∃ stop, parseFingerprint rtc td line = .error stop) ↔
      ShortFingerprint rtc line ∨ RefusedFingerprint rtc line := by
  rcases @parseFingerprint_cases rtc line h td with ⟨hs, h⟩ | ⟨hr, h⟩ | ⟨hs, hr, _, h, -⟩
  · exact iff_of_true ⟨_, h⟩ (.inl hs)
  · exact iff_of_true ⟨_, h⟩ (.inr hr)
  · simp [h, hs, hr]

theorem parseSsrcInfo_error_iff (infos : List SsrcInfo) :
    (∃ stop, parseSsrcInfo rtc infos line = .error stop) ↔
      ShortSsrc rtc line ∨ RefusedSsrc rtc line := by
  rcases parseSsrcInfo_cases rtc line infos with ⟨hs, h⟩ | ⟨hr, h⟩ | ⟨hs, hr, _, h⟩
  · exact iff_of_true ⟨_, h⟩ (.inl hs)
  · exact iff_of_true ⟨_, h⟩ (.inr hr)
  · simp [h, hs, hr]

theorem parseMedia_error_iff (h : isMedia line = true) (st : SdpParse) :
    (∃ stop, st.parseMedia rtc line = .error stop) ↔
      ShortMedia rtc line ∨ RefusedMedia rtc line := by
  rcases @parseMedia_cases rtc line h st with ⟨hs, h⟩ | ⟨-, hr, h⟩ | ⟨hs, hr, _, h, -⟩
  · exact iff_of_true ⟨_, h⟩ (.inl hs)
  · exact iff_of_true ⟨_, h⟩ (.inr hr)
  · simp [h, hs, hr]

/-- The keys that are looked for in the same test. -/
def Key.alternatives : Key → List Key
  | .bundle | .media => [.bundle, .media]
  | .iceUfrag | .icePwd | .fingerprint => [.iceUfrag, .icePwd, .fingerprint]
  | .ssrcGroup => [.ssrcGroup]
  | .ssrc => [.ssrc]

/-- The keys of a section are looked for in one only. -/
theorem keys_of_mem {keys : String → List Key} {media : String} {k : Key} (hkeys : keys ∈ tests)
    (hk : k ∈ keys media) : keys media = k.alternatives ∧
      ((k = .bundle ∨ k = .media) ∨ media = "audio" ∨ media = "video") := by
  simp only [tests, List.mem_cons, List.not_mem_nil, or_false] at hkeys
  rcases hkeys with rfl | rfl | rfl | rfl
  · simp only [headerKeys, List.mem_cons, List.not_mem_nil, or_false] at hk
    refine ⟨?_, .inl hk⟩
    rcases hk with rfl | rfl <;> rfl
  · unfold transportKeys at hk ⊢
    split at hk
    · rename_i hin
      rw [if_pos hin]
      simp only [List.mem_cons, List.not_mem_nil, or_false] at hk
      refine ⟨?_, .inr hin⟩
      rcases hk with rfl | rfl | rfl <;> rfl
    · exact absurd hk List.not_mem_nil
  · unfold groupKeys at hk ⊢
    split at hk
    · rename_i hvideo
      rw [if_pos hvideo]
      obtain rfl := List.mem_singleton.1 hk
      exact ⟨rfl, .inr (.inr hvideo)⟩
    · exact absurd hk List.not_mem_nil
  · unfold ssrcKeys at hk ⊢
    split at hk
    · rename_i hin
      rw [if_pos hin]
      obtain rfl := List.mem_singleton.1 hk
      exact ⟨rfl, .inr hin⟩
    · exact absurd hk List.not_mem_nil

/-- A key of the transport is taken where those before it are not found. -/
theorem fingerprintLine_of_taken
    (h : takenFor found line [.iceUfrag, .icePwd, .fingerprint] = some .fingerprint) :
    FingerprintLine line := by
  simp only [takenFor, List.find?_cons, List.find?_nil, Key.text] at h
  cases hufrag : found line "a=ice-ufrag" with
  | true =>
    rw [hufrag] at h
    cases h
  | false =>
    cases hpwd : found line "a=ice-pwd" with
    | true =>
      rw [hufrag, hpwd] at h
      cases h
    | false =>
      cases hfingerprint : found line "a=fingerprint" with
      | true => exact ⟨by simp [CredentialLine, hufrag, hpwd], hfingerprint⟩
      | false =>
        rw [hufrag, hpwd, hfingerprint] at h
        cases h

theorem isMedia_iff_taken (media : String) :
    isMedia line = true ↔ takenFor found line (headerKeys media) = some .media := by
  simp only [isMedia, takenFor, headerKeys, List.find?_cons, List.find?_nil, Key.text]
  cases found line "a=group:BUNDLE" <;> cases found line "m=" <;> decide

theorem error_ite_iff {α : Type} {p : Prop} [Decidable p] {stop : Stop} {a : α} :
    (∃ stop', (if p then .error stop else .ok a : Except Stop α) = .error stop') ↔ p := by
  by_cases h : p <;> simp [h]

/-- **Whether a line stops the parse** is told from what it is taken for. -/
theorem readTaken_error_iff (rtc : RtcText) {keys : String → List Key} {k : Key}
    (hkeys : keys ∈ tests) (h : takenFor found line (keys st.mediaType) = some k) :
    (∃ stop, st.readTaken rtc line (some k) = .error stop) ↔ Stops rtc line k := by
  obtain ⟨halternatives, hin⟩ := keys_of_mem hkeys (List.mem_of_find?_eq_some h)
  rw [halternatives] at h
  cases k with
  | bundle => simp [SdpParse.readTaken, SdpParse.readAsKey, Stops]
  | ssrcGroup => simp [SdpParse.readTaken, SdpParse.readAsKey, Stops]
  | media => exact parseMedia_error_iff ((isMedia_iff_taken "").2 h) st
  | iceUfrag =>
    exact updateTd_error_iff (f := fun td => transportAs rtc line td .iceUfrag)
      (hin.resolve_left (by decide)) fun td => error_ite_iff
  | icePwd =>
    exact updateTd_error_iff (f := fun td => transportAs rtc line td .icePwd)
      (hin.resolve_left (by decide)) fun td => error_ite_iff
  | fingerprint =>
    exact updateTd_error_iff (f := fun td => transportAs rtc line td .fingerprint)
      (hin.resolve_left (by decide)) (parseFingerprint_error_iff (fingerprintLine_of_taken h))
  | ssrc =>
    exact updateInfos_error_iff (f := fun infos => parseSsrcInfo rtc infos line)
      (hin.resolve_left (by decide)) parseSsrcInfo_error_iff

theorem readTaken_mediaType {keys : String → List Key} {k : Key} (hkeys : keys ∈ tests)
    (h : takenFor found line (keys st.mediaType) = some k)
    (hok : st.readTaken rtc line (some k) = .ok st') :
    st'.mediaType = mediaRead rtc line st.mediaType k := by
  obtain ⟨halternatives, -⟩ := keys_of_mem hkeys (List.mem_of_find?_eq_some h)
  rw [halternatives] at h
  change st.readAsKey rtc line k = .ok st' at hok
  cases k with
  | bundle =>
    have hfound : found line Key.bundle.text = true := by simpa using List.find?_some h
    rw [Key.text] at hfound
    have hmedia : isMedia line = false := by simp [isMedia, hfound]
    obtain rfl := Except.ok.inj hok
    rw [(headerRead_bundle hfound st).mediaType, sectionAt, hmedia]
    rfl
  | media =>
    have hmedia : isMedia line = true := (isMedia_iff_taken "").2 h
    rcases @parseMedia_cases rtc line hmedia st with
      ⟨-, hstop⟩ | ⟨-, -, hstop⟩ | ⟨-, -, _, hread, hhead⟩
    · cases hstop.symm.trans hok
    · cases hstop.symm.trans hok
    · obtain rfl := Except.ok.inj (hread.symm.trans hok)
      rw [hhead.mediaType, sectionAt, if_pos hmedia]
      rfl
  | iceUfrag => exact (readAsKey_keeps (by decide) (by decide) hok).1
  | icePwd => exact (readAsKey_keeps (by decide) (by decide) hok).1
  | fingerprint => exact (readAsKey_keeps (by decide) (by decide) hok).1
  | ssrcGroup => exact (readAsKey_keeps (by decide) (by decide) hok).1
  | ssrc => exact (readAsKey_keeps (by decide) (by decide) hok).1

/-! ## The tests on a line -/

theorem head?_readLine (is : String → String → Bool) (keys : String → List Key)
    (rest : List (String → List Key)) (st : SdpParse) :
    (readLine is rtc line (keys :: rest) st).1.head? =
      some (takenFor is line (keys st.mediaType)) := by
  rw [readLine]
  cases st.readTaken rtc line (takenFor is line (keys st.mediaType)) <;> rfl

/-- **The tests on a line** take it for the same where what they find begins
it, and then they do the same. -/
theorem readLine_eq_iff (rtc : RtcText) (line : String) {rest : List (String → List Key)}
    (hrest : ∀ keys ∈ rest, keys ∈ tests) (st : SdpParse) :
    ((readLine found rtc line rest st).1 = (readLine begins rtc line rest st).1 ↔
        KeysBegin rtc line st.mediaType rest) ∧
      (KeysBegin rtc line st.mediaType rest →
        readLine found rtc line rest st = readLine begins rtc line rest st) := by
  induction rest generalizing st with
  | nil => exact ⟨iff_of_true rfl trivial, fun _ => rfl⟩
  | cons keys rest ih =>
    have hkeys : keys ∈ tests := hrest keys List.mem_cons_self
    have ih := ih fun keys hmem => hrest keys (List.mem_cons_of_mem _ hmem)
    rw [KeysBegin]
    by_cases hsame : takenFor found line (keys st.mediaType) =
        takenFor begins line (keys st.mediaType)
    · rw [readLine, readLine, ← hsame]
      cases htaken : takenFor found line (keys st.mediaType) with
      | none =>
        obtain ⟨hiff, heq⟩ := ih st
        simp only [SdpParse.readTaken, List.cons.injEq, true_and]
        exact ⟨hiff, fun h => by rw [heq h]⟩
      | some k =>
        have hbegins : begins line k.text = true := takenFor_eq_iff.1 hsame k htaken
        have hstops := readTaken_error_iff rtc hkeys htaken
        cases hread : st.readTaken rtc line (some k) with
        | error stop =>
          -- no further test is made, by either
          have hstop : Stops rtc line k := hstops.1 ⟨stop, hread⟩
          simp [hbegins, hstop]
        | ok st₁ =>
          have hgoes : ¬ Stops rtc line k := by
            intro hstop
            obtain ⟨stop, herror⟩ := hstops.2 hstop
            cases herror.symm.trans hread
          -- the rest of the tests go by the section that this one leaves
          obtain ⟨hiff, heq⟩ := ih st₁
          rw [readTaken_mediaType hkeys htaken hread] at hiff heq
          simp only [List.cons.injEq, true_and, hbegins, hgoes, not_false_eq_true, forall_const]
          exact ⟨hiff, fun h => by rw [heq h]⟩
    · -- the first test tells the two apart
      have hnot : ¬ ∀ k, takenFor found line (keys st.mediaType) = some k →
          begins line k.text = true := mt takenFor_eq_iff.2 hsame
      have hfalse : ¬ (match takenFor found line (keys st.mediaType) with
          | none => KeysBegin rtc line st.mediaType rest
          | some key => begins line key.text = true ∧
            (¬ Stops rtc line key →
              KeysBegin rtc line (mediaRead rtc line st.mediaType key) rest)) := by
        intro h
        refine hnot fun k htaken => ?_
        rw [htaken] at h
        exact h.1
      refine ⟨iff_of_false (fun h => hsame ?_) hfalse, fun h => absurd h hfalse⟩
      have hheads := congrArg List.head? h
      rw [head?_readLine, head?_readLine] at hheads
      exact Option.some.inj hheads

/-! ## The lines -/

/-- The section a line is read in is the one it opens, where its header
begins it. -/
theorem sectionAt_eq_opened {media : String} (h : KeysBegin rtc line media tests) :
    sectionAt rtc media line = opened rtc media line := by
  rw [tests, KeysBegin] at h
  have hbegins : isMedia line = begins line Key.media.text := by
    by_cases hmedia : isMedia line = true
    · rw [(isMedia_iff_taken _).1 hmedia] at h
      rw [hmedia, h.1]
    · rw [Bool.not_eq_true] at hmedia
      rw [hmedia, eq_comm, ← Bool.not_eq_true]
      intro hkey
      have hfound : found line "m=" = true := found_of_begins hkey
      have hbundle : found line "a=group:BUNDLE" = true := by
        simpa [isMedia, hfound] using hmedia
      have htaken : takenFor found line (headerKeys media) = some .bundle := by
        simp [takenFor, headerKeys, Key.text, hbundle]
      rw [htaken] at h
      -- a line begins with one letter only
      obtain ⟨rest, hrest⟩ := of_decide_eq_true hkey
      obtain ⟨rest', hrest'⟩ := of_decide_eq_true h.1
      rw [← hrest] at hrest'
      cases hrest'
  rw [sectionAt, opened, hbegins]

theorem parseLines_cons (line : String) (lines : List String) (st : SdpParse) :
    st.parseLines rtc (line :: lines) =
      match st.parseLine rtc line with
      | .error stopped => .error stopped
      | .ok st => st.parseLines rtc lines := by
  rw [SdpParse.parseLines, List.foldlM_cons]
  cases st.parseLine rtc line <;> rfl

/-- **The lines are taken by what they begin with** where no key is found
inside one. -/
theorem takenByPrefix_iff (lines : List String) (st : SdpParse) :
    TakenByPrefix rtc st lines ↔ AllKeysBegin rtc st.mediaType lines := by
  have hline := fun line st => readLine_eq_iff rtc line (fun _ h => h) st
  induction lines generalizing st with
  | nil =>
    refine iff_of_true ⟨fun before after heq st' hok => ?_, fun before line after heq => ?_⟩ trivial
    · obtain ⟨rfl, -⟩ := List.nil_eq_append_iff.1 heq
      obtain rfl := Except.ok.inj hok
      rfl
    · exact absurd heq (by simp)
  | cons line lines ih =>
    constructor
    · intro h
      have hkeys := (hline line st).1.1 (h.taken [] line lines rfl st rfl)
      refine ⟨hkeys, fun hs hr => ?_⟩
      rcases parseLine_cases rtc line st with ⟨hs', -⟩ | ⟨hr', -⟩ | ⟨-, -, st₁, hok, hread⟩
      · exact absurd hs' hs
      · exact absurd hr' hr
      · have hbefore : ∀ before,
            st.parseLines rtc (line :: before) = st₁.parseLines rtc before := by
          intro before
          rw [parseLines_cons, hok]
        rw [← hread.mediaType]
        refine (ih st₁).1 ⟨fun before after heq st' hok' => ?_,
          fun before line' after heq st' hok' => ?_⟩
        · rw [h.media (line :: before) after (by rw [heq]; rfl) st' (by rw [hbefore, hok']),
            hread.mediaType, sectionAt_eq_opened hkeys]
          rfl
        · exact h.taken (line :: before) line' after (by rw [heq]; rfl) st' (by rw [hbefore, hok'])
    · rintro ⟨hkeys, hrest⟩
      -- what is behind the line is read from where the line leaves the parse
      have hnext : ∀ before st', st.parseLines rtc (line :: before) = .ok st' → ∃ st₁,
          st₁.mediaType = opened rtc st.mediaType line ∧ TakenByPrefix rtc st₁ lines ∧
            st₁.parseLines rtc before = .ok st' := by
        intro before st' hok'
        rw [parseLines_cons] at hok'
        rcases parseLine_cases rtc line st with ⟨-, _, h⟩ | ⟨-, _, h⟩ | ⟨hs, hr, st₁, h, hread⟩
        · rw [h] at hok'
          cases hok'
        · rw [h] at hok'
          cases hok'
        · rw [h] at hok'
          have hmedia := hread.mediaType
          refine ⟨st₁, by rw [hmedia, sectionAt_eq_opened hkeys], (ih st₁).2 ?_, hok'⟩
          rw [hmedia]
          exact hrest hs hr
      refine ⟨fun before after heq st' hok' => ?_, fun before line' after heq st' hok' => ?_⟩
      · cases before with
        | nil =>
          obtain rfl := Except.ok.inj hok'
          rfl
        | cons line' before =>
          obtain ⟨rfl, hlines⟩ := List.cons.inj heq
          obtain ⟨st₁, hmedia, htaken, hok₁⟩ := hnext before st' hok'
          rw [htaken.media before after hlines st' hok₁, hmedia]
          rfl
      · cases before with
        | nil =>
          obtain ⟨rfl, -⟩ := List.cons.inj heq
          obtain rfl := Except.ok.inj hok'
          exact (hline line st).1.2 hkeys
        | cons line'' before =>
          obtain ⟨rfl, hlines⟩ := List.cons.inj heq
          obtain ⟨st₁, -, htaken, hok₁⟩ := hnext before st' hok'
          exact htaken.taken before line' after hlines st' hok₁

/-- **The two parsers make the same** of lines without a key inside. -/
theorem parseLines_eq_parseByPrefix (lines : List String) (st : SdpParse)
    (h : AllKeysBegin rtc st.mediaType lines) :
    st.parseLines rtc lines = st.parseByPrefix rtc lines := by
  induction lines generalizing st with
  | nil => rfl
  | cons line lines ih =>
    obtain ⟨hkeys, hrest⟩ := h
    have hline : st.parseLine rtc line = (readLine begins rtc line tests st).2 := by
      rw [parseLine_eq, (readLine_eq_iff rtc _ (fun _ h => h) st).2 hkeys]
    rw [SdpParse.parseByPrefix, List.foldlM_cons, ← hline, parseLines_cons]
    rcases parseLine_cases rtc line st with
      ⟨-, _, hstop⟩ | ⟨-, _, hstop⟩ | ⟨hs, hr, st₁, hok, hread⟩
    · rw [hstop]
      rfl
    · rw [hstop]
      rfl
    · rw [hok]
      refine ih st₁ ?_
      rw [hread.mediaType]
      exact hrest hs hr

/-! ## The answer to a text -/

theorem sdpLines_ended (rtc : RtcText) (eol : LineEnd) (lines : List SdpLine) :
    sdpLines rtc (ended eol (lines.map (·.text))) = lines.map (·.text) := by
  have hfree : ∀ line ∈ lines.map (·.text), '\n' ∉ line.toList ∧ '\r' ∉ line.toList := by
    intro line hline
    obtain ⟨sdpLine, -, rfl⟩ := List.mem_map.1 hline
    have hletter : ∀ c : Char, c.isAlpha = false → c ≠ sdpLine.letter := by
      rintro c hc rfl
      exact Bool.noConfusion (hc.symm.trans sdpLine.isLetter)
    simp only [SdpLine.text, String.toList_ofList, List.mem_cons, not_or]
    exact ⟨⟨hletter _ (by decide), by decide, sdpLine.newline⟩,
      hletter _ (by decide), by decide, sdpLine.carriageReturn⟩
  cases eol with
  | lf =>
    rw [sdpLines_ended_lf hfree, List.filter_eq_self]
    intro line hline
    obtain ⟨sdpLine, -, rfl⟩ := List.mem_map.1 hline
    rw [decide_eq_true_eq]
    intro hempty
    rw [SdpLine.text, ← String.toList_inj, String.toList_ofList] at hempty
    cases hempty
  | crlf => exact sdpLines_ended_crlf fun line hline => (hfree line hline).1

/-- **When a text is read by what its lines begin with.** Its lines are, and
its answer is that of the reference parser, exactly where no key is found
inside a line, up to one that stops the parse. -/
theorem read_by_prefix_iff (rtc : RtcText) (pc : PeerConnection) (eol : LineEnd)
    (lines : List SdpLine) :
    (TakenByPrefix rtc {} (lines.map (·.text)) ∧
        pc.setRemoteSdp rtc (ended eol (lines.map (·.text))) =
          pc.setRemoteByPrefix rtc (lines.map (·.text))) ↔
      AllKeysBegin rtc "" (lines.map (·.text)) := by
  constructor
  · exact fun h => (takenByPrefix_iff _ _).1 h.1
  · intro h
    refine ⟨(takenByPrefix_iff _ _).2 h, ?_⟩
    have hcut := sdpLines_ended rtc eol lines
    rw [PeerConnection.setRemoteByPrefix]
    split
    · rename_i hnil
      rw [PeerConnection.setRemoteSdp, hcut, if_pos hnil]
    · rename_i hne
      rw [setRemoteSdp_of_lines (by rwa [hcut]), hcut, parseLines_eq_parseByPrefix _ _ h]

/-- An answer with one SSRC, whose CNAME is `m=`. -/
def cnameLines : List SdpLine :=
  [⟨'m', "audio 9 x", by decide, by decide, by decide⟩,
    ⟨'a', "fingerprint:sha-1 00", by decide, by decide, by decide⟩,
    ⟨'a', "ssrc:1 cname:m=", by decide, by decide, by decide⟩]

/-- A CNAME is taken for a section, and the answer refused. -/
theorem cname_opens_section :
    (offering.setRemoteSdp blankText (ended .crlf (cnameLines.map (·.text)))).2 = .ok (-1) ∧
    (offering.setRemoteByPrefix blankText (cnameLines.map (·.text))).2 = .ok 0 ∧
    ¬ (TakenByPrefix blankText {} (cnameLines.map (·.text)) ∧
      offering.setRemoteSdp blankText (ended .crlf (cnameLines.map (·.text))) =
        offering.setRemoteByPrefix blankText (cnameLines.map (·.text))) := by
  have hcode : (offering.setRemoteSdp blankText (ended .crlf (cnameLines.map (·.text)))).2 =
      .ok (-1) := by decide +kernel
  have hreference : (offering.setRemoteByPrefix blankText (cnameLines.map (·.text))).2 =
      .ok 0 := by decide +kernel
  refine ⟨hcode, hreference, fun h => ?_⟩
  have hsame := congrArg Prod.snd h.2
  rw [hcode, hreference] at hsame
  exact absurd (Except.ok.inj hsame) (by decide)

end Pc

end XrtcServer
