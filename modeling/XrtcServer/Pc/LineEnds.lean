import XrtcServer.Pc.Keys
import XrtcServer.Pc.Replaced
/-!
# The ends of the lines

A text is cut at every `\n`; where it holds a `\r\n` anywhere, the last
character of every field is cut off, whatever it is. Of a text in CRLF that
does not end its last line this is a character of the line, and an empty line
counts as a line in CRLF only. These are the two ways in which the texts of
one list of lines differ (`sameAnswers_iff`).
-/

namespace XrtcServer

namespace Pc

open Base Common XrtcServer.Stream

/-! ## The texts of a list of lines -/

inductive LineEnd where
  | lf
  | crlf
deriving DecidableEq

def LineEnd.text : LineEnd → String
  | .lf => "\n"
  | .crlf => "\r\n"

/-- A line free of CR and LF. -/
structure TextLine where
  text : String
  newline : '\n' ∉ text.toList
  carriageReturn : '\r' ∉ text.toList

/-- Every line ended. -/
def ended (eol : LineEnd) (lines : List String) : String :=
  String.join (lines.map fun line => line ++ eol.text)

/-- Every line ended but the last. -/
def unended (eol : LineEnd) (lines : List String) : String :=
  ended eol lines.dropLast ++ lines.getLastD ""

/-- The lines as texts. -/
def texts (lines : List TextLine) : List String := lines.map (·.text)

/-- **The four texts of a list of lines.** -/
def renderings (lines : List String) : List String :=
  [ended .lf lines, ended .crlf lines, unended .lf lines, unended .crlf lines]

/-- The line without its last character. -/
def shorten (line : String) : String := String.ofList line.toList.dropLast

section Answers

variable (rtc : RtcText) (pc : PeerConnection)

/-- **Two texts have the same answer**: what is returned, and what is seen
of the description. -/
def SameAnswer (sdp sdp' : String) : Prop :=
  (pc.setRemoteSdp rtc sdp).2 = (pc.setRemoteSdp rtc sdp').2 ∧
    (pc.setRemoteSdp rtc sdp).1.remoteDesc.map (·.parts) =
      (pc.setRemoteSdp rtc sdp').1.remoteDesc.map (·.parts)

/-- What a parse leaves to be seen. -/
def seen : Except (Stop × SessionDescription) SdpParse →
    Except (Stop × DescriptionParts) DescriptionParts
  | .error (stop, desc) => .error (stop, desc.parts)
  | .ok st => .ok st.finish.parts

/-- **The last line can lose its last character**: it is the only one, or
empty, or the parse has stopped before it, or it is read the same without. -/
def EndsAlike (lines : List String) : Prop :=
  ∀ init last, lines = init ++ [last] → init ≠ [] → last ≠ "" →
    ∀ st, SdpParse.parseLines rtc {} init = .ok st →
      seen (st.parseLine rtc (shorten last)) = seen (st.parseLine rtc last)

end Answers

variable {rtc : RtcText} {pc : PeerConnection} {line last : String} {init lines : List String}
variable {st st' : SdpParse}

/-! ## The fields of a text -/

theorem toList_ended_lf : (ended .lf init ++ last).toList =
    (init.map String.toList).flatMap (· ++ ['\n']) ++ last.toList := by
  rw [String.toList_append, ended, String.toList_join, List.flatMap_map, List.flatMap_map]
  congr 1
  exact List.flatMap_congr fun line _ => String.toList_append

theorem toList_ended_crlf : (ended .crlf init ++ last).toList =
    (init.map fun line => line.toList ++ ['\r']).flatMap (· ++ ['\n']) ++ last.toList := by
  rw [String.toList_append, ended, String.toList_join, List.flatMap_map, List.flatMap_map]
  congr 1
  refine List.flatMap_congr fun line _ => ?_
  rw [String.toList_append, List.append_assoc]
  rfl

/-- **The fields of a text** whose lines end but for the last. -/
theorem tokenize_fields {sdp : String} {fields : List (List Char)}
    (hsdp : sdp.toList = fields.flatMap (· ++ ['\n']) ++ last.toList)
    (hfields : ∀ field ∈ fields, '\n' ∉ field) (hlast : '\n' ∉ last.toList) :
    rtc.tokenize sdp '\n' =
      (fields.map String.ofList).filter (· ≠ "") ++ [last].filter (· ≠ "") := by
  have hempty : ∀ field : List Char, (!field.isEmpty) = decide (String.ofList field ≠ "") := by
    intro field
    cases field with
    | nil => rfl
    | cons c field =>
      rw [List.isEmpty_cons, Bool.not_false, eq_comm, decide_eq_true_eq]
      intro h
      rw [← String.toList_inj, String.toList_ofList] at h
      cases h
  have hall : fields.map String.ofList ++ [last] = (fields ++ [last.toList]).map String.ofList := by
    simp
  rw [rtc.tokenize_eq, hsdp, tokens, splitOn_flatMap_append hfields hlast, ← List.filter_append,
    hall, List.filter_map, List.filter_congr fun field _ => hempty field]
  rfl

/-- Without CR the fields are the lines, but for the empty ones. -/
theorem sdpLines_lf (rtc : RtcText)
    (h : ∀ line ∈ init ++ [last], '\n' ∉ line.toList ∧ '\r' ∉ line.toList) :
    sdpLines rtc (ended .lf init ++ last) = (init ++ [last]).filter (· ≠ "") := by
  have hfields : ∀ field ∈ init.map String.toList, '\n' ∉ field := by
    intro field hfield
    obtain ⟨line, hline, rfl⟩ := List.mem_map.1 hfield
    exact (h line (List.mem_append_left _ hline)).1
  have hlast := h last (List.mem_append_right _ (List.mem_singleton.2 rfl))
  have hnot : found (ended .lf init ++ last) "\r\n" = false := by
    rw [found, decide_eq_false_iff_not, toList_ended_lf]
    intro hinside
    have hmem : '\r' ∈ (init.map String.toList).flatMap (· ++ ['\n']) ++ last.toList :=
      hinside.subset List.mem_cons_self
    rcases List.mem_append.1 hmem with hmem | hmem
    · obtain ⟨field, hfield, hmem⟩ := List.mem_flatMap.1 hmem
      obtain ⟨line, hline, rfl⟩ := List.mem_map.1 hfield
      rcases List.mem_append.1 hmem with hmem | hmem
      · exact (h line (List.mem_append_left _ hline)).2 hmem
      · exact absurd (List.mem_singleton.1 hmem) (by decide)
    · exact hlast.2 hmem
  rw [sdpLines, hnot, tokenize_fields toList_ended_lf hfields hlast.1, List.filter_append,
    List.map_map]
  simp

/-- **In CRLF every field loses its last character**, so the last line does
where it is not ended. -/
theorem sdpLines_crlf (rtc : RtcText) (h : ∀ line ∈ init ++ [last], '\n' ∉ line.toList)
    (hne : init ≠ []) :
    sdpLines rtc (ended .crlf init ++ last) = init ++ ([last].filter (· ≠ "")).map shorten := by
  have hfields : ∀ field ∈ init.map fun line => line.toList ++ ['\r'], '\n' ∉ field := by
    intro field hfield
    obtain ⟨line, hline, rfl⟩ := List.mem_map.1 hfield
    rw [List.mem_append, not_or]
    exact ⟨h line (List.mem_append_left _ hline), by decide⟩
  have hlast := h last (List.mem_append_right _ (List.mem_singleton.2 rfl))
  have hfound : found (ended .crlf init ++ last) "\r\n" = true := by
    obtain ⟨line, init, rfl⟩ := List.exists_cons_of_ne_nil hne
    rw [found, decide_eq_true_eq, toList_ended_crlf, List.map_cons, List.flatMap_cons]
    refine ⟨line.toList,
      (init.map fun line => line.toList ++ ['\r']).flatMap (· ++ ['\n']) ++ last.toList, ?_⟩
    simp
  have hkept : ∀ field ∈ (init.map fun line => line.toList ++ ['\r']).map String.ofList,
      decide (field ≠ "") = true := by
    intro field hfield
    obtain ⟨chars, hchars, rfl⟩ := List.mem_map.1 hfield
    obtain ⟨line, -, rfl⟩ := List.mem_map.1 hchars
    simp
  rw [sdpLines, hfound, tokenize_fields toList_ended_crlf hfields hlast,
    List.filter_eq_self.2 hkept, if_pos rfl, List.map_append, List.map_map, List.map_map]
  congr 1
  refine (List.map_congr_left fun line _ => ?_).trans (List.map_id _)
  simp

/-- A single line that is not ended. -/
theorem sdpLines_single (rtc : RtcText) (last : String)
    (h : '\n' ∉ last.toList ∧ '\r' ∉ last.toList) :
    sdpLines rtc last = [last].filter (· ≠ "") := by
  have hlines : sdpLines rtc (ended .lf [] ++ last) = ([] ++ [last]).filter (· ≠ "") :=
    sdpLines_lf rtc (by simpa using h)
  simpa [ended] using hlines

/-! ## The answer to a text -/

/-- What is seen of a description is all that the transports are given. -/
theorem setRemoteDescription_congr {desc desc' : SessionDescription} (h : desc.parts = desc'.parts)
    (tc : TransportController) : tc.setRemoteDescription desc = tc.setRemoteDescription desc' := by
  obtain ⟨_, contents, groups, infos⟩ := desc
  obtain ⟨_, contents', groups', infos'⟩ := desc'
  obtain ⟨rfl, h⟩ := Prod.mk.inj h
  obtain ⟨rfl, rfl⟩ := Prod.mk.inj h
  rfl

/-- `set_remote_sdp` of a text with lines, once these are parsed. -/
def PeerConnection.conclude (pc : PeerConnection)
    (parse : Except (Stop × SessionDescription) SdpParse) : PeerConnection × Except Fault ℤ :=
  match parse with
  | .error (.refused, desc) => ({ pc with remoteDesc := some desc }, .ok (-1))
  | .error (.outOfRange, desc) => ({ pc with remoteDesc := some desc }, .error .outOfRange)
  | .ok st =>
    match pc.transportController.setRemoteDescription st.finish with
    | .error (fault, tc) =>
      ({ pc with remoteDesc := some st.finish, transportController := tc }, .error fault)
    | .ok tc => ({ pc with remoteDesc := some st.finish, transportController := tc }, .ok 0)

theorem setRemoteSdp_of_lines {sdp : String} (h : sdpLines rtc sdp ≠ []) :
    pc.setRemoteSdp rtc sdp = pc.conclude (SdpParse.parseLines rtc {} (sdpLines rtc sdp)) := by
  rw [PeerConnection.setRemoteSdp, if_neg h]
  rfl

/-- What is left to be seen of the description. -/
def partsOf (parse : Except (Stop × SessionDescription) SdpParse) : DescriptionParts :=
  match parse with
  | .error (_, desc) => desc.parts
  | .ok st => st.finish.parts

theorem conclude_remoteDesc (parse : Except (Stop × SessionDescription) SdpParse) :
    (pc.conclude parse).1.remoteDesc.map (·.parts) = some (partsOf parse) := by
  cases parse with
  | error stopped =>
    obtain ⟨stop, desc⟩ := stopped
    cases stop <;> rfl
  | ok st =>
    dsimp only [PeerConnection.conclude]
    cases pc.transportController.setRemoteDescription st.finish <;> rfl

/-- A parse that goes through is answered otherwise than one that stops. -/
theorem conclude_ok (pc : PeerConnection) (st : SdpParse) :
    (pc.conclude (.ok st)).2 = .ok 0 ∨ (pc.conclude (.ok st)).2 = .error .nullFingerprint := by
  simp only [PeerConnection.conclude, TransportController.setRemoteDescription]
  rcases applyContents_cases st.finish st.finish.contents pc.transportController with
    ⟨-, tc, h⟩ | ⟨-, tc, h, -⟩
  · rw [h]
    exact .inr rfl
  · rw [h]
    exact .inl rfl

/-- What is returned for two descriptions of the same parts. -/
theorem conclude_congr (h : st.finish.parts = st'.finish.parts) :
    (pc.conclude (.ok st)).2 = (pc.conclude (.ok st')).2 := by
  dsimp only [PeerConnection.conclude]
  rw [setRemoteDescription_congr h]
  cases pc.transportController.setRemoteDescription st'.finish <;> rfl

/-- **The answer tells what is seen of the parse**, and nothing else. -/
theorem sameAnswer_iff_seen {sdp sdp' : String} (h : sdpLines rtc sdp ≠ [])
    (h' : sdpLines rtc sdp' ≠ []) : SameAnswer rtc pc sdp sdp' ↔
      seen (SdpParse.parseLines rtc {} (sdpLines rtc sdp)) =
        seen (SdpParse.parseLines rtc {} (sdpLines rtc sdp')) := by
  rw [SameAnswer, setRemoteSdp_of_lines h, setRemoteSdp_of_lines h', conclude_remoteDesc,
    conclude_remoteDesc, Option.some_inj]
  generalize SdpParse.parseLines rtc {} (sdpLines rtc sdp) = parse
  generalize SdpParse.parseLines rtc {} (sdpLines rtc sdp') = parse'
  -- a stop and a parse that goes through are told apart by what is returned
  have hne : ∀ stop desc st,
      (pc.conclude (.error (stop, desc))).2 ≠ (pc.conclude (.ok st)).2 := by
    intro stop desc st heq
    rcases conclude_ok pc st with hok | hok
    · rw [hok] at heq
      cases stop <;> cases heq
    · rw [hok] at heq
      cases stop <;> cases heq
  cases parse with
  | error stopped =>
    obtain ⟨stop, desc⟩ := stopped
    cases parse' with
    | error stopped' =>
      obtain ⟨stop', desc'⟩ := stopped'
      cases stop <;> cases stop' <;> simp [PeerConnection.conclude, partsOf, seen]
    | ok st => exact iff_of_false (fun h => hne _ _ _ h.1) (by simp [seen])
  | ok st =>
    cases parse' with
    | error stopped' => exact iff_of_false (fun h => hne _ _ _ h.1.symm) (by simp [seen])
    | ok st' =>
      simp only [partsOf, seen, Except.ok.injEq, and_iff_right_iff_imp]
      exact conclude_congr

/-! ## The lines that say nothing -/

/-- **An empty line says nothing.** -/
theorem parseLine_empty : st.parseLine rtc "" = .ok st := by
  refine parseLine_of_keyless (fun key => ?_) st
  rw [found, decide_eq_false_iff_not]
  intro hinside
  have hnil : key.text.toList = [] := List.infix_nil.1 hinside
  cases key <;> exact absurd hnil (by decide)

theorem parseLines_filter (lines : List String) (st : SdpParse) :
    st.parseLines rtc (lines.filter (· ≠ "")) = st.parseLines rtc lines := by
  induction lines generalizing st with
  | nil => rfl
  | cons line lines ih =>
    by_cases hline : line = ""
    · rw [List.filter_cons_of_neg (by simp [hline]), ih, hline, SdpParse.parseLines,
        SdpParse.parseLines, List.foldlM_cons, parseLine_empty]
      rfl
    · rw [List.filter_cons_of_pos (by simp [hline]), SdpParse.parseLines, SdpParse.parseLines,
        List.foldlM_cons, List.foldlM_cons]
      cases st.parseLine rtc line with
      | error stopped => rfl
      | ok st => exact ih st

/-- **A last line without a key can lose its last character.** -/
theorem endsAlike_of_keyless (h : ∀ key : Key, found last key.text = false) :
    EndsAlike rtc (init ++ [last]) := by
  have hshort : ∀ key : Key, found (shorten last) key.text = false := by
    intro key
    have hkey := h key
    rw [found, decide_eq_false_iff_not] at hkey ⊢
    rw [shorten, String.toList_ofList]
    exact fun hinside => hkey (hinside.trans (List.dropLast_prefix _).isInfix)
  intro init' last' heq _ _ st _
  obtain rfl := (List.cons.inj (List.append_inj' heq rfl).2).1
  rw [parseLine_of_keyless h, parseLine_of_keyless hshort]

/-! ## The four texts -/

theorem free_texts (lines : List TextLine) :
    ∀ line ∈ texts lines, '\n' ∉ line.toList ∧ '\r' ∉ line.toList := by
  intro line hline
  obtain ⟨textLine, -, rfl⟩ := List.mem_map.1 hline
  exact ⟨textLine.newline, textLine.carriageReturn⟩

theorem unended_concat (eol : LineEnd) : unended eol (init ++ [last]) = ended eol init ++ last := by
  simp [unended]

/-- **In LF the empty lines are left out.** -/
theorem sdpLines_ended_lf (h : ∀ line ∈ lines, '\n' ∉ line.toList ∧ '\r' ∉ line.toList) :
    sdpLines rtc (ended .lf lines) = lines.filter (· ≠ "") := by
  have hall : ∀ line ∈ lines ++ [""], '\n' ∉ line.toList ∧ '\r' ∉ line.toList := by
    intro line hline
    rcases List.mem_append.1 hline with hline | hline
    · exact h line hline
    · rw [List.mem_singleton.1 hline]
      decide
  have hcut := sdpLines_lf rtc hall
  rw [List.filter_append] at hcut
  simpa using hcut

/-- **In CRLF the lines are what the text was made of.** -/
theorem sdpLines_ended_crlf (h : ∀ line ∈ lines, '\n' ∉ line.toList) :
    sdpLines rtc (ended .crlf lines) = lines := by
  cases lines with
  | nil =>
    have hempty := sdpLines_single rtc "" (by decide)
    simpa [ended] using hempty
  | cons line lines =>
    have hall : ∀ field ∈ (line :: lines) ++ [""], '\n' ∉ field.toList := by
      intro field hfield
      rcases List.mem_append.1 hfield with hfield | hfield
      · exact h field hfield
      · rw [List.mem_singleton.1 hfield]
        decide
    have hcut := sdpLines_crlf rtc hall (List.cons_ne_nil line lines)
    simpa using hcut

/-- What the text in CRLF is cut into where its last line is not ended. -/
theorem sdpLines_unended_crlf
    (hfree : ∀ line ∈ init ++ [last], '\n' ∉ line.toList ∧ '\r' ∉ line.toList) :
    sdpLines rtc (unended .crlf (init ++ [last])) =
      if init = [] then [last].filter (· ≠ "")
      else init ++ ([last].filter (· ≠ "")).map shorten := by
  rw [unended_concat]
  split
  · rename_i hnil
    rw [hnil]
    have hlast := hfree last (List.mem_append_right _ (List.mem_singleton.2 rfl))
    simpa [ended] using sdpLines_single rtc _ hlast
  · rename_i hne
    exact sdpLines_crlf rtc (fun line hline => (hfree line hline).1) hne

/-- One line more. -/
theorem parseLines_concat (init : List String) (line : String) (st : SdpParse) :
    st.parseLines rtc (init ++ [line]) =
      match st.parseLines rtc init with
      | .error stopped => .error stopped
      | .ok st => st.parseLine rtc line := by
  have hone : ∀ st : SdpParse, List.foldlM (SdpParse.parseLine rtc) st [line] =
      st.parseLine rtc line := fun st => List.foldlM_cons.trans (bind_pure _)
  rw [SdpParse.parseLines, SdpParse.parseLines, List.foldlM_append]
  cases List.foldlM (SdpParse.parseLine rtc) st init with
  | error stopped => rfl
  | ok st => exact hone st

/-- **The parse of the fourth text** is seen as that of the others where the
last line can lose its last character. -/
theorem seen_unended_crlf_iff
    (hfree : ∀ line ∈ init ++ [last], '\n' ∉ line.toList ∧ '\r' ∉ line.toList)
    (hline : ∃ line ∈ init ++ [last], line ≠ "") :
    seen (SdpParse.parseLines rtc {} (sdpLines rtc (unended .crlf (init ++ [last])))) =
        seen (SdpParse.parseLines rtc {} (init ++ [last])) ↔
      EndsAlike rtc (init ++ [last]) := by
  rw [sdpLines_unended_crlf hfree]
  by_cases hinit : init = []
  · -- the only line keeps its last character
    have hlast : last ≠ "" := by
      obtain ⟨line, hmem, hne⟩ := hline
      rw [hinit, List.nil_append, List.mem_singleton] at hmem
      rwa [hmem] at hne
    rw [if_pos hinit, hinit, List.filter_cons_of_pos (by simp [hlast])]
    refine iff_of_true rfl fun init' last' heq hne => ?_
    exact absurd (List.append_eq_singleton_iff.1 heq.symm) (by simp [hne])
  · rw [if_neg hinit]
    by_cases hlast : last = ""
    · -- an empty line has none
      rw [hlast, List.filter_cons_of_neg (by simp), List.filter_nil, List.map_nil, List.append_nil]
      refine iff_of_true ?_ fun init' last' heq _ hne' => ?_
      · rw [← parseLines_filter init,
          ← parseLines_filter (init ++ [""]), List.filter_append]
        simp
      · have hsame := (List.append_inj' heq rfl).2
        exact absurd (List.cons.inj hsame).1.symm hne'
    · rw [List.filter_cons_of_pos (by simp [hlast]), List.filter_nil, List.map_singleton,
        parseLines_concat, parseLines_concat]
      cases hparse : SdpParse.parseLines rtc {} init with
      | error stopped =>
        refine iff_of_true rfl fun init' last' heq _ _ st hok => ?_
        obtain rfl := (List.append_inj' heq rfl).1
        cases hparse.symm.trans hok
      | ok st =>
        dsimp only
        constructor
        · intro h init' last' heq _ _ st' hok
          obtain ⟨rfl, hsame⟩ := List.append_inj' heq rfl
          obtain rfl := (List.cons.inj hsame).1
          obtain rfl := Except.ok.inj (hparse.symm.trans hok)
          exact h
        · exact fun h => h init last rfl hinit hlast st hparse

/-- The four texts of some lines. -/
theorem sameAnswers_concat
    (hfree : ∀ line ∈ init ++ [last], '\n' ∉ line.toList ∧ '\r' ∉ line.toList) :
    (∀ sdp ∈ renderings (init ++ [last]), ∀ sdp' ∈ renderings (init ++ [last]),
      SameAnswer rtc pc sdp sdp') ↔
      (∃ line ∈ init ++ [last], line ≠ "") ∧ EndsAlike rtc (init ++ [last]) := by
  have hmem : ended .lf (init ++ [last]) ∈ renderings (init ++ [last]) ∧
      ended .crlf (init ++ [last]) ∈ renderings (init ++ [last]) ∧
      unended .crlf (init ++ [last]) ∈ renderings (init ++ [last]) := by simp [renderings]
  have hlf : sdpLines rtc (ended .lf (init ++ [last])) = (init ++ [last]).filter (· ≠ "") :=
    sdpLines_ended_lf hfree
  have hlf' : sdpLines rtc (unended .lf (init ++ [last])) = (init ++ [last]).filter (· ≠ "") := by
    rw [unended_concat, sdpLines_lf rtc hfree]
  have hcrlf : sdpLines rtc (ended .crlf (init ++ [last])) = init ++ [last] :=
    sdpLines_ended_crlf fun line hline => (hfree line hline).1
  have hne : init ++ [last] ≠ [] := by simp
  by_cases hline : ∃ line ∈ init ++ [last], line ≠ ""
  · have hfilter : (init ++ [last]).filter (· ≠ "") ≠ [] := by
      obtain ⟨line, hmem, hne⟩ := hline
      exact List.ne_nil_of_mem (List.mem_filter.2 ⟨hmem, by simp [hne]⟩)
    have hlines : sdpLines rtc (unended .crlf (init ++ [last])) ≠ [] := by
      rw [sdpLines_unended_crlf hfree]
      split
      · rename_i hinit
        rwa [hinit] at hfilter
      · rename_i hinit
        exact List.append_ne_nil_of_left_ne_nil hinit _
    rw [and_iff_right hline, ← seen_unended_crlf_iff hfree hline]
    constructor
    · intro h
      have hsame := h _ hmem.2.2 _ hmem.2.1
      rwa [sameAnswer_iff_seen hlines (by rwa [hcrlf]), hcrlf] at hsame
    · intro h
      -- every text is seen as the lines are
      have hseen : ∀ sdp ∈ renderings (init ++ [last]), sdpLines rtc sdp ≠ [] ∧
          seen (SdpParse.parseLines rtc {} (sdpLines rtc sdp)) =
            seen (SdpParse.parseLines rtc {} (init ++ [last])) := by
        intro sdp hsdp
        simp only [renderings, List.mem_cons, List.not_mem_nil, or_false] at hsdp
        rcases hsdp with rfl | rfl | rfl | rfl
        · rw [hlf, parseLines_filter]
          exact ⟨hfilter, rfl⟩
        · rw [hcrlf]
          exact ⟨hne, rfl⟩
        · rw [hlf', parseLines_filter]
          exact ⟨hfilter, rfl⟩
        · exact ⟨hlines, h⟩
      intro sdp hsdp sdp' hsdp'
      obtain ⟨hsome, heq⟩ := hseen sdp hsdp
      obtain ⟨hsome', heq'⟩ := hseen sdp' hsdp'
      exact (sameAnswer_iff_seen hsome hsome').2 (heq.trans heq'.symm)
  · -- in LF there is no line, and in CRLF there are some
    refine iff_of_false (fun h => ?_) fun h => hline h.1
    have hnone : (init ++ [last]).filter (· ≠ "") = [] := by
      refine List.filter_eq_nil_iff.2 fun line hmem hne' => hline ⟨line, hmem, ?_⟩
      simpa using hne'
    have hret := (h _ hmem.1 _ hmem.2.1).1
    have hnil : (pc.setRemoteSdp rtc (ended .lf (init ++ [last]))).2 = .ok (-1) := by
      rw [PeerConnection.setRemoteSdp, hlf, if_pos hnone]
    have hparse : SdpParse.parseLines rtc {} (init ++ [last]) = .ok {} := by
      rw [← parseLines_filter, hnone]
      rfl
    rw [hnil, setRemoteSdp_of_lines (by rwa [hcrlf]), hcrlf, hparse] at hret
    rcases conclude_ok pc {} with hok | hok
    · rw [hok] at hret
      exact absurd (Except.ok.inj hret) (by decide)
    · rw [hok] at hret
      cases hret

/-- **When the four texts are answered alike.** They are exactly where a line
is not empty, or there is none, and the last line can lose its last
character. -/
theorem sameAnswers_iff (rtc : RtcText) (pc : PeerConnection) (lines : List TextLine) :
    (∀ sdp ∈ renderings (texts lines), ∀ sdp' ∈ renderings (texts lines),
        SameAnswer rtc pc sdp sdp') ↔
      (lines = [] ∨ ∃ line ∈ lines, line.text ≠ "") ∧ EndsAlike rtc (texts lines) := by
  have hsome : (∃ line ∈ lines, line.text ≠ "") ↔ ∃ line ∈ texts lines, line ≠ "" := by
    simp [texts]
  have hnil : lines = [] ↔ texts lines = [] := by simp [texts]
  rw [hsome, hnil]
  have hfree := free_texts lines
  rcases List.eq_nil_or_concat (texts lines) with htexts | ⟨init, last, htexts⟩
  · -- the four texts are empty
    rw [htexts]
    have hall : ∀ sdp ∈ renderings [], sdp = "" := by decide
    refine iff_of_true (fun sdp hsdp sdp' hsdp' => ?_) ⟨.inl rfl, fun init last h => ?_⟩
    · rw [hall sdp hsdp, hall sdp' hsdp']
      exact ⟨rfl, rfl⟩
    · exact absurd h (by simp)
  · rw [List.concat_eq_append] at htexts
    rw [htexts] at hfree ⊢
    rw [sameAnswers_concat hfree, or_iff_right (by simp)]

/-- An answer that ends in a user name fragment. -/
def fragmentLines : List TextLine :=
  [⟨"m=audio 9 x", by decide, by decide⟩, ⟨"a=fingerprint:sha-1 00", by decide, by decide⟩,
    ⟨"a=ice-ufrag:ab", by decide, by decide⟩]

/-- What the user name fragments are read as. -/
def fragments (pc : PeerConnection) : Option (List String) :=
  pc.remoteDesc.map fun desc => desc.transportInfos.map (·.iceUfrag)

theorem fragments_of_sameAnswer {sdp sdp' : String} (h : SameAnswer rtc pc sdp sdp') :
    fragments (pc.setRemoteSdp rtc sdp).1 = fragments (pc.setRemoteSdp rtc sdp').1 := by
  have hparts := congrArg (Option.map fun parts => parts.2.2.map (·.iceUfrag)) h.2
  rw [Option.map_map, Option.map_map] at hparts
  exact hparts

/-- The last line loses a character in CRLF where it is not ended, and an
empty line is one in CRLF only. -/
theorem last_character_lost :
    (¬ ∀ sdp ∈ renderings (texts fragmentLines), ∀ sdp' ∈ renderings (texts fragmentLines),
      SameAnswer blankText offering sdp sdp') ∧
    ¬ ∀ sdp ∈ renderings (texts [⟨"", by decide, by decide⟩]),
      ∀ sdp' ∈ renderings (texts [⟨"", by decide, by decide⟩]),
        SameAnswer blankText offering sdp sdp' := by
  constructor
  · intro h
    have hended : fragments (offering.setRemoteSdp blankText
        (ended .crlf (texts fragmentLines))).1 = some ["ab", ""] := by decide +kernel
    have hunended : fragments (offering.setRemoteSdp blankText
        (unended .crlf (texts fragmentLines))).1 = some ["a", ""] := by decide +kernel
    have hsame := fragments_of_sameAnswer (h (ended .crlf (texts fragmentLines))
      (by simp [renderings]) (unended .crlf (texts fragmentLines)) (by simp [renderings]))
    rw [hended, hunended] at hsame
    exact absurd hsame (by decide)
  · intro h
    have hlf : (offering.setRemoteSdp blankText "\n").2 = .ok (-1) := by decide +kernel
    have hcrlf : (offering.setRemoteSdp blankText "\r\n").2 = .ok 0 := by decide +kernel
    have hsame := (h "\n" (by decide) "\r\n" (by decide)).1
    rw [hlf, hcrlf] at hsame
    exact absurd (Except.ok.inj hsame) (by decide)

end Pc

end XrtcServer
