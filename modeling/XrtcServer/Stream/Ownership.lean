import XrtcServer.Stream.Registry
/-!
# The owner of a stream

Stopping and answering locate a stream by its name and then check its owner.
The two creations do not: a push entry is taken over by whoever pushes under
its name, and a pull entry by whoever pulls while the name is pushed.
-/

namespace XrtcServer

namespace Stream

open RtcStreamManager

variable {PC : Type} {ops : PeerConnectionOps PC} {m m' : RtcStreamManager PC}
variable {t : RtcStreamType} {n : String} {id uid : ℕ} {s : RtcStream PC}

/-- The event is a request of a user for a stream name. -/
def RequestOf (uid : ℕ) (n : String) : Event → Prop
  | .createPushStream u name .. | .createPullStream u name .. | .stopPush u name
  | .stopPull u name | .setAnswer u name .. => u = uid ∧ name = n
  | .connectionState .. | .iceTimeout .. => False

/-- **A creation of the type of the entry**, where it creates. -/
def TakesOver (m : RtcStreamManager PC) (t : RtcStreamType) (n : String) : Event → Prop
  | .createPushStream .. => t = .push
  | .createPullStream .. => t = .pull ∧ m.findPushStream n ≠ none
  | _ => False

/-! ## What the changes to the registry leave alone -/

/-- A removal in the name of another user leaves the stream. -/
theorem findStream_removeStream (hf : m.findStream t n = some (id, s)) (hu : uid ≠ s.uid)
    (t' : RtcStreamType) :
    (m.removeStream t' uid n).findStream t n = some (id, s) := by
  rcases removeStream_cases m t' uid n with heq | ⟨i, s', hf', hu', heq⟩
  · rw [heq]
    exact hf
  · -- what is removed is a stream of the user's own, so of the other type
    have htype : ¬ (t = t' ∧ n = n) := by
      rintro ⟨rfl, -⟩
      obtain ⟨-, rfl⟩ := Prod.mk.inj (Option.some.inj (hf.symm.trans hf'))
      exact hu hu'
    rw [heq]
    obtain ⟨hid, hs⟩ := findStream_eq_some.1 hf
    obtain ⟨hi, hs'⟩ := findStream_eq_some.1 hf'
    refine findStream_eq_some.2 ⟨?_, ?_⟩
    · rw [setStream_table, setEntry_table_ne htype]
      exact hid
    · have hne : id ≠ i := by
        rintro rfl
        obtain rfl : s = s' := Option.some.inj (hs.symm.trans hs')
        exact hu hu'
      rw [setStream_streams, Function.update_of_ne hne]
      exact hs

theorem WellFormed.ne_next (hw : m.WellFormed) (hf : m.findStream t n = some (id, s)) :
    id ≠ m.next := by
  rintro rfl
  have hs := (findStream_eq_some.1 hf).2
  rw [hw.fresh _ (Nat.le_refl _)] at hs
  cases hs

/-- A new stream of the other type leaves the entry. -/
theorem findStream_addStream_of_ne (hf : m.findStream t n = some (id, s)) (hw : m.WellFormed)
    {s' : RtcStream PC} (hne : t ≠ s'.streamType) :
    (m.addStream s').findStream t n = some (id, s) := by
  obtain ⟨hid, hs⟩ := findStream_eq_some.1 hf
  have hold := WellFormed.ne_next hw hf
  refine findStream_eq_some.2 ⟨?_, ?_⟩
  · refine (setEntry_table_ne ?_).trans hid
    exact fun h => hne h.1
  · rw [addStream_streams, Function.update_of_ne hold]
    exact hs

/-- A new stream of the same type and name takes the entry. -/
theorem findStream_addStream_self (s' : RtcStream PC) :
    (m.addStream s').findStream s'.streamType s'.streamName = some (m.next, s') :=
  findStream_eq_some.2 ⟨setEntry_table_self, by simp⟩

/-- An answer in the name of another user is refused, or meant for the
stream of the other type. -/
theorem findStream_answerStream (hf : m.findStream t n = some (id, s)) (hu : uid ≠ s.uid)
    (t' : RtcStreamType) (answer : String) :
    (m.answerStream ops t' uid n answer).1.findStream t n = some (id, s) := by
  unfold answerStream
  cases hf' : m.findStream t' n with
  | none => exact hf
  | some p =>
    obtain ⟨i, s'⟩ := p
    dsimp only
    split
    · exact hf
    · rename_i hown
      obtain ⟨hid, hs⟩ := findStream_eq_some.1 hf
      have hne : id ≠ i := by
        rintro rfl
        obtain rfl : s = s' := Option.some.inj (hs.symm.trans (findStream_eq_some.1 hf').2)
        exact hown hu
      refine findStream_eq_some.2 ⟨hid, ?_⟩
      rw [setStream_streams, Function.update_of_ne hne]
      exact hs

/-! ## Requests of other users -/

theorem wellFormed_run {es : List Event} (h : Common.run (step ops) init es = some m) :
    m.WellFormed :=
  Common.inv_of_run (fun _ _ _ hw hs => wellFormed_step hw hs) wellFormed_init h

/-- A creation under the name: it takes the entry of its own type and
leaves the other. -/
theorem findStream_create_iff (hw : m.WellFormed) (hf : m.findStream t n = some (id, s))
    {s' : RtcStream PC} (hname : s'.streamName = n) :
    (m.addStream s').findStream t n = some (id, s) ↔ t ≠ s'.streamType := by
  constructor
  · rintro hkept rfl
    rw [← hname, findStream_addStream_self] at hkept
    obtain ⟨hnext, -⟩ := Prod.mk.inj (Option.some.inj hkept)
    exact WellFormed.ne_next hw hf hnext.symm
  · exact findStream_addStream_of_ne hf hw

/-- **A stream keeps its name under the requests of other users**, unchanged
and with its owner, exactly when they do not create a stream of its type. -/
theorem owner_kept_iff {es : List Event} (hm : Common.run (step ops) init es = some m)
    (hf : m.findStream t n = some (id, s)) (hu : uid ≠ s.uid) {e : Event} (he : RequestOf uid n e)
    (hs : step ops m e = some m') :
    m'.findStream t n = some (id, s) ↔ ¬ TakesOver m t n e := by
  have hw := wellFormed_run hm
  cases e with
  | createPushStream u name audio video logId cert =>
    obtain ⟨rfl, rfl⟩ := he
    obtain rfl := Option.some.inj hs
    exact findStream_create_iff hw hf rfl
  | createPullStream u name audio video logId cert =>
    obtain ⟨rfl, rfl⟩ := he
    obtain rfl := Option.some.inj hs
    unfold createPullStream
    cases hpush : m.findPushStream name with
    | none => exact iff_of_true hf fun h => h.2 hpush
    | some p =>
      have hremoved := findStream_removeStream hf hu .pull
      refine (findStream_create_iff hw.removeStream hremoved rfl).trans ?_
      unfold TakesOver
      rw [hpush]
      simp only [ne_eq, reduceCtorEq, not_false_eq_true, and_true]
      exact Iff.rfl
  | stopPush u name =>
    obtain ⟨rfl, rfl⟩ := he
    obtain rfl := Option.some.inj hs
    exact iff_of_true (findStream_removeStream hf hu .push) not_false
  | stopPull u name =>
    obtain ⟨rfl, rfl⟩ := he
    obtain rfl := Option.some.inj hs
    exact iff_of_true (findStream_removeStream hf hu .pull) not_false
  | setAnswer u name answer streamType =>
    obtain ⟨rfl, rfl⟩ := he
    obtain rfl := Option.some.inj hs
    refine iff_of_true ?_ not_false
    unfold setAnswer
    split
    · exact findStream_answerStream hf hu .push answer
    · exact findStream_answerStream hf hu .pull answer
  | connectionState i state => exact absurd he not_false
  | iceTimeout i => exact absurd he not_false

/-- User 7 pushes `room`. -/
def pushedRun : List Event := [.createPushStream 7 "room" true true 1 (some 0)]

/-- The stream user 7 pushes. -/
def pushedStream : RtcStream Unit :=
  ⟨.push, 7, "room", true, true, 1, (), .new, .armed⟩

theorem pushed_kept_iff :
    (∃ m m', Common.run (step blankOps) init pushedRun = some m ∧
      step blankOps m (.stopPush 8 "room") = some m' ∧
      (m'.findStream .push "room" = some (0, pushedStream) ↔
        ¬ TakesOver m .push "room" (.stopPush 8 "room"))) := by
  refine ⟨_, _, rfl, rfl, ?_⟩
  have hrun : Common.run (step blankOps) init pushedRun = some _ := rfl
  exact owner_kept_iff hrun (e := .stopPush 8 "room") rfl (by decide) ⟨rfl, rfl⟩ rfl

/-- **A push by another user takes the stream's name.** -/
theorem pushed_by_another : ∃ m m', Common.run (step blankOps) init pushedRun = some m ∧
    m.findStream .push "room" = some (0, pushedStream) ∧
    step blankOps m (.createPushStream 8 "room" true true 2 (some 0)) = some m' ∧
    m'.table .push "room" = some 1 :=
  ⟨_, _, rfl, rfl, rfl, rfl⟩

end Stream

end XrtcServer
