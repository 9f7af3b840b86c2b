import XrtcServer.Stream.Model.Manager
/-!
# The stream registry

A stream object belongs in the map of its type under its own name. The
maps themselves are sound in every run (`WellFormed`: an entry names a
live object of that type and name); what a run can lose is the converse,
`Stored`, and it loses it exactly where a creation overwrites the entry of
a live stream (`Overwrites`). While it holds, a failing or timed-out
stream deletes itself and nothing else, because locating it by name finds
it.
-/

namespace XrtcServer

namespace Stream

variable {PC : Type} {ops : PeerConnectionOps PC}

namespace RtcStreamManager

variable {m m' : RtcStreamManager PC} {t : RtcStreamType} {n : String} {id uid : ℕ}
variable {s s' : RtcStream PC}

@[simp] theorem setEntry_streams {e : Option ℕ} : (m.setEntry t n e).streams = m.streams := rfl

@[simp] theorem setEntry_next {e : Option ℕ} : (m.setEntry t n e).next = m.next := rfl

@[simp] theorem setStream_table {o : Option (RtcStream PC)} :
    (m.setStream id o).table = m.table := rfl

@[simp] theorem setStream_next {o : Option (RtcStream PC)} :
    (m.setStream id o).next = m.next := rfl

@[simp] theorem setStream_streams {o : Option (RtcStream PC)} :
    (m.setStream id o).streams = Function.update m.streams id o := rfl

@[simp] theorem addStream_streams :
    (m.addStream s).streams = Function.update m.streams m.next (some s) := rfl

@[simp] theorem addStream_next : (m.addStream s).next = m.next + 1 := rfl

theorem setEntry_table_self {e : Option ℕ} : (m.setEntry t n e).table t n = e := by
  simp [setEntry]

/-- Every other entry of either map is left as it was. -/
theorem setEntry_table_ne {e : Option ℕ} {t' : RtcStreamType} {n' : String}
    (h : ¬ (t' = t ∧ n' = n)) : (m.setEntry t n e).table t' n' = m.table t' n' := by
  by_cases ht : t' = t
  · subst ht
    have hn : n' ≠ n := fun hn => h ⟨rfl, hn⟩
    simp [setEntry, Function.update_of_ne hn]
  · simp [setEntry, Function.update_of_ne ht]

/-- **An entry of the maps names a live stream of its type and name**, and
the identities not yet given out name nothing. -/
structure WellFormed (m : RtcStreamManager PC) : Prop where
  entry : ∀ t n id, m.table t n = some id →
    ∃ s, m.streams id = some s ∧ s.streamType = t ∧ s.streamName = n
  fresh : ∀ id, m.next ≤ id → m.streams id = none

/-- **Every live stream is the value stored under its own name.** -/
def Stored (m : RtcStreamManager PC) : Prop :=
  ∀ id s, m.streams id = some s → m.table s.streamType s.streamName = some id

/-- At most one live stream of each type has a given name. -/
def AtMostOne (m : RtcStreamManager PC) : Prop :=
  ∀ id id' s s', m.streams id = some s → m.streams id' = some s' →
    s.streamType = s'.streamType → s.streamName = s'.streamName → id = id'

theorem Stored.atMostOne (h : m.Stored) : m.AtMostOne := by
  intro id id' s s' hs hs' ht hn
  have hid := h id s hs
  rw [ht, hn, h id' s' hs'] at hid
  exact (Option.some.inj hid).symm

theorem wellFormed_init : (init : RtcStreamManager PC).WellFormed :=
  ⟨fun _ _ _ h => by simp [init] at h, fun _ _ => rfl⟩

theorem stored_init : (init : RtcStreamManager PC).Stored := fun _ _ h => by cases h

/-! ## Looking up -/

theorem findStream_eq_some :
    m.findStream t n = some (id, s) ↔ m.table t n = some id ∧ m.streams id = some s := by
  simp only [findStream, Option.bind_eq_some_iff, Option.map_eq_some_iff, Prod.mk.injEq]
  constructor
  · rintro ⟨i, hi, s', hs', rfl, rfl⟩
    exact ⟨hi, hs'⟩
  · rintro ⟨hi, hs⟩
    exact ⟨id, hi, s, hs, rfl, rfl⟩

/-- In sound maps an entry is found exactly where there is one. -/
theorem WellFormed.findStream_eq_none (h : m.WellFormed) :
    m.findStream t n = none ↔ m.table t n = none := by
  constructor
  · intro hnone
    cases hid : m.table t n with
    | none => rfl
    | some id =>
      obtain ⟨s, hs, -⟩ := h.entry t n id hid
      rw [findStream_eq_some.2 ⟨hid, hs⟩] at hnone
      cases hnone
  · intro hnone
    simp [findStream, hnone]

/-- A stored stream is the one its name finds. -/
theorem Stored.findStream (h : m.Stored) (hs : m.streams id = some s) :
    m.findStream s.streamType s.streamName = some (id, s) :=
  findStream_eq_some.2 ⟨h id s hs, hs⟩

/-! ## What the three changes to the registry keep -/

/-- A stream replaced by itself in a new state. -/
theorem WellFormed.setStream (h : m.WellFormed) (hs : m.streams id = some s)
    (ht : s'.streamType = s.streamType) (hn : s'.streamName = s.streamName) :
    (m.setStream id (some s')).WellFormed where
  entry t n i hi := by
    obtain ⟨u, hu, hut, hun⟩ := h.entry t n i hi
    by_cases hid : i = id
    · subst hid
      obtain rfl : s = u := Option.some.inj (hs.symm.trans hu)
      exact ⟨s', by simp, by rw [ht, hut], by rw [hn, hun]⟩
    · exact ⟨u, by simp [hid, hu], hut, hun⟩
  fresh i hi := by
    have hne : i ≠ id := by
      intro hid
      rw [hid, setStream_next] at hi
      rw [h.fresh id hi] at hs
      cases hs
    simpa [hne] using h.fresh i hi

theorem Stored.setStream (h : m.Stored) (hs : m.streams id = some s)
    (ht : s'.streamType = s.streamType) (hn : s'.streamName = s.streamName) :
    (m.setStream id (some s')).Stored := by
  intro i u hu
  by_cases hid : i = id
  · subst hid
    obtain rfl : s' = u := by simpa using hu
    rw [setStream_table, ht, hn]
    exact h i s hs
  · rw [setStream_streams, Function.update_of_ne hid] at hu
    exact h i u hu

/-- A stream deleted together with the entry that names it. -/
theorem WellFormed.delete (h : m.WellFormed) (he : m.table t n = some id) :
    ((m.setEntry t n none).setStream id none).WellFormed where
  entry t' n' i hi := by
    rw [setStream_table] at hi
    have hne : ¬ (t' = t ∧ n' = n) := by
      rintro ⟨rfl, rfl⟩
      rw [setEntry_table_self] at hi
      cases hi
    rw [setEntry_table_ne hne] at hi
    obtain ⟨u, hu, hut, hun⟩ := h.entry t' n' i hi
    have hid : i ≠ id := by
      rintro rfl
      obtain ⟨v, hv, hvt, hvn⟩ := h.entry t n i he
      obtain rfl : u = v := Option.some.inj (hu.symm.trans hv)
      exact hne ⟨hut.symm.trans hvt, hun.symm.trans hvn⟩
    exact ⟨u, by simp [hid, hu], hut, hun⟩
  fresh i hi := by
    by_cases hid : i = id
    · simp [hid]
    · simpa [hid] using h.fresh i hi

theorem Stored.delete (h : m.Stored) (he : m.table t n = some id) :
    ((m.setEntry t n none).setStream id none).Stored := by
  intro i u hu
  have hid : i ≠ id := by
    rintro rfl
    simp at hu
  rw [setStream_streams, Function.update_of_ne hid] at hu
  have hstored := h i u hu
  rw [setStream_table, setEntry_table_ne]
  · exact hstored
  · rintro ⟨ht, hn⟩
    rw [ht, hn, he] at hstored
    exact hid (Option.some.inj hstored).symm

/-- A new stream: the maps stay sound whatever its entry replaces. -/
theorem WellFormed.addStream (h : m.WellFormed) (s : RtcStream PC) :
    (m.addStream s).WellFormed where
  entry t n i hi := by
    by_cases hnew : t = s.streamType ∧ n = s.streamName
    · obtain ⟨rfl, rfl⟩ := hnew
      obtain rfl : m.next = i := Option.some.inj ((setEntry_table_self).symm.trans hi)
      exact ⟨s, by simp, rfl, rfl⟩
    · have hold : m.table t n = some i := (setEntry_table_ne hnew).symm.trans hi
      obtain ⟨u, hu, hut, hun⟩ := h.entry t n i hold
      have hne : i ≠ m.next := by
        rintro rfl
        rw [h.fresh _ (Nat.le_refl _)] at hu
        cases hu
      exact ⟨u, by simp [hne, hu], hut, hun⟩
  fresh i hi := by
    rw [addStream_next] at hi
    have hne : i ≠ m.next := by omega
    simpa [hne] using h.fresh i (by omega)

/-- **Where the registry breaks.** A new stream leaves every stream stored
exactly when its name had no entry. -/
theorem Stored.addStream_iff (hw : m.WellFormed) (h : m.Stored) (s : RtcStream PC) :
    (m.addStream s).Stored ↔ m.table s.streamType s.streamName = none := by
  constructor
  · intro hnew
    by_contra hne
    obtain ⟨id, hid⟩ := Option.ne_none_iff_exists'.1 hne
    obtain ⟨u, hu, hut, hun⟩ := hw.entry _ _ id hid
    have hold : id ≠ m.next := by
      rintro rfl
      rw [hw.fresh _ (Nat.le_refl _)] at hu
      cases hu
    -- the overwritten stream is still alive, and its entry names the new one
    have hstill := hnew id u (by simp [hold, hu])
    rw [hut, hun] at hstill
    exact hold (Option.some.inj (hstill.symm.trans setEntry_table_self))
  · intro hnone i u hu
    by_cases hid : i = m.next
    · subst hid
      obtain rfl : s = u := by simpa using hu
      exact setEntry_table_self
    · rw [addStream_streams, Function.update_of_ne hid] at hu
      refine (setEntry_table_ne ?_).trans (h i u hu)
      rintro ⟨ht, hn⟩
      rw [← ht, ← hn, h i u hu] at hnone
      cases hnone

/-! ## Removal -/

/-- A removal either changes nothing or deletes the stream its name finds. -/
theorem removeStream_cases (m : RtcStreamManager PC) (t : RtcStreamType) (uid : ℕ) (n : String) :
    m.removeStream t uid n = m ∨
      ∃ id s, m.findStream t n = some (id, s) ∧ uid = s.uid ∧
        m.removeStream t uid n = (m.setEntry t n none).setStream id none := by
  unfold removeStream
  cases hf : m.findStream t n with
  | none => exact Or.inl rfl
  | some p =>
    obtain ⟨id, s⟩ := p
    by_cases hu : uid = s.uid
    · exact Or.inr ⟨id, s, rfl, hu, if_pos hu⟩
    · exact Or.inl (if_neg hu)

theorem WellFormed.removeStream (h : m.WellFormed) : (m.removeStream t uid n).WellFormed := by
  rcases removeStream_cases m t uid n with heq | ⟨id, s, hf, -, heq⟩
  · rwa [heq]
  · rw [heq]
    exact h.delete (findStream_eq_some.1 hf).1

theorem Stored.removeStream (h : m.Stored) : (m.removeStream t uid n).Stored := by
  rcases removeStream_cases m t uid n with heq | ⟨id, s, hf, -, heq⟩
  · rwa [heq]
  · rw [heq]
    exact h.delete (findStream_eq_some.1 hf).1

/-- **A stored stream removes itself.** Its own name and owner find it. -/
theorem Stored.removeStream_self (h : m.Stored) (hs : m.streams id = some s) :
    m.removeStream s.streamType s.uid s.streamName =
      (m.setEntry s.streamType s.streamName none).setStream id none := by
  simp only [RtcStreamManager.removeStream, h.findStream hs, if_true]

/-- A stored stream that gives itself up in a new state of its own. -/
theorem Stored.removeStream_setStream (h : m.Stored) (hs : m.streams id = some s)
    (ht : s'.streamType = s.streamType) (hn : s'.streamName = s.streamName) :
    ((m.setStream id (some s')).removeStream s'.streamType s'.uid s'.streamName).streams =
      Function.update m.streams id none := by
  have hself : (m.setStream id (some s')).streams id = some s' := by simp
  rw [(h.setStream hs ht hn).removeStream_self hself]
  simp

/-- What a removal leaves under the name it was given: nothing, or the
stream of another owner. -/
theorem removeStream_table (hw : m.WellFormed) :
    (m.removeStream t uid n).table t n = none ↔
      ∀ id s, m.findStream t n = some (id, s) → s.uid = uid := by
  unfold RtcStreamManager.removeStream
  cases hf : m.findStream t n with
  | none => simp [hw.findStream_eq_none.1 hf]
  | some p =>
    obtain ⟨id, s⟩ := p
    by_cases hu : uid = s.uid
    · simp only [hu, if_true, setStream_table, setEntry_table_self, true_iff]
      rintro i u heq
      obtain ⟨rfl, rfl⟩ := Prod.mk.inj (Option.some.inj heq)
      rfl
    · simp only [if_neg hu, (findStream_eq_some.1 hf).1]
      constructor
      · intro hnone
        cases hnone
      · intro hall
        exact absurd (hall id s rfl).symm hu

end RtcStreamManager

/-! ## The steps -/

open RtcStreamManager

variable {m m' : RtcStreamManager PC}

/-- **A creation that overwrites the entry of a live stream**: a push
stream under a name that has one, or a pull stream under a name whose pull
stream another user owns. -/
def Overwrites (m : RtcStreamManager PC) : Event → Prop
  | .createPushStream _ name _ _ _ _ => m.findPushStream name ≠ none
  | .createPullStream uid name _ _ _ _ =>
    m.findPushStream name ≠ none ∧ ∃ id s, m.findPullStream name = some (id, s) ∧ s.uid ≠ uid
  | _ => False

/-- The event is the failure or timeout callback of a stream: its
connection turns failed, or its timer fires before it is connected. -/
def FailureCallback (m : RtcStreamManager PC) (id : ℕ) : Event → Prop
  | .connectionState i state =>
    i = id ∧ state = .failed ∧ ∃ s, m.streams id = some s ∧ s.state ≠ .failed
  | .iceTimeout i => i = id ∧ ∃ s, m.streams id = some s ∧ s.state ≠ .connected
  | _ => False

/-- A failure or timeout callback deletes its own stream and no other. -/
def DeletesOwn (m : RtcStreamManager PC) (e : Event) (m' : RtcStreamManager PC) : Prop :=
  ∀ id, FailureCallback m id e → m'.streams = Function.update m.streams id none

/-- **What a step does to the registry**, whichever the event. -/
inductive Changes (ops : PeerConnectionOps PC) (m : RtcStreamManager PC) :
    Event → RtcStreamManager PC → Prop
  /-- There is nothing to do. -/
  | kept {e : Event} (h : ¬ Overwrites m e) : Changes ops m e m
  /-- A stream is stopped. -/
  | removed {e : Event} (t : RtcStreamType) (uid : ℕ) (name : String) (h : ¬ Overwrites m e) :
      Changes ops m e (m.removeStream t uid name)
  /-- A push stream is made. -/
  | pushed (uid : ℕ) (name : String) (audio video : Bool) (logId : ℕ) (certificate : Option ℕ)
      (s : RtcStream PC) (hpc : s.pc = ops.make) (htype : s.streamType = .push)
      (hname : s.streamName = name) :
      Changes ops m (.createPushStream uid name audio video logId certificate)
        (m.addStream (RtcStream.createOffer ops (s.start ops certificate)).1)
  /-- A pull stream is made, with the tracks of the push stream. -/
  | pulled (uid : ℕ) (name : String) (audio video : Bool) (logId : ℕ) (certificate : Option ℕ)
      (s push : RtcStream PC) (pushId : ℕ) (hpush : m.findPushStream name = some (pushId, push))
      (hpc : s.pc = ops.make) (htype : s.streamType = .pull) (hname : s.streamName = name) :
      Changes ops m (.createPullStream uid name audio video logId certificate)
        ((m.removeStream .pull uid name).addStream (RtcStream.createOffer ops
          ((s.addSources ops (push.getAudioSource ops) (push.getVideoSource ops)).start ops
            certificate)).1)
  /-- A stream is answered by its owner. -/
  | answered (uid : ℕ) (name answer type : String) (t : RtcStreamType) (id : ℕ) (s : RtcStream PC)
      (htype : t = .push ↔ type = "push") (hfound : m.findStream t name = some (id, s))
      (howner : uid = s.uid) :
      Changes ops m (.setAnswer uid name answer type)
        (m.setStream id (some (s.setRemoteSdp ops answer).1))
  /-- A stream is told a state, or that its time is over. -/
  | told {e : Event} (id : ℕ) (s : RtcStream PC) (state : PeerConnectionState) (timer : IceTimer)
      (hlive : m.streams id = some s) (h : ¬ Overwrites m e) :
      Changes ops m e (m.setStream id (some { s with state := state, iceTimeout := timer }))
  /-- And gives itself up. -/
  | gaveUp {e : Event} (id : ℕ) (s : RtcStream PC) (state : PeerConnectionState) (timer : IceTimer)
      (hlive : m.streams id = some s) (h : ¬ Overwrites m e) :
      Changes ops m e ((m.setStream id
        (some { s with state := state, iceTimeout := timer })).removeStream
          s.streamType s.uid s.streamName)

/-- An answer is for a stream that is there and of the user's own, or nothing
is done. -/
theorem changes_answerStream (uid : ℕ) (name answer type : String) (t : RtcStreamType)
    (htype : t = .push ↔ type = "push") :
    Changes ops m (.setAnswer uid name answer type) (m.answerStream ops t uid name answer).1 := by
  unfold answerStream
  split
  · exact .kept not_false
  · rename_i id s hfound
    split
    · exact .kept not_false
    · rename_i howner
      exact .answered uid name answer type t id s htype hfound (not_not.1 howner)

/-- **A step is one of these**; what a step keeps is shown of them. -/
theorem step_changes {e : Event} (hs : step ops m e = some m') : Changes ops m e m' := by
  cases e with
  | createPushStream uid name audio video logId certificate =>
    obtain rfl := Option.some.inj hs
    exact .pushed uid name audio video logId certificate _ rfl rfl rfl
  | createPullStream uid name audio video logId certificate =>
    obtain rfl := Option.some.inj hs
    unfold createPullStream
    split
    · rename_i hnone
      exact .kept fun hoverwrites => hoverwrites.1 hnone
    · rename_i pushId push hpush
      exact .pulled uid name audio video logId certificate _ push pushId hpush rfl rfl rfl
  | stopPush uid name =>
    obtain rfl := Option.some.inj hs
    exact .removed .push uid name not_false
  | stopPull uid name =>
    obtain rfl := Option.some.inj hs
    exact .removed .pull uid name not_false
  | setAnswer uid name answer type =>
    obtain rfl := Option.some.inj hs
    unfold setAnswer
    split
    · rename_i hpush
      exact changes_answerStream uid name answer type .push (by simp [hpush])
    · rename_i hpull
      exact changes_answerStream uid name answer type .pull (by simp [hpull])
  | connectionState id state =>
    obtain ⟨s, hlive, rfl⟩ := Option.map_eq_some_iff.1 hs
    unfold streamConnectionState onConnectionState
    split
    · exact .kept not_false
    · dsimp only
      split
      · exact .gaveUp id s state _ hlive not_false
      · exact .told id s state _ hlive not_false
  | iceTimeout id =>
    obtain ⟨s, hlive, hs⟩ := Option.bind_eq_some_iff.1 hs
    split at hs
    · obtain rfl := Option.some.inj hs
      unfold iceTimeoutCb onStreamException
      dsimp only
      split
      · exact .gaveUp id s s.state .expired hlive not_false
      · exact .told id s s.state .expired hlive not_false
    · cases hs

/-- The maps stay sound in every step, overwriting or not. -/
theorem wellFormed_step {e : Event} (h : m.WellFormed) (hs : step ops m e = some m') :
    m'.WellFormed := by
  cases step_changes hs with
  | kept => exact h
  | removed => exact h.removeStream
  | pushed => exact h.addStream _
  | pulled => exact h.removeStream.addStream _
  | answered uid name answer type t id s htype hfound =>
    exact h.setStream (findStream_eq_some.1 hfound).2 rfl rfl
  | told id s state timer hlive => exact h.setStream hlive rfl rfl
  | gaveUp id s state timer hlive =>
    refine WellFormed.removeStream ?_
    exact h.setStream hlive rfl rfl

/-- **A step keeps every stream stored exactly when it overwrites no
entry.** -/
theorem stored_step_iff {e : Event} (hw : m.WellFormed) (h : m.Stored)
    (hs : step ops m e = some m') : m'.Stored ↔ ¬ Overwrites m e := by
  cases step_changes hs with
  | kept hnot => exact iff_of_true h hnot
  | removed t uid name hnot => exact iff_of_true h.removeStream hnot
  | pushed uid name audio video logId certificate s hpc htype hname =>
    refine (h.addStream_iff hw _).trans ?_
    show m.table s.streamType s.streamName = none ↔ _
    rw [htype, hname, Overwrites, not_not, findPushStream, hw.findStream_eq_none]
  | pulled uid name audio video logId certificate s push pushId hpush hpc htype hname =>
    have hremoved : (m.removeStream .pull uid name).Stored := h.removeStream
    refine (hremoved.addStream_iff hw.removeStream _).trans ?_
    show (m.removeStream .pull uid name).table s.streamType s.streamName = none ↔ _
    rw [htype, hname, removeStream_table hw]
    simp [Overwrites, hpush, findPullStream]
  | answered uid name answer type t id s htype hfound =>
    exact iff_of_true (h.setStream (findStream_eq_some.1 hfound).2 rfl rfl) not_false
  | told id s state timer hlive hnot => exact iff_of_true (h.setStream hlive rfl rfl) hnot
  | gaveUp id s state timer hlive hnot =>
    refine iff_of_true (Stored.removeStream ?_) hnot
    exact h.setStream hlive rfl rfl

/-- **While every stream is stored, a failure or timeout callback deletes
its own stream and no other.** -/
theorem deletesOwn_step {e : Event} (h : m.Stored) (hs : step ops m e = some m') :
    DeletesOwn m e m' := by
  intro id hcb
  cases e with
  | connectionState i state =>
    obtain ⟨rfl, rfl, s, hid, hstate⟩ := hcb
    obtain ⟨u, hu, rfl⟩ := Option.map_eq_some_iff.1 hs
    obtain rfl : s = u := Option.some.inj (hid.symm.trans hu)
    simp only [streamConnectionState, if_neg hstate, onConnectionState, if_true]
    exact h.removeStream_setStream hid rfl rfl
  | iceTimeout i =>
    obtain ⟨rfl, s, hid, hstate⟩ := hcb
    obtain ⟨u, hu, hs⟩ := Option.bind_eq_some_iff.1 hs
    obtain rfl : s = u := Option.some.inj (hid.symm.trans hu)
    split at hs
    · obtain rfl := Option.some.inj hs
      simp only [iceTimeoutCb, onStreamException]
      rw [if_pos hstate]
      exact h.removeStream_setStream hid rfl rfl
    · cases hs
  | _ => exact absurd hcb not_false

/-! ## The runs -/

/-- What the registry promises of a step: every live stream is the one
stored under its name, so each name has at most one of either type, and a
failing or timed-out stream deletes itself alone. -/
def RegistryKept (m : RtcStreamManager PC) (e : Event) (m' : RtcStreamManager PC) : Prop :=
  m'.Stored ∧ m'.AtMostOne ∧ DeletesOwn m e m'

/-- **The registry is kept in a run exactly when no creation of it
overwrites an entry.** -/
theorem registryKept_iff (ops : PeerConnectionOps PC) (es : List Event) :
    Common.EveryStep (step ops) RegistryKept init es ↔
      Common.EveryStep (step ops) (fun m e _ => ¬ Overwrites m e) init es := by
  refine Common.everyStep_iff_of_inv (I := fun m => m.WellFormed ∧ m.Stored) ?_ ?_
    ⟨wellFormed_init, stored_init⟩
  · rintro m e m' ⟨hw, h⟩ hs
    rw [← stored_step_iff hw h hs]
    constructor
    · intro hkept
      exact hkept.1
    · intro hstored
      exact ⟨hstored, hstored.atMostOne, deletesOwn_step h hs⟩
  · rintro m e m' ⟨hw, -⟩ hs hkept
    exact ⟨wellFormed_step hw hs, hkept.1⟩

/-- A `PeerConnection` of which nothing is remembered. -/
def blankOps : PeerConnectionOps Unit where
  make := ()
  init _ _ := ()
  createOffer _ _ := ((), "v=0")
  setRemoteSdp _ _ := ((), 0)
  remoteStreams _ _ := none
  addAudioSource _ _ := ()
  addVideoSource _ _ := ()

/-- **Two push streams of one name.** The second creation leaks the first
stream, and the first one's timeout then deletes the second: the stream
that timed out lives on, outside the map. -/
theorem pushed_twice :
    ¬ Common.EveryStep (step blankOps) RegistryKept init
        [.createPushStream 7 "room" true true 1 (some 0),
          .createPushStream 7 "room" true true 2 (some 0), .iceTimeout 0] ∧
      ∃ m, Common.run (step blankOps) init
        [.createPushStream 7 "room" true true 1 (some 0),
          .createPushStream 7 "room" true true 2 (some 0), .iceTimeout 0] = some m ∧
        (m.streams 0).isSome ∧ (m.streams 1).isNone ∧ m.table .push "room" = none := by
  refine ⟨?_, _, rfl, rfl, rfl, rfl⟩
  intro h
  obtain ⟨-, h⟩ := h _ rfl
  obtain ⟨⟨hstored, -⟩, -⟩ := h _ rfl
  have hfirst := hstored 0 _ rfl
  cases hfirst

end Stream

end XrtcServer
