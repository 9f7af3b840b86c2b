import XrtcServer.Stream.Registry
/-!
# Managers that share the names

Several managers, each with the streams of the names that are its own, and
one manager with all of them. `Sharded` relates the two: the objects of the
several are those of the one under other numbers, no number is given twice,
and the maps agree where the name belongs. What a manager does with a name
of its own, the one manager does as well, and the other managers do not
notice.
-/

namespace XrtcServer

namespace Stream

open Function

variable {PC : Type} {ops : PeerConnectionOps PC}

/-- **Together they are one.** `route` says whose a name is, `f` what number
an object has in the one manager. -/
structure Sharded (route : String → ℕ) (managers : ℕ → RtcStreamManager PC)
    (one : RtcStreamManager PC) (f : ℕ → ℕ → ℕ) : Prop where
  streams : ∀ k id, id < (managers k).next → one.streams (f k id) = (managers k).streams id
  apart : ∀ k k' id id', id < (managers k).next → id' < (managers k').next →
    f k id = f k' id' → k = k' ∧ id = id'
  below : ∀ k id, id < (managers k).next → f k id < one.next
  table : ∀ t n, one.table t n = ((managers (route n)).table t n).map (f (route n))
  placed : ∀ k id s, (managers k).streams id = some s → route s.streamName = k
  /-- The one manager has no other objects. -/
  covers : ∀ i s, one.streams i = some s → ∃ k id, id < (managers k).next ∧ f k id = i
  wellFormed : ∀ k, (managers k).WellFormed

namespace Sharded

open RtcStreamManager

variable {route : String → ℕ} {managers : ℕ → RtcStreamManager PC} {one : RtcStreamManager PC}
variable {f : ℕ → ℕ → ℕ} {k id uid : ℕ} {t : RtcStreamType} {n : String} {s s' : RtcStream PC}

theorem init : Sharded route (fun _ => (RtcStreamManager.init : RtcStreamManager PC))
    RtcStreamManager.init fun _ id => id where
  streams _ _ h := absurd h (Nat.not_lt_zero _)
  apart _ _ _ _ h := absurd h (Nat.not_lt_zero _)
  below _ _ h := absurd h (Nat.not_lt_zero _)
  table _ _ := rfl
  placed _ _ _ h := by cases h
  covers _ _ h := by cases h
  wellFormed _ := wellFormed_init

theorem lt_next (h : Sharded route managers one f) (hs : (managers k).streams id = some s) :
    id < (managers k).next := by
  by_contra hge
  rw [(h.wellFormed k).fresh id (Nat.not_lt.1 hge)] at hs
  cases hs

theorem streams_some (h : Sharded route managers one f)
    (hs : (managers k).streams id = some s) : one.streams (f k id) = some s := by
  rw [h.streams k id (h.lt_next hs), hs]

/-- An entry that a manager has is of a name of its own. -/
theorem route_of_entry (h : Sharded route managers one f)
    (he : (managers k).table t n = some id) : route n = k := by
  obtain ⟨s, hs, -, hn⟩ := (h.wellFormed k).entry t n id he
  rw [← hn, h.placed k id s hs]

/-- **A name finds the same stream**, in the manager it belongs to and in
the one. -/
theorem findStream (h : Sharded route managers one f) (t : RtcStreamType) (n : String) :
    one.findStream t n =
      ((managers (route n)).findStream t n).map fun p => (f (route n) p.1, p.2) := by
  unfold RtcStreamManager.findStream
  rw [h.table]
  cases he : (managers (route n)).table t n with
  | none => rfl
  | some id =>
    obtain ⟨s, hs, -⟩ := (h.wellFormed _).entry t n id he
    rw [Option.map_some, Option.bind_some, Option.bind_some, h.streams_some hs, hs]
    rfl

/-! ## What the changes to one of them keep -/

/-- **One manager changes, and the one manager with it.** The others are
left alone where the objects and the entries that are theirs are. -/
theorem replace (h : Sharded route managers one f) {m' one' : RtcStreamManager PC}
    {g : ℕ → ℕ} (hwf : m'.WellFormed)
    (hplaced : ∀ id s, m'.streams id = some s → route s.streamName = k)
    (hstreams : ∀ id, id < m'.next → one'.streams (g id) = m'.streams id)
    (hbelow : ∀ id, id < m'.next → g id < one'.next)
    (hapart : ∀ id id', id < m'.next → id' < m'.next → g id = g id' → id = id')
    (hcross : ∀ j id id', j ≠ k → id < (managers j).next → id' < m'.next → f j id ≠ g id')
    (hframe : ∀ j id, j ≠ k → id < (managers j).next → one'.streams (f j id) = one.streams (f j id))
    (hcovers : ∀ i s, one'.streams i = some s →
      (∃ id, id < m'.next ∧ g id = i) ∨ ∃ j id, j ≠ k ∧ id < (managers j).next ∧ f j id = i)
    (hnext : one.next ≤ one'.next)
    (htable : ∀ t n, one'.table t n =
      if route n = k then (m'.table t n).map g else one.table t n) :
    Sharded route (update managers k m') one' (update f k g) where
  streams j id hid := by
    by_cases hj : j = k
    · subst hj
      rw [update_self] at hid
      rw [update_self, update_self, hstreams id hid]
    · rw [update_of_ne hj] at hid
      rw [update_of_ne hj, update_of_ne hj, hframe j id hj hid, h.streams j id hid]
  apart j j' id id' hid hid' heq := by
    by_cases hj : j = k
    · by_cases hj' : j' = k
      · subst hj hj'
        rw [update_self] at hid hid' heq
        exact ⟨rfl, hapart id id' hid hid' heq⟩
      · subst hj
        rw [update_self] at hid heq
        rw [update_of_ne hj'] at hid' heq
        exact absurd heq.symm (hcross j' id' id hj' hid' hid)
    · rw [update_of_ne hj] at hid heq
      by_cases hj' : j' = k
      · subst hj'
        rw [update_self] at hid' heq
        exact absurd heq (hcross j id id' hj hid hid')
      · rw [update_of_ne hj'] at hid' heq
        exact h.apart j j' id id' hid hid' heq
  below j id hid := by
    by_cases hj : j = k
    · subst hj
      rw [update_self] at hid ⊢
      exact hbelow id hid
    · rw [update_of_ne hj] at hid ⊢
      exact (h.below j id hid).trans_le hnext
  table t n := by
    rw [htable]
    by_cases hn : route n = k
    · subst hn
      rw [if_pos rfl, update_self, update_self]
    · rw [if_neg hn, update_of_ne hn, update_of_ne hn, h.table]
  placed j id s hs := by
    by_cases hj : j = k
    · subst hj
      rw [update_self] at hs
      exact hplaced id s hs
    · rw [update_of_ne hj] at hs
      exact h.placed j id s hs
  covers i s hs := by
    rcases hcovers i s hs with ⟨id, hid, rfl⟩ | ⟨j, id, hj, hid, rfl⟩
    · refine ⟨k, id, ?_, ?_⟩
      · rwa [update_self]
      · rw [update_self]
    · refine ⟨j, id, ?_, ?_⟩
      · rwa [update_of_ne hj]
      · rw [update_of_ne hj]
  wellFormed j := by
    by_cases hj : j = k
    · subst hj
      rw [update_self]
      exact hwf
    · rw [update_of_ne hj]
      exact h.wellFormed j

/-- What was an object before is one of a manager, or of another. -/
theorem covers_or (h : Sharded route managers one f) (k : ℕ) {i : ℕ}
    (hs : one.streams i = some s) : (∃ id, id < (managers k).next ∧ f k id = i) ∨
      ∃ j id, j ≠ k ∧ id < (managers j).next ∧ f j id = i := by
  obtain ⟨j, id, hid, rfl⟩ := h.covers i s hs
  by_cases hj : j = k
  · subst hj
    exact .inl ⟨id, hid, rfl⟩
  · exact .inr ⟨j, id, hj, hid, rfl⟩

/-- An object of a manager, replaced or deleted. -/
theorem setObject (h : Sharded route managers one f) (hs : (managers k).streams id = some s)
    {m' one' : RtcStreamManager PC} {o : Option (RtcStream PC)} (hwf : m'.WellFormed)
    (hm : m'.streams = update (managers k).streams id o) (hmnext : m'.next = (managers k).next)
    (hone : one'.streams = update one.streams (f k id) o) (honext : one'.next = one.next)
    (hplaced : ∀ u, o = some u → route u.streamName = k)
    (htable : ∀ t n, one'.table t n =
      if route n = k then (m'.table t n).map (f k) else one.table t n) :
    Sharded route (update managers k m') one' f := by
  have hid := h.lt_next hs
  have hnew : Sharded route (update managers k m') one' (update f k (f k)) := by
    refine h.replace hwf (fun i u hu => ?_) (fun i hi => ?_) (fun i hi => ?_)
      (fun i i' hi hi' heq => ?_) (fun j i i' hj hi hi' heq => ?_) (fun j i hj hi => ?_)
      (fun i u hu => ?_) honext.ge htable
    · rw [hm] at hu
      by_cases hii : i = id
      · subst hii
        rw [update_self] at hu
        exact hplaced u hu
      · rw [update_of_ne hii] at hu
        exact h.placed k i u hu
    · rw [hmnext] at hi
      rw [hone, hm]
      by_cases hii : i = id
      · rw [hii, update_self, update_self]
      · have hne : f k i ≠ f k id := fun heq => hii (h.apart _ _ _ _ hi hid heq).2
        rw [update_of_ne hne, update_of_ne hii, h.streams k i hi]
    · rw [hmnext] at hi
      rw [honext]
      exact h.below k i hi
    · rw [hmnext] at hi hi'
      exact (h.apart _ _ _ _ hi hi' heq).2
    · rw [hmnext] at hi'
      exact hj (h.apart _ _ _ _ hi hi' heq).1
    · have hne : f j i ≠ f k id := fun heq => hj (h.apart _ _ _ _ hi hid heq).1
      rw [hone, update_of_ne hne]
    · rw [hmnext]
      by_cases hi : i = f k id
      · exact .inl ⟨id, hid, hi.symm⟩
      · rw [hone, update_of_ne hi] at hu
        exact h.covers_or k hu
  rwa [update_eq_self] at hnew

/-- A stream that has a new state. -/
theorem setStream (h : Sharded route managers one f) (hs : (managers k).streams id = some s)
    (ht : s'.streamType = s.streamType) (hn : s'.streamName = s.streamName) :
    Sharded route (update managers k ((managers k).setStream id (some s')))
      (one.setStream (f k id) (some s')) f := by
  refine h.setObject hs ((h.wellFormed k).setStream hs ht hn) rfl rfl rfl rfl (fun u hu => ?_)
    fun t n => ?_
  · obtain rfl := Option.some.inj hu
    rw [hn, h.placed k id s hs]
  · rw [setStream_table, setStream_table, h.table]
    split
    case isTrue hroute => rw [hroute]
    case isFalse => rfl

/-- A stream deleted with its entry. -/
theorem delete (h : Sharded route managers one f) (he : (managers k).table t n = some id) :
    Sharded route (update managers k (((managers k).setEntry t n none).setStream id none))
      ((one.setEntry t n none).setStream (f k id) none) f := by
  obtain ⟨s, hs, -⟩ := (h.wellFormed k).entry t n id he
  have hk := h.route_of_entry he
  refine h.setObject hs ((h.wellFormed k).delete he) rfl rfl rfl rfl (fun u hu => by cases hu)
    fun t' n' => ?_
  rw [setStream_table, setStream_table]
  by_cases heq : t' = t ∧ n' = n
  · obtain ⟨rfl, rfl⟩ := heq
    rw [setEntry_table_self, setEntry_table_self, if_pos hk, Option.map_none]
  · rw [setEntry_table_ne heq, setEntry_table_ne heq, h.table]
    split
    case isTrue hroute => rw [hroute]
    case isFalse => rfl

/-- Nothing changes. -/
theorem same (h : Sharded route managers one f) :
    Sharded route (update managers k (managers k)) one f := by
  rwa [update_eq_self]

/-- **A removal**, of a name of the manager. -/
theorem removeStream (h : Sharded route managers one f) (t : RtcStreamType) (uid : ℕ)
    (hk : route n = k) :
    Sharded route (update managers k ((managers k).removeStream t uid n))
      (one.removeStream t uid n) f := by
  have hfind := h.findStream t n
  rw [hk] at hfind
  unfold RtcStreamManager.removeStream
  rw [hfind]
  cases hf : (managers k).findStream t n with
  | none => exact h.same
  | some p =>
    rw [Option.map_some]
    dsimp only
    split
    case isTrue => exact h.delete (findStream_eq_some.1 hf).1
    case isFalse => exact h.same

/-- **A new stream**, of a name of the manager. It gets the next number of
either. -/
theorem addStream (h : Sharded route managers one f) (hk : route s.streamName = k) :
    Sharded route (update managers k ((managers k).addStream s)) (one.addStream s)
      (update f k (update (f k) (managers k).next one.next)) := by
  -- a number given before is not the new one
  have hold : ∀ i, i < (managers k).next → update (f k) (managers k).next one.next i = f k i :=
    fun i hi => update_of_ne (Nat.ne_of_lt hi) _ _
  have hnew : ∀ j i, i < (managers j).next → f j i ≠ one.next :=
    fun j i hi => Nat.ne_of_lt (h.below j i hi)
  have hcases : ∀ i, i < ((managers k).addStream s).next →
      i < (managers k).next ∨ i = (managers k).next := by
    intro i hi
    rw [addStream_next] at hi
    omega
  refine h.replace ((h.wellFormed k).addStream s) (fun i u hu => ?_) (fun i hi => ?_)
    (fun i hi => ?_) (fun i i' hi hi' heq => ?_) (fun j i i' hj hi hi' heq => ?_)
    (fun j i hj hi => ?_) (fun i u hu => ?_) (Nat.le_succ _) fun t n => ?_
  · rw [addStream_streams] at hu
    by_cases hi : i = (managers k).next
    · subst hi
      rw [update_self] at hu
      obtain rfl := Option.some.inj hu
      exact hk
    · rw [update_of_ne hi] at hu
      exact h.placed k i u hu
  · rw [addStream_streams, addStream_streams]
    rcases hcases i hi with hi | rfl
    · rw [hold i hi, update_of_ne (hnew k i hi), update_of_ne (Nat.ne_of_lt hi), h.streams k i hi]
    · rw [update_self, update_self, update_self]
  · rw [addStream_next]
    rcases hcases i hi with hi | rfl
    · rw [hold i hi]
      exact (h.below k i hi).trans (Nat.lt_succ_self _)
    · rw [update_self]
      exact Nat.lt_succ_self _
  · rcases hcases i hi with hi | rfl
    · rw [hold i hi] at heq
      rcases hcases i' hi' with hi' | rfl
      · rw [hold i' hi'] at heq
        exact (h.apart _ _ _ _ hi hi' heq).2
      · rw [update_self] at heq
        exact absurd heq (hnew k i hi)
    · rw [update_self] at heq
      rcases hcases i' hi' with hi' | rfl
      · rw [hold i' hi'] at heq
        exact absurd heq.symm (hnew k i' hi')
      · rfl
  · rcases hcases i' hi' with hi' | rfl
    · rw [hold i' hi'] at heq
      exact hj (h.apart _ _ _ _ hi hi' heq).1
    · rw [update_self] at heq
      exact hnew j i hi heq
  · rw [addStream_streams, update_of_ne (hnew j i hi)]
  · by_cases hi : i = one.next
    · subst hi
      exact .inl ⟨(managers k).next, Nat.lt_succ_self _, update_self ..⟩
    · rw [addStream_streams, update_of_ne hi] at hu
      refine (h.covers_or k hu).imp_left ?_
      rintro ⟨id, hid, rfl⟩
      exact ⟨id, hid.trans (Nat.lt_succ_self _), hold id hid⟩
  · by_cases heq : t = s.streamType ∧ n = s.streamName
    · obtain ⟨rfl, rfl⟩ := heq
      have hone : (one.addStream s).table s.streamType s.streamName = some one.next :=
        setEntry_table_self
      have hm : ((managers k).addStream s).table s.streamType s.streamName =
          some (managers k).next := setEntry_table_self
      rw [hone, hm, if_pos hk, Option.map_some, update_self]
    · have hone : (one.addStream s).table t n = one.table t n := setEntry_table_ne heq
      have hm : ((managers k).addStream s).table t n = (managers k).table t n :=
        setEntry_table_ne heq
      rw [hone, hm, h.table]
      split
      case isTrue hroute =>
        rw [hroute]
        cases he : (managers k).table t n with
        | none => rfl
        | some id =>
          obtain ⟨u, hu, -⟩ := (h.wellFormed k).entry t n id he
          rw [Option.map_some, Option.map_some, hold id (h.lt_next hu)]
      case isFalse => rfl

/-! ## What a manager is asked for -/

section Requests

variable (ops uid) (audio video : Bool) (logId : ℕ) (certificate : Option ℕ)
variable (answer streamType : String)

theorem createPushStream (h : Sharded route managers one f) (hk : route n = k) :
    (∃ g, Sharded route (update managers k
        ((managers k).createPushStream ops uid n audio video logId certificate).1)
      (one.createPushStream ops uid n audio video logId certificate).1 g) ∧
      (one.createPushStream ops uid n audio video logId certificate).2 =
        ((managers k).createPushStream ops uid n audio video logId certificate).2 :=
  ⟨⟨_, h.addStream hk⟩, rfl⟩

theorem createPullStream (h : Sharded route managers one f) (hk : route n = k) :
    (∃ g, Sharded route (update managers k
        ((managers k).createPullStream ops uid n audio video logId certificate).1)
      (one.createPullStream ops uid n audio video logId certificate).1 g) ∧
      (one.createPullStream ops uid n audio video logId certificate).2 =
        ((managers k).createPullStream ops uid n audio video logId certificate).2 := by
  have hfind := h.findStream .push n
  rw [hk] at hfind
  unfold RtcStreamManager.createPullStream findPushStream
  rw [hfind]
  cases hf : (managers k).findStream .push n with
  | none => exact ⟨⟨f, h.same⟩, rfl⟩
  | some p =>
    have hremoved := h.removeStream .pull uid hk
    have hadded := fun u (hu : route u.streamName = k) => hremoved.addStream (s := u) hu
    simp only [update_self, update_idem] at hadded
    exact ⟨⟨_, hadded _ hk⟩, rfl⟩

theorem answerStream (h : Sharded route managers one f) (hk : route n = k) :
    Sharded route (update managers k ((managers k).answerStream ops t uid n answer).1)
      (one.answerStream ops t uid n answer).1 f ∧
      (one.answerStream ops t uid n answer).2 = ((managers k).answerStream ops t uid n answer).2 := by
  have hfind := h.findStream t n
  rw [hk] at hfind
  unfold RtcStreamManager.answerStream
  rw [hfind]
  cases hf : (managers k).findStream t n with
  | none => exact ⟨h.same, rfl⟩
  | some p =>
    rw [Option.map_some]
    dsimp only
    split
    case isTrue => exact ⟨h.same, rfl⟩
    case isFalse => exact ⟨h.setStream (findStream_eq_some.1 hf).2 rfl rfl, rfl⟩

theorem setAnswer (h : Sharded route managers one f) (hk : route n = k) :
    Sharded route (update managers k ((managers k).setAnswer ops uid n answer streamType).1)
      (one.setAnswer ops uid n answer streamType).1 f ∧
      (one.setAnswer ops uid n answer streamType).2 =
        ((managers k).setAnswer ops uid n answer streamType).2 := by
  unfold RtcStreamManager.setAnswer
  split
  case isTrue => exact h.answerStream ops uid answer hk
  case isFalse => exact h.answerStream ops uid answer hk

end Requests

/-! ## What the streams call back for -/

/-- A stream gets a new state, and is then removed by its own name. -/
theorem setAndRemove (h : Sharded route managers one f) (hs : (managers k).streams id = some s)
    (ht : s'.streamType = s.streamType) (hn : s'.streamName = s.streamName) :
    Sharded route (update managers k
        (((managers k).setStream id (some s')).removeStream s'.streamType s'.uid s'.streamName))
      ((one.setStream (f k id) (some s')).removeStream s'.streamType s'.uid s'.streamName) f := by
  have hset := h.setStream hs ht hn
  have hk : route s'.streamName = k := by rw [hn, h.placed k id s hs]
  have hremoved := hset.removeStream s'.streamType s'.uid hk
  rwa [update_self, update_idem] at hremoved

theorem streamConnectionState (h : Sharded route managers one f)
    (hs : (managers k).streams id = some s) (state : PeerConnectionState) :
    Sharded route (update managers k ((managers k).streamConnectionState id s state))
      (one.streamConnectionState (f k id) s state) f := by
  unfold RtcStreamManager.streamConnectionState
  split
  case isTrue => exact h.same
  case isFalse =>
    dsimp only [RtcStreamManager.onConnectionState]
    split
    case isTrue => exact h.setAndRemove hs rfl rfl
    case isFalse => exact h.setStream hs rfl rfl

theorem iceTimeoutCb (h : Sharded route managers one f)
    (hs : (managers k).streams id = some s) :
    Sharded route (update managers k ((managers k).iceTimeoutCb id s))
      (one.iceTimeoutCb (f k id) s) f := by
  unfold RtcStreamManager.iceTimeoutCb
  dsimp only [RtcStreamManager.onStreamException]
  split
  case isTrue => exact h.setAndRemove hs rfl rfl
  case isFalse => exact h.setStream hs rfl rfl

/-- A callback, of the object under its number in the one manager. -/
def renumber (g : ℕ → ℕ) : Event → Event
  | .connectionState id state => .connectionState (g id) state
  | .iceTimeout id => .iceTimeout (g id)
  | e => e

/-- A callback of a stream, and no request. -/
def isCallback : Event → Bool
  | .connectionState .. | .iceTimeout _ => true
  | _ => false

/-- **A callback does the same in the one manager.** -/
theorem callback (h : Sharded route managers one f) {e : Event} {m' : RtcStreamManager PC}
    (he : isCallback e = true) (hs : Stream.step ops (managers k) e = some m') :
    ∃ one', Stream.step ops one (renumber (f k) e) = some one' ∧
      Sharded route (update managers k m') one' f := by
  cases e with
  | createPushStream | createPullStream | stopPush | stopPull | setAnswer => cases he
  | connectionState id state =>
    obtain ⟨s, hid, rfl⟩ := Option.map_eq_some_iff.1 hs
    refine ⟨one.streamConnectionState (f k id) s state, ?_, h.streamConnectionState hid state⟩
    simp only [renumber, Stream.step, h.streams_some hid, Option.map_some]
  | iceTimeout id =>
    obtain ⟨s, hid, hfired⟩ := Option.bind_eq_some_iff.1 hs
    split at hfired
    case isTrue harmed =>
      obtain rfl := Option.some.inj hfired
      refine ⟨one.iceTimeoutCb (f k id) s, ?_, h.iceTimeoutCb hid⟩
      simp only [renumber, Stream.step, h.streams_some hid, Option.bind_some, if_pos harmed]
    case isFalse => cases hfired

end Sharded

end Stream

end XrtcServer
