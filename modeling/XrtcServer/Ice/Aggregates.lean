import XrtcServer.Common.Signals
import XrtcServer.Ice.Mapped
/-!
# What the channel says of its connections

`_writable`, `_receiving` and `_state` are computed from the connections by
`_update_state`. A connection changes in the middle of its methods, and what
the channel says is out of date until it has been told; it is told of every
change that counts, by a signal that ends in `_update_state`. So between two
events the three are up to date (`Settled`), whatever has been destroyed.
-/

namespace XrtcServer

namespace Ice

open IceTransportChannel IceConnection Common

variable {s t u : IceTransportChannel} {i id : ℕ} {ids : List ℕ} {now : ℤ}

/-! ## What is promised -/

/-- What the signals of a kind have announced. -/
def announced {α : Type} (s : IceTransportChannel) (signal : ChannelSignal) (value : Emitted → α) :
    List α :=
  (s.trace.signals.filter (·.signal = signal)).map value

/-- The channel has been writable. -/
def OnceWritable (s : IceTransportChannel) : Prop :=
  true ∈ announced s .writableStateChange Emitted.writable

/-- **The state of the channel is that of its connections**, and its signals
announce changes only. -/
structure Aggregated (s : IceTransportChannel) : Prop where
  writable : s.writable = true ↔
    ∃ id, s.selectedConnection = some id ∧ (s.heap id).writable = true
  receiving : s.receiving = true ↔
    ∃ id ∈ s.controller.connections, (s.heap id).receiving = true
  selected : ∀ id, s.selectedConnection = some id → id ∈ s.controller.connections
  failed : s.state = .failed ↔
    s.made ≠ [] ∧ ∀ id ∈ s.controller.connections, (s.heap id).active = false
  connected : s.state ≠ .failed → (s.state = .connected ↔ s.writable = true)
  disconnected : s.state ≠ .failed →
    (s.state = .disconnected ↔ s.writable = false ∧ OnceWritable s)
  new : s.state ≠ .failed → (s.state = .new ↔ s.made = [])
  checking : s.state ≠ .failed →
    (s.state = .checking ↔ s.writable = false ∧ ¬ OnceWritable s ∧ s.made ≠ [])
  receivingSignals :
    Announced false (announced s .receivingStateChange Emitted.receiving) s.receiving
  writableSignals : Announced false (announced s .writableStateChange Emitted.writable) s.writable
  stateSignals : Announced .new (announced s .iceStateChange Emitted.state) s.state

/-! ## What is kept even while a connection changes -/

/-- The channel's record of itself, whatever its connections are doing. -/
structure Sound (s : IceTransportChannel) : Prop where
  made : s.hadConnection = true ↔ s.made ≠ []
  registered : ∀ id ∈ s.controller.connections, s.hadConnection = true
  selected : ∀ id, s.selectedConnection = some id → id ∈ s.controller.connections
  had : s.hasBeenConnection = true → s.hadConnection = true
  once : s.hasBeenConnection = true ↔ OnceWritable s
  receivingSignals :
    Announced false (announced s .receivingStateChange Emitted.receiving) s.receiving
  writableSignals : Announced false (announced s .writableStateChange Emitted.writable) s.writable
  stateSignals : Announced .new (announced s .iceStateChange Emitted.state) s.state

/-- Some registered connection is active. -/
def hasConnection (s : IceTransportChannel) : Bool :=
  s.controller.connections.any fun id => (s.heap id).active

/-- **The three aggregates are up to date.** -/
structure Settled (s : IceTransportChannel) : Prop extends Sound s where
  writable : s.writable = s.selectedConnection.any fun id => (s.heap id).writable
  receiving : s.receiving = s.controller.connections.any fun id => (s.heap id).receiving
  state : s.state = s.computeIceTransportState

/-- The channel has not touched its own record. -/
structure SameRecord (s t : IceTransportChannel) : Prop where
  made : t.made = s.made
  hadConnection : t.hadConnection = s.hadConnection
  hasBeenConnection : t.hasBeenConnection = s.hasBeenConnection
  receiving : t.receiving = s.receiving
  writable : t.writable = s.writable
  state : t.state = s.state
  signals : t.trace.signals = s.trace.signals

theorem SameRecord.refl (s : IceTransportChannel) : SameRecord s s :=
  ⟨rfl, rfl, rfl, rfl, rfl, rfl, rfl⟩

theorem SameRecord.trans (h : SameRecord s t) (k : SameRecord t u) : SameRecord s u where
  made := k.made.trans h.made
  hadConnection := k.hadConnection.trans h.hadConnection
  hasBeenConnection := k.hasBeenConnection.trans h.hasBeenConnection
  receiving := k.receiving.trans h.receiving
  writable := k.writable.trans h.writable
  state := k.state.trans h.state
  signals := k.signals.trans h.signals

theorem SameRecord.announced {α : Type} (h : SameRecord s t) (signal : ChannelSignal)
    (value : Emitted → α) : announced t signal value = announced s signal value := by
  unfold Ice.announced
  rw [h.signals]

theorem Sound.frame (h : Sound s) (ht : SameRecord s t)
    (hselected : ∀ id, t.selectedConnection = some id → id ∈ t.controller.connections)
    (hmem : ∀ id ∈ t.controller.connections, id ∈ s.controller.connections) : Sound t where
  made := by
    rw [ht.hadConnection, ht.made]
    exact h.made
  registered := by
    intro id hid
    rw [ht.hadConnection]
    exact h.registered id (hmem id hid)
  selected := hselected
  had := by
    rw [ht.hadConnection, ht.hasBeenConnection]
    exact h.had
  once := by
    unfold OnceWritable
    rw [ht.hasBeenConnection, ht.announced]
    exact h.once
  receivingSignals := by
    rw [ht.announced, ht.receiving]
    exact h.receivingSignals
  writableSignals := by
    rw [ht.announced, ht.writable]
    exact h.writableSignals
  stateSignals := by
    rw [ht.announced, ht.state]
    exact h.stateSignals

/-- **Nothing has changed that the aggregates are computed from.** -/
structure Unaffected (s t : IceTransportChannel) : Prop extends SameRecord s t where
  selected : t.selectedConnection = s.selectedConnection
  mem : ∀ id, id ∈ t.controller.connections ↔ id ∈ s.controller.connections
  writeStates : ∀ id, (t.heap id).writeState = (s.heap id).writeState
  receivings : ∀ id, (t.heap id).receiving = (s.heap id).receiving

namespace Unaffected

theorem refl (s : IceTransportChannel) : Unaffected s s :=
  ⟨.refl s, rfl, fun _ => Iff.rfl, fun _ => rfl, fun _ => rfl⟩

theorem trans (h : Unaffected s t) (k : Unaffected t u) : Unaffected s u where
  toSameRecord := h.toSameRecord.trans k.toSameRecord
  selected := k.selected.trans h.selected
  mem := fun id => (k.mem id).trans (h.mem id)
  writeStates := fun id => (k.writeStates id).trans (h.writeStates id)
  receivings := fun id => (k.receivings id).trans (h.receivings id)

theorem sound (h : Unaffected s t) (hs : Sound s) : Sound t :=
  hs.frame h.toSameRecord
    (fun id hid => (h.mem id).2 (hs.selected id (h.selected ▸ hid))) fun id => (h.mem id).1

/-- A disjunction over the registered connections is the same. -/
theorem any_eq (h : Unaffected s t) {p q : ℕ → Bool} (hpq : ∀ id, p id = q id) :
    t.controller.connections.any p = s.controller.connections.any q := by
  rw [Bool.eq_iff_iff, List.any_eq_true, List.any_eq_true]
  simp only [h.mem, hpq]

theorem settled (h : Unaffected s t) (hs : Settled s) : Settled t where
  toSound := h.sound hs.toSound
  writable := by
    have hwritable : ∀ id, (t.heap id).writable = (s.heap id).writable := fun id => by
      unfold IceConnection.writable
      rw [h.writeStates]
    rw [h.writable, hs.writable, h.selected]
    simp only [hwritable]
  receiving := by
    rw [h.receiving, hs.receiving]
    exact (h.any_eq h.receivings).symm
  state := by
    have hactive : ∀ id, (t.heap id).active = (s.heap id).active := fun id => by
      unfold active
      rw [h.writeStates]
    rw [h.state, hs.state]
    unfold computeIceTransportState
    rw [h.any_eq hactive, h.hadConnection, h.hasBeenConnection, h.writable]

end Unaffected

/-! ## `_update_state` -/

theorem use_unaffected (s : IceTransportChannel) (id : ℕ) : Unaffected s (s.use id) := by
  unfold use
  split
  · exact ⟨⟨rfl, rfl, rfl, rfl, rfl, rfl, rfl⟩, rfl, fun _ => Iff.rfl, fun _ => rfl, fun _ => rfl⟩
  · exact .refl s

theorem useAll_unaffected (s : IceTransportChannel) (ids : List ℕ) :
    Unaffected s (s.useAll ids) := by
  induction ids generalizing s with
  | nil => exact .refl s
  | cons id ids ih => exact (use_unaffected s id).trans (ih (s.use id))

/-- A signal is one more of its kind. -/
theorem announced_emit {α : Type} (s : IceTransportChannel) (sent : ChannelSignal)
    (value : Emitted → α) :
    announced (s.emit sent) sent value =
      announced s sent value ++ [value ⟨sent, s.receiving, s.writable, s.state⟩] := by
  unfold announced emit
  simp

theorem announced_emit_of_ne {α : Type} {sent signal : ChannelSignal} (h : sent ≠ signal)
    (s : IceTransportChannel) (value : Emitted → α) :
    announced (s.emit sent) signal value = announced s signal value := by
  unfold announced emit
  simp [h]

/-- A selected connection has been added. -/
theorem Sound.had_of_selected (h : Sound s)
    (hw : (s.selectedConnection.any fun id => (s.heap id).writable) = true) :
    s.hadConnection = true := by
  obtain ⟨id, hsel, -⟩ := (Option.any_eq_true _ _).1 hw
  exact h.registered id (h.selected id hsel)

theorem setWritable_sound (h : Sound s) {writable : Bool}
    (hw : writable = true → s.hadConnection = true) : Sound (s.setWritable writable) := by
  unfold setWritable
  split
  · exact h
  · rename_i hne
    have hsignals := announced_emit
      { s with hasBeenConnection := s.hasBeenConnection || writable, writable := writable }
      .writableStateChange Emitted.writable
    refine ⟨h.made, h.registered, h.selected, fun hbeen => ?_, ?_, ?_, ?_, ?_⟩
    · rcases Bool.or_eq_true_iff.1 hbeen with hold | hnow
      · exact h.had hold
      · exact hw hnow
    · unfold OnceWritable
      rw [hsignals, List.mem_append, List.mem_singleton]
      exact Bool.or_eq_true_iff.trans (or_congr h.once eq_comm)
    · rw [announced_emit_of_ne (by decide)]
      exact h.receivingSignals
    · rw [hsignals]
      exact h.writableSignals.concat fun heq => hne heq.symm
    · rw [announced_emit_of_ne (by decide)]
      exact h.stateSignals

theorem setReceiving_sound (h : Sound s) (receiving : Bool) : Sound (s.setReceiving receiving) := by
  unfold setReceiving
  split
  · exact h
  · rename_i hne
    refine ⟨h.made, h.registered, h.selected, h.had, ?_, ?_, ?_, ?_⟩
    · unfold OnceWritable
      rw [announced_emit_of_ne (by decide)]
      exact h.once
    · rw [announced_emit]
      exact h.receivingSignals.concat fun heq => hne heq.symm
    · rw [announced_emit_of_ne (by decide)]
      exact h.writableSignals
    · rw [announced_emit_of_ne (by decide)]
      exact h.stateSignals

theorem setState_sound (h : Sound s) {state : IceTransportState} (hne : state ≠ s.state) :
    Sound ({ s with state := state }.emit .iceStateChange) := by
  refine ⟨h.made, h.registered, h.selected, h.had, ?_, ?_, ?_, ?_⟩
  · unfold OnceWritable
    rw [announced_emit_of_ne (by decide)]
    exact h.once
  · rw [announced_emit_of_ne (by decide)]
    exact h.receivingSignals
  · rw [announced_emit_of_ne (by decide)]
    exact h.writableSignals
  · rw [announced_emit]
    exact h.stateSignals.concat hne.symm

theorem setWritable_writable (s : IceTransportChannel) (writable : Bool) :
    (s.setWritable writable).writable = writable := by
  unfold setWritable
  split
  · rename_i heq
    exact heq.symm
  · rfl

theorem setReceiving_spec (s : IceTransportChannel) (receiving : Bool) :
    (s.setReceiving receiving).receiving = receiving ∧
      (s.setReceiving receiving).writable = s.writable := by
  unfold setReceiving
  split
  · rename_i heq
    exact ⟨heq.symm, rfl⟩
  · exact ⟨rfl, rfl⟩

/-- **After `_update_state` the aggregates are up to date.** -/
theorem updateState_settles (h : Sound s) : Settled s.updateState := by
  let v := s.useAll s.selectedConnection.toList
  let w := v.setWritable (v.selectedConnection.any fun id => (v.heap id).writable)
  let x := w.useAll w.controller.connections
  let y := x.setReceiving (x.controller.connections.any fun id => (x.heap id).receiving)
  have hupdate : s.updateState =
      if y.computeIceTransportState ≠ y.state then
        { y with state := y.computeIceTransportState }.emit .iceStateChange
      else y := rfl
  have hv : Sound v := (useAll_unaffected s _).sound h
  have hw : Sound w := setWritable_sound hv hv.had_of_selected
  have hx : Unaffected w x := useAll_unaffected w _
  have hy : Sound y := setReceiving_sound (hx.sound hw) _
  -- the connections are read off the same heap all the way
  have hvw := setWritable_noted v (v.selectedConnection.any fun id => (v.heap id).writable)
  have hvx := hvw.trans (useAll_noted w w.controller.connections)
  have hxy := setReceiving_noted x (x.controller.connections.any fun id => (x.heap id).receiving)
  have hvy := hvx.trans hxy
  obtain ⟨hyReceiving, hyWritable⟩ :=
    setReceiving_spec x (x.controller.connections.any fun id => (x.heap id).receiving)
  have hwritable : y.writable = y.selectedConnection.any fun id => (y.heap id).writable := by
    rw [hvy.selected, hvy.heap]
    exact (hyWritable.trans hx.writable).trans (setWritable_writable v _)
  have hreceiving : y.receiving = y.controller.connections.any fun id => (y.heap id).receiving := by
    rw [hxy.controller, hxy.heap]
    exact hyReceiving
  rw [hupdate]
  split
  · rename_i hne
    exact ⟨setState_sound hy hne, hwritable, hreceiving, rfl⟩
  · rename_i heq
    exact ⟨hy, hwritable, hreceiving, (not_not.1 heq).symm⟩

/-! ## Sorting and selecting -/

theorem maybeStartPinging_unaffected (s : IceTransportChannel) (now : ℤ) :
    Unaffected s (s.maybeStartPinging now) := by
  unfold maybeStartPinging
  split
  · exact .refl s
  · have huse := useAll_unaffected s (s.controller.connections ++ s.controller.weakRead s.heap)
    dsimp only
    split
    · exact huse.trans ⟨⟨rfl, rfl, rfl, rfl, rfl, rfl, rfl⟩, rfl, fun _ => Iff.rfl, fun _ => rfl,
        fun _ => rfl⟩
    · exact huse

theorem setSelected_sameRecord (s : IceTransportChannel) (id : ℕ) (selected : Bool) :
    SameRecord s (s.setSelected id selected) :=
  (use_unaffected s id).toSameRecord.trans ⟨rfl, rfl, rfl, rfl, rfl, rfl, rfl⟩

theorem switchSelectedConnection_sameRecord (s : IceTransportChannel) (conn : Option ℕ) :
    SameRecord s (s.switchSelectedConnection conn) := by
  have htell : ∀ v, SameRecord s v → SameRecord s (tellSelected v conn) := by
    intro v hv
    cases conn with
    | none => exact hv
    | some id =>
      exact (hv.trans (setSelected_sameRecord v id true)).trans ⟨rfl, rfl, rfl, rfl, rfl, rfl, rfl⟩
  have hstart : SameRecord s { s with selectedConnection := conn } :=
    ⟨rfl, rfl, rfl, rfl, rfl, rfl, rfl⟩
  rw [switchSelectedConnection_eq]
  cases s.selectedConnection with
  | none => exact htell _ hstart
  | some old => exact htell _ (hstart.trans (setSelected_sameRecord _ old false))

theorem sortAndSwitchConnection_sameRecord (s : IceTransportChannel) :
    SameRecord s s.sortAndSwitchConnection.1 := by
  have hall := (useAll_unaffected s s.controller.connections).toSameRecord
  have hnoted : ∀ ids noted ctl, SameRecord s
      { ((s.useAll s.controller.connections).useAll ids).observe noted with controller := ctl } :=
    fun ids _ _ => (hall.trans (useAll_unaffected _ ids).toSameRecord).trans
      ⟨rfl, rfl, rfl, rfl, rfl, rfl, rfl⟩
  exact hnoted _ _ _

/-- **`_sort_connections_and_update_state` brings the aggregates up to date**,
whatever it finds. -/
theorem sortConnectionsAndUpdateState_settles (h : Sound s) (now : ℤ) :
    Settled (s.sortConnectionsAndUpdateState now) := by
  obtain ⟨hsorted, hworth⟩ := sortAndSwitchConnection_sorted s
  have hmem : ∀ id, id ∈ s.sortAndSwitchConnection.1.controller.connections ↔
      id ∈ s.controller.connections := fun _ => hsorted.onlySelects.mem
  have hsort : Sound s.sortAndSwitchConnection.1 := by
    refine h.frame (sortAndSwitchConnection_sameRecord s) (fun id hid => ?_) fun id => (hmem id).1
    rw [hsorted.selected] at hid
    exact (hmem id).2 (h.selected id hid)
  have hrest : ∀ t : IceTransportChannel, Sound t → Settled (t.updateState.maybeStartPinging now) :=
    fun t ht => (maybeStartPinging_unaffected _ now).settled (updateState_settles ht)
  unfold sortConnectionsAndUpdateState
  dsimp only
  rw [hworth]
  unfold maybeSwitchSelectedConnection
  cases hw : worthSwitching s with
  | none => exact hrest _ hsort
  | some id =>
    have hswitch := switchSelectedConnection_switched s.sortAndSwitchConnection.1 (some id)
    have hconnections := hswitch.onlySelects.connections
    refine hrest _ (hsort.frame (switchSelectedConnection_sameRecord _ _) (fun j hj => ?_) fun j =>
      hconnections.mem_iff.1)
    rw [hswitch.selected] at hj
    obtain rfl := Option.some.inj hj
    exact hconnections.mem_iff.2 ((hmem id).2 (worthSwitching_mem hw))

/-! ## Methods of a connection -/

theorem setConn_sound (h : Sound s) (id : ℕ) (c : IceConnection) : Sound (s.setConn id c) :=
  h.frame ⟨rfl, rfl, rfl, rfl, rfl, rfl, rfl⟩ h.selected fun _ hid => hid

/-- Nothing follows from what a method rewrites of its object but the write
state and whether it is receiving. -/
theorem setConn_unaffected {c : IceConnection} (hwrite : c.writeState = (s.heap id).writeState)
    (hreceiving : c.receiving = (s.heap id).receiving) : Unaffected s (s.setConn id c) := by
  refine ⟨⟨rfl, rfl, rfl, rfl, rfl, rfl, rfl⟩, rfl, fun _ => Iff.rfl, fun j => ?_, fun j => ?_⟩
  · by_cases hj : j = id
    · rw [hj, setConn_heap_self, hwrite]
    · rw [setConn_heap_of_ne hj]
  · by_cases hj : j = id
    · rw [hj, setConn_heap_self, hreceiving]
    · rw [setConn_heap_of_ne hj]

theorem rewrite_unaffected {c : IceConnection} (hwrite : c.writeState = (s.heap id).writeState)
    (hreceiving : c.receiving = (s.heap id).receiving) :
    Unaffected s ((s.use id).setConn id c) := by
  have huse := use_unaffected s id
  exact huse.trans (setConn_unaffected (hwrite.trans (huse.writeStates id).symm)
    (hreceiving.trans (huse.receivings id).symm))

/-- A write state that changes is signalled. -/
theorem setWriteState_settled (h : Settled s) (id : ℕ) (state : WriteState) (now : ℤ) :
    Settled (setWriteState s id state now) := by
  unfold setWriteState
  dsimp only
  split
  · exact sortConnectionsAndUpdateState_settles
      (setConn_sound ((use_unaffected s id).sound h.toSound) id _) now
  · rename_i heq
    refine (rewrite_unaffected ?_ ?_).settled h
    · exact (not_not.1 heq).symm
    · rfl

/-- So is a change of receiving. -/
theorem updateReceiving_settled (h : Settled s) (id : ℕ) (now : ℤ) :
    Settled (updateReceiving s id now) := by
  have huse := use_unaffected s id
  unfold updateReceiving
  dsimp only
  split
  · exact huse.settled h
  · exact sortConnectionsAndUpdateState_settles (setConn_sound (huse.sound h.toSound) id _) now

/-- **A destroyed connection is out of the account**, whether or not it was
the selected one. -/
theorem onConnectionDestroyed_settles (h : Sound s) (id : ℕ) (now : ℤ) :
    Settled (s.onConnectionDestroyed id now) := by
  let v := { s with controller := s.controller.onConnectionDestroyed id }
  have hrecord : SameRecord s v := ⟨rfl, rfl, rfl, rfl, rfl, rfl, rfl⟩
  have hmem : ∀ j ∈ v.controller.connections, j ∈ s.controller.connections :=
    fun j hj => List.mem_of_mem_erase hj
  unfold onConnectionDestroyed
  dsimp only
  split
  · have hswitch := switchSelectedConnection_switched v none
    refine sortConnectionsAndUpdateState_settles (h.frame
      (hrecord.trans (switchSelectedConnection_sameRecord v none)) (fun j hj => ?_) fun j hj =>
        hmem j (hswitch.onlySelects.connections.mem_iff.1 hj)) now
    rw [hswitch.selected] at hj
    cases hj
  · rename_i hne
    refine updateState_settles (h.frame hrecord (fun j hj => ?_) hmem)
    have hj' : j ≠ id := by
      rintro rfl
      exact hne hj
    exact (List.mem_erase_of_ne hj').2 (h.selected j hj)

theorem destroy_settles (h : Sound s) (id : ℕ) (now : ℤ) : Settled (destroy s id now) := by
  have htold := onConnectionDestroyed_settles ((use_unaffected s id).sound h) id now
  have hdelete : Unaffected ((s.use id).onConnectionDestroyed id now) (destroy s id now) := by
    let told := (s.use id).onConnectionDestroyed id now
    have hset : Unaffected told (told.setConn id { told.heap id with requests := [] }) :=
      setConn_unaffected rfl rfl
    exact hset.trans ⟨⟨rfl, rfl, rfl, rfl, rfl, rfl, rfl⟩, rfl, fun _ => Iff.rfl, fun _ => rfl,
      fun _ => rfl⟩
  exact hdelete.settled htold

theorem failAndDestroy_settles (h : Sound s) (id : ℕ) (now : ℤ) :
    Settled (failAndDestroy s id now) :=
  destroy_settles (setConn_sound ((use_unaffected s id).sound h) id _) id now

theorem degrade_settled (h : Settled s) (id : ℕ) (now : ℤ) : Settled (degrade s id now) := by
  have huse := (use_unaffected s id).settled h
  unfold degrade
  dsimp only
  split
  · exact setWriteState_settled huse id _ now
  · exact huse

/-- `update_state` of a connection, with the use of one it has destroyed. -/
theorem updateState_settled (h : Settled s) (id : ℕ) (now : ℤ) :
    Settled (IceConnection.updateState s id now) := by
  have hdegrade := degrade_settled h id now
  unfold IceConnection.updateState
  dsimp only
  split
  · have hout := setWriteState_settled hdegrade id .writeTimeout now
    exact updateReceiving_settled (failAndDestroy_settles hout.toSound id now) id now
  · exact updateReceiving_settled hdegrade id now

variable {movingAverage : ℤ → ℤ → ℤ → ℤ}

theorem receivedPingResponse_settled (h : Settled s) (id : ℕ) (rtt now : ℤ) :
    Settled (receivedPingResponse s id movingAverage rtt now) := by
  unfold receivedPingResponse
  dsimp only
  refine (rewrite_unaffected ?_ ?_).settled (setWriteState_settled (updateReceiving_settled
    ((rewrite_unaffected ?_ ?_).settled h) id now) id .writable now)
  · rfl
  · rfl
  · rfl
  · rfl

theorem deleteRequest_unaffected (s : IceTransportChannel) (id : ℕ) (request : StunRequest) :
    Unaffected s (deleteRequest s id request) := by
  have huse := use_unaffected s id
  have hset : Unaffected (s.use id)
      ((s.use id).setConn id (((s.use id).heap id).removeRequest request.id)) :=
    setConn_unaffected rfl rfl
  exact (huse.trans hset).trans ⟨⟨rfl, rfl, rfl, rfl, rfl, rfl, rfl⟩, rfl, fun _ => Iff.rfl,
    fun _ => rfl, fun _ => rfl⟩

theorem checkResponse_settled (h : Settled s) (id : ℕ) (msg : StunResponse) (now : ℤ) :
    Settled (checkResponse s id movingAverage msg now) := by
  have huse := (use_unaffected s id).settled h
  unfold checkResponse
  dsimp only
  split
  · exact huse
  · refine (deleteRequest_unaffected _ id _).settled ?_
    split
    · exact receivedPingResponse_settled huse id _ now
    · split
      · unfold onConnectionRequestErrorResponse
        dsimp only
        have hagain := (use_unaffected _ id).settled huse
        split
        · exact hagain
        · exact failAndDestroy_settles hagain.toSound id now
      · exact huse

theorem onReadPacket_settled (h : Settled s) (id : ℕ) (packet : Packet) (now : ℤ) :
    Settled (IceConnection.onReadPacket s id movingAverage packet now) := by
  have huse := (use_unaffected s id).settled h
  have hset : ∀ c : IceConnection, c.writeState = ((s.use id).heap id).writeState →
      c.receiving = ((s.use id).heap id).receiving → Settled ((s.use id).setConn id c) :=
    fun c hwrite hreceiving => (setConn_unaffected hwrite hreceiving).settled huse
  unfold IceConnection.onReadPacket
  cases packet with
  | notStun => exact hset _ rfl rfl
  | refused => exact huse
  | otherStun => exact huse
  | request remoteUfrag priority =>
    dsimp only
    split
    · exact huse
    · exact hset _ rfl rfl
  | response msg =>
    dsimp only
    split
    · split
      · exact checkResponse_settled huse id msg now
      · exact huse
    · exact huse

/-! ## Events -/

/-- A new connection is registered as one that has been added. -/
theorem newConnection_sound (h : Sound s) {port : UDPPort} {remote : Candidate}
    (haddr : port.getConnection remote.address = none) (portIndex : ℕ) (now : ℤ) :
    Sound ((s.createConnection portIndex port remote id now).addConnection id) := by
  rw [createConnection_of_none haddr]
  refine ⟨?_, fun _ _ => rfl, fun j hj => ?_, fun _ => rfl, h.once, h.receivingSignals,
    h.writableSignals, h.stateSignals⟩
  · exact iff_of_true rfl (List.cons_ne_nil _ _)
  · exact List.mem_append_left _ (h.selected j hj)

theorem onUnknownAddress_settled (h : Settled s) {port : UDPPort} {addr : SocketAddress}
    (haddr : port.getConnection addr = none) (portIndex : ℕ) (remoteUfrag : String)
    (priority : Option UInt32) (id : ℕ) (now : ℤ) :
    Settled (s.onUnknownAddress portIndex port addr remoteUfrag priority id now) := by
  unfold onUnknownAddress
  cases priority with
  | none => exact h
  | some priority =>
    exact sortConnectionsAndUpdateState_settles (newConnection_sound h.toSound haddr portIndex now)
      now

theorem setRemoteIceParams_settled (h : Sound s) (params : IceParameters) (now : ℤ) :
    Settled (s.setRemoteIceParams params now) := by
  have hfold : ∀ (ids : List ℕ) (s : IceTransportChannel), Sound s → Sound (ids.foldl
      (fun ch id => (ch.use id).setConn id ((ch.heap id).maybeSetRemoteIceParams params)) s) := by
    intro ids
    induction ids with
    | nil => exact fun s hs => hs
    | cons id ids ih => exact fun s hs => ih _ (setConn_sound ((use_unaffected s id).sound hs) id _)
  have hset : Sound { s with remoteIceParams := params } :=
    h.frame ⟨rfl, rfl, rfl, rfl, rfl, rfl, rfl⟩ h.selected fun _ hid => hid
  exact sortConnectionsAndUpdateState_settles (hfold _ _ hset) now

theorem updateConnectionStates_settled (h : Settled s) (now : ℤ) :
    Settled (s.updateConnectionStates now) := by
  have hfold : ∀ (ids : List ℕ) (s : IceTransportChannel), Settled s →
      Settled (ids.foldl (fun ch id => IceConnection.updateState ch id now) s) := by
    intro ids
    induction ids with
    | nil => exact fun s hs => hs
    | cons id ids ih => exact fun s hs => ih _ (updateState_settled hs id now)
  exact hfold _ s h

theorem selectConnectionToPing_unaffected (s : IceTransportChannel) (now : ℤ) :
    Unaffected s (s.selectConnectionToPing now).1 := by
  let v := s.useAll (s.controller.connections ++ s.controller.selectedConnection.toList)
  have hsame := (IceController.selectConnectionToPing_same v.controller v.heap
    (v.lastPingSentMs - PING_INTERVAL_DIFF) now).1
  have hchosen : Unaffected v (s.selectConnectionToPing now).1 := by
    refine ⟨⟨rfl, rfl, rfl, rfl, rfl, rfl, rfl⟩, rfl, fun id => ?_, fun _ => rfl, fun _ => rfl⟩
    show id ∈ (v.controller.selectConnectionToPing v.heap _ now).1.connections ↔ _
    rw [hsame]
  exact (useAll_unaffected s _).trans hchosen

theorem pingChosen_unaffected (s : IceTransportChannel) (conn : Option ℕ) (requestId : String)
    (now : ℤ) : Unaffected s (s.pingChosen conn requestId now) := by
  cases conn with
  | none => exact .refl s
  | some id =>
    have hsent : Unaffected s { s with lastPingSentMs := now } :=
      ⟨⟨rfl, rfl, rfl, rfl, rfl, rfl, rfl⟩, rfl, fun _ => Iff.rfl, fun _ => rfl, fun _ => rfl⟩
    let v := { s with lastPingSentMs := now }.use id
    let request : StunRequest := { serial := v.trace.requestsMade, id := requestId, ts := now }
    have hping : Unaffected v (v.setConn id ((v.heap id).ping request now)) :=
      setConn_unaffected rfl rfl
    have hmark : Unaffected (v.setConn id ((v.heap id).ping request now))
        (s.pingChosen (some id) requestId now) := by
      refine ⟨⟨rfl, rfl, rfl, rfl, rfl, rfl, rfl⟩, rfl, fun j => ?_, fun _ => rfl, fun _ => rfl⟩
      show j ∈ (v.controller.markConnectionPinged id).connections ↔ _
      rw [(markConnectionPinged_same v.controller id).1]
      exact Iff.rfl
    exact ((hsent.trans (use_unaffected _ id)).trans hping).trans hmark

theorem changePingInterval_unaffected (s : IceTransportChannel) (pingInterval : ℤ) :
    Unaffected s (s.changePingInterval pingInterval) := by
  unfold changePingInterval
  split
  · exact ⟨⟨rfl, rfl, rfl, rfl, rfl, rfl, rfl⟩, rfl, fun _ => Iff.rfl, fun _ => rfl, fun _ => rfl⟩
  · exact .refl s

/-- **A tick**: the connections are brought up to date, and one is pinged. -/
theorem onCheckAndPing_settled (h : Settled s) (requestId : String) (now : ℤ) :
    Settled (s.onCheckAndPing requestId now) := by
  have hupdated := updateConnectionStates_settled h now
  exact (changePingInterval_unaffected _ _).settled ((pingChosen_unaffected _ _ requestId now).settled
    ((selectConnectionToPing_unaffected _ now).settled hupdated))

theorem destroyChannel_settled (h : Settled s) (now : ℤ) : Settled (s.destroyChannel now) := by
  have hfold : ∀ (ids : List ℕ) (s : IceTransportChannel), Settled s →
      Settled (ids.foldl (fun ch id => IceConnection.destroy ch id now) s) := by
    intro ids
    induction ids with
    | nil => exact fun s hs => hs
    | cons id ids ih => exact fun s hs => ih _ (destroy_settles hs.toSound id now)
  have hstopped : Unaffected s { s with timer := none } :=
    ⟨⟨rfl, rfl, rfl, rfl, rfl, rfl, rfl⟩, rfl, fun _ => Iff.rfl, fun _ => rfl, fun _ => rfl⟩
  have hdestroyed := hfold s.controller.connections _ (hstopped.settled h)
  have hclosed : ∀ t : IceTransportChannel, Unaffected t { t with ports := [], closed := true } :=
    fun t => ⟨⟨rfl, rfl, rfl, rfl, rfl, rfl, rfl⟩, rfl, fun _ => Iff.rfl, fun _ => rfl,
      fun _ => rfl⟩
  exact (hclosed _).settled hdestroyed

/-- **Every event leaves the aggregates up to date.** -/
theorem step_settled {e : ChannelEvent} (h : Settled s) (hstep : s.step movingAverage e = some t) :
    Settled t := by
  cases handled_of_step hstep with
  | known packet now _ _ => exact onReadPacket_settled h _ packet now
  | stranger remoteUfrag priority now hport haddr hnew =>
    exact onUnknownAddress_settled h haddr _ remoteUfrag priority _ now
  | dropped => exact h
  | params params now => exact setRemoteIceParams_settled h.toSound params now
  | ticked requestId now htimer => exact onCheckAndPing_settled h requestId now
  | sent => exact (useAll_unaffected s _).settled h
  | ended now => exact destroyChannel_settled h now

theorem settled_init (localPriorities : List UInt32) : Settled (.init localPriorities) where
  made := iff_of_false Bool.false_ne_true fun h => h rfl
  registered := fun id hid => absurd hid List.not_mem_nil
  selected := fun id hid => by cases hid
  had := fun h => by cases h
  once := iff_of_false Bool.false_ne_true List.not_mem_nil
  receivingSignals := .start false
  writableSignals := .start false
  stateSignals := .start IceTransportState.new
  writable := rfl
  receiving := rfl
  state := rfl

/-! ## What the states mean -/

theorem hasConnection_eq_false :
    hasConnection s = false ↔ ∀ id ∈ s.controller.connections, (s.heap id).active = false := by
  unfold hasConnection
  simp

theorem Sound.hasBeen_of_writable (h : Sound s) (hw : s.writable = true) :
    s.hasBeenConnection = true := by
  refine h.once.2 ?_
  have hmem := h.writableSignals.mem (by simp [hw])
  rwa [hw] at hmem

/-- The tests of `_compute_ice_transport_state` in other words: a connection
that is registered has been added, and a channel that has been writable has
had a connection, so that the order in which they are made matters for the
first of them only. -/
theorem computeIceTransportState_iff (h : Sound s) :
    (s.computeIceTransportState = .failed ↔ s.hadConnection = true ∧ hasConnection s = false) ∧
    (s.computeIceTransportState ≠ .failed →
      (s.computeIceTransportState = .connected ↔ s.writable = true) ∧
      (s.computeIceTransportState = .disconnected ↔
        s.writable = false ∧ s.hasBeenConnection = true) ∧
      (s.computeIceTransportState = .new ↔ s.hadConnection = false) ∧
      (s.computeIceTransportState = .checking ↔
        s.writable = false ∧ s.hasBeenConnection = false ∧ s.hadConnection = true)) := by
  have hcompute : s.computeIceTransportState =
      if s.hadConnection && !hasConnection s then .failed
      else if s.hasBeenConnection && !s.writable then .disconnected
      else if !s.hadConnection && !hasConnection s then .new
      else if hasConnection s && !s.writable then .checking
      else .connected := rfl
  have hregistered : hasConnection s = true → s.hadConnection = true := by
    intro hhas
    obtain ⟨id, hid, -⟩ := List.any_eq_true.1 hhas
    exact h.registered id hid
  have hhad := h.had
  have hbeen := h.hasBeen_of_writable
  rw [hcompute]
  revert hregistered hhad hbeen
  -- four flags are left
  cases s.hadConnection <;> cases hasConnection s <;> cases s.hasBeenConnection <;>
    cases s.writable <;> decide

theorem Settled.aggregated (h : Settled s) : Aggregated s := by
  have hmade : s.hadConnection = false ↔ s.made = [] := by
    rw [← Bool.not_eq_true, h.made, not_not]
  have honce : s.hasBeenConnection = false ↔ ¬ OnceWritable s := by
    rw [← Bool.not_eq_true, h.once]
  obtain ⟨hfailed, hrest⟩ := computeIceTransportState_iff h.toSound
  rw [← h.state, hmade, h.once, h.made, honce] at hrest
  rw [← h.state, h.made, hasConnection_eq_false] at hfailed
  refine ⟨?_, ?_, h.selected, hfailed, fun hne => (hrest hne).1, fun hne => (hrest hne).2.1,
    fun hne => (hrest hne).2.2.1, fun hne => (hrest hne).2.2.2, h.receivingSignals,
    h.writableSignals, h.stateSignals⟩
  · rw [h.writable, Option.any_eq_true]
  · rw [h.receiving, List.any_eq_true]

/-- **Whenever no event is being processed the channel's flags and state are
those of its connections**, in every run, and each of its signals has
announced a change. -/
theorem aggregated_of_run {localPriorities : List UInt32} {es : List ChannelEvent}
    (h : run (IceTransportChannel.step movingAverage) (.init localPriorities) es = some s) :
    Aggregated s :=
  (inv_of_run (fun _ _ _ hs hstep => step_settled hs hstep) (settled_init localPriorities)
    h).aggregated

/-- A peer connects, and is lost with its only connection. -/
theorem aggregated_of_run_failed : ∃ s,
    run (IceTransportChannel.step getNextMovingAverage) (.init [1]) (connectedRun ++ [roleConflict]) =
      some s ∧ s.state = .failed ∧ s.made ≠ [] ∧ Aggregated s := by
  have hstate : (run (IceTransportChannel.step getNextMovingAverage) (.init [1])
      (connectedRun ++ [roleConflict])).map (fun s => (s.state, s.made)) = some (.failed, [0]) := by
    decide +kernel
  obtain ⟨s, hs, hmap⟩ := Option.map_eq_some_iff.1 hstate
  obtain ⟨hfailed, hmade⟩ := Prod.mk.inj hmap
  exact ⟨s, hs, hfailed, by simp [hmade], aggregated_of_run hs⟩

end Ice

end XrtcServer
