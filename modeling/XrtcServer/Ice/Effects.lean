import XrtcServer.Ice.Registered
import XrtcServer.Ice.Model.Channel
/-!
# What sorting and selecting change

`_sort_connections_and_update_state` runs in the middle of a connection's
own methods. It selects, which is all it does to the connections
(`OnlySelects`); `Reselected` says what is selected and what the controller
looks at for it; and it uses no destroyed connection where all that a
channel can reach are alive (`Live`).
-/

namespace XrtcServer

namespace Ice

open IceTransportChannel

/-- A connection but for its `selected` flag. -/
def unselected (c : IceConnection) : IceConnection := { c with selected := false }

/-- No connection and no request has come or gone. Notes of uses are only
added. -/
structure SameBooks (s t : IceTransportChannel) : Prop where
  made : t.made = s.made
  destroyed : t.destroyed = s.destroyed
  ports : t.ports = s.ports
  closed : t.closed = s.closed
  connections : t.controller.connections.Perm s.controller.connections
  requestsMade : t.trace.requestsMade = s.trace.requestsMade
  released : t.trace.released = s.trace.released
  deadUses : s.trace.deadUses <:+ t.trace.deadUses

/-- **Nothing has changed but the selection**, the order of the connections
and what follows from them. -/
structure OnlySelects (s t : IceTransportChannel) : Prop extends SameBooks s t where
  heap : ∀ id, unselected (t.heap id) = unselected (s.heap id)

variable {s t u : IceTransportChannel} {i id : ℕ} {ids : List ℕ} {now : ℤ}

@[simp] theorem setConn_heap_self {c : IceConnection} : (s.setConn id c).heap id = c :=
  Function.update_self ..

theorem setConn_heap_of_ne {c : IceConnection} (h : i ≠ id) : (s.setConn id c).heap i = s.heap i :=
  Function.update_of_ne h ..

namespace SameBooks

theorem refl (s : IceTransportChannel) : SameBooks s s :=
  ⟨rfl, rfl, rfl, rfl, .refl _, rfl, rfl, List.suffix_rfl⟩

theorem trans (h : SameBooks s t) (k : SameBooks t u) : SameBooks s u where
  made := k.made.trans h.made
  destroyed := k.destroyed.trans h.destroyed
  ports := k.ports.trans h.ports
  closed := k.closed.trans h.closed
  connections := k.connections.trans h.connections
  requestsMade := k.requestsMade.trans h.requestsMade
  released := k.released.trans h.released
  deadUses := h.deadUses.trans k.deadUses

theorem mem (h : SameBooks s t) : id ∈ t.controller.connections ↔ id ∈ s.controller.connections :=
  h.connections.mem_iff

end SameBooks

namespace OnlySelects

theorem refl (s : IceTransportChannel) : OnlySelects s s := ⟨.refl s, fun _ => rfl⟩

theorem trans (h : OnlySelects s t) (k : OnlySelects t u) : OnlySelects s u :=
  ⟨h.toSameBooks.trans k.toSameBooks, fun id => (k.heap id).trans (h.heap id)⟩

theorem requests (h : OnlySelects s t) (id : ℕ) : (t.heap id).requests = (s.heap id).requests := by
  have hc := congrArg IceConnection.requests (h.heap id)
  exact hc

theorem writable (h : OnlySelects s t) (id : ℕ) : (t.heap id).writable = (s.heap id).writable := by
  have hc := congrArg IceConnection.writable (h.heap id)
  exact hc

end OnlySelects

/-! ## Notes -/

theorem use_onlySelects (s : IceTransportChannel) (id : ℕ) : OnlySelects s (s.use id) := by
  unfold use
  split
  · exact ⟨⟨rfl, rfl, rfl, rfl, .refl _, rfl, rfl, List.suffix_cons ..⟩, fun _ => rfl⟩
  · exact .refl s

theorem use_of_not_mem (h : id ∉ s.destroyed) : s.use id = s := if_neg h

theorem use_of_mem (h : id ∈ s.destroyed) : (s.use id).trace.deadUses ≠ [] := by
  unfold use
  rw [if_pos h]
  exact List.cons_ne_nil _ _

theorem useAll_of_not_mem (h : ∀ id ∈ ids, id ∉ s.destroyed) : s.useAll ids = s := by
  induction ids with
  | nil => rfl
  | cons id ids ih =>
    unfold useAll at ih ⊢
    rw [List.foldl_cons, use_of_not_mem (h id List.mem_cons_self)]
    exact ih fun j hj => h j (List.mem_cons_of_mem id hj)

/-- Only notes have been made, and the channel's own flags set. -/
structure Noted (s t : IceTransportChannel) : Prop where
  onlySelects : OnlySelects s t
  heap : t.heap = s.heap
  controller : t.controller = s.controller
  selected : t.selectedConnection = s.selectedConnection
  observed : t.trace.observed = s.trace.observed

theorem Noted.refl (s : IceTransportChannel) : Noted s s := ⟨.refl s, rfl, rfl, rfl, rfl⟩

theorem Noted.trans (h : Noted s t) (k : Noted t u) :
    Noted s u where
  onlySelects := h.onlySelects.trans k.onlySelects
  heap := k.heap.trans h.heap
  controller := k.controller.trans h.controller
  selected := k.selected.trans h.selected
  observed := k.observed.trans h.observed

theorem use_noted (s : IceTransportChannel) (id : ℕ) : Noted s (s.use id) := by
  refine ⟨use_onlySelects s id, ?_, ?_, ?_, ?_⟩ <;>
  · unfold use
    split <;> rfl

theorem useAll_noted (s : IceTransportChannel) (ids : List ℕ) : Noted s (s.useAll ids) := by
  induction ids generalizing s with
  | nil => exact .refl s
  | cons id ids ih => exact (use_noted s id).trans (ih (s.use id))

theorem setReceiving_noted (s : IceTransportChannel) (receiving : Bool) :
    Noted s (s.setReceiving receiving) := by
  unfold setReceiving
  split
  · exact .refl s
  · exact ⟨⟨⟨rfl, rfl, rfl, rfl, .refl _, rfl, rfl, List.suffix_rfl⟩, fun _ => rfl⟩, rfl, rfl, rfl, rfl⟩

theorem setWritable_noted (s : IceTransportChannel) (writable : Bool) :
    Noted s (s.setWritable writable) := by
  unfold setWritable
  split
  · exact .refl s
  · exact ⟨⟨⟨rfl, rfl, rfl, rfl, .refl _, rfl, rfl, List.suffix_rfl⟩, fun _ => rfl⟩, rfl, rfl, rfl, rfl⟩

theorem setState_noted (s : IceTransportChannel) (state : IceTransportState) :
    Noted s ({ s with state := state }.emit .iceStateChange) :=
  ⟨⟨⟨rfl, rfl, rfl, rfl, .refl _, rfl, rfl, List.suffix_rfl⟩, fun _ => rfl⟩, rfl, rfl, rfl, rfl⟩

theorem updateState_noted (s : IceTransportChannel) : Noted s s.updateState := by
  have hflags : ∀ ids w ids' r, Noted s ((((s.useAll ids).setWritable w).useAll ids').setReceiving r) :=
    fun ids w ids' r => (((useAll_noted s ids).trans (setWritable_noted _ w)).trans
      (useAll_noted _ ids')).trans (setReceiving_noted _ r)
  unfold IceTransportChannel.updateState
  dsimp only
  split
  · exact (hflags _ _ _ _).trans (setState_noted _ _)
  · exact hflags _ _ _ _

theorem maybeStartPinging_noted (s : IceTransportChannel) (now : ℤ) :
    Noted s (s.maybeStartPinging now) := by
  unfold maybeStartPinging
  split
  · exact .refl s
  · dsimp only
    split
    · exact (useAll_noted _ _).trans
        ⟨⟨⟨rfl, rfl, rfl, rfl, .refl _, rfl, rfl, List.suffix_rfl⟩, fun _ => rfl⟩, rfl, rfl, rfl, rfl⟩
    · exact useAll_noted _ _

/-! ## Selecting -/

theorem setSelected_onlySelects (s : IceTransportChannel) (id : ℕ) (selected : Bool) :
    OnlySelects s (s.setSelected id selected) := by
  have hu := use_noted s id
  refine hu.onlySelects.trans ⟨⟨rfl, rfl, rfl, rfl, .refl _, rfl, rfl, List.suffix_rfl⟩, fun j => ?_⟩
  unfold setSelected
  by_cases hj : j = id
  · subst hj
    rw [setConn_heap_self, hu.heap]
    rfl
  · rw [setConn_heap_of_ne hj]

theorem setSelected_controller (s : IceTransportChannel) (id : ℕ) (selected : Bool) :
    (s.setSelected id selected).controller = s.controller ∧
      (s.setSelected id selected).selectedConnection = s.selectedConnection ∧
      (s.setSelected id selected).trace.observed = s.trace.observed :=
  have hu := use_noted s id
  ⟨hu.controller, hu.selected, hu.observed⟩

/-- What a switch leaves: the channel has the connection switched to, and
the controller has it where there is one. -/
structure Switched (s t : IceTransportChannel) (conn : Option ℕ) : Prop where
  onlySelects : OnlySelects s t
  selected : t.selectedConnection = conn
  controller : t.controller =
    s.controller.setSelectedConnection (conn.or s.controller.selectedConnection)
  observed : t.trace.observed = s.trace.observed

/-- The second half of `_switch_selected_connection`: the connection is told,
and the controller hears of it. -/
def tellSelected (s : IceTransportChannel) : Option ℕ → IceTransportChannel
  | none => s
  | some id =>
    let t := s.setSelected id true
    { t with controller := t.controller.setSelectedConnection t.selectedConnection }

/-- In the first half the connection selected before is told. -/
theorem switchSelectedConnection_eq (s : IceTransportChannel) (conn : Option ℕ) :
    s.switchSelectedConnection conn =
      tellSelected (s.selectedConnection.elim { s with selectedConnection := conn } fun old =>
        { s with selectedConnection := conn }.setSelected old false) conn := by
  unfold switchSelectedConnection
  cases s.selectedConnection <;> cases conn <;> rfl

theorem switchSelectedConnection_switched (s : IceTransportChannel) (conn : Option ℕ) :
    Switched s (s.switchSelectedConnection conn) conn := by
  let u := { s with selectedConnection := conn }
  have hu : OnlySelects s u :=
    ⟨⟨rfl, rfl, rfl, rfl, .refl _, rfl, rfl, List.suffix_rfl⟩, fun _ => rfl⟩
  -- the connection selected before is told first
  obtain ⟨v, hv, hcontroller, hselected, hobserved, heq⟩ : ∃ v, OnlySelects s v ∧
      v.controller = s.controller ∧ v.selectedConnection = conn ∧
      v.trace.observed = s.trace.observed ∧
      s.switchSelectedConnection conn = tellSelected v conn := by
    rw [switchSelectedConnection_eq]
    cases s.selectedConnection with
    | none => exact ⟨u, hu, rfl, rfl, rfl, rfl⟩
    | some old =>
      obtain ⟨h1, h2, h3⟩ := setSelected_controller u old false
      exact ⟨u.setSelected old false, hu.trans (setSelected_onlySelects u old false), h1, h2, h3, rfl⟩
  rw [heq]
  cases conn with
  | none => exact ⟨hv, hselected, hcontroller, hobserved⟩
  | some id =>
    obtain ⟨h1, h2, h3⟩ := setSelected_controller v id true
    have hset := hv.trans (setSelected_onlySelects v id true)
    refine ⟨⟨⟨hset.made, hset.destroyed, hset.ports, hset.closed, hset.connections,
      hset.requestsMade, hset.released, hset.deadUses⟩, hset.heap⟩, h2.trans hselected, ?_,
      h3.trans hobserved⟩
    show IceController.setSelectedConnection (v.setSelected id true).controller _ = _
    rw [h1, h2, hcontroller, hselected, Option.some_or]

/-- What the controller answers for the channel's sort. -/
def worthSwitching (s : IceTransportChannel) : Option ℕ :=
  (s.controller.sortAndSwitchConnection s.heap).2

/-- The best connection after the sort. -/
def topConnection (s : IceTransportChannel) : Option ℕ :=
  (IceController.stableSort s.heap s.controller.connections).head?

/-- What the sort compares the best connection with. -/
def comparedWith (s : IceTransportChannel) : List ℕ :=
  if IceController.readyToSend s.heap (topConnection s) then
    s.controller.selectedConnection.toList
  else []

theorem sortAndSwitch_fst (ctl : IceController) (heap : ℕ → IceConnection) :
    (ctl.sortAndSwitchConnection heap).1 =
      { ctl with connections := IceController.stableSort heap ctl.connections } := by
  unfold IceController.sortAndSwitchConnection
  dsimp only
  split
  · rfl
  · split
    · split <;> rfl
    · rfl

/-- What is marked of the connections a controller names. -/
def marks (s : IceTransportChannel) (ids : List ℕ) : List (ℕ × Bool) :=
  ids.map fun id => (id, decide (id ∈ s.controller.connections))

/-- What the channel's sort leaves. -/
structure Sorted (s t : IceTransportChannel) : Prop where
  onlySelects : OnlySelects s t
  heap : t.heap = s.heap
  selected : t.selectedConnection = s.selectedConnection
  controller : t.controller =
    { s.controller with connections := IceController.stableSort s.heap s.controller.connections }
  observed : t.trace.observed =
    s.trace.observed ++ marks s (comparedWith s ++ (worthSwitching s).toList)

theorem sortAndSwitchConnection_sorted (s : IceTransportChannel) :
    Sorted s s.sortAndSwitchConnection.1 ∧ s.sortAndSwitchConnection.2 = worthSwitching s := by
  have hall := useAll_noted s s.controller.connections
  have huses := hall.trans (useAll_noted _ (comparedWith s))
  have heq : s.sortAndSwitchConnection =
      ({ ((s.useAll s.controller.connections).useAll (comparedWith s)).observe
          (comparedWith s ++ (worthSwitching s).toList) with
        controller := { s.controller with
          connections := IceController.stableSort s.heap s.controller.connections } },
        worthSwitching s) := by
    simp only [IceTransportChannel.sortAndSwitchConnection, hall.heap, hall.controller,
      sortAndSwitch_fst]
    rfl
  rw [heq]
  have hbooks := huses.onlySelects
  refine ⟨⟨⟨⟨hbooks.made, hbooks.destroyed, hbooks.ports, hbooks.closed,
    List.perm_insertionSort _ _, hbooks.requestsMade, hbooks.released, hbooks.deadUses⟩,
    hbooks.heap⟩, huses.heap, huses.selected, rfl, ?_⟩, rfl⟩
  · show _ ++ List.map _ _ = _
    rw [huses.observed]
    unfold marks
    rw [huses.controller]

/-- **What `_sort_connections_and_update_state` does**: the channel and the
controller take the connection worth switching to, where there is one. -/
structure Reselected (s t : IceTransportChannel) : Prop where
  onlySelects : OnlySelects s t
  selected : t.selectedConnection = (worthSwitching s).or s.selectedConnection
  controller : t.controller =
    { s.controller with
      connections := IceController.stableSort s.heap s.controller.connections
      selectedConnection := (worthSwitching s).or s.controller.selectedConnection }
  observed : t.trace.observed =
    s.trace.observed ++ marks s (comparedWith s ++ (worthSwitching s).toList)

theorem sortConnectionsAndUpdateState_reselected (s : IceTransportChannel) (now : ℤ) :
    Reselected s (s.sortConnectionsAndUpdateState now) := by
  obtain ⟨hsorted, hworth⟩ := sortAndSwitchConnection_sorted s
  have hflags : ∀ t : IceTransportChannel, Noted t (t.updateState.maybeStartPinging now) :=
    fun t => (updateState_noted t).trans (maybeStartPinging_noted _ now)
  unfold sortConnectionsAndUpdateState
  dsimp only
  rw [hworth]
  unfold maybeSwitchSelectedConnection
  cases hw : worthSwitching s with
  | none =>
    have hf := hflags s.sortAndSwitchConnection.1
    refine ⟨hsorted.onlySelects.trans hf.onlySelects, ?_, ?_, ?_⟩
    · rw [hf.selected, hsorted.selected, hw, Option.none_or]
    · rw [hf.controller, hsorted.controller, hw, Option.none_or]
    · rw [hf.observed, hsorted.observed]
  | some id =>
    have hswitch := switchSelectedConnection_switched s.sortAndSwitchConnection.1 (some id)
    have hf := hflags (s.sortAndSwitchConnection.1.switchSelectedConnection (some id))
    refine ⟨(hsorted.onlySelects.trans hswitch.onlySelects).trans hf.onlySelects, ?_, ?_, ?_⟩
    · rw [hf.selected, hswitch.selected, hw, Option.some_or]
    · rw [hf.controller, hswitch.controller, hsorted.controller, hw, Option.some_or]
      rfl
    · rw [hf.observed, hswitch.observed, hsorted.observed]

/-! ## Uses -/

/-- No connection that the channel can reach has been destroyed. -/
structure Live (s : IceTransportChannel) : Prop where
  registered : ∀ id ∈ s.controller.connections, id ∉ s.destroyed
  controller : ∀ id, s.controller.selectedConnection = some id → id ∉ s.destroyed
  selected : ∀ id, s.selectedConnection = some id → id ∉ s.destroyed

/-- Nothing that has been destroyed was used. -/
structure Unharmed (s t : IceTransportChannel) : Prop where
  live : Live t
  deadUses : t.trace.deadUses = s.trace.deadUses

theorem Unharmed.trans (h : Unharmed s t) (k : Unharmed t u) :
    Unharmed s u :=
  ⟨k.live, k.deadUses.trans h.deadUses⟩

theorem Live.noted (h : Live s) (ht : Noted s t) : Live t where
  registered := by
    rw [ht.controller, ht.onlySelects.destroyed]
    exact h.registered
  controller := by
    rw [ht.controller, ht.onlySelects.destroyed]
    exact h.controller
  selected := by
    rw [ht.selected, ht.onlySelects.destroyed]
    exact h.selected

theorem setWritable_deadUses (s : IceTransportChannel) (writable : Bool) :
    (s.setWritable writable).trace.deadUses = s.trace.deadUses := by
  unfold setWritable
  split <;> rfl

theorem setReceiving_deadUses (s : IceTransportChannel) (receiving : Bool) :
    (s.setReceiving receiving).trace.deadUses = s.trace.deadUses := by
  unfold setReceiving
  split <;> rfl

theorem updateState_deadUses (hregistered : ∀ id ∈ s.controller.connections, id ∉ s.destroyed)
    (hselected : ∀ id, s.selectedConnection = some id → id ∉ s.destroyed) :
    s.updateState.trace.deadUses = s.trace.deadUses := by
  have hsel : s.useAll s.selectedConnection.toList = s :=
    useAll_of_not_mem fun id hid => hselected id (Option.mem_toList.1 hid)
  have hconns : ∀ w, (s.setWritable w).useAll (s.setWritable w).controller.connections =
      s.setWritable w := by
    intro w
    have hw := setWritable_noted s w
    refine useAll_of_not_mem fun id hid => ?_
    rw [hw.onlySelects.destroyed]
    exact hregistered id (hw.controller ▸ hid)
  unfold IceTransportChannel.updateState
  dsimp only
  rw [hsel, hconns]
  split
  · exact (setReceiving_deadUses _ _).trans (setWritable_deadUses _ _)
  · exact (setReceiving_deadUses _ _).trans (setWritable_deadUses _ _)

theorem updateState_unharmed (h : Live s) : Unharmed s s.updateState :=
  ⟨h.noted (updateState_noted s), updateState_deadUses h.registered h.selected⟩

theorem maybeStartPinging_unharmed (h : Live s) (now : ℤ) : Unharmed s (s.maybeStartPinging now) := by
  refine ⟨h.noted (maybeStartPinging_noted s now), ?_⟩
  have hread : s.useAll (s.controller.connections ++ s.controller.weakRead s.heap) = s := by
    refine useAll_of_not_mem fun id hid => ?_
    rcases List.mem_append.1 hid with hc | hw
    · exact h.registered id hc
    · unfold IceController.weakRead at hw
      split at hw
      · exact h.controller id (Option.mem_toList.1 hw)
      · cases hw
  unfold maybeStartPinging
  split
  · rfl
  · dsimp only
    rw [hread]
    split <;> rfl

theorem setSelected_deadUses (h : id ∉ s.destroyed) (selected : Bool) :
    (s.setSelected id selected).trace.deadUses = s.trace.deadUses := by
  unfold setSelected
  rw [use_of_not_mem h]
  rfl

theorem switchSelectedConnection_deadUses (h : Live s) (conn : Option ℕ)
    (hconn : ∀ id, conn = some id → id ∉ s.destroyed) :
    (s.switchSelectedConnection conn).trace.deadUses = s.trace.deadUses := by
  let u := { s with selectedConnection := conn }
  obtain ⟨v, hdestroyed, hdead, heq⟩ : ∃ v : IceTransportChannel, v.destroyed = s.destroyed ∧
      v.trace.deadUses = s.trace.deadUses ∧
      (s.switchSelectedConnection conn).trace.deadUses =
        match conn with
        | none => v.trace.deadUses
        | some id => (v.setSelected id true).trace.deadUses := by
    cases hold : s.selectedConnection with
    | none =>
      refine ⟨u, rfl, rfl, ?_⟩
      unfold switchSelectedConnection
      rw [hold]
      cases conn <;> rfl
    | some old =>
      have hlive : old ∉ u.destroyed := h.selected old hold
      refine ⟨u.setSelected old false, (setSelected_onlySelects u old false).destroyed,
        setSelected_deadUses hlive false, ?_⟩
      unfold switchSelectedConnection
      rw [hold]
      cases conn <;> rfl
  rw [heq]
  cases conn with
  | none => exact hdead
  | some id =>
    have hid : id ∉ v.destroyed := hdestroyed ▸ hconn id rfl
    exact (setSelected_deadUses hid true).trans hdead

theorem Live.switched (h : Live s) {conn : Option ℕ} (ht : Switched s t conn)
    (hconn : ∀ id, conn = some id → id ∉ s.destroyed) : Live t where
  registered := by
    rw [ht.controller, ht.onlySelects.destroyed]
    exact h.registered
  controller := by
    rw [ht.controller, ht.onlySelects.destroyed]
    intro id hid
    rcases Option.or_eq_some_iff.1 hid with hc | ⟨-, hold⟩
    · exact hconn id hc
    · exact h.controller id hold
  selected := by
    rw [ht.selected, ht.onlySelects.destroyed]
    exact hconn

theorem worthSwitching_mem (h : worthSwitching s = some id) : id ∈ s.controller.connections := by
  unfold worthSwitching IceController.sortAndSwitchConnection at h
  dsimp only at h
  have hhead : ∀ top, (IceController.stableSort s.heap s.controller.connections).head? = some top →
      top ∈ s.controller.connections := fun top htop => (head_stableSort htop).1
  split at h
  · cases h
  · split at h
    · rename_i htop hsel
      split at h
      · exact hhead id (htop.trans h)
      · cases h
    · exact hhead id h

theorem sortAndSwitchConnection_deadUses (h : Live s) :
    s.sortAndSwitchConnection.1.trace.deadUses = s.trace.deadUses := by
  have hall : s.useAll s.controller.connections = s := useAll_of_not_mem h.registered
  have hcompared : ∀ (b : Bool) ids, ((s.useAll (if b then s.controller.selectedConnection.toList
      else [])).observe ids).trace.deadUses = s.trace.deadUses := by
    intro b ids
    rw [useAll_of_not_mem]
    · rfl
    · intro id hid
      split at hid
      · exact h.controller id (Option.mem_toList.1 hid)
      · cases hid
  unfold IceTransportChannel.sortAndSwitchConnection
  rw [hall]
  exact hcompared _ _

/-- **Sorting and selecting use only what is alive.** -/
theorem sortConnectionsAndUpdateState_unharmed (h : Live s) (now : ℤ) :
    Unharmed s (s.sortConnectionsAndUpdateState now) := by
  obtain ⟨hsorted, hworth⟩ := sortAndSwitchConnection_sorted s
  have hlive : Live s.sortAndSwitchConnection.1 := by
    refine ⟨fun j hj => ?_, fun j hj => ?_, fun j hj => ?_⟩
    · rw [hsorted.onlySelects.destroyed]
      exact h.registered j (hsorted.onlySelects.mem.1 hj)
    · rw [hsorted.onlySelects.destroyed]
      rw [hsorted.controller] at hj
      exact h.controller j hj
    · rw [hsorted.onlySelects.destroyed]
      rw [hsorted.selected] at hj
      exact h.selected j hj
  have hdead := sortAndSwitchConnection_deadUses h
  have hflags : ∀ t : IceTransportChannel, Live t → Unharmed t (t.updateState.maybeStartPinging now) :=
    fun t ht => (updateState_unharmed ht).trans
      (maybeStartPinging_unharmed (updateState_unharmed ht).live now)
  unfold sortConnectionsAndUpdateState
  dsimp only
  rw [hworth]
  unfold maybeSwitchSelectedConnection
  cases hw : worthSwitching s with
  | none => exact (Unharmed.mk hlive hdead).trans (hflags _ hlive)
  | some id =>
    have hmem : id ∉ s.sortAndSwitchConnection.1.destroyed := by
      rw [hsorted.onlySelects.destroyed]
      exact h.registered id (worthSwitching_mem hw)
    have hswitch := switchSelectedConnection_switched s.sortAndSwitchConnection.1 (some id)
    have hswitchDead := switchSelectedConnection_deadUses hlive (some id)
      fun j hj => Option.some.inj hj ▸ hmem
    have hnext := hlive.switched hswitch fun j hj => Option.some.inj hj ▸ hmem
    exact (Unharmed.mk hnext (hswitchDead.trans hdead)).trans (hflags _ hnext)

end Ice

end XrtcServer
