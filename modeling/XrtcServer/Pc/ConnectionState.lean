import XrtcServer.Pc.Model.ConnectionState
import XrtcServer.Common.Signals
import Mathlib.Data.List.Induction
/-!
# The two aggregates

The controller runs again for the channels only when the agent's own
aggregate changes. That hides nothing: the channels enter the state of the
connection through that aggregate alone (`computePcState_eq`), as long as
their states are those a channel computes.
-/

namespace XrtcServer

namespace Pc

namespace ConnectionState

open Ice Dtls

variable {l l' : List Transport} {tc : TransportController}

/-! ## The documented rules -/

/-- The five rules of the connection's state in the order of their
precedence, as the comment above `_update_state` and the notes give them;
`none` where none of them applies. -/
def documentedState (transports : List Transport) : Option PeerConnectionState :=
  if transports.any fun t => t.dtlsState = .failed || t.iceState = .failed then some .failed
  else if transports.any fun t => t.iceState = .disconnected then some .disconnected
  else if transports.all fun t => (t.dtlsState = .new || t.dtlsState = .closed) &&
      (t.iceState = .new || t.iceState = .closed) then some .new
  else if transports.any fun t => t.iceState = .checking || t.dtlsState = .connecting then
    some .connecting
  else if transports.all fun t => (t.dtlsState = .connected || t.dtlsState = .closed) &&
      (t.iceState = .connected || t.iceState = .completed || t.iceState = .closed) then
    some .connected
  else none

/-! ## Counting -/

/-- What a channel computes is one of five states. -/
theorem computeIceTransportState_mem (ch : IceTransportChannel) :
    ch.computeIceTransportState ∈ computedStates := by
  unfold IceTransportChannel.computeIceTransportState computedStates
  simp only
  split_ifs <;> simp

/-- Every transport's channel is in a computed state. -/
def Computed (l : List Transport) : Prop := ∀ t ∈ l, t.iceState ∈ computedStates

theorem any_or_iff {p q : Transport → Bool} :
    (l.any fun t => p t || q t) = true ↔ 0 < l.countP p + l.countP q := by
  rw [Nat.add_pos_iff_pos_or_pos, List.countP_pos_iff, List.countP_pos_iff]
  simp only [List.any_eq_true, Bool.or_eq_true]
  grind

theorem all_and_iff {p q : Transport → Bool} :
    (l.all fun t => p t && q t) = true ↔ l.countP p = l.length ∧ l.countP q = l.length := by
  rw [List.countP_eq_length, List.countP_eq_length]
  simp only [List.all_eq_true, Bool.and_eq_true]
  grind

/-- A change that does not matter to what is counted. -/
theorem countP_set_of_eq {p : Transport → Bool} {i : ℕ} {t t' : Transport}
    (hi : l[i]? = some t) (hp : p t' = p t) : (l.set i t').countP p = l.countP p := by
  obtain ⟨hlt, rfl⟩ := List.getElem?_eq_some_iff.1 hi
  rw [List.countP_set hlt, hp]
  split
  · rename_i h
    have hpos : 0 < l.countP p := List.countP_pos_iff.2 ⟨_, List.getElem_mem hlt, h⟩
    omega
  · omega

/-- Two states are counted together. -/
theorem countP_add {p q : Transport → Bool} (h : ∀ t, p t = true → q t = false) :
    l.countP p + l.countP q = l.countP fun t => p t || q t := by
  induction l with
  | nil => rfl
  | cons t l ih =>
    rw [List.countP_cons, List.countP_cons, List.countP_cons, ← ih]
    have ht := h t
    cases hp : p t
    · simp
      omega
    · simp [ht hp]
      omega

/-- Every transport is in one of the five DTLS states. -/
theorem dtlsStateCount_sum (l : List Transport) :
    dtlsStateCount l .new + dtlsStateCount l .connecting + dtlsStateCount l .connected +
      dtlsStateCount l .closed + dtlsStateCount l .failed = l.length := by
  induction l with
  | nil => rfl
  | cons t l ih =>
    simp only [dtlsStateCount, List.countP_cons, List.length_cons] at ih ⊢
    cases t.dtlsState <;> simp <;> omega

/-- And in one of the five ICE states that are computed. -/
theorem iceStateCount_sum (h : Computed l) :
    iceStateCount l .new + iceStateCount l .checking + iceStateCount l .connected +
      iceStateCount l .disconnected + iceStateCount l .failed = l.length ∧
    iceStateCount l .completed = 0 ∧ iceStateCount l .closed = 0 := by
  induction l with
  | nil => exact ⟨rfl, rfl, rfl⟩
  | cons t l ih =>
    have hl := ih fun t' ht' => h t' (List.mem_cons_of_mem _ ht')
    have ht := h t List.mem_cons_self
    simp only [iceStateCount, List.countP_cons, List.length_cons] at hl ⊢
    cases hs : t.iceState <;>
      simp [hs, computedStates, -List.countP_eq_zero] at ht ⊢ <;> omega

/-! ## The outer aggregate through the inner one -/

/-- The state of the connection, of the agent's state and the DTLS states. -/
def combine (iceState : IceTransportState) (l : List Transport) : PeerConnectionState :=
  if dtlsStateCount l .failed > 0 ∨ iceState = .failed then .failed
  else if iceState = .disconnected then .disconnected
  else if iceState = .new ∧ dtlsStateCount l .new + dtlsStateCount l .closed = l.length then .new
  else if iceState = .connected ∧ dtlsStateCount l .connecting + dtlsStateCount l .new = 0 then
    .connected
  else .connecting

/-- The agent's state and the counts that lead to it. -/
theorem computeIceState_cases (h : Computed l) :
    (computeIceState l = .failed ∧ 0 < iceStateCount l .failed) ∨
    (computeIceState l = .disconnected ∧ iceStateCount l .failed = 0 ∧
      0 < iceStateCount l .disconnected) ∨
    (computeIceState l = .new ∧ iceStateCount l .new = l.length) ∨
    (computeIceState l = .checking ∧ iceStateCount l .failed = 0 ∧
      iceStateCount l .disconnected = 0 ∧ iceStateCount l .new < l.length ∧
      0 < iceStateCount l .new + iceStateCount l .checking) ∨
    (computeIceState l = .connected ∧ iceStateCount l .connected = l.length ∧ 0 < l.length) := by
  obtain ⟨hsum, hcompleted, hclosed⟩ := iceStateCount_sum h
  rw [computeIceState]
  simp only [hcompleted, hclosed]
  split_ifs with hf hd hn hc hk hk
  · exact .inl ⟨rfl, hf⟩
  · exact .inr (.inl ⟨rfl, by omega, hd⟩)
  · exact .inr (.inr (.inl ⟨rfl, hn⟩))
  · exact .inr (.inr (.inr (.inl ⟨rfl, by omega, by omega, by omega, hc⟩)))
  · omega
  · exact .inr (.inr (.inr (.inr ⟨rfl, by omega, by omega⟩)))
  · omega

/-- **The channels enter through the agent's state alone.** -/
theorem computePcState_eq (h : Computed l) :
    computePcState l = combine (computeIceState l) l := by
  obtain ⟨hice, hcompleted, hclosed⟩ := iceStateCount_sum h
  have hdtls := dtlsStateCount_sum l
  rw [computePcState, combine]
  simp only [hcompleted, hclosed]
  -- each rule of the agent leaves few of the controller's
  rcases computeIceState_cases h with ⟨hs, hc⟩ | ⟨hs, hc⟩ | ⟨hs, hc⟩ | ⟨hs, hc⟩ | ⟨hs, hc⟩ <;>
    simp only [hs, reduceCtorEq, or_false, or_true, false_and, true_and, if_true, if_false]
  · rw [if_pos (by omega)]
  · split_ifs <;> first | rfl | omega
  · split_ifs <;> first | rfl | omega
  · split_ifs <;> first | rfl | omega
  · split_ifs <;> first | rfl | omega

/-! ## The documented rules in counts -/

theorem failed_iff : (l.any fun t => t.dtlsState = .failed || t.iceState = .failed) = true ↔
    0 < dtlsStateCount l .failed + iceStateCount l .failed :=
  any_or_iff

theorem disconnected_iff : (l.any fun t => t.iceState = .disconnected) = true ↔
    0 < iceStateCount l .disconnected := by
  rw [iceStateCount, List.countP_pos_iff, List.any_eq_true]

theorem new_iff : (l.all fun t => (t.dtlsState = .new || t.dtlsState = .closed) &&
      (t.iceState = .new || t.iceState = .closed)) = true ↔
    dtlsStateCount l .new + dtlsStateCount l .closed = l.length ∧
      iceStateCount l .new + iceStateCount l .closed = l.length := by
  rw [all_and_iff, dtlsStateCount, dtlsStateCount, iceStateCount, iceStateCount,
    countP_add (by grind), countP_add (by grind)]

theorem connecting_iff :
    (l.any fun t => t.iceState = .checking || t.dtlsState = .connecting) = true ↔
      0 < iceStateCount l .checking + dtlsStateCount l .connecting :=
  any_or_iff

theorem connected_iff : (l.all fun t => (t.dtlsState = .connected || t.dtlsState = .closed) &&
      (t.iceState = .connected || t.iceState = .completed || t.iceState = .closed)) = true ↔
    dtlsStateCount l .connected + dtlsStateCount l .closed = l.length ∧
      iceStateCount l .connected + iceStateCount l .completed + iceStateCount l .closed =
        l.length := by
  rw [all_and_iff, dtlsStateCount, dtlsStateCount, iceStateCount, iceStateCount, iceStateCount,
    countP_add (by grind), countP_add (by grind), countP_add (by grind)]

/-- **The state of the connection is the documented one**, and connecting
where the rules say nothing: what is new then stands beside what is not. -/
theorem computePcState_documented (h : Computed l) :
    computePcState l = (documentedState l).getD .connecting := by
  obtain ⟨hice, hcompleted, hclosed⟩ := iceStateCount_sum h
  have hdtls := dtlsStateCount_sum l
  rw [computePcState, documentedState]
  simp only [failed_iff, disconnected_iff, new_iff, connecting_iff, connected_iff, hcompleted,
    hclosed]
  by_cases hf : 0 < dtlsStateCount l .failed + iceStateCount l .failed
  · rw [if_pos hf, if_pos (by omega), Option.getD_some]
  rw [if_neg hf, if_neg (by omega)]
  by_cases hd : 0 < iceStateCount l .disconnected
  · rw [if_pos hd, if_pos hd, Option.getD_some]
  rw [if_neg hd, if_neg hd]
  by_cases hn : dtlsStateCount l .new + dtlsStateCount l .closed = l.length ∧
      iceStateCount l .new + 0 = l.length
  · rw [if_pos hn, if_pos (by omega), Option.getD_some]
  rw [if_neg hn, if_neg (by omega)]
  split_ifs <;> first | rfl | omega

/-! ## Propagating a change -/

/-- The states signalled differ from one to the next, from new to the last. -/
structure Tracked (tc : TransportController) : Prop where
  chain : (PeerConnectionState.new :: tc.signals).IsChain (· ≠ ·)
  last : (PeerConnectionState.new :: tc.signals).getLast? = some tc.pcState

/-- Both aggregates are up to date. -/
structure Settled (tc : TransportController) : Prop extends Tracked tc where
  computed : Computed tc.transports
  ice : tc.iceState = computeIceState tc.transports
  pc : tc.pcState = computePcState tc.transports

theorem updateState_of_eq (h : tc.pcState = computePcState tc.transports) :
    tc.updateState = tc := by
  rw [TransportController.updateState, if_neg (not_not.2 h)]

/-- What an update does: the state is the aggregate, and signalled if it changed. -/
theorem updateState_spec (h : Tracked tc) :
    Tracked tc.updateState ∧ tc.updateState.transports = tc.transports ∧
      tc.updateState.iceState = tc.iceState ∧
      tc.updateState.pcState = computePcState tc.transports := by
  rw [TransportController.updateState]
  split
  · rename_i hne
    have hchanged := (Common.Announced.mk h.chain h.last).concat hne
    exact ⟨⟨hchanged.chain, hchanged.last⟩, rfl, rfl, rfl⟩
  · rename_i heq
    exact ⟨h, rfl, rfl, not_not.1 heq⟩

/-- The update is made once for each transport, and the first of them is
the one that counts. -/
theorem signalIceState_spec (tc : TransportController) (h : Tracked tc) (hne : tc.transports ≠ []) :
    Tracked tc.signalIceState ∧ tc.signalIceState.transports = tc.transports ∧
      tc.signalIceState.iceState = tc.iceState ∧
      tc.signalIceState.pcState = computePcState tc.transports := by
  obtain ⟨n, hn⟩ := Nat.exists_eq_succ_of_ne_zero (List.length_pos_iff.2 hne).ne'
  obtain ⟨htracked, htransports, hice, hpc⟩ := updateState_spec h
  have hfix : ∀ n, TransportController.updateState^[n] tc.updateState = tc.updateState :=
    Function.iterate_fixed (updateState_of_eq (hpc.trans (by rw [htransports])))
  have hall : tc.signalIceState = tc.updateState := by
    rw [TransportController.signalIceState, hn, Function.iterate_succ_apply, hfix]
  rw [hall]
  exact ⟨htracked, htransports, hice, hpc⟩

/-- Changing channels leaves the DTLS states as they are. -/
theorem combine_set_ice {i : ℕ} {t : Transport} (hi : l[i]? = some t) (state : IceTransportState)
    (iceState : IceTransportState) :
    combine iceState (l.set i { t with iceState := state }) = combine iceState l := by
  have hcount : ∀ s, dtlsStateCount (l.set i { t with iceState := state }) s =
      dtlsStateCount l s := fun s => countP_set_of_eq hi rfl
  rw [combine, combine]
  simp only [hcount, List.length_set]

theorem Computed.set (h : Computed l) {i : ℕ} {t : Transport} (ht : t.iceState ∈ computedStates) :
    Computed (l.set i t) := by
  intro t' ht'
  rcases List.mem_or_eq_of_mem_set ht' with hmem | rfl
  · exact h t' hmem
  · exact ht

/-- A change of a DTLS state goes straight to the controller. -/
theorem Settled.setDtlsState (h : Settled tc) (i : ℕ) (state : DtlsTransportState) :
    Settled (tc.setDtlsState i state) := by
  rw [TransportController.setDtlsState]
  split
  · exact h
  · rename_i t hi
    split
    · exact h
    · have hmem := List.mem_of_getElem? hi
      have hcomputed : Computed (tc.transports.set i { t with dtlsState := state }) :=
        h.computed.set (h.computed t hmem)
      have htracked : Tracked
          { tc with transports := tc.transports.set i { t with dtlsState := state } } :=
        ⟨h.chain, h.last⟩
      obtain ⟨htracked', htransports, hice, hpc⟩ := updateState_spec htracked
      refine ⟨htracked', by rw [htransports]; exact hcomputed, ?_, by rw [hpc, htransports]⟩
      rw [hice, htransports]
      -- the agent counts the channels, whose states stay
      have hcount : ∀ s, iceStateCount (tc.transports.set i { t with dtlsState := state }) s =
          iceStateCount tc.transports s := fun s => countP_set_of_eq hi rfl
      show tc.iceState = _
      rw [h.ice, computeIceState, computeIceState]
      simp only [hcount, List.length_set]

/-- A change of a channel goes to the controller where it changes the
agent's aggregate, and where it does not there is nothing to be done. -/
theorem Settled.setIceState (h : Settled tc) (i : ℕ) {state : IceTransportState}
    (hstate : state ∈ computedStates) : Settled (tc.setIceState i state) := by
  rw [TransportController.setIceState]
  split
  · exact h
  · rename_i t hi
    split
    · exact h
    · have hcomputed : Computed (tc.transports.set i { t with iceState := state }) :=
        h.computed.set hstate
      have hne : tc.transports.set i { t with iceState := state } ≠ [] := by
        have hlt := (List.getElem?_eq_some_iff.1 hi).1
        rw [← List.length_pos_iff, List.length_set]
        omega
      rw [TransportController.updateIceState]
      simp only
      split
      · -- nothing is computed to be completed
        have hcompleted : computeIceState (tc.transports.set i { t with iceState := state }) ≠
            .completed := by
          rcases computeIceState_cases hcomputed with ⟨hs, -⟩ | ⟨hs, -⟩ | ⟨hs, -⟩ | ⟨hs, -⟩ |
            ⟨hs, -⟩ <;> rw [hs] <;> nofun
        rw [if_neg fun hc => hcompleted hc.2]
        obtain ⟨htracked, htransports, hice, hpc⟩ := signalIceState_spec
          { tc with
            transports := tc.transports.set i { t with iceState := state }
            iceState := computeIceState (tc.transports.set i { t with iceState := state }) }
          ⟨h.chain, h.last⟩ hne
        exact ⟨htracked, by rw [htransports]; exact hcomputed, by rw [hice, htransports],
          by rw [hpc, htransports]⟩
      · rename_i heq
        have hsame : tc.iceState =
            computeIceState (tc.transports.set i { t with iceState := state }) := not_not.1 heq
        refine ⟨⟨h.chain, h.last⟩, hcomputed, hsame, ?_⟩
        calc tc.pcState = combine (computeIceState tc.transports) tc.transports :=
              h.pc.trans (computePcState_eq h.computed)
          _ = combine tc.iceState (tc.transports.set i { t with iceState := state }) := by
              rw [combine_set_ice hi, h.ice]
          _ = computePcState (tc.transports.set i { t with iceState := state }) := by
              rw [computePcState_eq hcomputed, hsame]

/-- **Every change is propagated.** -/
theorem Settled.propagate (h : Settled tc) (change : Change) : Settled (propagate tc change) := by
  cases change with
  | dtls i state => exact h.setDtlsState i state
  | ice i state => exact h.setIceState i state.2
  | dtlsFlag =>
    show Settled tc.updateState
    rw [updateState_of_eq h.pc]
    exact h
  | iceFlag =>
    show Settled tc.updateIceState
    rw [TransportController.updateIceState, if_neg (not_not.2 h.ice)]
    exact h

theorem settled_init (n : ℕ) : Settled (init n) := by
  have hmem : ∀ t ∈ (init n).transports, t = {} := fun t ht => List.eq_of_mem_replicate ht
  have hice : computeIceState (init n).transports = .new := by
    have hzero : ∀ s, s ≠ .new → iceStateCount (init n).transports s = 0 := by
      intro s hs
      refine List.countP_eq_zero.2 fun t ht => ?_
      rw [hmem t ht, decide_eq_true_iff]
      exact hs.symm
    have hall : iceStateCount (init n).transports .new = (init n).transports.length := by
      refine List.countP_eq_length.2 fun t ht => ?_
      rw [hmem t ht]
      rfl
    rw [computeIceState]
    simp only [hzero _ (show IceTransportState.failed ≠ .new by nofun),
      hzero _ (show IceTransportState.disconnected ≠ .new by nofun),
      hzero _ (show IceTransportState.closed ≠ .new by nofun), hall]
    simp
  have hcomputed : Computed (init n).transports := by
    intro t ht
    rw [hmem t ht]
    simp [computedStates]
  refine ⟨⟨List.IsChain.singleton _, rfl⟩, hcomputed, hice.symm, ?_⟩
  have hdtls : dtlsStateCount (init n).transports .new = (init n).transports.length := by
    refine List.countP_eq_length.2 fun t ht => ?_
    rw [hmem t ht]
    rfl
  have hsum := dtlsStateCount_sum (init n).transports
  rw [computePcState_eq hcomputed, hice, combine]
  simp only [reduceCtorEq, or_false, true_and, if_false, false_and]
  rw [if_neg (by omega), if_pos (by omega)]
  rfl

/-- **The state of the connection is the documented aggregate of the states
of all transports**, after every change of any of them, for any number of
transports; and no state is signalled twice in a row. -/
theorem pcState_documented (n : ℕ) (changes : List Change) :
    (∀ state, documentedState (changes.foldl propagate (init n)).transports = some state →
      (changes.foldl propagate (init n)).pcState = state) ∧
    (documentedState (changes.foldl propagate (init n)).transports = none →
      (changes.foldl propagate (init n)).pcState = .connecting) ∧
    (changes.foldl propagate (init n)).signals.IsChain (· ≠ ·) := by
  have hsettled : Settled (changes.foldl propagate (init n)) := by
    induction changes using List.reverseRecOn with
    | nil => exact settled_init n
    | append_singleton changes change ih =>
      rw [List.foldl_append]
      exact ih.propagate change
  have hpc := hsettled.pc.trans (computePcState_documented hsettled.computed)
  refine ⟨fun state hd => ?_, fun hd => ?_, ?_⟩
  · rw [hpc, hd, Option.getD_some]
  · rw [hpc, hd, Option.getD_none]
  · exact hsettled.chain.tail

end ConnectionState

end Pc

end XrtcServer
