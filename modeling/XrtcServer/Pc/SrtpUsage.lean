import XrtcServer.Common.Run
import XrtcServer.Common.Usage
import XrtcServer.Pc.Model.SrtpSession
/-!
# The pair of sessions, and who uses libsrtp

`set_rtp_params` either gives both sessions of a transport what it was
called with or leaves the transport without sessions, whichever call of
libsrtp fails. The sessions are the users of the library: each that sets
`_inited` counts until it is destroyed, so the use count is the number of
such sessions in the whole process, and the library is initialised and shut
down where that number leaves zero and where it gets back there.
-/

namespace XrtcServer

namespace Pc

namespace Srtp

open Common

/-- What a call is to the library's use. -/
def SrtpCall.use : SrtpCall → Option Use
  | .init => some .init
  | .sessionInited => some .taken
  | .sessionDestroyed => some .dropped
  | .shutdown => some .shutdown
  | .installEventHandler | .create _ | .update _ | .dealloc => none

/-- How the library has been used. -/
def Usage.uses (g : Usage) : List Use := g.calls.filterMap SrtpCall.use

/-- The sessions a transport has. -/
def SrtpTransport.sessions (t : SrtpTransport) : List SrtpSession :=
  t.sendSession.toList ++ t.recvSession.toList

/-- How many of them have set `_inited`. -/
def SrtpTransport.inited (t : SrtpTransport) : ℕ := t.sessions.countP (·.inited)

/-- How many sessions of the process have. -/
def Process.inited (p : Process) : ℕ := (p.transports.flatMap (·.sessions)).countP (·.inited)

/-- The session was made or updated with this suite and key. -/
def SrtpSession.Holds (s : SrtpSession) (type : SsrcType) (cs : ℤ) (key : Option (List UInt8)) :
    Prop :=
  ∃ policy, s.session = some policy ∧ policy.ssrcType = type ∧ policy.profile = cs ∧
    key = some policy.key

/-- `n` sessions use the library, by the count and by what happened. -/
structure Usage.By (g : Usage) (n : ℕ) : Prop where
  count : g.count = n
  lazy : LazyUse g.uses n

variable {lib : Libsrtp} {s r : SrtpSession} {t : SrtpTransport} {g : Usage} {n : ℕ}
variable {type : SsrcType} {cs sendCs recvCs : ℤ} {key sendKey recvKey : Option (List UInt8)}

/-! ## The count -/

theorem uses_call (g : Usage) (c : SrtpCall) : (g.call c).uses = g.uses ++ c.use.toList := by
  unfold Usage.uses Usage.call
  rw [List.filterMap_append]
  cases hc : c.use <;> simp [hc]

theorem Usage.By.call (h : g.By n) {c : SrtpCall} (hc : c.use = none) : (g.call c).By n := by
  refine ⟨h.count, ?_⟩
  rw [uses_call, hc, Option.toList_none, List.append_nil]
  exact h.lazy

section Init

variable (hinit : ∀ calls, lib.init calls = true)
variable (hinstall : ∀ calls, lib.installEventHandler calls = true)

include hinit hinstall

/-- A session that sets `_inited` is one user more. -/
theorem incrementAndMaybeInit_by (h : g.By n) :
    ∃ g', g.incrementAndMaybeInit lib = (g', true) ∧ (g'.call .sessionInited).By (n + 1) := by
  unfold Usage.incrementAndMaybeInit
  cases n with
  | zero =>
    have hzero : g.count = 0 := h.count
    rw [if_pos hzero, hinit, if_neg (by simp), hinstall, if_neg (by simp)]
    refine ⟨_, rfl, congrArg (· + 1) hzero, ?_⟩
    · have huses : (({ (g.call .init).call .installEventHandler with count := g.count + 1 } :
          Usage).call .sessionInited).uses = g.uses ++ [.init, .taken] := by
        rw [uses_call]
        show ((g.call .init).call .installEventHandler).uses ++ _ = _
        rw [uses_call, uses_call]
        simp [SrtpCall.use]
      rw [huses]
      exact .first h.lazy
  | succ n =>
    have hcount : ¬ g.count = 0 := by
      rw [h.count]
      omega
    rw [if_neg hcount]
    refine ⟨_, rfl, ?_, ?_⟩
    · show g.count + 1 = _
      rw [h.count]
      rfl
    · rw [uses_call]
      exact .more h.lazy

/-! ## One session -/

omit hinit hinstall in
/-- Whatever libsrtp answers, the number of users stays. -/
theorem doSetKey_by (s : SrtpSession) (type : SsrcType) (cs : ℤ) (key : Option (List UInt8))
    (h : g.By n) :
    ∃ s' g' ok, s.doSetKey lib g type cs key = (s', g', ok) ∧ s'.inited = s.inited ∧ g'.By n ∧
      (ok = true → s'.Holds type cs key) := by
  unfold SrtpSession.doSetKey
  split
  · split
    · exact ⟨_, _, _, rfl, rfl, h, nofun⟩
    · split
      · exact ⟨_, _, _, rfl, rfl, h, nofun⟩
      · unfold SrtpSession.install
        dsimp only
        split
        · split
          · exact ⟨_, _, _, rfl, rfl, h.call rfl, fun _ => ⟨_, rfl, rfl, rfl, rfl⟩⟩
          · exact ⟨_, _, _, rfl, rfl, h.call rfl, nofun⟩
        · split
          · exact ⟨_, _, _, rfl, rfl, h.call rfl, fun _ => ⟨_, rfl, rfl, rfl, rfl⟩⟩
          · exact ⟨_, _, _, rfl, rfl, h.call rfl, nofun⟩
  · exact ⟨_, _, _, rfl, rfl, h, nofun⟩

/-- A session before it is given a key, and one that has been. -/
def SrtpSession.Fits (newSession : Bool) (s : SrtpSession) : Prop :=
  if newSession then s = {} else s.session.isSome = true ∧ s.inited = true

/-- `set_send` and `set_recv` on a new session, `update_send` and
`update_recv` on another: it is a user afterwards, whether or not it has
got its key. -/
theorem setOrUpdate_by (newSession : Bool) (type : SsrcType) (cs : ℤ) (key : Option (List UInt8))
    (hs : s.Fits newSession)
    (h : g.By (n + [s].countP (·.inited))) :
    ∃ s' g' ok, (if newSession then s.setKey lib g type cs key
        else s.updateKey lib g type cs key) = (s', g', ok) ∧ s'.inited = true ∧ g'.By (n + 1) ∧
      (ok = true → s'.Holds type cs key) := by
  cases newSession with
  | true =>
    obtain rfl : s = {} := hs
    obtain ⟨g₁, hincrement, hby⟩ := incrementAndMaybeInit_by hinit hinstall h
    obtain ⟨s', g', ok, heq, hinited, hby', hholds⟩ :=
      doSetKey_by { inited := true } type cs key hby
    refine ⟨s', g', ok, ?_, hinited, hby', hholds⟩
    unfold SrtpSession.setKey
    rw [if_pos rfl, hincrement]
    exact heq
  | false =>
    obtain ⟨hsome, hinited⟩ : s.session.isSome = true ∧ s.inited = true := hs
    have hone : [s].countP (·.inited) = 1 := by simp [hinited]
    rw [hone] at h
    obtain ⟨s', g', ok, heq, hsame, hby', hholds⟩ :=
      doSetKey_by s type cs key h
    refine ⟨s', g', ok, ?_, hsame.trans hinited, hby', hholds⟩
    unfold SrtpSession.updateKey
    rw [if_neg Bool.false_ne_true, if_neg (by simp [Option.isNone_eq_false_iff.2 hsome])]
    exact heq

end Init

/-! ## Sessions that go -/

/-- A session that had set `_inited` is one user less. -/
theorem decrementAndMaybeDeinit_by (h : g.By (n + 1)) :
    ((g.call .sessionDestroyed).decrementAndMaybeDeinit).By n := by
  unfold Usage.decrementAndMaybeDeinit
  have hcount : (g.call .sessionDestroyed).count - 1 = n := by
    show g.count - 1 = n
    rw [h.count]
    omega
  have huses : (g.call .sessionDestroyed).uses = g.uses ++ [.dropped] := uses_call g _
  dsimp only
  rw [hcount]
  cases n with
  | zero =>
    have hzero : ((0 : ℕ) : ℤ) = 0 := rfl
    rw [if_pos hzero]
    refine ⟨rfl, ?_⟩
    have hlast : (({ count := (0 : ℕ), calls := (g.call .sessionDestroyed).calls } : Usage).call
        .shutdown).uses = g.uses ++ [.dropped, .shutdown] := by
      rw [uses_call]
      show (g.call .sessionDestroyed).uses ++ [.shutdown] = _
      rw [huses, List.append_assoc]
      rfl
    rw [hlast]
    exact .last h.lazy
  | succ n =>
    rw [if_neg (by omega)]
    refine ⟨rfl, ?_⟩
    show LazyUse (g.call .sessionDestroyed).uses (n + 1)
    rw [huses]
    exact .fewer h.lazy

theorem destroy_by (h : g.By (n + [s].countP (·.inited))) : (s.destroy g).By n := by
  have hdealloc : (if s.session.isSome then g.call .dealloc else g).By
      (n + [s].countP (·.inited)) := by
    split
    · exact h.call rfl
    · exact h
  unfold SrtpSession.destroy
  generalize (if s.session.isSome then g.call .dealloc else g) = g' at hdealloc
  dsimp only
  split
  · rename_i hinited
    have hone : [s].countP (·.inited) = 1 := by simp [hinited]
    exact decrementAndMaybeDeinit_by (hone ▸ hdealloc)
  · rename_i hinited
    have hnone : [s].countP (·.inited) = 0 := by simp [hinited]
    rw [hnone] at hdealloc
    exact hdealloc

theorem destroyOld_by {old : Option SrtpSession}
    (h : g.By (n + old.toList.countP (·.inited))) : (destroyOld old g).By n := by
  cases old with
  | none => exact h
  | some s => exact destroy_by h

theorem sessionsGone_by (h : g.By (n + t.inited)) :
    (destroyOld t.recvSession (destroyOld t.sendSession g)).By n := by
  unfold SrtpTransport.inited SrtpTransport.sessions at h
  rw [List.countP_append, Nat.add_comm (List.countP _ _), ← Nat.add_assoc] at h
  exact destroyOld_by (destroyOld_by h)

/-! ## A transport -/

/-- It has no session, or two that are of use. -/
def SrtpTransport.Whole (t : SrtpTransport) : Prop :=
  t = {} ∨ ∃ s r, t = ⟨some s, some r⟩ ∧ s.Fits false ∧ r.Fits false

/-- Both sessions hold what was given. -/
def SrtpTransport.Given (t : SrtpTransport) (sendCs : ℤ) (sendKey : Option (List UInt8))
    (recvCs : ℤ) (recvKey : Option (List UInt8)) : Prop :=
  ∃ s r, t = ⟨some s, some r⟩ ∧ s.Holds .ssrcAnyOutbound sendCs sendKey ∧
    r.Holds .ssrcAnyInbound recvCs recvKey

theorem SrtpSession.Holds.fits (h : s.Holds type cs key) (hinited : s.inited = true) :
    s.Fits false := by
  obtain ⟨policy, hsession, -⟩ := h
  exact ⟨by rw [hsession]; rfl, hinited⟩

/-- How `set_rtp_params` goes on once there are two sessions. -/
theorem setBoth_eq {s' r' : SrtpSession} {g₁ g₂ : Usage} {sent received newSession : Bool}
    (hsend : (if newSession then s.setSend lib g sendCs sendKey
      else s.updateSend lib g sendCs sendKey) = (s', g₁, sent))
    (hrecv : (if newSession then r.setRecv lib g₁ recvCs recvKey
      else r.updateRecv lib g₁ recvCs recvKey) = (r', g₂, received)) :
    (⟨some s, some r⟩ : SrtpTransport).setBoth lib g newSession sendCs sendKey recvCs recvKey =
      some (if sent = false then ({}, destroyOld (some r) (destroyOld (some s') g₁), false)
        else if received = false then
          ({}, destroyOld (some r') (destroyOld (some s') g₂), false)
        else (⟨some s', some r'⟩, g₂, true)) := by
  unfold SrtpTransport.setBoth
  simp only [Option.bind_eq_bind, Option.bind_some, hsend, hrecv]
  cases sent with
  | false => rfl
  | true =>
    cases received with
    | false => rfl
    | true => rfl

section Init

variable (hinit : ∀ calls, lib.init calls = true)
variable (hinstall : ∀ calls, lib.installEventHandler calls = true)

include hinit hinstall

/-- **Both or neither**, and the count follows. -/
theorem setBoth_by (newSession : Bool) (hs : s.Fits newSession) (hr : r.Fits newSession)
    (h : g.By (n + (⟨some s, some r⟩ : SrtpTransport).inited)) :
    ∃ t' g' ok, (⟨some s, some r⟩ : SrtpTransport).setBoth lib g newSession sendCs sendKey recvCs
        recvKey = some (t', g', ok) ∧ g'.By (n + t'.inited) ∧ t'.Whole ∧
      (ok = true → t'.Given sendCs sendKey recvCs recvKey) ∧ (ok = false → t' = {}) := by
  have htwo : ∀ a b : SrtpSession, (⟨some a, some b⟩ : SrtpTransport).inited =
      [a].countP (·.inited) + [b].countP (·.inited) := fun _ _ => List.countP_append
  have hone : ∀ a : SrtpSession, a.inited = true → [a].countP (·.inited) = 1 := fun a ha => by
    simp [ha]
  rw [htwo, Nat.add_comm (List.countP _ _), ← Nat.add_assoc] at h
  obtain ⟨s', g₁, sent, hsend, hsinited, hby₁, hsholds⟩ :=
    setOrUpdate_by hinit hinstall newSession .ssrcAnyOutbound sendCs sendKey hs h
  have hby : g₁.By (n + 1 + [r].countP (·.inited)) := by
    rw [Nat.add_right_comm]
    exact hby₁
  obtain ⟨r', g₂, received, hrecv, hrinited, hby₂, hrholds⟩ :=
    setOrUpdate_by hinit hinstall newSession .ssrcAnyInbound recvCs recvKey hr hby
  refine ⟨_, _, _, setBoth_eq hsend hrecv, ?_⟩
  have hgone : ({} : SrtpTransport).inited = 0 := rfl
  cases sent with
  | false =>
    have hafter : (destroyOld (some r) (destroyOld (some s') g₁)).By n := by
      refine sessionsGone_by (t := ⟨some s', some r⟩) ?_
      rw [htwo, hone s' hsinited, ← Nat.add_assoc]
      exact hby
    exact ⟨hafter, .inl rfl, nofun, fun _ => rfl⟩
  | true =>
    cases received with
    | false =>
      have hafter : (destroyOld (some r') (destroyOld (some s') g₂)).By n := by
        refine sessionsGone_by (t := ⟨some s', some r'⟩) ?_
        rw [htwo, hone s' hsinited, hone r' hrinited]
        exact hby₂
      exact ⟨hafter, .inl rfl, nofun, fun _ => rfl⟩
    | true =>
      refine ⟨?_, .inr ⟨s', r', rfl, (hsholds rfl).fits hsinited, (hrholds rfl).fits hrinited⟩,
        fun _ => ⟨s', r', rfl, hsholds rfl, hrholds rfl⟩, nofun⟩
      show g₂.By (n + (⟨some s', some r'⟩ : SrtpTransport).inited)
      rw [htwo, hone s' hsinited, hone r' hrinited]
      exact hby₂

/-- **`set_rtp_params`.** -/
theorem setRtpParams_by (ht : t.Whole) (h : g.By (n + t.inited)) :
    ∃ t' g' ok, t.setRtpParams lib g sendCs sendKey recvCs recvKey = some (t', g', ok) ∧
      g'.By (n + t'.inited) ∧ t'.Whole ∧
      (ok = true → t'.Given sendCs sendKey recvCs recvKey) ∧ (ok = false → t' = {}) := by
  rcases ht with rfl | ⟨s, r, rfl, hs, hr⟩
  · exact setBoth_by hinit hinstall true (s := {}) (r := {}) rfl rfl h
  · exact setBoth_by hinit hinstall false hs hr h

end Init

/-! ## The process -/

/-- Some transports, none of them with a session. -/
def start (n : ℕ) : Process := { transports := List.replicate n {} }

theorem start_inited (n : ℕ) : (start n).inited = 0 := by
  induction n with
  | zero => rfl
  | succ n ih => exact ih

/-- What holds between the calls: a transport has both sessions or none, the
count is the number of sessions that have set `_inited`, and libsrtp was
initialised and shut down only where that number left zero and got back. -/
structure Conserved (p : Process) : Prop where
  paired : ∀ t ∈ p.transports, t.sendSession.isSome = t.recvSession.isSome
  counted : p.usage.count = p.inited
  users : users p.usage.uses = p.inited
  at_init : ∀ pre post, p.usage.uses = pre ++ .init :: post →
    Common.users pre = 0 ∧ ∃ rest, post = .taken :: rest
  at_shutdown : ∀ pre post, p.usage.uses = pre ++ .shutdown :: post →
    Common.users pre = 0 ∧ ∃ first, pre = first ++ [.dropped]

/-- What the call has left where it was made, by what it returned. -/
def Answered (p : Process) : Event → Prop
  | .setRtpParams i sendCs sendKey recvCs recvKey =>
    if p.returned then
      ∃ t, p.transports[i]? = some t ∧ t.Given sendCs sendKey recvCs recvKey
    else p.transports[i]? = some {}
  | .resetParams i => p.transports[i]? = some {}

/-- The invariant. -/
structure Sound (p : Process) : Prop where
  whole : ∀ t ∈ p.transports, t.Whole
  usage : p.usage.By p.inited

theorem SrtpTransport.Whole.paired (h : t.Whole) :
    t.sendSession.isSome = t.recvSession.isSome := by
  rcases h with rfl | ⟨s, r, rfl, -⟩
  · rfl
  · rfl

theorem Sound.conserved {p : Process} (h : Sound p) : Conserved p where
  paired t ht := (h.whole t ht).paired
  counted := h.usage.count
  users := h.usage.lazy.users_eq
  at_init _ _ := h.usage.lazy.at_init
  at_shutdown _ _ := h.usage.lazy.at_shutdown

/-- One transport among the others. -/
theorem inited_split {pre post : List SrtpTransport} {returned : Bool} :
    (⟨pre ++ t :: post, g, returned⟩ : Process).inited =
      (⟨pre ++ post, g, returned⟩ : Process).inited + t.inited := by
  unfold Process.inited SrtpTransport.inited
  simp only [List.flatMap_append, List.flatMap_cons, List.countP_append]
  omega

/-- Another transport in its place, where the count follows. -/
theorem Sound.at {p : Process} (h : Sound p) {i : ℕ} (hi : p.transports[i]? = some t) :
    ∃ n, p.usage.By (n + t.inited) ∧ ∀ t' g' returned, t'.Whole → g'.By (n + t'.inited) →
      Sound ⟨p.transports.set i t', g', returned⟩ ∧ (p.transports.set i t')[i]? = some t' := by
  obtain ⟨hlt, hget⟩ := List.getElem?_eq_some_iff.1 hi
  have hset : ∀ t', p.transports.set i t' =
      p.transports.take i ++ t' :: p.transports.drop (i + 1) := fun t' => by
    rw [List.set_eq_take_append_cons_drop, if_pos hlt]
  let others : Process := ⟨p.transports.take i ++ p.transports.drop (i + 1), p.usage, true⟩
  have hbefore : p.inited = others.inited + t.inited := by
    rw [← inited_split, ← hset, ← hget, List.set_getElem_self]
    rfl
  refine ⟨others.inited, hbefore ▸ h.usage, fun t' g' returned hwhole hby => ⟨⟨fun u hu => ?_, ?_⟩,
    List.getElem?_set_self hlt⟩⟩
  · rcases List.mem_or_eq_of_mem_set hu with hold | rfl
    · exact h.whole u hold
    · exact hwhole
  · show Usage.By g' (Process.inited ⟨p.transports.set i t', g', returned⟩)
    rw [hset, inited_split]
    exact hby

section Init

variable (hinit : ∀ calls, lib.init calls = true)
variable (hinstall : ∀ calls, lib.installEventHandler calls = true)

include hinit hinstall

/-- A call on a transport there is comes to an end. -/
theorem Sound.step {p : Process} (h : Sound p) (e : Event)
    (he : e.transport < p.transports.length) :
    ∃ p', step lib p e = some p' ∧ Sound p' ∧ Answered p' e := by
  obtain ⟨t, ht⟩ : ∃ t, p.transports[e.transport]? = some t :=
    ⟨_, List.getElem?_eq_getElem he⟩
  obtain ⟨n, hby, hset⟩ := h.at ht
  cases e with
  | setRtpParams i sendCs sendKey recvCs recvKey =>
    have ht : p.transports[i]? = some t := ht
    obtain ⟨t', g', ok, heq, hby', hwhole, hgiven, hgone⟩ :=
      setRtpParams_by hinit hinstall (h.whole t (List.mem_of_getElem? ht)) hby
    obtain ⟨hsound, hat⟩ := hset t' g' ok hwhole hby'
    refine ⟨_, ?_, hsound, ?_⟩
    · show (p.transports[i]?.bind fun t => _) = _
      rw [ht, Option.bind_some, heq]
      rfl
    · show if ok then _ else _
      split
      · rename_i hok
        exact ⟨t', hat, hgiven hok⟩
      · rename_i hok
        exact hgone (Bool.not_eq_true _ ▸ hok) ▸ hat
  | resetParams i =>
    have ht : p.transports[i]? = some t := ht
    obtain ⟨hsound, hat⟩ := hset {} (t.resetParams p.usage).2 true (.inl rfl) (sessionsGone_by hby)
    refine ⟨_, ?_, hsound, hat⟩
    show (p.transports[i]?.bind fun t => _) = _
    rw [ht]
    rfl

omit hinit hinstall in
theorem step_length {p p' : Process} {e : Event} (h : step lib p e = some p') :
    e.transport < p.transports.length ∧ p'.transports.length = p.transports.length := by
  have hlt : ∀ {i : ℕ} {t : SrtpTransport}, p.transports[i]? = some t →
      i < p.transports.length := fun hi => (List.getElem?_eq_some_iff.1 hi).1
  cases e with
  | setRtpParams i sendCs sendKey recvCs recvKey =>
    obtain ⟨t, ht, hset⟩ := Option.bind_eq_some_iff.1 h
    obtain ⟨⟨t', g', ok⟩, -, hp⟩ := Option.bind_eq_some_iff.1 hset
    obtain rfl := Option.some.inj hp
    exact ⟨hlt ht, List.length_set⟩
  | resetParams i =>
    obtain ⟨t, ht, hp⟩ := Option.bind_eq_some_iff.1 h
    obtain rfl := Option.some.inj hp
    exact ⟨hlt ht, List.length_set⟩

/-- **Both sessions or none, and the count is conserved**, whatever calls
have been made on any transports and whatever libsrtp answered. -/
theorem conserved_after {n : ℕ} {es : List Event} {p : Process}
    (h : Common.run (step lib) (start n) es = some p) :
    Conserved p ∧ ∀ e : Event, e.transport < n →
      ∃ p', step lib p e = some p' ∧ Conserved p' ∧ Answered p' e := by
  obtain ⟨hsound, hlength⟩ : Sound p ∧ p.transports.length = n := by
    refine inv_of_run (I := fun p => Sound p ∧ p.transports.length = n)
      (fun p e p' ⟨hsound, hlength⟩ hstep => ?_) ⟨⟨fun t ht => ?_, ?_⟩, List.length_replicate⟩ h
    · obtain ⟨hlt, hsame⟩ := step_length hstep
      obtain ⟨p'', hstep', hsound', -⟩ := hsound.step hinit hinstall e hlt
      obtain rfl := Option.some.inj (hstep.symm.trans hstep')
      exact ⟨hsound', hsame.trans hlength⟩
    · exact .inl (List.eq_of_mem_replicate ht)
    · rw [start_inited]
      exact ⟨rfl, .unused⟩
  refine ⟨hsound.conserved, fun e he => ?_⟩
  obtain ⟨p', hstep, hsound', hanswered⟩ := hsound.step hinit hinstall e (hlength ▸ he)
  exact ⟨p', hstep, hsound'.conserved, hanswered⟩

end Init

/-- A libsrtp that knows the profiles 1 and 2 and takes no key that starts
with a zero. -/
def particular : Libsrtp where
  init _ := true
  installEventHandler _ := true
  policyForRtp _ cs := if cs = 1 then some ⟨2, 10⟩ else if cs = 2 then some ⟨2, 4⟩ else none
  policyForRtcp _ cs := if cs = 1 ∨ cs = 2 then some ⟨2, 10⟩ else none
  create _ policy := policy.key.head? ≠ some 0
  update _ policy := policy.key.head? ≠ some 0

/-- Two transports get sessions, each of them fails once, and in the end
none is left. -/
def turnover : List Event :=
  [.setRtpParams 0 1 (some [1, 2]) 1 (some [3, 4]), .setRtpParams 1 2 (some [5, 6]) 2 (some [0, 7]),
    .setRtpParams 1 2 (some [5, 6]) 2 (some [7, 8]), .setRtpParams 0 1 (some [9, 9]) 1 none,
    .resetParams 1]

theorem conserved_after_turnover :
    ∃ p, Common.run (step particular) (start 2) turnover = some p ∧ Conserved p ∧
      p.usage.uses = [.init, .taken, .taken, .taken, .taken, .dropped, .dropped, .taken, .taken,
        .dropped, .dropped, .dropped, .dropped, .shutdown] := by
  obtain ⟨p, hp, huses⟩ := Option.map_eq_some_iff.1
    (show (Common.run (step particular) (start 2) turnover).map (·.usage.uses) =
      some [.init, .taken, .taken, .taken, .taken, .dropped, .dropped, .taken, .taken, .dropped,
        .dropped, .dropped, .dropped, .shutdown] by decide)
  exact ⟨p, hp, (conserved_after (fun _ => rfl) (fun _ => rfl) hp).1, huses⟩

end Srtp

end Pc

end XrtcServer
