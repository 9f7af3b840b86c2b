import Mathlib.Data.List.Forall2
import XrtcServer.Common.Run
import XrtcServer.Server.Model.Connection
/-!
# Delivering replies

A connection's replies and the writes that send them, one action at a time:
a reply is queued, or one write accepts some bytes of the reply at the head
of the list. `_write_query` is a run of such writes (`writeQuery_eq_run`).
Each write is given the reply from its first byte, so a write that goes on
with a reply already begun sends its beginning again. Delivery is exact, for
replies of any content, exactly where no write does (`delivered_iff`).
-/

namespace XrtcServer

namespace Server

/-- The bytes a slice spans. -/
def Slice.bytes (s : Slice) : List UInt8 := s.data.take s.size

/-- Queueing a reply, or one write of the loop of `_write_query` that
accepts `n` bytes; none where the buffer is full. -/
inductive WriteAction where
  | reply (r : Slice)
  | written (n : ℕ)

/-- A connection, the bytes its socket has accepted, and the bytes of all
replies queued on it. -/
structure Outbox where
  conn : TcpConnection
  accepted : List UInt8 := []
  queued : List UInt8 := []

/-- One action. A write needs a reply, and accepts no more bytes than it is
given. -/
def Outbox.step (s : Outbox) : WriteAction → Option Outbox
  | .reply r => some { s with conn := addReply r s.conn, queued := s.queued ++ r.bytes }
  | .written n =>
    match s.conn.replyList with
    | [] => none
    | r :: _ =>
      if r.size < n then none
      else if n = 0 then some s
      else some { s with conn := writeStep r n s.conn, accepted := s.accepted ++ r.data.take n }

variable {s s' t t' : Outbox} {a b : WriteAction} {r : Slice} {rs : List Slice} {n : ℕ}

theorem step_written (hl : s.conn.replyList = r :: rs) :
    s.step (.written n) =
      if r.size < n then none
      else if n = 0 then some s
      else some { s with conn := writeStep r n s.conn,
                         accepted := s.accepted ++ r.data.take n } := by
  simp only [Outbox.step, hl]

/-- What a write that happens has done. -/
theorem step_written_cases (h : s.step (.written n) = some s') :
    (n = 0 ∧ s' = s) ∨ ∃ r rs, s.conn.replyList = r :: rs ∧ 0 < n ∧ n ≤ r.size ∧
      s' = { s with conn := writeStep r n s.conn,
                    accepted := s.accepted ++ r.data.take n } := by
  cases hl : s.conn.replyList with
  | nil => simp [Outbox.step, hl] at h
  | cons r rs =>
    rw [step_written hl] at h
    by_cases hn : r.size < n
    · rw [if_pos hn] at h
      cases h
    · rw [if_neg hn] at h
      by_cases hz : n = 0
      · rw [if_pos hz] at h
        exact Or.inl ⟨hz, (Option.some.inj h).symm⟩
      · rw [if_neg hz] at h
        exact Or.inr ⟨r, rs, rfl, Nat.pos_of_ne_zero hz, Nat.le_of_not_lt hn,
          (Option.some.inj h).symm⟩

/-! ## `_write_query` is a run of writes -/

/-- The call makes the writes of the run, and leaves its loop where the list
is empty. -/
theorem writeQuery_eq_run {results : List ℕ}
    (h : Common.run Outbox.step s (results.map .written) = some s') :
    writeQuery (results.map Int.ofNat) s.conn s.accepted =
      if s'.conn.replyList = [] then
        ({ s'.conn with ioWatcher := s'.conn.ioWatcher.stopIoEvent s'.conn.fd .WRITE },
          s'.accepted, .returned)
      else (s'.conn, s'.accepted, .busy) := by
  induction results generalizing s with
  | nil =>
    obtain rfl : s = s' := Option.some.inj h
    cases hl : s.conn.replyList with
    | nil => simp [writeQuery, hl]
    | cons r rs => simp [writeQuery, hl]
  | cons n results ih =>
    rw [List.map_cons, Common.run_cons, Option.bind_eq_some_iff] at h
    obtain ⟨t, ht, hrest⟩ := h
    have hnil : s.conn.replyList ≠ [] := by
      intro hnil
      simp [Outbox.step, hnil] at ht
    obtain ⟨r, rs, hl⟩ := List.exists_cons_of_ne_nil hnil
    rw [List.map_cons, writeQuery]
    simp only [hl, Int.ofNat_eq_natCast]
    rw [if_neg (by omega)]
    rcases step_written_cases ht with ⟨rfl, rfl⟩ | ⟨r', rs', hl', hpos, -, rfl⟩
    · exact ih hrest
    · obtain ⟨rfl, -⟩ := List.cons.inj (hl.symm.trans hl')
      rw [if_neg (by omega)]
      exact ih hrest

/-! ## What a fresh write keeps -/

/-- What the socket has accepted is a prefix of what was queued, and all of
it when no reply is left. -/
def Delivered (s : Outbox) : Prop :=
  s.accepted <+: s.queued ∧ (s.conn.replyList = [] → s.accepted = s.queued)

/-- The write does not go on with a reply already begun. -/
def FreshWrite (s : Outbox) : WriteAction → Prop
  | .reply _ => True
  | .written n => 0 < n → s.conn.curRespPos = 0

/-- The bytes of the replies in the list that are still to be sent. -/
def Outbox.pending (s : Outbox) : List UInt8 :=
  match s.conn.replyList with
  | [] => []
  | r :: rs => r.bytes.drop s.conn.curRespPos ++ (rs.map Slice.bytes).flatten

/-- The position is inside the reply at the head of the list, and the bytes
accepted with those pending are the bytes queued. -/
structure OnTrack (s : Outbox) : Prop where
  split : s.accepted ++ s.pending = s.queued
  inside : 0 < s.conn.curRespPos →
    ∃ r rs, s.conn.replyList = r :: rs ∧ s.conn.curRespPos < r.size

theorem OnTrack.delivered (h : OnTrack s) : Delivered s := by
  refine ⟨⟨s.pending, h.split⟩, fun hnil => ?_⟩
  have hsplit := h.split
  simpa [Outbox.pending, hnil] using hsplit

theorem onTrack_init (fd : ℤ) : OnTrack { conn := { fd := fd } } := ⟨rfl, nofun⟩

theorem OnTrack.reply (h : OnTrack s) (r : Slice) :
    OnTrack { s with conn := addReply r s.conn, queued := s.queued ++ r.bytes } := by
  have hsplit := h.split
  cases hl : s.conn.replyList with
  | nil =>
    have hpos : s.conn.curRespPos = 0 := by
      by_contra hne
      obtain ⟨r', rs, hl', -⟩ := h.inside (Nat.pos_of_ne_zero hne)
      rw [hl] at hl'
      cases hl'
    refine ⟨?_, fun hp => ?_⟩
    · simp only [Outbox.pending, hl, List.append_nil] at hsplit
      simp [Outbox.pending, addReply, hl, hpos, hsplit]
    · exact absurd hp (by simp [addReply, hpos])
  | cons r' rs =>
    refine ⟨?_, fun hp => ?_⟩
    · simp only [Outbox.pending, hl] at hsplit
      simp [Outbox.pending, addReply, hl, ← hsplit]
    · obtain ⟨r'', rs'', hl'', hlt⟩ := h.inside hp
      obtain ⟨rfl, rfl⟩ := List.cons.inj (hl.symm.trans hl'')
      exact ⟨r', rs ++ [r], by simp [addReply, hl], hlt⟩

/-- **A write from the first byte of a reply keeps on track.** -/
theorem OnTrack.fresh (h : OnTrack s) (hl : s.conn.replyList = r :: rs)
    (hpos : s.conn.curRespPos = 0) (hle : n ≤ r.size) :
    OnTrack { s with conn := writeStep r n s.conn, accepted := s.accepted ++ r.data.take n } := by
  have hsplit := h.split
  simp only [Outbox.pending, hl, hpos, List.drop_zero] at hsplit
  have htake : r.data.take n = r.bytes.take n := by
    rw [Slice.bytes, List.take_take, Nat.min_eq_left hle]
  by_cases hall : r.size ≤ n
  · have hwhole : r.bytes.take n = r.bytes := by
      rw [List.take_of_length_le]
      rw [Slice.bytes, List.length_take]
      omega
    refine ⟨?_, fun hp => ?_⟩
    · rw [htake, hwhole, ← hsplit]
      cases rs <;> simp [Outbox.pending, writeStep, hpos, hall, hl]
    · simp [writeStep, hpos, hall] at hp
  · refine ⟨?_, fun hp => ⟨r, rs, ?_, ?_⟩⟩
    · have hdrop : (⟨writeStep r n s.conn, s.accepted ++ r.data.take n, s.queued⟩ : Outbox).pending =
          r.bytes.drop n ++ (rs.map Slice.bytes).flatten := by
        simp [Outbox.pending, writeStep, hpos, hall, hl]
      rw [hdrop, htake, ← hsplit, List.append_assoc, ← List.append_assoc (r.bytes.take n),
        List.take_append_drop]
    · simp [writeStep, hpos, hall, hl]
    · simp only [writeStep, hpos, Nat.add_zero, if_neg hall, Nat.zero_add]
      omega

theorem OnTrack.step (h : OnTrack s) (hs : s.step a = some s') (hf : FreshWrite s a) :
    OnTrack s' := by
  cases a with
  | reply r =>
    obtain rfl := Option.some.inj hs
    exact h.reply r
  | written n =>
    rcases step_written_cases hs with ⟨-, rfl⟩ | ⟨r, rs, hl, hpos, hle, rfl⟩
    · exact h
    · exact h.fresh hl (hf hpos) hle

/-! ## Replies of any content -/

/-- The same action, but for the content of a reply. -/
def Alike : WriteAction → WriteAction → Prop
  | .reply r, .reply r' => r.size = r'.size
  | .written n, .written n' => n = n'
  | _, _ => False

/-- Two connections with replies of the same sizes, at the same position. -/
structure SameShape (s t : Outbox) : Prop where
  sizes : s.conn.replyList.map Slice.size = t.conn.replyList.map Slice.size
  pos : s.conn.curRespPos = t.conn.curRespPos

theorem SameShape.symm (h : SameShape s t) : SameShape t s := ⟨h.sizes.symm, h.pos.symm⟩

theorem Alike.symm (h : Alike a b) : Alike b a := by
  cases a <;> cases b <;> simp_all [Alike]

/-- What happens does not depend on content. -/
theorem SameShape.step (h : SameShape s t) (hab : Alike a b) (hs : s.step a = some s') :
    ∃ t', t.step b = some t' ∧ SameShape s' t' := by
  cases a with
  | reply r =>
    cases b with
    | written n => cases hab
    | reply r' =>
      obtain rfl := Option.some.inj hs
      refine ⟨_, rfl, ?_, h.pos⟩
      have hsize : r.size = r'.size := hab
      simp [addReply, h.sizes, hsize]
  | written n =>
    cases b with
    | reply r => cases hab
    | written n' =>
      obtain rfl : n = n' := hab
      rcases step_written_cases hs with ⟨rfl, rfl⟩ | ⟨r, rs, hl, hpos, hle, rfl⟩
      · have hne : s'.conn.replyList ≠ [] := by
          intro hnil
          simp [Outbox.step, hnil] at hs
        have hne' : t.conn.replyList ≠ [] := by
          intro hnil
          have hsizes := h.sizes
          rw [hnil, List.map_nil, List.map_eq_nil_iff] at hsizes
          exact hne hsizes
        obtain ⟨r, rs, hl⟩ := List.exists_cons_of_ne_nil hne'
        exact ⟨t, by simp [step_written hl], h⟩
      · have hsizes := h.sizes
        rw [hl, List.map_cons] at hsizes
        obtain ⟨r', rs', hl', hr, hrs⟩ := List.map_eq_cons_iff.1 hsizes.symm
        refine ⟨_, by rw [step_written hl', if_neg (by omega), if_neg (by omega)], ?_⟩
        by_cases hall : r.size ≤ n + t.conn.curRespPos
        · refine ⟨?_, ?_⟩ <;> simp [writeStep, h.pos, hr, hall, hl, hl', hrs]
        · refine ⟨?_, ?_⟩ <;> simp [writeStep, h.pos, hr, hall, hl, hl', hrs]

theorem SameShape.freshWrite (h : SameShape s t) (hab : Alike a b) :
    FreshWrite s a ↔ FreshWrite t b := by
  cases a <;> cases b <;> simp_all [Alike, FreshWrite, h.pos]

/-- Whether the writes of a run are fresh does not depend on content. -/
theorem SameShape.everyStep (h : SameShape s t) {as bs : List WriteAction}
    (hab : List.Forall₂ Alike as bs)
    (hs : Common.EveryStep Outbox.step (fun s a _ => FreshWrite s a) s as) :
    Common.EveryStep Outbox.step (fun s a _ => FreshWrite s a) t bs := by
  induction hab generalizing s t with
  | nil => trivial
  | cons hab _ ih =>
    intro t' ht
    obtain ⟨s', hs', hshape⟩ := h.symm.step hab.symm ht
    obtain ⟨hf, hrest⟩ := hs s' hs'
    exact ⟨(h.freshWrite hab).1 hf, ih hshape.symm hrest⟩

/-- The action with a reply whose first byte is 1 and every other 0. -/
def mark : WriteAction → WriteAction
  | .reply r => .reply ⟨(1 :: List.replicate r.size 0).take r.size, r.size⟩
  | .written n => .written n

theorem alike_mark (a : WriteAction) : Alike a (mark a) := by
  cases a <;> rfl

/-- The replies in the list are marked. -/
def Marked (s : Outbox) : Prop :=
  ∀ r ∈ s.conn.replyList, r.data = (1 :: List.replicate r.size 0).take r.size

theorem Marked.step (h : Marked s) (hs : s.step (mark a) = some s') : Marked s' := by
  cases a with
  | reply r =>
    obtain rfl := Option.some.inj hs
    intro r' hr'
    rcases List.mem_append.1 hr' with hr' | hr'
    · exact h r' hr'
    · rw [List.mem_singleton.1 hr']
  | written n =>
    rcases step_written_cases hs with ⟨-, rfl⟩ | ⟨r, rs, hl, -, -, rfl⟩
    · exact h
    · intro r' hr'
      refine h r' ?_
      by_cases hall : r.size ≤ n + s.conn.curRespPos
      · simp only [writeStep, if_pos hall] at hr'
        exact List.mem_of_mem_tail hr'
      · simpa only [writeStep, if_neg hall] using hr'

/-- **A write that goes on with a marked reply is wrong at once**: it sends
the mark where a 0 is due. -/
theorem Marked.freshWrite (h : Marked s) (ht : OnTrack s) (hs : s.step a = some s')
    (hd : Delivered s') : FreshWrite s a := by
  cases a with
  | reply r => trivial
  | written n =>
    intro hn
    by_contra hpos
    obtain ⟨r, rs, hl, hlt⟩ := ht.inside (Nat.pos_of_ne_zero hpos)
    rcases step_written_cases hs with ⟨rfl, -⟩ | ⟨r', rs', hl', -, hle, rfl⟩
    · exact absurd hn (Nat.lt_irrefl 0)
    obtain ⟨rfl, rfl⟩ := List.cons.inj (hl.symm.trans hl')
    have hpre : r.data.take n <+: r.bytes.drop s.conn.curRespPos ++ (rs.map Slice.bytes).flatten := by
      have hsplit := ht.split
      simp only [Outbox.pending, hl] at hsplit
      have hd := hd.1
      rw [← hsplit] at hd
      exact (List.prefix_append_right_inj s.accepted).1 hd
    have hdata := h r (by rw [hl]; exact List.mem_cons_self)
    obtain ⟨p, hp⟩ := Nat.exists_eq_succ_of_ne_zero hpos
    obtain ⟨m, rfl⟩ := Nat.exists_eq_succ_of_ne_zero (Nat.ne_of_gt hn)
    obtain ⟨k, hk⟩ := Nat.exists_eq_add_of_lt hlt
    -- the reply begins with the mark, and what is due begins with a 0
    have hhead : r.data.take m.succ = 1 :: (List.replicate r.size 0).take (min m (r.size - 1)) := by
      rw [hdata, List.take_take, show min m.succ r.size = (min m (r.size - 1)) + 1 by omega,
        List.take_succ_cons]
    have hdue : r.bytes.drop s.conn.curRespPos = List.replicate (k + 1) 0 := by
      rw [Slice.bytes, hdata, List.take_take, Nat.min_self, hk, hp, List.take_succ_cons,
        List.drop_succ_cons, List.take_replicate, List.drop_replicate]
      congr 1
      omega
    rw [hhead, hdue, List.replicate_succ, List.cons_append, List.cons_prefix_cons] at hpre
    exact absurd hpre.1 (by decide)

theorem Marked.everyStep (h : Marked s) (ht : OnTrack s) {as : List WriteAction}
    (hd : Common.EveryStep Outbox.step (fun _ _ s' => Delivered s') s (as.map mark)) :
    Common.EveryStep Outbox.step (fun s a _ => FreshWrite s a) s (as.map mark) := by
  induction as generalizing s with
  | nil => trivial
  | cons a as ih =>
    intro s' hs
    obtain ⟨hdel, hrest⟩ := hd s' hs
    have hf := h.freshWrite ht hs hdel
    exact ⟨hf, ih (h.step hs) (ht.step hs hf) hrest⟩

/-- **Replies are delivered, whatever they say, exactly where no write goes
on with a reply already begun.** -/
theorem delivered_iff (fd : ℤ) (as : List WriteAction) :
    (∀ bs, List.Forall₂ Alike as bs →
        Common.EveryStep Outbox.step (fun _ _ s' => Delivered s') { conn := { fd := fd } } bs) ↔
      Common.EveryStep Outbox.step (fun s a _ => FreshWrite s a) { conn := { fd := fd } } as := by
  have hshape : SameShape { conn := { fd := fd } } { conn := { fd := fd } } := ⟨rfl, rfl⟩
  constructor
  · intro hall
    have hmark : List.Forall₂ Alike as (as.map mark) :=
      List.forall₂_map_right_iff.2 (List.forall₂_same.2 fun a _ => alike_mark a)
    have hback : List.Forall₂ Alike (as.map mark) as :=
      List.forall₂_map_left_iff.2 (List.forall₂_same.2 fun a _ => (alike_mark a).symm)
    have hfresh := Marked.everyStep (s := { conn := { fd := fd } }) nofun (onTrack_init fd)
      (hall _ hmark)
    exact hshape.everyStep hback hfresh
  · intro hfresh bs hab
    have hfresh' := hshape.everyStep hab hfresh
    refine Common.everyStep_of_inv (I := OnTrack) ?_ (onTrack_init fd) hfresh'
    intro s a s' ht hs hf
    exact ⟨ht.step hs hf, (ht.step hs hf).delivered⟩

/-- A reply of forty bytes. -/
def fortyBytes : Slice := ⟨(List.range 40).map UInt8.ofNat, 40⟩

/-- **Thirty bytes and then ten.** The second write sends the first ten
bytes again, and the reply counts as sent. -/
theorem thirty_then_ten :
    ¬ Common.EveryStep Outbox.step (fun _ _ s' => Delivered s') { conn := { fd := 7 } }
        [.reply fortyBytes, .written 30, .written 10] ∧
      (Common.run Outbox.step { conn := { fd := 7 } }
        [.reply fortyBytes, .written 30, .written 10]).map
          (fun s => (s.conn.replyList.length, s.accepted)) =
        some (0, fortyBytes.data.take 30 ++ fortyBytes.data.take 10) := by
  refine ⟨fun h => ?_, rfl⟩
  obtain ⟨-, h⟩ := h _ rfl
  obtain ⟨-, h⟩ := h _ rfl
  obtain ⟨⟨-, hall⟩, -⟩ := h _ rfl
  have hsame := congrArg (List.drop 30) (hall rfl)
  exact absurd hsame (by decide)

end Server

end XrtcServer
