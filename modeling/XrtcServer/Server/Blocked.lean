import XrtcServer.Server.Model.Connection
/-!
# A socket that takes no more

`_write_query` on a socket whose buffer may be full. A call makes its writes
one after another, so it is followed over an unbounded sequence of what
`write` returns. A full buffer does not end the loop: a call is as it should
be (`Orderly`) exactly where none of its writes meets one.
-/

namespace XrtcServer

namespace Server

open Base

variable {c t : TcpConnection} {accepted sent : List UInt8} {results more : List ℤ}
variable {writes : ℕ → SysWrite} {n : ℕ}

/-- The watcher is active and waits for the socket to be writable. -/
def waitsToWrite (w : IOWatcher) : Prop := w.active = true ∧ w.events.write = true

instance (w : IOWatcher) : Decidable (waitsToWrite w) := inferInstanceAs (Decidable (_ ∧ _))

/-- What `sock_write_data` returns to the first `n` writes. -/
def firstResults (writes : ℕ → SysWrite) (n : ℕ) : List ℤ :=
  (List.range n).map fun k => sockWriteData (writes k)

/-- **A call makes finitely many writes.** A full buffer ends it with the
unsent bytes still queued and interest in writing as before, and once the
list is empty there is none. -/
structure Orderly (c : TcpConnection) (writes : ℕ → SysWrite) : Prop where
  finite : ∃ n, (writeQuery (firstResults writes n) c []).2.2 ≠ .busy
  full : ∀ n t sent, writeQuery (firstResults writes n) c [] = (t, sent, .busy) →
    sockWriteData (writes n) = 0 →
    ∃ u, writeQuery (firstResults writes (n + 1)) c [] = (u, sent, .returned) ∧
      u.replyList = t.replyList ∧ u.curRespPos = t.curRespPos ∧
      (waitsToWrite t.ioWatcher → waitsToWrite u.ioWatcher)
  empty : ∀ n t sent, writeQuery (firstResults writes n) c [] = (t, sent, .returned) →
    t.replyList = [] → ¬ waitsToWrite t.ioWatcher

/-- A full buffer is met before replies of these sizes, the first of them
begun up to `pos`, are sent. -/
def meetsFull : List ℕ → ℕ → List ℤ → Bool
  | [], _, _ => false
  | _ :: _, _, [] => false
  | size :: sizes, pos, nwritten :: results =>
    if nwritten = -1 then false
    else if nwritten = 0 then true
    else if size ≤ nwritten.toNat + pos then meetsFull sizes 0 results
    else meetsFull (size :: sizes) (pos + nwritten.toNat) results

/-! ## The loop -/

theorem writeQuery_nil (h : c.replyList = []) (results : List ℤ) (accepted : List UInt8) :
    writeQuery results c accepted =
      ({ c with ioWatcher := c.ioWatcher.stopIoEvent c.fd .WRITE }, accepted, .returned) := by
  unfold writeQuery
  simp only [h]

theorem writeQuery_wait (h : c.replyList ≠ []) (accepted : List UInt8) :
    writeQuery [] c accepted = (c, accepted, .busy) := by
  obtain ⟨reply, replies, hreplies⟩ := List.exists_cons_of_ne_nil h
  unfold writeQuery
  simp only [hreplies]

theorem writeQuery_cons {reply : Slice} {replies : List Slice} (h : c.replyList = reply :: replies)
    (nwritten : ℤ) (results : List ℤ) (accepted : List UInt8) :
    writeQuery (nwritten :: results) c accepted =
      if nwritten = -1 then (c, accepted, .closed)
      else if nwritten = 0 then writeQuery results c accepted
      else writeQuery results (writeStep reply nwritten.toNat c)
        (accepted ++ reply.data.take nwritten.toNat) := by
  rw [writeQuery.eq_def]
  simp only [h]

/-- **The writes of a call come one after another.** -/
theorem writeQuery_append (results more : List ℤ) (c : TcpConnection) (accepted : List UInt8) :
    writeQuery (results ++ more) c accepted =
      match writeQuery results c accepted with
      | (t, sent, .busy) => writeQuery more t sent
      | r => r := by
  induction results generalizing c accepted with
  | nil =>
    by_cases h : c.replyList = []
    · rw [List.nil_append, writeQuery_nil h, writeQuery_nil h]
    · rw [List.nil_append, writeQuery_wait h]
  | cons nwritten results ih =>
    cases h : c.replyList with
    | nil => rw [writeQuery_nil h, writeQuery_nil h]
    | cons reply replies =>
      rw [List.cons_append, writeQuery_cons h, writeQuery_cons h]
      split
      · rfl
      · split
        · exact ih c accepted
        · exact ih _ _

/-- While a call is in its loop there is a reply to write. -/
theorem replies_of_busy (h : writeQuery results c accepted = (t, sent, .busy)) :
    t.replyList ≠ [] := by
  induction results generalizing c accepted with
  | nil =>
    by_cases hnil : c.replyList = []
    · rw [writeQuery_nil hnil] at h
      cases h
    · rw [writeQuery_wait hnil] at h
      cases h
      exact hnil
  | cons nwritten results ih =>
    cases hc : c.replyList with
    | nil =>
      rw [writeQuery_nil hc] at h
      cases h
    | cons reply replies =>
      rw [writeQuery_cons hc] at h
      split at h
      · cases h
      · split at h
        · exact ih h
        · exact ih h

/-- **A call returns where the list is empty**, and stops waiting. -/
theorem stopped_of_returned (h : writeQuery results c accepted = (t, sent, .returned)) :
    t.replyList = [] ∧ ¬ waitsToWrite t.ioWatcher := by
  have hstop : ∀ w : IOWatcher, ∀ fd, ¬ waitsToWrite (w.stopIoEvent fd .WRITE) := by
    intro w fd hw
    obtain ⟨active, watched, read, write⟩ := w
    cases read <;> cases write <;> simp [waitsToWrite, IOWatcher.stopIoEvent, IOMask.diff,
      IOMask.WRITE, IOMask.NONE] at hw
  induction results generalizing c accepted with
  | nil =>
    by_cases hnil : c.replyList = []
    · rw [writeQuery_nil hnil] at h
      cases h
      exact ⟨hnil, hstop _ _⟩
    · rw [writeQuery_wait hnil] at h
      cases h
  | cons nwritten results ih =>
    cases hc : c.replyList with
    | nil =>
      rw [writeQuery_nil hc] at h
      cases h
      exact ⟨hc, hstop _ _⟩
    | cons reply replies =>
      rw [writeQuery_cons hc] at h
      split at h
      · cases h
      · split at h
        · exact ih h
        · exact ih h

theorem firstResults_succ (writes : ℕ → SysWrite) (n : ℕ) :
    firstResults writes (n + 1) = firstResults writes n ++ [sockWriteData (writes n)] := by
  unfold firstResults
  rw [List.range_succ, List.map_append]
  rfl

theorem firstResults_cons (writes : ℕ → SysWrite) (n : ℕ) :
    firstResults writes (n + 1) =
      sockWriteData (writes 0) :: firstResults (fun k => writes (k + 1)) n := by
  unfold firstResults
  rw [List.range_succ_eq_map, List.map_cons, List.map_map]
  rfl

/-- What is left of the sizes and the position after a write. -/
theorem meetsFull_step {reply : Slice} {replies : List Slice} (h : c.replyList = reply :: replies)
    {nwritten : ℤ} (hone : nwritten ≠ -1) (hzero : nwritten ≠ 0) (results : List ℤ) :
    meetsFull (c.replyList.map Slice.size) c.curRespPos (nwritten :: results) =
      meetsFull ((writeStep reply nwritten.toNat c).replyList.map Slice.size)
        (writeStep reply nwritten.toNat c).curRespPos results := by
  rw [h, List.map_cons, meetsFull, if_neg hone, if_neg hzero]
  unfold writeStep
  split
  · simp only [h, List.tail_cons]
  · simp only [h, List.map_cons]

/-- **A full buffer is met** by a write of the call. -/
theorem meetsFull_firstResults (writes : ℕ → SysWrite) (c : TcpConnection) (accepted : List UInt8)
    (n : ℕ) :
    meetsFull (c.replyList.map Slice.size) c.curRespPos (firstResults writes n) = true ↔
      ∃ k < n, sockWriteData (writes k) = 0 ∧
        (writeQuery (firstResults writes k) c accepted).2.2 = .busy := by
  induction n generalizing writes c accepted with
  | zero =>
    refine iff_of_false ?_ fun ⟨k, hk, _⟩ => absurd hk (Nat.not_lt_zero k)
    cases c.replyList <;> simp [firstResults, meetsFull]
  | succ n ih =>
    cases hc : c.replyList with
    | nil =>
      refine iff_of_false (by simp [meetsFull]) ?_
      rintro ⟨k, -, -, hbusy⟩
      rw [writeQuery_nil hc] at hbusy
      cases hbusy
    | cons reply replies =>
      have hwait : writeQuery (firstResults writes 0) c accepted = (c, accepted, .busy) :=
        writeQuery_wait (by rw [hc]; exact List.cons_ne_nil _ _) accepted
      rw [firstResults_cons]
      by_cases hone : sockWriteData (writes 0) = -1
      · refine iff_of_false (by simp [meetsFull, hone]) ?_
        rintro ⟨k, -, hzero, hbusy⟩
        cases k with
        | zero =>
          rw [hone] at hzero
          cases hzero
        | succ k =>
          rw [firstResults_cons, writeQuery_cons hc, if_pos hone] at hbusy
          cases hbusy
      · by_cases hzero : sockWriteData (writes 0) = 0
        · refine iff_of_true (by simp [meetsFull, hzero]) ⟨0, Nat.succ_pos n, hzero, ?_⟩
          rw [hwait]
        · rw [← hc, meetsFull_step hc hone hzero, ih]
          -- the writes after the first are those of a call on what it leaves
          have hafter : ∀ k, writeQuery (firstResults writes (k + 1)) c accepted =
              writeQuery (firstResults (fun i => writes (i + 1)) k)
                (writeStep reply (sockWriteData (writes 0)).toNat c)
                (accepted ++ reply.data.take (sockWriteData (writes 0)).toNat) := by
            intro k
            rw [firstResults_cons, writeQuery_cons hc, if_neg hone, if_neg hzero]
          constructor
          · rintro ⟨k, hk, hfull, hbusy⟩
            exact ⟨k + 1, Nat.succ_lt_succ hk, hfull, by rw [hafter]; exact hbusy⟩
          · rintro ⟨k, hk, hfull, hbusy⟩
            cases k with
            | zero => exact absurd hfull hzero
            | succ k => exact ⟨k, Nat.lt_of_succ_lt_succ hk, hfull, by rw [← hafter]; exact hbusy⟩

/-! ## The end of a call -/

theorem sockWriteData_ge (w : SysWrite) : -1 ≤ sockWriteData w := by
  cases w <;> simp [sockWriteData]

/-- **Without a full buffer the call ends**: each write sends a reply or gets
further in the first one. -/
theorem finite_of_not_full (writes : ℕ → SysWrite) (c : TcpConnection) (accepted : List UInt8)
    (h : ∀ n, meetsFull (c.replyList.map Slice.size) c.curRespPos (firstResults writes n) = false) :
    ∃ n, (writeQuery (firstResults writes n) c accepted).2.2 ≠ .busy := by
  generalize hreplies : c.replyList.length = len
  induction len generalizing writes c accepted with
  | zero =>
    refine ⟨0, ?_⟩
    rw [writeQuery_nil (List.length_eq_zero_iff.1 hreplies)]
    exact nofun
  | succ len ihreplies =>
    obtain ⟨reply, replies, hc⟩ := List.exists_cons_of_length_eq_add_one hreplies
    generalize hleft : reply.size - c.curRespPos = left
    induction left using Nat.strongRecOn generalizing writes c accepted with
    | ind left ihleft =>
      by_cases hone : sockWriteData (writes 0) = -1
      · refine ⟨1, ?_⟩
        rw [firstResults_cons, writeQuery_cons hc, if_pos hone]
        exact nofun
      · have hzero : sockWriteData (writes 0) ≠ 0 := by
          intro hzero
          have hfull := h 1
          rw [firstResults_cons, hc, List.map_cons, meetsFull, if_neg hone, if_pos hzero] at hfull
          cases hfull
        have hge := sockWriteData_ge (writes 0)
        have hrest : ∀ n, meetsFull
            ((writeStep reply (sockWriteData (writes 0)).toNat c).replyList.map Slice.size)
            (writeStep reply (sockWriteData (writes 0)).toNat c).curRespPos
            (firstResults (fun k => writes (k + 1)) n) = false := by
          intro n
          rw [← meetsFull_step hc hone hzero, ← firstResults_cons]
          exact h (n + 1)
        have hends : ∃ n, (writeQuery (firstResults (fun k => writes (k + 1)) n)
            (writeStep reply (sockWriteData (writes 0)).toNat c)
            (accepted ++ reply.data.take (sockWriteData (writes 0)).toNat)).2.2 ≠ .busy := by
          by_cases hdone : reply.size ≤ (sockWriteData (writes 0)).toNat + c.curRespPos
          · refine ihreplies _ _ _ hrest ?_
            unfold writeStep
            rw [if_pos hdone]
            show c.replyList.tail.length = len
            rw [List.length_tail, hreplies]
            rfl
          · have hstep : writeStep reply (sockWriteData (writes 0)).toNat c =
                { c with curRespPos := c.curRespPos + (sockWriteData (writes 0)).toNat } :=
              if_neg hdone
            rw [hstep] at hrest ⊢
            refine ihleft (reply.size - (c.curRespPos + (sockWriteData (writes 0)).toNat)) ?_ _ _ _
              hrest hreplies hc rfl
            omega
        obtain ⟨n, hn⟩ := hends
        refine ⟨n + 1, ?_⟩
        rw [firstResults_cons, writeQuery_cons hc, if_neg hone, if_neg hzero]
        exact hn

/-- **A call of `_write_query` is as it should be where no write of it meets
a full buffer, and only there.** -/
theorem writeQuery_orderly_iff (c : TcpConnection) (writes : ℕ → SysWrite) :
    Orderly c writes ↔
      ∀ n, meetsFull (c.replyList.map Slice.size) c.curRespPos (firstResults writes n) = false := by
  constructor
  · intro h n
    refine Bool.eq_false_iff.2 fun hfull => ?_
    obtain ⟨k, -, hzero, hbusy⟩ := (meetsFull_firstResults writes c [] n).1 hfull
    generalize hcall : writeQuery (firstResults writes k) c [] = r at hbusy
    obtain ⟨t, sent, ending⟩ := r
    obtain rfl : ending = .busy := hbusy
    -- the call goes on with the next write instead
    obtain ⟨u, hu, -⟩ := h.full k t sent hcall hzero
    have hreplies := replies_of_busy hcall
    obtain ⟨reply, replies, ht⟩ := List.exists_cons_of_ne_nil hreplies
    rw [firstResults_succ, writeQuery_append, hcall] at hu
    dsimp only at hu
    rw [writeQuery_cons ht, hzero, if_neg (by decide), if_pos rfl, writeQuery_wait hreplies] at hu
    cases hu
  · intro h
    refine ⟨finite_of_not_full writes c [] h, fun n t sent hcall hzero => ?_,
      fun n t sent hcall _ => (stopped_of_returned hcall).2⟩
    have hfull := (meetsFull_firstResults writes c [] (n + 1)).2
      ⟨n, Nat.lt_succ_self n, hzero, by rw [hcall]⟩
    rw [h (n + 1)] at hfull
    cases hfull

/-- A connection that has a reply of 40 bytes to send. -/
def replying : TcpConnection :=
  addReply ⟨List.replicate 40 0, 40⟩ { fd := 5, ioWatcher := IOWatcher.startIoEvent {} 5 .READ }

/-- **A client that does not read holds the call in its loop.** -/
theorem full_buffer_spins :
    (∀ n, writeQuery (firstResults (fun _ => .wouldBlock) n) replying [] =
      (replying, [], .busy)) ∧ ¬ Orderly replying fun _ => .wouldBlock := by
  have hspins : ∀ n, writeQuery (firstResults (fun _ => .wouldBlock) n) replying [] =
      (replying, [], .busy) := by
    intro n
    induction n with
    | zero => rfl
    | succ n ih =>
      rw [firstResults_succ, writeQuery_append, ih]
      rfl
  refine ⟨hspins, fun h => ?_⟩
  obtain ⟨n, hn⟩ := h.finite
  rw [hspins n] at hn
  exact hn rfl

end Server

end XrtcServer
