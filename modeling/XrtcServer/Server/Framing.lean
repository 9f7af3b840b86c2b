import Mathlib.Order.Basic
import XrtcServer.Server.Model.Connection
import XrtcServer.Server.Request
/-!
# Framing

Which text a connection hands to the JSON parser, and how often, over every
way the kernel splits what the client sends. The buffer is always a prefix
of the stream, so a connection is described by the length `r` read so far.
The text handed on is what `querybuf` holds after the header, up to the
first NUL (`textAt`): the declared length decides when, not what.
-/

namespace XrtcServer

namespace Server

variable {parse : List UInt8 → Except JsonException Json} {worker addr fuel : ℕ} {fd : ℤ}

/-! ## One pass of the loop -/

/-- What is handed to the parser when the buffer holds `buf`. -/
def textOf (buf : List UInt8) : List UInt8 := cstr (buf.drop XHEAD_SIZE)

section Pass

variable {s : QueryLoop}

theorem queryPass_wait
    (h : s.conn.querybuf.length < s.conn.bytesExpected + s.conn.bytesProcessed) :
    queryPass parse worker addr s = .inr (s, .ok 0) := by
  simp only [queryPass, if_neg (Nat.not_le.2 h)]

theorem queryPass_head (hstate : s.conn.currentState = .head)
    (h : s.conn.bytesExpected + s.conn.bytesProcessed ≤ s.conn.querybuf.length)
    (hmagic : (xhead s.conn.querybuf).magicNum = XHEAD_MAGIC_NUM) :
    queryPass parse worker addr s =
      .inl { s with conn := { s.conn with
        currentState := .body, bytesProcessed := XHEAD_SIZE,
        bytesExpected := (xhead s.conn.querybuf).bodyLen } } := by
  simp only [queryPass, if_pos h, hstate, hmagic, ne_eq, not_true, if_false]

theorem queryPass_badMagic (hstate : s.conn.currentState = .head)
    (h : s.conn.bytesExpected + s.conn.bytesProcessed ≤ s.conn.querybuf.length)
    (hmagic : (xhead s.conn.querybuf).magicNum ≠ XHEAD_MAGIC_NUM) :
    queryPass parse worker addr s = .inr (s, .ok (-1)) := by
  simp only [queryPass, if_pos h, hstate, ne_eq, if_pos (Ne.symm hmagic)]

/-- The request made of a connection's buffer. -/
def requestOn (parse : List UInt8 → Except JsonException Json) (worker addr : ℕ)
    (c : TcpConnection) : RequestResult :=
  processRequest parse ⟨worker, addr, c.fd⟩ ⟨c.querybuf, XHEAD_SIZE⟩
    ⟨c.querybuf.drop XHEAD_SIZE, (xhead c.querybuf).bodyLen⟩

/-- The request that a pass hands on seals the connection where it is
accepted, and ends the call where it is not. -/
theorem queryPass_body (parse : List UInt8 → Except JsonException Json) (worker addr : ℕ)
    (hstate : s.conn.currentState = .body)
    (h : s.conn.bytesExpected + s.conn.bytesProcessed ≤ s.conn.querybuf.length) :
    (Accepted (parse (textOf s.conn.querybuf)) ∧
      queryPass parse worker addr s = .inl
        { conn := { s.conn with bytesProcessed := 65536 }
          handed := s.handed ++ [textOf s.conn.querybuf]
          sent := s.sent ++ (requestOn parse worker addr s.conn).sent }) ∨
    (¬ Accepted (parse (textOf s.conn.querybuf)) ∧ ∃ r,
      queryPass parse worker addr s = .inr
        ({ conn := s.conn
           handed := s.handed ++ [textOf s.conn.querybuf]
           sent := s.sent ++ (requestOn parse worker addr s.conn).sent }, r) ∧ r ≠ .ok 0) := by
  have hout := processRequest_outcome parse ⟨worker, addr, s.conn.fd⟩ ⟨s.conn.querybuf, XHEAD_SIZE⟩
    ⟨s.conn.querybuf.drop XHEAD_SIZE, (xhead s.conn.querybuf).bodyLen⟩
  rcases hout with ⟨msg, ha, -, hr⟩ | ⟨ha, -, hr⟩ | ⟨e, ha, -, hr⟩
  · refine Or.inl ⟨ha, ?_⟩
    simp [queryPass, requestOn, h, hstate, hr, textOf]
  · refine Or.inr ⟨ha, .ok (-1), ?_, by simp⟩
    simp [queryPass, requestOn, h, hstate, hr, textOf]
  · refine Or.inr ⟨ha, .error e, ?_, by simp⟩
    simp [queryPass, requestOn, h, hstate, hr, textOf]

end Pass

/-! ## What the passes of a call keep -/

/-- **The invariant rule of a call.** A pass changes something in two
places: where it accepts a header, and where it hands a request on. -/
theorem call_of_inv {I : QueryLoop → Prop}
    (hhead : ∀ s, I s → s.conn.currentState = .head →
      s.conn.bytesExpected + s.conn.bytesProcessed ≤ s.conn.querybuf.length →
      I { s with conn := { s.conn with
        currentState := .body, bytesProcessed := XHEAD_SIZE,
        bytesExpected := (xhead s.conn.querybuf).bodyLen } })
    (hbody : ∀ s p, I s → s.conn.currentState = .body →
      s.conn.bytesExpected + s.conn.bytesProcessed ≤ s.conn.querybuf.length →
      p = 65536 ∨ p = s.conn.bytesProcessed →
      I { conn := { s.conn with bytesProcessed := p }
          handed := s.handed ++ [textOf s.conn.querybuf]
          sent := s.sent ++ (requestOn parse worker addr s.conn).sent })
    {s : QueryLoop} (hs : I s) (fuel : ℕ) :
    I (readEnd (Common.loop (queryPass parse worker addr) fuel s)).1 := by
  have hpass : ∀ s, I s → (∀ s', queryPass parse worker addr s = .inl s' → I s') ∧
      ∀ r, queryPass parse worker addr s = .inr r → I r.1 := by
    intro s hs
    by_cases h : s.conn.bytesExpected + s.conn.bytesProcessed ≤ s.conn.querybuf.length
    · cases hstate : s.conn.currentState with
      | head =>
        by_cases hmagic : (xhead s.conn.querybuf).magicNum = XHEAD_MAGIC_NUM
        · rw [queryPass_head hstate h hmagic]
          exact ⟨fun s' hs' => Sum.inl.inj hs' ▸ hhead s hs hstate h, nofun⟩
        · rw [queryPass_badMagic hstate h hmagic]
          exact ⟨nofun, fun r hr => Sum.inr.inj hr ▸ hs⟩
      | body =>
        rcases queryPass_body parse worker addr hstate h with ⟨-, hp⟩ | ⟨-, r, hp, -⟩
        · rw [hp]
          exact ⟨fun s' hs' => Sum.inl.inj hs' ▸ hbody s _ hs hstate h (Or.inl rfl), nofun⟩
        · rw [hp]
          exact ⟨nofun, fun r hr => Sum.inr.inj hr ▸ hbody s _ hs hstate h (Or.inr rfl)⟩
    · rw [queryPass_wait (Nat.lt_of_not_le h)]
      exact ⟨nofun, fun r hr => Sum.inr.inj hr ▸ hs⟩
  have hinv := Common.loop_of_inv (I := I) (Q := fun r => I r.1)
    (fun t t' ht => (hpass t ht).1 t') (fun t r ht => (hpass t ht).2 r) hs fuel
  cases hl : Common.loop (queryPass parse worker addr) fuel s with
  | inl t => exact hinv.1 t hl
  | inr r =>
    obtain ⟨t, e | ret⟩ := r
    · exact hinv.2 _ hl
    · exact hinv.2 _ hl

/-- What every part of a call keeps: the buffer, the fd, and all that was
handed on. -/
structure Grows (s s' : QueryLoop) : Prop where
  buf : s'.conn.querybuf = s.conn.querybuf
  fd : s'.conn.fd = s.conn.fd
  handed : s.handed <+: s'.handed

theorem loop_grows (parse : List UInt8 → Except JsonException Json) (worker addr : ℕ)
    (s : QueryLoop) (fuel : ℕ) :
    Grows s (readEnd (Common.loop (queryPass parse worker addr) fuel s)).1 := by
  refine call_of_inv (I := Grows s) ?_ ?_ ⟨rfl, rfl, List.prefix_refl _⟩ fuel
  · intro t ht _ _
    exact ⟨ht.buf, ht.fd, ht.handed⟩
  · intro t p ht _ _ _
    exact ⟨ht.buf, ht.fd, ht.handed.trans (List.prefix_append _ _)⟩

theorem read_handed (l : Life) (e : SockRead) :
    l.handed <+: (l.read parse worker addr fuel e).handed := by
  unfold Life.read
  split
  · exact List.prefix_append _ _
  · exact List.prefix_refl _

theorem reads_handed (parse : List UInt8 → Except JsonException Json) (worker addr fuel : ℕ)
    (l : Life) (reads : List SockRead) :
    l.handed <+: (reads.foldl (Life.read parse worker addr fuel) l).handed := by
  induction reads generalizing l with
  | nil => exact List.prefix_refl _
  | cons e reads ih => exact (read_handed l e).trans (ih _)

/-- A connection that is gone is read no more. -/
theorem reads_of_ended {l : Life} (h : l.status ≠ .kept) (reads : List SockRead) :
    reads.foldl (Life.read parse worker addr fuel) l = l := by
  induction reads with
  | nil => rfl
  | cons e reads ih =>
    rw [List.foldl_cons, Life.read, if_neg h]
    exact ih

/-! ## Fuel is only a bound -/

/-- Of two runs of the loop, the one with more fuel ends as the other, or
goes on where the other ran out. -/
theorem loop_mono (parse : List UInt8 → Except JsonException Json) (worker addr : ℕ)
    (s : QueryLoop) (fuel more : ℕ) :
    let m := readEnd (Common.loop (queryPass parse worker addr) fuel s)
    let m' := readEnd (Common.loop (queryPass parse worker addr) (fuel + more) s)
    m = m' ∨ m.2 = .busy ∧ m.1.handed <+: m'.1.handed := by
  cases hl : Common.loop (queryPass parse worker addr) fuel s with
  | inl t =>
    rw [Common.loop_add_of_inl hl]
    exact Or.inr ⟨rfl, (loop_grows parse worker addr t more).handed⟩
  | inr r =>
    rw [Common.loop_add_of_inr hl]
    exact Or.inl rfl

theorem readQuery_mono (parse : List UInt8 → Except JsonException Json) (worker addr : ℕ)
    (fuel more now : ℕ) (data : List UInt8) (c : TcpConnection) :
    let m := readQuery parse worker addr fuel now data c
    let m' := readQuery parse worker addr (fuel + more) now data c
    m = m' ∨ m.2 = .busy ∧ m.1.handed <+: m'.1.handed := by
  unfold readQuery
  by_cases hd : data = []
  · exact Or.inl (by simp [hd])
  by_cases hq : qbLen { c with lastInteraction := now } < 0
  · exact Or.inl (by simp [hd, hq])
  simp only [if_neg hd, if_neg hq]
  exact loop_mono parse worker addr _ fuel more

theorem reads_mono {more : ℕ} {l l' : Life}
    (h : l = l' ∨ l.status = .busy ∧ l.handed <+: l'.handed) (reads : List SockRead) :
    let m := reads.foldl (Life.read parse worker addr fuel) l
    let m' := reads.foldl (Life.read parse worker addr (fuel + more)) l'
    m = m' ∨ m.status = .busy ∧ m.handed <+: m'.handed := by
  induction reads generalizing l l' with
  | nil => exact h
  | cons e reads ih =>
    refine ih ?_
    rcases h with rfl | ⟨hbusy, hpre⟩
    · by_cases hk : l.status = .kept
      · simp only [Life.read, if_pos hk]
        rcases readQuery_mono parse worker addr fuel more e.now
          (l.unread.take (min e.size (readLen l.conn))) l.conn with heq | ⟨hb, hp⟩
        · exact Or.inl (by rw [heq])
        · exact Or.inr ⟨hb, (List.prefix_append_right_inj l.handed).2 hp⟩
      · simp only [Life.read, if_neg hk, true_or]
    · have hk : l.status ≠ .kept := by
        rw [hbusy]
        decide
      right
      rw [Life.read, if_neg hk]
      exact ⟨hbusy, hpre.trans (read_handed l' e)⟩

/-- **Fuel is only a bound on the passes of each call.** A life in which no
call ran out of fuel is the life with more of it; one in which a call did
has handed on no more. -/
theorem life_mono (parse : List UInt8 → Except JsonException Json) (worker addr : ℕ) (fd : ℤ)
    (stream : List UInt8) (reads : List SockRead) {fuel' : ℕ} (h : fuel ≤ fuel') :
    life parse worker addr fd stream reads fuel = life parse worker addr fd stream reads fuel' ∨
      (life parse worker addr fd stream reads fuel).status = .busy ∧
        (life parse worker addr fd stream reads fuel).handed <+:
          (life parse worker addr fd stream reads fuel').handed := by
  obtain ⟨more, rfl⟩ := Nat.exists_eq_add_of_le h
  exact reads_mono (Or.inl rfl) reads

/-- Where some fuel is enough, no fuel hands on more. -/
theorem life_handed_le {stream : List UInt8} {reads : List SockRead}
    (h : (life parse worker addr fd stream reads fuel).status ≠ .busy) (fuel' : ℕ) :
    (life parse worker addr fd stream reads fuel').handed <+:
      (life parse worker addr fd stream reads fuel).handed := by
  rcases Nat.le_total fuel' fuel with hle | hle
  · rcases life_mono parse worker addr fd stream reads hle with heq | ⟨-, hpre⟩
    · simp only [heq, List.prefix_refl]
    · exact hpre
  · rcases life_mono parse worker addr fd stream reads hle with heq | ⟨hb, -⟩
    · simp only [heq, List.prefix_refl]
    · exact absurd hb h

/-! ## Lengths -/

/-- The length the header declares. -/
def declared (stream : List UInt8) : ℕ := (xhead stream).bodyLen

/-- The header carries the magic number. -/
def GoodMagic (stream : List UInt8) : Prop := (xhead stream).magicNum = XHEAD_MAGIC_NUM

instance (stream : List UInt8) : Decidable (GoodMagic stream) :=
  inferInstanceAs (Decidable (_ = _))

/-- The length asked for when `r` bytes are buffered. -/
def askLen (stream : List UInt8) (r : ℕ) : ℕ :=
  if r < XHEAD_SIZE then XHEAD_SIZE else (sizeToInt (declared stream)).toNat

/-- The length buffered after a read for which the kernel has `k` bytes
ready, on a connection that is kept. -/
def readTo (stream : List UInt8) (r k : ℕ) : ℕ :=
  if sizeToInt r < 0 then r
  else r + min (min k (askLen stream r)) (stream.length - r)

/-- The bytes the kernel delivers over the reads, up to the first that
delivers none. -/
def total (stream : List UInt8) : ℕ → List SockRead → ℕ
  | r, [] => r
  | r, e :: reads =>
    if readTo stream r e.size = r then r else total stream (readTo stream r e.size) reads

/-- The length buffered when the frame is first complete. -/
def completing (stream : List UInt8) : ℕ → List SockRead → Option ℕ
  | _, [] => none
  | r, e :: reads =>
    if readTo stream r e.size = r then none
    else if GoodMagic stream ∧ XHEAD_SIZE + declared stream ≤ readTo stream r e.size then
      some (readTo stream r e.size)
    else completing stream (readTo stream r e.size) reads

theorem le_readTo (stream : List UInt8) (r k : ℕ) : r ≤ readTo stream r k := by
  unfold readTo
  split <;> omega

theorem readTo_le {stream : List UInt8} {r : ℕ} (h : r ≤ stream.length) (k : ℕ) :
    readTo stream r k ≤ stream.length := by
  unfold readTo
  split <;> omega

theorem le_total (stream : List UInt8) (r : ℕ) (reads : List SockRead) :
    r ≤ total stream r reads := by
  induction reads generalizing r with
  | nil => exact Nat.le_refl r
  | cons e reads ih =>
    rw [total]
    split
    · exact Nat.le_refl r
    · exact Nat.le_trans (le_readTo stream r e.size) (ih _)

theorem completing_le {stream : List UInt8} {r r₁ : ℕ} {reads : List SockRead}
    (h : completing stream r reads = some r₁) :
    GoodMagic stream ∧ XHEAD_SIZE + declared stream ≤ r₁ := by
  induction reads generalizing r with
  | nil => cases h
  | cons e reads ih =>
    rw [completing] at h
    split at h
    · cases h
    · split at h
      · rename_i hc
        obtain rfl := Option.some.inj h
        exact hc
      · exact ih h

theorem uint32At_take {bytes : List UInt8} {r pos : ℕ} (h : pos + 4 ≤ r) :
    uint32At (bytes.take r) pos = uint32At bytes pos := by
  rw [uint32At, uint32At, List.drop_take, List.take_take, Nat.min_eq_left (by omega)]

/-- A whole header in the buffer is the header of the stream. -/
theorem xhead_take {stream : List UInt8} {r : ℕ} (h : XHEAD_SIZE ≤ r) :
    xhead (stream.take r) = xhead stream := by
  have hr : 36 ≤ r := h
  simp only [xhead, uint32At_take (show 4 + 4 ≤ r by omega),
    uint32At_take (show 24 + 4 ≤ r by omega), uint32At_take (show 32 + 4 ≤ r by omega)]

/-! ## The phases of a connection -/

/-- The loop waits for the header, or for the body. -/
def Waiting (stream : List UInt8) (r : ℕ) (c : TcpConnection) : Prop :=
  (r < XHEAD_SIZE ∧ c.currentState = .head ∧ c.bytesExpected = XHEAD_SIZE ∧
      c.bytesProcessed = 0) ∨
    (XHEAD_SIZE ≤ r ∧ r < XHEAD_SIZE + declared stream ∧ GoodMagic stream ∧
      c.currentState = .body ∧ c.bytesExpected = declared stream ∧ c.bytesProcessed = XHEAD_SIZE)

/-- The loop has sealed the connection after an accepted request. -/
def SealedConn (stream : List UInt8) (c : TcpConnection) : Prop :=
  c.currentState = .body ∧ c.bytesExpected = declared stream ∧ c.bytesProcessed = 65536

/-- Reading moves no counter. -/
theorem Waiting.append {stream : List UInt8} {r : ℕ} {c : TcpConnection}
    (h : Waiting stream r c) (now : ℕ) (buf : List UInt8) :
    Waiting stream r { c with lastInteraction := now, querybuf := buf } := by
  unfold Waiting at h ⊢
  exact h

theorem SealedConn.append {stream : List UInt8} {c : TcpConnection} (h : SealedConn stream c)
    (now : ℕ) (buf : List UInt8) :
    SealedConn stream { c with lastInteraction := now, querybuf := buf } := by
  unfold SealedConn at h ⊢
  exact h

/-- How a call ends that finds `r` bytes buffered while it waits. -/
inductive Called (parse : List UInt8 → Except JsonException Json) (stream : List UInt8) (r : ℕ)
    (x : QueryLoop × ReadEnd) : Prop
  | waiting (hw : Waiting stream r x.1.conn) (hh : x.1.handed = []) (hk : x.2 = .kept)
  | badMagic (hm : ¬ GoodMagic stream) (hh : x.1.handed = []) (hk : x.2 = .closed)
  | refused (hm : GoodMagic stream) (hr : XHEAD_SIZE + declared stream ≤ r)
      (ha : ¬ Accepted (parse (textOf (stream.take r))))
      (hh : x.1.handed = [textOf (stream.take r)]) (hk : x.2 ≠ .kept ∧ x.2 ≠ .busy)
  | sealed (hm : GoodMagic stream) (hr : XHEAD_SIZE + declared stream ≤ r)
      (hlt : r < declared stream + 65536) (ha : Accepted (parse (textOf (stream.take r))))
      (hc : SealedConn stream x.1.conn) (hh : x.1.handed = [textOf (stream.take r)])
      (hk : x.2 = .kept)
  | overrun (hm : GoodMagic stream) (hr : declared stream + 65536 ≤ r)
      (ha : Accepted (parse (textOf (stream.take r))))
      (hh : [textOf (stream.take r), textOf (stream.take r)] <+: x.1.handed)

section Calls

variable {stream : List UInt8} {r : ℕ} {s : QueryLoop}

/-- A sealed connection with less than 65536 bytes past the declared length
is left alone; with more, its buffer is handed on again. -/
theorem call_sealed (parse : List UInt8 → Except JsonException Json) (worker addr : ℕ)
    (hle : r ≤ stream.length) (hbuf : s.conn.querybuf = stream.take r)
    (hc : SealedConn stream s.conn) (hfuel : 1 ≤ fuel) :
    (r < declared stream + 65536 →
        readEnd (Common.loop (queryPass parse worker addr) fuel s) = (s, .kept)) ∧
      (declared stream + 65536 ≤ r → s.handed ++ [textOf (stream.take r)] <+:
        (readEnd (Common.loop (queryPass parse worker addr) fuel s)).1.handed) := by
  obtain ⟨hstate, hexp, hproc⟩ := hc
  obtain ⟨fuel, rfl⟩ := Nat.exists_eq_add_of_le' hfuel
  have hlen : s.conn.querybuf.length = r := by rw [hbuf, List.length_take, Nat.min_eq_left hle]
  constructor
  · intro hlt
    rw [Common.loop_succ_inr (queryPass_wait (by omega))]
    rfl
  · intro hge
    rcases queryPass_body parse worker addr hstate (by omega) with
      ⟨-, hp⟩ | ⟨-, x, hp, -⟩
    · rw [Common.loop_succ_inl hp, ← hbuf]
      exact (loop_grows parse worker addr ⟨{ s.conn with bytesProcessed := 65536 },
        s.handed ++ [textOf s.conn.querybuf],
        s.sent ++ (requestOn parse worker addr s.conn).sent⟩ fuel).handed
    · rw [Common.loop_succ_inr hp, ← hbuf]
      obtain e | ret := x <;> exact List.prefix_refl _

/-- A call that waits for the body. -/
theorem call_body (hr : XHEAD_SIZE ≤ r) (hle : r ≤ stream.length)
    (hbuf : s.conn.querybuf = stream.take r) (hm : GoodMagic stream)
    (hstate : s.conn.currentState = .body) (hexp : s.conn.bytesExpected = declared stream)
    (hproc : s.conn.bytesProcessed = XHEAD_SIZE) (hh : s.handed = []) (hfuel : 2 ≤ fuel) :
    Called parse stream r (readEnd (Common.loop (queryPass parse worker addr) fuel s)) := by
  obtain ⟨fuel, rfl⟩ := Nat.exists_eq_add_of_le' hfuel
  have hlen : s.conn.querybuf.length = r := by rw [hbuf, List.length_take, Nat.min_eq_left hle]
  by_cases hlt : r < XHEAD_SIZE + declared stream
  · rw [Common.loop_succ_inr (queryPass_wait (by omega))]
    exact .waiting (Or.inr ⟨hr, hlt, hm, hstate, hexp, hproc⟩) hh rfl
  · have hge : XHEAD_SIZE + declared stream ≤ r := Nat.le_of_not_lt hlt
    rcases queryPass_body parse worker addr hstate (by omega) with
      ⟨ha, hp⟩ | ⟨ha, x, hp, hx⟩
    · rw [hbuf, hh, List.nil_append] at hp
      rw [hbuf] at ha
      rw [Common.loop_succ_inl hp]
      have hnext := call_sealed parse worker addr
        (s := ⟨{ s.conn with bytesProcessed := 65536 }, [textOf (stream.take r)],
          s.sent ++ (requestOn parse worker addr s.conn).sent⟩)
        hle hbuf ⟨hstate, hexp, rfl⟩ (Nat.succ_le_succ fuel.zero_le)
      by_cases hsmall : r < declared stream + 65536
      · rw [hnext.1 hsmall]
        exact .sealed hm hge hsmall ha ⟨hstate, hexp, rfl⟩ rfl rfl
      · exact .overrun hm (by omega) ha (hnext.2 (by omega))
    · rw [hbuf, hh, List.nil_append] at hp
      rw [hbuf] at ha
      rw [Common.loop_succ_inr hp]
      obtain e | ret := x
      · exact .refused hm hge ha rfl ⟨by simp [readEnd], by simp [readEnd]⟩
      · have hret : ret ≠ 0 := fun h => hx (by rw [h])
        exact .refused hm hge ha rfl ⟨by simp [readEnd, hret], by simp [readEnd, hret]⟩

/-- **A call that finds `r` bytes buffered while it waits.** Three passes
are enough. -/
theorem call_waiting {p : ℕ} (hw : Waiting stream p s.conn) (hr : p ≤ r)
    (hle : r ≤ stream.length) (hbuf : s.conn.querybuf = stream.take r) (hh : s.handed = [])
    (hfuel : 3 ≤ fuel) :
    Called parse stream r (readEnd (Common.loop (queryPass parse worker addr) fuel s)) := by
  have hlen : s.conn.querybuf.length = r := by rw [hbuf, List.length_take, Nat.min_eq_left hle]
  rcases hw with ⟨-, hstate, hexp, hproc⟩ | ⟨hp, -, hm, hstate, hexp, hproc⟩
  · obtain ⟨fuel, rfl⟩ := Nat.exists_eq_add_of_le' hfuel
    by_cases hlt : r < XHEAD_SIZE
    · rw [Common.loop_succ_inr (queryPass_wait (by omega))]
      exact .waiting (Or.inl ⟨hlt, hstate, hexp, hproc⟩) hh rfl
    · have hge : XHEAD_SIZE ≤ r := Nat.le_of_not_lt hlt
      have hx : xhead s.conn.querybuf = xhead stream := by rw [hbuf, xhead_take hge]
      by_cases hm : GoodMagic stream
      · rw [Common.loop_succ_inl (queryPass_head hstate (by omega) (by rw [hx]; exact hm))]
        exact call_body hge hle hbuf hm rfl (by simp [hx, declared]) rfl hh (by omega)
      · rw [Common.loop_succ_inr (queryPass_badMagic hstate (by omega) (by rw [hx]; exact hm))]
        exact .badMagic hm hh rfl
  · exact call_body (by omega) hle hbuf hm hstate hexp hproc hh (by omega)

end Calls

/-! ## The reads of a life -/

/-- The connection is kept and has read the first `r` bytes. -/
structure At (stream : List UInt8) (r : ℕ) (l : Life) : Prop where
  status : l.status = .kept
  unread : l.unread = stream.drop r
  le : r ≤ stream.length
  buf : l.conn.querybuf = stream.take r

section Reads

variable {stream : List UInt8} {r : ℕ} {l : Life} {e : SockRead}

/-- A read that gives nothing ends the connection. -/
theorem read_of_readTo_eq (parse : List UInt8 → Except JsonException Json) (worker addr fuel : ℕ)
    (h : At stream r l) (hask : readLen l.conn = askLen stream r)
    (hto : readTo stream r e.size = r) :
    (l.read parse worker addr fuel e).status ≠ .kept ∧
      (l.read parse worker addr fuel e).status ≠ .busy ∧
      (l.read parse worker addr fuel e).handed = l.handed := by
  have hlen : l.conn.querybuf.length = r := by
    rw [h.buf, List.length_take, Nat.min_eq_left h.le]
  unfold Life.read readQuery
  rw [if_pos h.status]
  by_cases hd : l.unread.take (min e.size (readLen l.conn)) = []
  · simp [hd]
  · by_cases hq : sizeToInt r < 0
    · simp [hd, qbLen, hlen, hq]
    · have hpos : 0 < (l.unread.take (min e.size (readLen l.conn))).length :=
        List.length_pos_iff.2 hd
      rw [h.unread, List.length_take, List.length_drop, hask] at hpos
      rw [readTo, if_neg hq] at hto
      omega

/-- A read that gives data is a call on the longer prefix. -/
theorem read_of_readTo_ne (h : At stream r l) (hask : readLen l.conn = askLen stream r)
    (hto : readTo stream r e.size ≠ r) :
    let r' := readTo stream r e.size
    let x := readEnd (Common.loop (queryPass parse worker addr) fuel
      { conn := { l.conn with lastInteraction := e.now, querybuf := stream.take r' } })
    l.read parse worker addr fuel e =
      ⟨x.1.conn, stream.drop r', l.handed ++ x.1.handed, l.sent ++ x.1.sent, x.2⟩ := by
  have hlen : l.conn.querybuf.length = r := by
    rw [h.buf, List.length_take, Nat.min_eq_left h.le]
  have hq : ¬ sizeToInt r < 0 := by
    intro hq
    exact hto (if_pos hq)
  have hdata : (l.unread.take (min e.size (readLen l.conn))).length =
      min (min e.size (askLen stream r)) (stream.length - r) := by
    rw [h.unread, hask, List.length_take, List.length_drop]
  have hr' : readTo stream r e.size =
      r + (l.unread.take (min e.size (readLen l.conn))).length := by
    rw [hdata, readTo, if_neg hq]
  have hd : l.unread.take (min e.size (readLen l.conn)) ≠ [] := by
    intro hd
    rw [hd] at hr'
    exact hto hr'
  have hbuf : l.conn.querybuf ++ l.unread.take (min e.size (readLen l.conn)) =
      stream.take (readTo stream r e.size) := by
    rw [hr', List.take_add, h.buf, h.unread, List.length_take]
    simp
  have hdrop : l.unread.drop (l.unread.take (min e.size (readLen l.conn))).length =
      stream.drop (readTo stream r e.size) := by
    rw [hr', h.unread, List.drop_drop]
  simp only [Life.read, if_pos h.status, readQuery, if_neg hd, qbLen, hlen, if_neg hq,
    processQueryBuffer, hbuf, hdrop]

theorem readLen_waiting (h : Waiting stream r l.conn) : readLen l.conn = askLen stream r := by
  rcases h with ⟨hr, -, hexp, -⟩ | ⟨hr, -, -, -, hexp, -⟩
  · rw [readLen, hexp, askLen, if_pos hr]
    rfl
  · rw [readLen, hexp, askLen, if_neg (Nat.not_lt.2 hr)]

theorem readLen_sealed (hr : XHEAD_SIZE ≤ r) (h : SealedConn stream l.conn) :
    readLen l.conn = askLen stream r := by
  rw [readLen, h.2.1, askLen, if_neg (Nat.not_lt.2 hr)]

/-- **The reads of a sealed connection.** They hand on nothing while the
bytes delivered stay below the seal, and the buffer once more where they
reach it. -/
theorem reads_sealed (parse : List UInt8 → Except JsonException Json) (worker addr fuel : ℕ)
    (h : At stream r l) (hc : SealedConn stream l.conn) (hr : XHEAD_SIZE ≤ r)
    (hlt : r < declared stream + 65536) (hfuel : 3 ≤ fuel) (reads : List SockRead) :
    let m := reads.foldl (Life.read parse worker addr fuel) l
    (total stream r reads < declared stream + 65536 →
        m.status ≠ .busy ∧ m.handed = l.handed) ∧
      (declared stream + 65536 ≤ total stream r reads →
        ∃ r₂, declared stream + 65536 ≤ r₂ ∧ r₂ ≤ stream.length ∧
          l.handed ++ [textOf (stream.take r₂)] <+: m.handed) := by
  induction reads generalizing r l with
  | nil =>
    refine ⟨fun _ => ⟨?_, rfl⟩, fun hge => absurd hge (Nat.not_le.2 hlt)⟩
    rw [List.foldl_nil, h.status]
    decide
  | cons e reads ih =>
    have hask := readLen_sealed hr hc
    by_cases hto : readTo stream r e.size = r
    · obtain ⟨hkept, hbusy, hh⟩ := read_of_readTo_eq parse worker addr fuel h hask hto
      rw [List.foldl_cons, reads_of_ended hkept, total, if_pos hto]
      exact ⟨fun _ => ⟨hbusy, hh⟩, fun hge => absurd hge (Nat.not_le.2 hlt)⟩
    · have hle := readTo_le h.le e.size
      have hmono := le_readTo stream r e.size
      rw [List.foldl_cons, total, if_neg hto, read_of_readTo_ne h hask hto]
      generalize readTo stream r e.size = r' at hle hmono
      have hcall := call_sealed parse worker addr (s := { conn := { l.conn with
        lastInteraction := e.now, querybuf := stream.take r' } }) hle rfl
        (hc.append _ _) (Nat.le_trans (by decide) hfuel)
      by_cases hsmall : r' < declared stream + 65536
      · rw [hcall.1 hsmall]
        have hnext := ih (r := r') (l := ⟨{ l.conn with
          lastInteraction := e.now, querybuf := stream.take r' },
          stream.drop r', l.handed ++ [], l.sent ++ [], .kept⟩)
          ⟨rfl, rfl, hle, rfl⟩ (hc.append _ _) (Nat.le_trans hr hmono) hsmall
        simpa only [List.append_nil] using hnext
      · have hge : declared stream + 65536 ≤ r' := Nat.le_of_not_lt hsmall
        refine ⟨fun hlt' => ?_, fun _ => ⟨r', hge, hle, ?_⟩⟩
        · exact absurd (Nat.le_trans hge (le_total stream r' reads)) (Nat.not_le.2 hlt')
        · refine List.IsPrefix.trans ?_ (reads_handed parse worker addr fuel _ reads)
          exact (List.prefix_append_right_inj l.handed).2 (hcall.2 hge)

/-- **The reads of a connection that waits for its frame.** -/
theorem reads_waiting (parse : List UInt8 → Except JsonException Json) (worker addr fuel : ℕ)
    (h : At stream r l) (hw : Waiting stream r l.conn) (hh : l.handed = [])
    (hfuel : 3 ≤ fuel) (reads : List SockRead) :
    let m := reads.foldl (Life.read parse worker addr fuel) l
    (completing stream r reads = none → m.status ≠ .busy ∧ m.handed = []) ∧
      ∀ r₁, completing stream r reads = some r₁ → r₁ ≤ stream.length ∧
        (¬ (Accepted (parse (textOf (stream.take r₁))) ∧
            declared stream + 65536 ≤ total stream r reads) →
          m.status ≠ .busy ∧ m.handed = [textOf (stream.take r₁)]) ∧
        (Accepted (parse (textOf (stream.take r₁))) →
          declared stream + 65536 ≤ total stream r reads →
          ∃ r₂, declared stream + 65536 ≤ r₂ ∧ r₂ ≤ stream.length ∧
            [textOf (stream.take r₁), textOf (stream.take r₂)] <+: m.handed) := by
  induction reads generalizing r l with
  | nil =>
    refine ⟨fun _ => ⟨?_, hh⟩, fun r₁ hr₁ => nomatch hr₁⟩
    rw [List.foldl_nil, h.status]
    decide
  | cons e reads ih =>
    have hask := readLen_waiting hw
    by_cases hto : readTo stream r e.size = r
    · obtain ⟨hkept, hbusy, hh'⟩ := read_of_readTo_eq parse worker addr fuel h hask hto
      rw [List.foldl_cons, reads_of_ended hkept, completing, if_pos hto]
      exact ⟨fun _ => ⟨hbusy, hh'.trans hh⟩, fun r₁ hr₁ => nomatch hr₁⟩
    · have hle := readTo_le h.le e.size
      have hmono := le_readTo stream r e.size
      rw [List.foldl_cons, completing, total, if_neg hto, if_neg hto,
        read_of_readTo_ne h hask hto, hh]
      generalize readTo stream r e.size = r' at hle hmono
      generalize hs : ({ conn := { l.conn with
        lastInteraction := e.now, querybuf := stream.take r' } } : QueryLoop) = s
      have hbuf : s.conn.querybuf = stream.take r' := by rw [← hs]
      have hcall : Called parse stream r'
          (readEnd (Common.loop (queryPass parse worker addr) fuel s)) := by
        refine call_waiting (p := r) ?_ hmono hle hbuf ?_ hfuel
        · subst hs
          exact hw.append _ _
        · subst hs
          rfl
      have hgrows := loop_grows parse worker addr s fuel
      generalize readEnd (Common.loop (queryPass parse worker addr) fuel s) = x at hcall hgrows
      have hat : x.2 = .kept → At stream r'
          ⟨x.1.conn, stream.drop r', [] ++ x.1.handed, l.sent ++ x.1.sent, x.2⟩ :=
        fun hk => ⟨hk, rfl, hle, hgrows.buf.trans hbuf⟩
      rcases hcall with ⟨hw', hh', hk⟩ | ⟨hm, hh', hk⟩ | ⟨hm, hr', ha, hh', hk⟩ |
        ⟨hm, hr', hlt, ha, hc, hh', hk⟩ | ⟨hm, hr', ha, hh'⟩
      · have hno : ¬ (GoodMagic stream ∧ XHEAD_SIZE + declared stream ≤ r') := by
          rintro ⟨-, hr'⟩
          rcases hw' with ⟨h36, -⟩ | ⟨-, hlt, -⟩ <;> omega
        rw [if_neg hno]
        exact ih (hat hk) hw' (by simpa using hh')
      · have hno : completing stream r' reads = none := by
          cases hc : completing stream r' reads with
          | none => rfl
          | some r₁ => exact absurd (completing_le hc).1 hm
        rw [if_neg (fun h => hm h.1), hno, reads_of_ended (by simp [hk])]
        exact ⟨fun _ => ⟨by simp [hk], by simpa using hh'⟩, fun r₁ hr₁ => nomatch hr₁⟩
      · rw [if_pos ⟨hm, hr'⟩, reads_of_ended hk.1]
        refine ⟨nofun, fun r₁ hr₁ => ?_⟩
        obtain rfl := Option.some.inj hr₁
        exact ⟨hle, fun _ => ⟨hk.2, by simpa using hh'⟩, fun ha' => absurd ha' ha⟩
      · rw [if_pos ⟨hm, hr'⟩]
        refine ⟨nofun, fun r₁ hr₁ => ?_⟩
        obtain rfl := Option.some.inj hr₁
        have hrest := reads_sealed parse worker addr fuel (hat hk) hc (by omega) hlt hfuel reads
        simp only [List.nil_append, hh'] at hrest
        simp only [List.nil_append, hh']
        refine ⟨hle, fun hno => hrest.1 ?_, fun _ hge => hrest.2 hge⟩
        exact Nat.lt_of_not_le fun hge => hno ⟨ha, hge⟩
      · rw [if_pos ⟨hm, by have : XHEAD_SIZE = 36 := rfl; omega⟩]
        refine ⟨nofun, fun r₁ hr₁ => ?_⟩
        obtain rfl := Option.some.inj hr₁
        refine ⟨hle, fun hno => ?_, fun _ _ => ⟨r', hr', hle, ?_⟩⟩
        · exact absurd ⟨ha, Nat.le_trans hr' (le_total stream r' reads)⟩ hno
        · refine hh'.trans ?_
          exact reads_handed parse worker addr fuel
            ⟨x.1.conn, stream.drop r', [] ++ x.1.handed, l.sent ++ x.1.sent, x.2⟩ reads

end Reads

end Server

end XrtcServer
