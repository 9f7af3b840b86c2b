import Mathlib.Data.List.TakeWhile
import XrtcServer.Server.Framing
/-!
# One connection, one request, one text

The two promises of the framing loop, each with the streams and reads on
which it holds. A connection hands on one request and every call returns,
unless 65536 bytes beyond the declared length follow an accepted request
(`oneRequest_iff`). The text handed on is the body, unless a byte behind
the body is buffered when the text is handed on (`bodyAlone_iff`).
-/

namespace XrtcServer

namespace Server

variable {parse : List UInt8 → Except JsonException Json} {worker addr fuel : ℕ} {fd : ℤ}
variable {stream : List UInt8} {reads : List SockRead}

/-- **The overrun.** The reads that first complete the frame carry an
accepted request, and the bytes delivered reach the seal. -/
def Overruns (parse : List UInt8 → Except JsonException Json) (stream : List UInt8)
    (reads : List SockRead) : Prop :=
  ∃ r, completing stream 0 reads = some r ∧ Accepted (parse (textOf (stream.take r))) ∧
    declared stream + 65536 ≤ total stream 0 reads

theorem at_start (stream : List UInt8) (fd : ℤ) :
    At stream 0 { conn := { fd := fd }, unread := stream } :=
  ⟨rfl, rfl, Nat.zero_le _, rfl⟩

theorem waiting_start (stream : List UInt8) (fd : ℤ) : Waiting stream 0 { fd := fd } :=
  Or.inl ⟨by decide, rfl, rfl, rfl⟩

/-- Short of an overrun every call returns, and what is handed on is the
text of the read that completes the frame. -/
theorem life_of_not_overruns (worker addr : ℕ) (fd : ℤ)
    (h : ¬ Overruns parse stream reads) (hfuel : 3 ≤ fuel) :
    (life parse worker addr fd stream reads fuel).status ≠ .busy ∧
      (life parse worker addr fd stream reads fuel).handed =
        ((completing stream 0 reads).map fun r => textOf (stream.take r)).toList := by
  obtain ⟨hnone, hsome⟩ := reads_waiting parse worker addr fuel (at_start stream fd)
    (waiting_start stream fd) rfl hfuel reads
  cases hc : completing stream 0 reads with
  | none => exact hnone hc
  | some r =>
    obtain ⟨-, hok, -⟩ := hsome r hc
    exact hok fun ⟨ha, hge⟩ => h ⟨r, hc, ha, hge⟩

/-- In an overrun the buffer is handed on a second time. -/
theorem life_of_overruns (worker addr : ℕ) (fd : ℤ) {r : ℕ}
    (hc : completing stream 0 reads = some r)
    (ha : Accepted (parse (textOf (stream.take r))))
    (hge : declared stream + 65536 ≤ total stream 0 reads) (hfuel : 3 ≤ fuel) :
    ∃ r₂, declared stream + 65536 ≤ r₂ ∧ r₂ ≤ stream.length ∧
      [textOf (stream.take r), textOf (stream.take r₂)] <+:
        (life parse worker addr fd stream reads fuel).handed := by
  obtain ⟨-, hsome⟩ := reads_waiting parse worker addr fuel (at_start stream fd)
    (waiting_start stream fd) rfl hfuel reads
  exact (hsome r hc).2.2 ha hge

/-! ## One request -/

/-- Every call of `_process_query_buffer` returns, and at most one request
is handed on. -/
def OneRequest (parse : List UInt8 → Except JsonException Json) (worker addr : ℕ) (fd : ℤ)
    (stream : List UInt8) (reads : List SockRead) : Prop :=
  (∃ fuel, (life parse worker addr fd stream reads fuel).status ≠ .busy) ∧
    ∀ fuel, (life parse worker addr fd stream reads fuel).handed.length ≤ 1

theorem not_oneRequest_of_overruns (h : Overruns parse stream reads) :
    ¬ OneRequest parse worker addr fd stream reads := by
  rintro ⟨-, hone⟩
  obtain ⟨r, hc, ha, hge⟩ := h
  obtain ⟨r₂, -, -, htwice⟩ := life_of_overruns worker addr fd hc ha hge (Nat.le_refl 3)
  have hlen := htwice.length_le
  have := hone 3
  simp only [List.length_cons, List.length_nil] at hlen
  omega

/-- **A connection hands on one request exactly when its stream does not
overrun the seal.** -/
theorem oneRequest_iff (parse : List UInt8 → Except JsonException Json) (worker addr : ℕ)
    (fd : ℤ) (stream : List UInt8) (reads : List SockRead) :
    OneRequest parse worker addr fd stream reads ↔ ¬ Overruns parse stream reads := by
  constructor
  · intro hone hover
    exact not_oneRequest_of_overruns hover hone
  · intro hno
    obtain ⟨hbusy, hh⟩ := life_of_not_overruns worker addr fd hno (Nat.le_refl 3)
    have hlen : (life parse worker addr fd stream reads 3).handed.length ≤ 1 := by
      rw [hh]
      cases completing stream 0 reads <;> simp
    exact ⟨⟨3, hbusy⟩, fun fuel => Nat.le_trans (life_handed_le hbusy fuel).length_le hlen⟩

/-! ### A declared length of 65536, and as much again -/

/-- A header with the magic number and the four bytes of a body length. -/
def sampleHead (len : List UInt8) : List UInt8 :=
  List.replicate 24 0 ++ [2, 34, 32, 251, 0, 0, 0, 0] ++ len

/-- The text of a STOPPUSH request: `cmdno` 4, `uid` 1, `stream_name` "a". -/
def stopText : List UInt8 :=
  [123, 34, 99, 109, 100, 110, 111, 34, 58, 52, 44, 34, 117, 105, 100, 34, 58, 49, 44, 34, 115,
    116, 114, 101, 97, 109, 95, 110, 97, 109, 101, 34, 58, 34, 97, 34, 125]

/-- A parser, as far as this text followed by blanks shows it. -/
def parseStop (text : List UInt8) : Except JsonException Json :=
  if text = stopText ++ List.replicate (text.length - stopText.length) 32 then
    .ok (.object [("cmdno", .numberUnsigned 4), ("uid", .numberUnsigned 1),
      ("stream_name", .string "a")])
  else .error .parseError

/-- The request, padded with blanks far beyond its declared length. -/
def paddedStop : List UInt8 :=
  sampleHead [0, 0, 1, 0] ++ (stopText ++ List.replicate 131034 32)

/-- The header, all but one byte of the body, and then as much as is asked
for. -/
def paddedReads : List SockRead := [⟨0, 36⟩, ⟨0, 65535⟩, ⟨0, 65536⟩]

theorem sizeToInt_of_lt {n : ℕ} (h : n < 2147483648) : sizeToInt n = n := by
  unfold sizeToInt
  rw [Int.bmod_eq_of_le] <;> omega

/-- Below 2 GiB no conversion shows. -/
theorem readTo_of_lt {r k d : ℕ} (hr : r < 2147483648) (hd : d < 2147483648)
    (hdecl : declared stream = d) :
    readTo stream r k =
      r + min (min k (if r < XHEAD_SIZE then XHEAD_SIZE else d)) (stream.length - r) := by
  rw [readTo, askLen, hdecl, sizeToInt_of_lt hr, sizeToInt_of_lt hd, if_neg (by omega),
    Int.toNat_natCast]

theorem paddedStop_length : paddedStop.length = 131107 := by
  simp only [paddedStop, sampleHead, List.length_append, List.length_replicate]
  rfl

theorem paddedStop_declared : declared paddedStop = 65536 := rfl

theorem paddedStop_text : textOf paddedStop = stopText ++ List.replicate 131034 32 := by
  have hdrop : paddedStop.drop XHEAD_SIZE = stopText ++ List.replicate 131034 32 := rfl
  rw [textOf, hdrop, cstr, List.takeWhile_eq_self_iff]
  intro b hb
  rcases List.mem_append.1 hb with hb | hb
  · have hall : stopText.all (fun b => decide (b ≠ 0)) = true := rfl
    exact List.all_eq_true.1 hall b hb
  · rw [List.eq_of_mem_replicate hb]
    decide

theorem paddedStop_overruns : Overruns parseStop paddedStop paddedReads := by
  have hto : ∀ r k, r < 2147483648 → readTo paddedStop r k =
      r + min (min k (if r < 36 then 36 else 65536)) (131107 - r) := by
    intro r k hr
    rw [readTo_of_lt hr (by decide) paddedStop_declared, paddedStop_length]
    rfl
  have hhead : readTo paddedStop 0 36 = 36 := hto 0 36 (by decide)
  have hbody : readTo paddedStop 36 65535 = 65571 := hto 36 65535 (by decide)
  have hmore : readTo paddedStop 65571 65536 = 131107 := hto 65571 65536 (by decide)
  have htotal : total paddedStop 0 paddedReads = 131107 := by
    simp [total, paddedReads, hhead, hbody, hmore]
  have hmagic : GoodMagic paddedStop := rfl
  have hcomp : completing paddedStop 0 paddedReads = some 131107 := by
    simp [completing, paddedReads, hhead, hbody, hmore, hmagic, paddedStop_declared, XHEAD_SIZE]
  refine ⟨131107, hcomp, ?_, by rw [htotal, paddedStop_declared]; decide⟩
  rw [← paddedStop_length, List.take_length, paddedStop_text]
  have hparse : parseStop (stopText ++ List.replicate 131034 32) =
      .ok (.object [("cmdno", .numberUnsigned 4), ("uid", .numberUnsigned 1),
        ("stream_name", .string "a")]) := by
    rw [parseStop, if_pos]
    rw [List.length_append, List.length_replicate, Nat.add_sub_cancel_left]
  rw [hparse]
  refine ⟨_, .numberUnsigned 4, 4, stopFields, rfl, rfl, rfl, rfl, ?_⟩
  rintro f hf
  rcases List.mem_cons.1 hf with rfl | hf
  · exact ⟨.numberUnsigned 1, rfl, rfl⟩
  · obtain rfl := List.mem_singleton.1 hf
    exact ⟨.string "a", rfl, rfl⟩

/-- **A request with 65536 blanks behind it is handed on without end.** -/
theorem padded_handed_again : ¬ OneRequest parseStop 0 0 7 paddedStop paddedReads :=
  not_oneRequest_of_overruns paddedStop_overruns

/-! ## One text -/

theorem cstr_cstr (bytes : List UInt8) : cstr (cstr bytes) = cstr bytes := List.takeWhile_idem

/-- A request depends on its header's `log_id` and on its body up to the
first NUL. -/
theorem processRequest_congr {o : Origin} {header header' body body' : Slice}
    (hh : (xhead header.data).logId = (xhead header'.data).logId)
    (hb : cstr body.data = cstr body'.data) :
    processRequest parse o header body = processRequest parse o header' body' := by
  rw [processRequest, processRequest, hh, hb]

/-- The request a text makes on the connection of a stream. -/
def requestOf (parse : List UInt8 → Except JsonException Json) (worker addr : ℕ) (fd : ℤ)
    (stream text : List UInt8) : RequestResult :=
  processRequest parse ⟨worker, addr, fd⟩ ⟨stream, XHEAD_SIZE⟩ ⟨text, text.length⟩

/-- What holds of a connection on a stream after any passes: the buffer is
a prefix of the stream, every text handed on is that of a prefix with a
whole frame in it, and every message sent is one that such a text makes. -/
structure OnStream (parse : List UInt8 → Except JsonException Json) (worker addr : ℕ) (fd : ℤ)
    (stream : List UInt8) (s : QueryLoop) : Prop where
  sameFd : s.conn.fd = fd
  buf : s.conn.querybuf <+: stream
  head : s.conn.currentState = .head → s.conn.bytesExpected = XHEAD_SIZE
  body : s.conn.currentState = .body →
    s.conn.bytesExpected = declared stream ∧ XHEAD_SIZE ≤ s.conn.bytesProcessed
  whole : ∀ t ∈ s.handed, ∃ r, XHEAD_SIZE + declared stream ≤ r ∧ r ≤ stream.length ∧
    t = textOf (stream.take r)
  sent : ∀ msg ∈ s.sent, ∃ t ∈ s.handed, msg ∈ (requestOf parse worker addr fd stream t).sent

/-- The two ways a pass in the body can go keep it alike. -/
theorem OnStream.handOn {s : QueryLoop} (h : OnStream parse worker addr fd stream s)
    (hstate : s.conn.currentState = .body)
    (hlen : s.conn.bytesExpected + s.conn.bytesProcessed ≤ s.conn.querybuf.length) {p : ℕ}
    (hp : XHEAD_SIZE ≤ p) :
    OnStream parse worker addr fd stream
      { conn := { s.conn with bytesProcessed := p }
        handed := s.handed ++ [textOf s.conn.querybuf]
        sent := s.sent ++ (requestOn parse worker addr s.conn).sent } := by
  obtain ⟨hexp, hproc⟩ := h.body hstate
  have htake : s.conn.querybuf = stream.take s.conn.querybuf.length :=
    List.prefix_iff_eq_take.1 h.buf
  have hlog : (xhead s.conn.querybuf).logId = (xhead stream).logId := by
    rw [htake, xhead_take (by omega)]
  refine ⟨h.sameFd, h.buf, h.head, fun _ => ⟨hexp, hp⟩, fun t ht => ?_, fun msg hmsg => ?_⟩
  · rcases List.mem_append.1 ht with ht | ht
    · exact h.whole t ht
    · rw [List.mem_singleton.1 ht]
      exact ⟨s.conn.querybuf.length, by omega, h.buf.length_le, by rw [← htake]⟩
  · rcases List.mem_append.1 hmsg with hmsg | hmsg
    · obtain ⟨t, ht, hsent⟩ := h.sent msg hmsg
      exact ⟨t, List.mem_append_left _ ht, hsent⟩
    · refine ⟨textOf s.conn.querybuf, by simp, ?_⟩
      have heq : requestOf parse worker addr fd stream (textOf s.conn.querybuf) =
          requestOn parse worker addr s.conn := by
        rw [requestOn, h.sameFd]
        exact processRequest_congr hlog.symm (cstr_cstr _)
      rwa [heq]

theorem OnStream.loop {s : QueryLoop} (h : OnStream parse worker addr fd stream s) (fuel : ℕ) :
    OnStream parse worker addr fd stream
      (readEnd (Common.loop (queryPass parse worker addr) fuel s)).1 := by
  refine call_of_inv ?_ ?_ h fuel
  · intro t ht hstate hlen
    have hexp := ht.head hstate
    have hx : xhead t.conn.querybuf = xhead stream := by
      rw [List.prefix_iff_eq_take.1 ht.buf, xhead_take (by omega)]
    exact ⟨ht.sameFd, ht.buf, fun h => (nomatch h), fun _ => ⟨by rw [hx]; rfl, Nat.le_refl _⟩,
      ht.whole, ht.sent⟩
  · rintro t p ht hstate hlen (rfl | rfl)
    · exact ht.handOn hstate hlen (by decide)
    · exact ht.handOn hstate hlen (ht.body hstate).2

/-- What a life has handed on and sent, taken together with its
connection. -/
def Life.asLoop (l : Life) : QueryLoop := ⟨l.conn, l.handed, l.sent⟩

/-- Joining what one call did to what was done before. -/
theorem OnStream.join {s t : QueryLoop} (hs : OnStream parse worker addr fd stream s)
    (ht : OnStream parse worker addr fd stream t) :
    OnStream parse worker addr fd stream ⟨t.conn, s.handed ++ t.handed, s.sent ++ t.sent⟩ := by
  refine ⟨ht.sameFd, ht.buf, ht.head, ht.body, fun x hx => ?_, fun msg hmsg => ?_⟩
  · rcases List.mem_append.1 hx with hx | hx
    · exact hs.whole x hx
    · exact ht.whole x hx
  · rcases List.mem_append.1 hmsg with hmsg | hmsg
    · obtain ⟨x, hx, hsent⟩ := hs.sent msg hmsg
      exact ⟨x, List.mem_append_left _ hx, hsent⟩
    · obtain ⟨x, hx, hsent⟩ := ht.sent msg hmsg
      exact ⟨x, List.mem_append_right _ hx, hsent⟩

/-- A life on the stream: while it is kept, the bytes read and those to
read are the stream. -/
structure LifeOn (parse : List UInt8 → Except JsonException Json) (worker addr : ℕ) (fd : ℤ)
    (stream : List UInt8) (l : Life) : Prop where
  on : OnStream parse worker addr fd stream l.asLoop
  rest : l.status = .kept → l.conn.querybuf ++ l.unread = stream

/-- A connection that has handed nothing on, with more of the stream in its
buffer. -/
theorem OnStream.append {s : QueryLoop} (h : OnStream parse worker addr fd stream s) (now : ℕ)
    {buf : List UInt8} (hbuf : buf <+: stream) :
    OnStream parse worker addr fd stream
      { conn := { s.conn with lastInteraction := now, querybuf := buf } } :=
  ⟨h.sameFd, hbuf, h.head, h.body, fun _ h => (nomatch h), fun _ h => nomatch h⟩

theorem LifeOn.read {l : Life} (h : LifeOn parse worker addr fd stream l) (e : SockRead) :
    LifeOn parse worker addr fd stream (l.read parse worker addr fuel e) := by
  by_cases hk : l.status = .kept
  · rw [Life.read, if_pos hk]
    obtain ⟨k, hdata⟩ : ∃ k, l.unread.take (min e.size (readLen l.conn)) = l.unread.take k :=
      ⟨_, rfl⟩
    have hbuf : l.conn.querybuf ++ l.unread.take k ++ l.unread.drop (l.unread.take k).length =
        stream := by
      rw [List.append_assoc, List.length_take, ← h.rest hk]
      rcases Nat.le_total k l.unread.length with hle | hle
      · rw [Nat.min_eq_left hle, List.take_append_drop]
      · rw [Nat.min_eq_right hle, List.take_of_length_le hle, List.drop_length, List.append_nil]
    rw [hdata]
    by_cases hd : l.unread.take k = []
    · simp only [readQuery, if_pos hd]
      exact ⟨h.on.join (h.on.append e.now h.on.buf), fun hc => by cases hc⟩
    · by_cases hq : qbLen { l.conn with lastInteraction := e.now } < 0
      · simp only [readQuery, if_neg hd, if_pos hq]
        exact ⟨h.on.join (h.on.append e.now h.on.buf), fun hc => by cases hc⟩
      · simp only [readQuery, if_neg hd, if_neg hq, processQueryBuffer]
        have hpre : l.conn.querybuf ++ l.unread.take k <+: stream := ⟨_, hbuf⟩
        refine ⟨h.on.join ((h.on.append e.now hpre).loop fuel), fun _ => ?_⟩
        exact (congrArg (· ++ _) (loop_grows parse worker addr _ fuel).buf).trans hbuf
  · rw [Life.read, if_neg hk]
    exact h

theorem life_on (parse : List UInt8 → Except JsonException Json) (worker addr : ℕ) (fd : ℤ)
    (stream : List UInt8) (reads : List SockRead) (fuel : ℕ) :
    LifeOn parse worker addr fd stream (life parse worker addr fd stream reads fuel) := by
  unfold life
  have hstart : LifeOn parse worker addr fd stream
      { conn := { fd := fd }, unread := stream } :=
    ⟨⟨rfl, List.nil_prefix, fun _ => rfl, fun h => (nomatch h), fun _ h => (nomatch h),
      fun _ h => nomatch h⟩, fun _ => rfl⟩
  generalize ({ conn := { fd := fd }, unread := stream } : Life) = l at hstart
  induction reads generalizing l with
  | nil => exact hstart
  | cons e reads ih => exact ih _ (hstart.read e)

/-- The first bytes a client sends: a header with the magic number and the
length of the body, and a body free of NUL. -/
structure IsFrame (head body : List UInt8) : Prop where
  size : head.length = XHEAD_SIZE
  magic : (xhead head).magicNum = XHEAD_MAGIC_NUM
  len : (xhead head).bodyLen = body.length
  noNul : 0 ∉ body

section Frames

variable {head body rest : List UInt8}

theorem IsFrame.xhead_eq (h : IsFrame head body) (tail : List UInt8) :
    xhead (head ++ tail) = xhead head := by
  rw [← xhead_take (Nat.le_refl XHEAD_SIZE), ← h.size, List.take_left]

theorem IsFrame.declared_eq (h : IsFrame head body) (tail : List UInt8) :
    declared (head ++ tail) = body.length := by
  rw [declared, h.xhead_eq, h.len]

/-- The text of a prefix that holds the frame is the body, and what is
behind it up to the first NUL. -/
theorem IsFrame.text (h : IsFrame head body) {r : ℕ} (hr : XHEAD_SIZE + body.length ≤ r) :
    textOf ((head ++ (body ++ rest)).take r) =
      body ++ cstr (rest.take (r - (XHEAD_SIZE + body.length))) := by
  have hsize := h.size
  have hbody : ∀ b ∈ body, decide (b ≠ 0) = true := by
    intro b hb
    refine decide_eq_true ?_
    rintro rfl
    exact h.noNul hb
  rw [textOf, List.drop_take, ← h.size, List.drop_left, List.take_append,
    List.take_of_length_le (by omega), cstr, List.takeWhile_append_of_pos hbody, cstr]
  congr 3
  omega

/-- It is the body alone where nothing is behind it, or a NUL. -/
theorem IsFrame.text_eq_iff (h : IsFrame head body) {r : ℕ}
    (hr : XHEAD_SIZE + body.length ≤ r) (hle : r ≤ (head ++ (body ++ rest)).length) :
    textOf ((head ++ (body ++ rest)).take r) = body ↔
      r = XHEAD_SIZE + body.length ∨ rest.head? = some 0 := by
  rw [h.text hr]
  have hlen : (head ++ (body ++ rest)).length = XHEAD_SIZE + body.length + rest.length := by
    rw [List.length_append, List.length_append, h.size]
    omega
  rw [List.append_right_eq_self]
  cases rest with
  | nil =>
    rw [List.length_nil] at hlen
    simp only [List.take_nil, List.head?_nil, reduceCtorEq, or_false]
    exact iff_of_true rfl (by omega)
  | cons b rest =>
    obtain ⟨k, hk⟩ := Nat.exists_eq_add_of_le hr
    cases k with
    | zero => simp [hk, cstr]
    | succ k =>
      have htake : (b :: rest).take (r - (XHEAD_SIZE + body.length)) = b :: rest.take k := by
        rw [hk, Nat.add_sub_cancel_left, List.take_succ_cons]
      rw [htake]
      by_cases hb : b = 0
      · simp [hb, cstr]
      · simp [hb, cstr, hk]

/-! ### When the body is alone -/

/-- Only the body is handed to the parser, only what it asks for is sent,
and it is handed on once the kernel has delivered it. -/
def BodyAlone (parse : List UInt8 → Except JsonException Json) (worker addr : ℕ) (fd : ℤ)
    (stream body : List UInt8) (reads : List SockRead) : Prop :=
  (∀ fuel, ∀ t ∈ (life parse worker addr fd stream reads fuel).handed, t = body) ∧
    (∀ fuel, ∀ msg ∈ (life parse worker addr fd stream reads fuel).sent,
      msg ∈ (requestOf parse worker addr fd stream body).sent) ∧
    (XHEAD_SIZE + body.length ≤ total stream 0 reads →
      ∃ fuel, body ∈ (life parse worker addr fd stream reads fuel).handed)

/-- **Nothing is behind the body when it is handed on**: the byte behind it
is a NUL, or the read that completes the frame ends with the body and, where
the request is accepted, the seal is not reached. -/
def NothingBehind (parse : List UInt8 → Except JsonException Json)
    (stream body rest : List UInt8) (reads : List SockRead) : Prop :=
  rest.head? = some 0 ∨ ∀ r, completing stream 0 reads = some r →
    r = XHEAD_SIZE + body.length ∧
      (Accepted (parse body) → total stream 0 reads < body.length + 65536)

/-- The text of the read that completes the frame is handed on. -/
theorem completing_handed (parse : List UInt8 → Except JsonException Json) (worker addr : ℕ)
    (fd : ℤ) {r : ℕ} (hc : completing stream 0 reads = some r) :
    textOf (stream.take r) ∈ (life parse worker addr fd stream reads 3).handed := by
  by_cases hover : Overruns parse stream reads
  · obtain ⟨r', hc', ha, hge⟩ := hover
    obtain rfl := Option.some.inj (hc.symm.trans hc')
    obtain ⟨r₂, -, -, hpre⟩ := life_of_overruns worker addr fd hc ha hge (Nat.le_refl 3)
    exact hpre.subset List.mem_cons_self
  · rw [(life_of_not_overruns worker addr fd hover (Nat.le_refl 3)).2, hc]
    exact List.mem_singleton.2 rfl

theorem completing_ne_none {r : ℕ} (hm : GoodMagic stream) (hr : r < XHEAD_SIZE + declared stream)
    (hge : XHEAD_SIZE + declared stream ≤ total stream r reads) :
    completing stream r reads ≠ none := by
  induction reads generalizing r with
  | nil => exact absurd hge (Nat.not_le.2 hr)
  | cons e reads ih =>
    rw [total] at hge
    rw [completing]
    split at hge
    · omega
    · rename_i hto
      rw [if_neg hto]
      split
      · exact Option.some_ne_none _
      · rename_i hno
        exact ih (Nat.lt_of_not_le fun hle => hno ⟨hm, hle⟩) hge

theorem completing_le_length {r r₁ : ℕ} (hr : r ≤ stream.length)
    (hc : completing stream r reads = some r₁) : r₁ ≤ stream.length := by
  induction reads generalizing r with
  | nil => cases hc
  | cons e reads ih =>
    rw [completing] at hc
    split at hc
    · cases hc
    · split at hc
      · obtain rfl := Option.some.inj hc
        exact readTo_le hr e.size
      · exact ih (readTo_le hr e.size) hc

/-- What is handed on is the body, where the bytes behind it cannot show. -/
theorem handed_eq_body (worker addr : ℕ) (fd : ℤ) (h : IsFrame head body)
    (hno : NothingBehind parse (head ++ (body ++ rest)) body rest reads) (fuel : ℕ) :
    ∀ t ∈ (life parse worker addr fd (head ++ (body ++ rest)) reads fuel).handed, t = body := by
  have hdecl := h.declared_eq (body ++ rest)
  intro t ht
  rcases hno with hnul | hends
  · obtain ⟨r, hr, hle, rfl⟩ := (life_on parse worker addr fd _ reads fuel).on.whole t ht
    rw [hdecl] at hr
    exact (h.text_eq_iff hr hle).2 (Or.inr hnul)
  · have htext : ∀ r, completing (head ++ (body ++ rest)) 0 reads = some r →
        textOf ((head ++ (body ++ rest)).take r) = body := by
      intro r hc
      obtain ⟨rfl, -⟩ := hends r hc
      exact (h.text_eq_iff (Nat.le_refl _) (completing_le_length (Nat.zero_le _) hc)).2 (Or.inl rfl)
    have hover : ¬ Overruns parse (head ++ (body ++ rest)) reads := by
      rintro ⟨r, hc, ha, hge⟩
      rw [htext r hc] at ha
      have := (hends r hc).2 ha
      omega
    obtain ⟨hbusy, hh⟩ := life_of_not_overruns worker addr fd hover (Nat.le_refl 3)
    have hmem := (life_handed_le hbusy fuel).subset ht
    rw [hh, Option.mem_toList, Option.map_eq_some_iff] at hmem
    obtain ⟨r, hc, rfl⟩ := hmem
    exact htext r hc

/-- **The body alone is the request exactly when nothing is behind it when
it is handed on.** -/
theorem bodyAlone_iff (parse : List UInt8 → Except JsonException Json) (worker addr : ℕ) (fd : ℤ)
    (head body rest : List UInt8) (reads : List SockRead) (h : IsFrame head body) :
    BodyAlone parse worker addr fd (head ++ (body ++ rest)) body reads ↔
      NothingBehind parse (head ++ (body ++ rest)) body rest reads := by
  have hdecl := h.declared_eq (body ++ rest)
  have hmagic : GoodMagic (head ++ (body ++ rest)) := by
    rw [GoodMagic, h.xhead_eq, h.magic]
  constructor
  · rintro ⟨hbody, -, -⟩
    by_cases hnul : rest.head? = some 0
    · exact Or.inl hnul
    -- a text handed on that is the body ends with it
    have hends : ∀ r, XHEAD_SIZE + body.length ≤ r → r ≤ (head ++ (body ++ rest)).length →
        textOf ((head ++ (body ++ rest)).take r) ∈
          (life parse worker addr fd (head ++ (body ++ rest)) reads 3).handed →
        r = XHEAD_SIZE + body.length := by
      intro r hr hle ht
      rcases (h.text_eq_iff hr hle).1 (hbody 3 _ ht) with heq | hnul'
      · exact heq
      · exact absurd hnul' hnul
    refine Or.inr fun r hc => ?_
    have hr := (completing_le hc).2
    rw [hdecl] at hr
    have hle := completing_le_length (Nat.zero_le _) hc
    have hhanded := completing_handed parse worker addr fd hc
    have hreq := hends r hr hle hhanded
    refine ⟨hreq, fun ha => Nat.lt_of_not_le fun hge => ?_⟩
    rw [← hbody 3 _ hhanded] at ha
    rw [← hdecl] at hge
    obtain ⟨r₂, hge₂, hle₂, hpre⟩ := life_of_overruns worker addr fd hc ha hge (Nat.le_refl 3)
    have hr₂ := hends r₂ (by have : XHEAD_SIZE = 36 := rfl; omega) hle₂
      (hpre.subset (List.mem_cons_of_mem _ List.mem_cons_self))
    have : XHEAD_SIZE = 36 := rfl
    omega
  · intro hno
    have hbody := fun fuel => handed_eq_body worker addr fd h hno fuel
    refine ⟨hbody, fun fuel msg hmsg => ?_, fun hge => ⟨3, ?_⟩⟩
    · obtain ⟨t, ht, hsent⟩ := (life_on parse worker addr fd _ reads fuel).on.sent msg hmsg
      rwa [hbody fuel t ht] at hsent
    · rw [← hdecl] at hge
      have hsome := completing_ne_none hmagic (by have : XHEAD_SIZE = 36 := rfl; omega) hge
      obtain ⟨r, hc⟩ := Option.ne_none_iff_exists'.1 hsome
      have hhanded := completing_handed parse worker addr fd hc
      rwa [hbody 3 _ hhanded] at hhanded

/-- The request with one byte behind its body. -/
def stopAndMore : List UInt8 := sampleHead [37, 0, 0, 0] ++ (stopText ++ [120])

theorem stopAndMore_readTo (r k : ℕ) (hr : r < 2147483648) :
    readTo stopAndMore r k =
      r + min (min k (if r < 36 then 36 else 37)) (74 - r) :=
  readTo_of_lt hr (d := 37) (by decide) rfl

/-- Where the reads end with the header and with the body, the byte behind
the body does not show. -/
theorem stop_bodyAlone : BodyAlone parseStop 0 0 7 stopAndMore stopText [⟨0, 36⟩, ⟨0, 37⟩] := by
  refine (bodyAlone_iff parseStop 0 0 7 (sampleHead [37, 0, 0, 0]) stopText [120] _
    ⟨rfl, rfl, rfl, by decide⟩).2 (Or.inr ?_)
  have hhead : readTo stopAndMore 0 36 = 36 := stopAndMore_readTo 0 36 (by decide)
  have hbody : readTo stopAndMore 36 37 = 73 := stopAndMore_readTo 36 37 (by decide)
  have hmagic : GoodMagic stopAndMore := rfl
  have hdecl : declared stopAndMore = 37 := rfl
  intro r hr
  change completing stopAndMore 0 _ = some r at hr
  change r = 73 ∧ (_ → total stopAndMore 0 _ < 65573)
  simp [completing, hhead, hbody, hmagic, hdecl, XHEAD_SIZE] at hr
  simp [total, hhead, hbody, ← hr]

/-- **A byte behind the body is parsed with it** where the kernel splits the
same bytes one byte before the end of the header. -/
theorem stop_parsed_with_more :
    ¬ BodyAlone parseStop 0 0 7 stopAndMore stopText [⟨0, 35⟩, ⟨0, 36⟩, ⟨0, 37⟩] := by
  rintro ⟨hbody, -, -⟩
  have hc : completing stopAndMore 0 [⟨0, 35⟩, ⟨0, 36⟩, ⟨0, 37⟩] = some 74 := by
    have hfirst : readTo stopAndMore 0 35 = 35 := stopAndMore_readTo 0 35 (by decide)
    have hsecond : readTo stopAndMore 35 36 = 71 := stopAndMore_readTo 35 36 (by decide)
    have hthird : readTo stopAndMore 71 37 = 74 := stopAndMore_readTo 71 37 (by decide)
    have hmagic : GoodMagic stopAndMore := rfl
    have hdecl : declared stopAndMore = 37 := rfl
    simp [completing, hfirst, hsecond, hthird, hmagic, hdecl, XHEAD_SIZE]
  have hlen := congrArg List.length (hbody 3 _ (completing_handed parseStop 0 0 7 hc))
  have htext : (textOf (stopAndMore.take 74)).length = 38 := rfl
  rw [htext] at hlen
  cases hlen

end Frames

end Server

end XrtcServer
