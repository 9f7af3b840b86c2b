import XrtcServer.Server.Model.ReadCall
import XrtcServer.Server.OneRequest
import XrtcServer.Server.ThreadRuns
/-!
# How much a read asks for

A connection expects a header, and then as many bytes as its header says
(`Expects`). The number gets to `read` as it is where it fits an `int`, and
nothing is asked for where it is 0.
-/

namespace XrtcServer

namespace Server

open Base Common

variable {parse : List UInt8 → Except JsonException Json} {dump : Json → List UInt8}
variable {s : EventThread} {c : TcpConnection} {sdsMakeRoomFor : MakeRoomFor}

/-! ## The conversions -/

theorem sizeToInt_eq_iff {n : ℕ} (h : n < 2 ^ 32) : sizeToInt n = n ↔ n < 2 ^ 31 := by
  constructor
  · intro heq
    have hlt : sizeToInt n < (2 ^ 32 + 1) / 2 := Int.bmod_lt (by decide)
    rw [heq] at hlt
    omega
  · intro hlt
    exact sizeToInt_of_lt hlt

theorem intToSize_natCast {n : ℕ} (h : n < 2 ^ 64) : intToSize n = n := by
  unfold intToSize
  rw [Int.emod_eq_of_lt] <;> omega

/-! ## What a connection expects -/

/-- It expects a header, or what its header says. -/
structure Expects (c : TcpConnection) : Prop where
  head : c.currentState = .head → c.bytesExpected = XHEAD_SIZE
  body : c.currentState = .body →
    XHEAD_SIZE ≤ c.querybuf.length ∧ c.bytesExpected = (xhead c.querybuf).bodyLen

theorem xhead_append {bytes : List UInt8} (h : XHEAD_SIZE ≤ bytes.length) (more : List UInt8) :
    xhead (bytes ++ more) = xhead bytes := by
  rw [← xhead_take h, List.take_left]

theorem uint32At_lt (bytes : List UInt8) (pos : ℕ) : uint32At bytes pos < 2 ^ 32 := by
  have hfold : ∀ l : List UInt8, l.foldr (fun b n => b.toNat + 256 * n) 0 < 256 ^ l.length := by
    intro l
    induction l with
    | nil => exact Nat.one_pos
    | cons b l ih =>
      have hb := b.toNat_lt
      rw [List.foldr_cons, List.length_cons, Nat.pow_succ]
      omega
  have hlength : ((bytes.drop pos).take 4).length ≤ 4 := List.length_take_le 4 _
  exact Nat.lt_of_lt_of_le (hfold _) (Nat.pow_le_pow_right (by decide) hlength)

theorem Expects.read (h : Expects c) (parse : List UInt8 → Except JsonException Json)
    (worker addr fuel now : ℕ) (data : List UInt8) :
    Expects (readQuery parse worker addr fuel now data c).1.conn := by
  have hnow : Expects { c with lastInteraction := now } := ⟨h.head, h.body⟩
  unfold readQuery
  dsimp only
  split
  · exact hnow
  · split
    · exact hnow
    · refine call_of_inv (I := fun s => Expects s.conn) ?_ ?_ ?_ fuel
      · -- the loop got here, so a whole header is buffered
        intro s hs hstate hroom
        have hexpected := hs.head hstate
        have hlength : XHEAD_SIZE ≤ s.conn.querybuf.length := by omega
        exact ⟨nofun, fun _ => ⟨hlength, rfl⟩⟩
      · intro s p hs hstate _ _
        exact ⟨hs.head, hs.body⟩
      · refine ⟨h.head, fun hstate => ?_⟩
        obtain ⟨hlength, hexpected⟩ := h.body hstate
        refine ⟨?_, ?_⟩
        · rw [List.length_append]
          omega
        · rw [xhead_append hlength]
          exact hexpected

/-- **In every run a connection expects a header or what its header says.** -/
theorem kept_expects : Kept parse Expects where
  new _ := ⟨fun _ => rfl, nofun⟩
  read worker addr fuel now data _ h := h.read parse worker addr fuel now data
  write results c h := by
    obtain ⟨replies, pos, watcher, -, heq⟩ := writeQuery_frame results c []
    rw [heq]
    exact ⟨h.head, h.body⟩
  reply _ _ h := ⟨h.head, h.body⟩

/-! ## What it asks for -/

/-- What is asked for is what is expected, by way of every conversion from
the header on, is not nothing and fits behind the bytes buffered. -/
structure AsksRight (sdsMakeRoomFor : MakeRoomFor) (free : ℕ) (c : TcpConnection) : Prop where
  declared : c.currentState = .body → c.bytesExpected = (xhead c.querybuf).bodyLen
  readLen : (readCall sdsMakeRoomFor free c).readLen = c.bytesExpected
  addLen : (readCall sdsMakeRoomFor free c).addLen = c.bytesExpected
  count : (readCall sdsMakeRoomFor free c).count = c.bytesExpected
  positive : 0 < (readCall sdsMakeRoomFor free c).count
  fits : (readCall sdsMakeRoomFor free c).count ≤ (readCall sdsMakeRoomFor free c).room

/-- The connection waits for its header, or has one whose `body_len` is not 0
and fits an `int`. -/
def BodyLenFits (c : TcpConnection) : Prop :=
  c.currentState = .body →
    0 < (xhead c.querybuf).bodyLen ∧ (xhead c.querybuf).bodyLen < 2 ^ 31

/-- `sdsMakeRoomFor` leaves free what it is asked for, of the lengths that an
`int` holds. -/
def MakesRoom (sdsMakeRoomFor : MakeRoomFor) : Prop :=
  ∀ len free addLen, addLen < 2 ^ 31 → addLen ≤ sdsMakeRoomFor len free addLen

theorem readCall_readLen (free : ℕ) (c : TcpConnection) :
    (readCall sdsMakeRoomFor free c).readLen = sizeToInt c.bytesExpected := by
  rw [readCall]

theorem readCall_count (free : ℕ) (c : TcpConnection) :
    (readCall sdsMakeRoomFor free c).count = intToSize (sizeToInt c.bytesExpected) := by
  rw [readCall]

theorem readCall_room (free : ℕ) (c : TcpConnection) :
    (readCall sdsMakeRoomFor free c).room =
      sdsMakeRoomFor c.querybuf.length free (readCall sdsMakeRoomFor free c).count := by
  rw [readCall]

theorem asksRight_of_lt (hsds : MakesRoom sdsMakeRoomFor) (h : Expects c)
    (hpos : 0 < c.bytesExpected) (hlt : c.bytesExpected < 2 ^ 31) (free : ℕ) :
    AsksRight sdsMakeRoomFor free c := by
  have hread : (readCall sdsMakeRoomFor free c).readLen = c.bytesExpected := by
    rw [readCall_readLen, sizeToInt_of_lt hlt]
  have hcount : (readCall sdsMakeRoomFor free c).count = c.bytesExpected := by
    rw [readCall_count, sizeToInt_of_lt hlt, intToSize_natCast (by omega)]
  refine ⟨fun hstate => (h.body hstate).2, hread, hcount, hcount, ?_, ?_⟩
  · rw [hcount]
    exact hpos
  · rw [readCall_room, hcount]
    exact hsds _ _ _ hlt

/-- **A read asks for what it should exactly where it is for the header, or
for a body whose length is not 0 and fits an `int`**, in every state that a
connection of the event thread reaches. -/
theorem asksRight_iff (hsds : MakesRoom sdsMakeRoomFor) {id : ℕ} {timeout : ℤ}
    {es : List LoopEvent}
    (h : run (EventThread.step parse dump) (.start id timeout) es = some s) {addr : ℕ}
    (hc : s.worker.heap addr = some c) (free : ℕ) :
    AsksRight sdsMakeRoomFor free c ↔ BodyLenFits c := by
  have hexpects : Expects c := kept_expects.run h addr c hc
  constructor
  · intro hasks hstate
    obtain ⟨-, hexpected⟩ := hexpects.body hstate
    have hpos := hasks.positive
    have hread := hasks.readLen
    rw [hasks.count, hexpected] at hpos
    rw [readCall_readLen, hexpected] at hread
    -- a field of the header is below `2 ^ 32`, so an `int` holds it or is negative
    exact ⟨hpos, (sizeToInt_eq_iff (uint32At_lt _ _)).1 hread⟩
  · intro hfits
    cases hstate : c.currentState with
    | head =>
      have hexpected := hexpects.head hstate
      refine asksRight_of_lt hsds hexpects ?_ ?_ free <;> rw [hexpected] <;> decide
    | body =>
      obtain ⟨-, hexpected⟩ := hexpects.body hstate
      obtain ⟨hpos, hlt⟩ := hfits hstate
      refine asksRight_of_lt hsds hexpects ?_ ?_ free <;> rw [hexpected] <;> assumption

/-! ### A `body_len` of 100, and of 2 GiB -/

/-- What `sdsMakeRoomFor` leaves free where it gets the memory: twice the
length that is needed, and from 1 MiB on that and 1 MiB. -/
def sdsDoubling : MakeRoomFor := fun len free addLen =>
  if addLen ≤ free then free
  else if len + addLen < 1048576 then (len + addLen) * 2 - len
  else addLen + 1048576

theorem makesRoom_doubling : MakesRoom sdsDoubling := by
  intro len free addLen _
  unfold sdsDoubling
  split
  · assumption
  · split <;> omega

/-- A connection, and the read of this header. -/
def headerRead (len : List UInt8) : List LoopEvent :=
  [.newConn 5 1 10 20, .io 10 true false 0 2 (sampleHead len) []]

theorem asksRight_iff_hundred :
    ∃ s c, run (EventThread.step parseStop fun _ => []) (.start 0 5000000)
        (headerRead [100, 0, 0, 0]) = some s ∧ s.worker.heap 1 = some c ∧
      c.bytesExpected = 100 ∧ AsksRight sdsDoubling 0 c := by
  have hrun : ∃ s c, run (EventThread.step parseStop fun _ => []) (.start 0 5000000)
      (headerRead [100, 0, 0, 0]) = some s ∧ s.worker.heap 1 = some c ∧
      c.bytesExpected = 100 ∧ (xhead c.querybuf).bodyLen = 100 :=
    ⟨_, _, rfl, rfl, rfl, rfl⟩
  obtain ⟨s, c, hs, hc, hexpected, hlen⟩ := hrun
  refine ⟨s, c, hs, hc, hexpected, (asksRight_iff makesRoom_doubling hs hc 0).2 fun _ => ?_⟩
  rw [hlen]
  decide

/-- `read_len` is `INT_MIN`, and `read` is asked for 2 GiB less than 2 ^ 64. -/
theorem twoGiB_asks_wrong :
    ∃ s c, run (EventThread.step parseStop fun _ => []) (.start 0 5000000)
        (headerRead [0, 0, 0, 128]) = some s ∧ s.worker.heap 1 = some c ∧
      (xhead c.querybuf).magicNum = XHEAD_MAGIC_NUM ∧ c.bytesExpected = 2147483648 ∧
      (readCall sdsDoubling 0 c).readLen = -2147483648 ∧
      (readCall sdsDoubling 0 c).count = 18446744071562067968 ∧
      ¬ AsksRight sdsDoubling 0 c := by
  have hrun : ∃ s c, run (EventThread.step parseStop fun _ => []) (.start 0 5000000)
      (headerRead [0, 0, 0, 128]) = some s ∧ s.worker.heap 1 = some c ∧
      (xhead c.querybuf).magicNum = XHEAD_MAGIC_NUM ∧ c.bytesExpected = 2147483648 :=
    ⟨_, _, rfl, rfl, rfl, rfl⟩
  obtain ⟨s, c, hs, hc, hmagic, hexpected⟩ := hrun
  have hread : (readCall sdsDoubling 0 c).readLen = -2147483648 := by
    rw [readCall_readLen, hexpected]
    rfl
  have hcount : (readCall sdsDoubling 0 c).count = 18446744071562067968 := by
    rw [readCall_count, hexpected]
    rfl
  refine ⟨s, c, hs, hc, hmagic, hexpected, hread, hcount, fun hasks => ?_⟩
  have hsame := hasks.count
  rw [hcount, hexpected] at hsame
  omega

end Server

end XrtcServer
