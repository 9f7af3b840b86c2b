import XrtcServer.Server.Model.Connection
/-!
# The lengths of a read

What `_read_query` hands to `sdsMakeRoomFor` and to `read`, with every
conversion on the way there: the `uint32_t` of the header is stored in a
`size_t`, read into an `int` and passed on as a `size_t` again. What
`sdsMakeRoomFor` leaves free is a parameter.
-/

namespace XrtcServer

namespace Server

/-- An `int` passed as a `size_t`. -/
def intToSize (n : ℤ) : ℕ := (n % 2 ^ 64).toNat

/-- The lengths of one call of `_read_query`. -/
structure ReadCall where
  /-- `int read_len`. -/
  readLen : ℤ
  /-- `int qb_len`, where the data is put. -/
  qbLen : ℤ
  /-- The `addlen` of `sdsMakeRoomFor`. -/
  addLen : ℕ
  /-- What is free then behind the bytes buffered. -/
  room : ℕ
  /-- The `len` of `sock_read_data`, and of `read`. -/
  count : ℕ

/-- What `sdsMakeRoomFor` leaves free in a string of this length that had so
much free, asked for room for so much. -/
abbrev MakeRoomFor := (len free addLen : ℕ) → ℕ

/-- `_read_query` up to its call of `read`, with what was free in the buffer
before. -/
def readCall (sdsMakeRoomFor : MakeRoomFor) (free : ℕ) (c : TcpConnection) : ReadCall :=
  let readLen := sizeToInt c.bytesExpected
  { readLen := readLen
    qbLen := qbLen c
    addLen := intToSize readLen
    room := sdsMakeRoomFor c.querybuf.length free (intToSize readLen)
    count := intToSize readLen }

end Server

end XrtcServer
