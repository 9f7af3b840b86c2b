import Mathlib.Data.Nat.Digits.Defs
import XrtcServer.Server.Model.Request
/-!
# The text of a JSON value

What `dump` of the JSON library writes, without indentation and with
characters beyond ASCII as they are. A string is one of characters, which
are written in UTF-8; the library throws on a string that is not.
-/

namespace XrtcServer

namespace Server

namespace Json

/-- A hexadecimal digit. -/
def hexDigit (n : ℕ) : UInt8 := if n < 10 then .ofNat (48 + n) else .ofNat (87 + n)

/-- What `dump_escaped` writes of a character. -/
def dumpChar (c : Char) : List UInt8 :=
  let codepoint := c.val.toNat
  if codepoint = 0x08 then [92, 98]
  else if codepoint = 0x09 then [92, 116]
  else if codepoint = 0x0A then [92, 110]
  else if codepoint = 0x0C then [92, 102]
  else if codepoint = 0x0D then [92, 114]
  else if codepoint = 0x22 then [92, 34]
  else if codepoint = 0x5C then [92, 92]
  else if codepoint ≤ 0x1F then [92, 117, 48, 48, hexDigit (codepoint / 16), hexDigit (codepoint % 16)]
  else String.utf8EncodeChar c

/-- `dump_escaped`. -/
def dumpEscaped (s : String) : List UInt8 := s.toList.flatMap dumpChar

/-- `dump_integer`. -/
def dumpInteger (n : ℤ) : List UInt8 :=
  if n = 0 then [48]
  else
    (if n < 0 then [45] else []) ++ (Nat.digits 10 n.natAbs).reverse.map fun d => .ofNat (48 + d)

mutual

/-- `dump`, with what `dump_float` writes of a float. -/
def dump (float : ℤ → ℕ → List UInt8) : Json → List UInt8
  | null => [110, 117, 108, 108]
  | boolean b => if b then [116, 114, 117, 101] else [102, 97, 108, 115, 101]
  | numberInteger n => dumpInteger n
  | numberUnsigned n => dumpInteger n
  | numberFloat asInt asUnsigned => float asInt asUnsigned
  | string s => [34] ++ dumpEscaped s ++ [34]
  | array elements => [91] ++ dumpElements float elements ++ [93]
  | object members => [123] ++ dumpMembers float members ++ [125]

/-- The elements of an array, with commas between them. -/
def dumpElements (float : ℤ → ℕ → List UInt8) : List Json → List UInt8
  | [] => []
  | [v] => dump float v
  | v :: vs => dump float v ++ [44] ++ dumpElements float vs

/-- The members of an object, in the order of their keys. -/
def dumpMembers (float : ℤ → ℕ → List UInt8) : List (String × Json) → List UInt8
  | [] => []
  | [(key, v)] => [34] ++ dumpEscaped key ++ [34, 58] ++ dump float v
  | (key, v) :: members =>
    [34] ++ dumpEscaped key ++ [34, 58] ++ dump float v ++ [44] ++ dumpMembers float members

end

end Json

end Server

end XrtcServer
