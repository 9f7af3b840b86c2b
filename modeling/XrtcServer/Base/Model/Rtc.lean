import XrtcServer.Common.Bytes
/-!
# What is used of `rtc_base`

The library is not part of the repository. `Rtc` holds the functions of it
that are used, each with what its header says of it. A pointer into a buffer
is the bytes from it on; a `ByteBufferReader` is the bytes it has left, a
`ByteBufferWriter` those it has been given. A `std::string` is a `String`
with one character to a byte.
-/

namespace XrtcServer

namespace Base

open Common

/-- The characters of a byte string. -/
def ofBytes (bytes : List UInt8) : String :=
  String.ofList (bytes.map fun b => Char.ofNat b.toNat)

/-- The bytes of a string. -/
def toBytes (s : String) : List UInt8 := s.toList.map fun c => .ofNat c.toNat

/-- The functions of `rtc_base`. CRC32 and HMAC-SHA1 are any functions. -/
structure Rtc where
  getBE16 : List UInt8 → UInt16
  getBE16_eq : ∀ bytes, 2 ≤ bytes.length → getBE16 bytes = .ofNat (beValue (bytes.take 2))
  getBE32 : List UInt8 → UInt32
  getBE32_eq : ∀ bytes, 4 ≤ bytes.length → getBE32 bytes = .ofNat (beValue (bytes.take 4))
  setBE16 : List UInt8 → UInt16 → List UInt8
  setBE16_eq : ∀ bytes n, 2 ≤ bytes.length → setBE16 bytes n = beBytes 2 n.toNat ++ bytes.drop 2
  readUInt16 : List UInt8 → Option (UInt16 × List UInt8)
  readUInt16_eq : ∀ bytes, readUInt16 bytes = (readBE 2 bytes).map fun p => (.ofNat p.1, p.2)
  readUInt32 : List UInt8 → Option (UInt32 × List UInt8)
  readUInt32_eq : ∀ bytes, readUInt32 bytes = (readBE 4 bytes).map fun p => (.ofNat p.1, p.2)
  readBytes : ℕ → List UInt8 → Option (List UInt8 × List UInt8)
  readBytes_eq : ∀ n bytes, readBytes n bytes = readExact n bytes
  consume : ℕ → List UInt8 → Option (List UInt8)
  consume_eq : ∀ n bytes, consume n bytes = (readExact n bytes).map Prod.snd
  writeUInt8 : List UInt8 → UInt8 → List UInt8
  writeUInt8_eq : ∀ buf n, writeUInt8 buf n = buf ++ [n]
  writeUInt16 : List UInt8 → UInt16 → List UInt8
  writeUInt16_eq : ∀ buf n, writeUInt16 buf n = buf ++ beBytes 2 n.toNat
  writeUInt32 : List UInt8 → UInt32 → List UInt8
  writeUInt32_eq : ∀ buf n, writeUInt32 buf n = buf ++ beBytes 4 n.toNat
  writeUInt64 : List UInt8 → UInt64 → List UInt8
  writeUInt64_eq : ∀ buf n, writeUInt64 buf n = buf ++ beBytes 8 n.toNat
  writeBytes : List UInt8 → List UInt8 → List UInt8
  writeBytes_eq : ∀ buf bytes, writeBytes buf bytes = buf ++ bytes
  computeCrc32 : List UInt8 → UInt32
  /-- `ComputeHmac` with `DIGEST_SHA_1`, of a key and a text. -/
  computeHmac : String → List UInt8 → List UInt8
  computeHmac_length : ∀ key text, (computeHmac key text).length = 20
  split : String → Char → List String
  split_eq : ∀ source delimiter,
    split source delimiter = (source.toList.splitOn delimiter).map String.ofList

attribute [simp] Rtc.readUInt16_eq Rtc.readUInt32_eq Rtc.readBytes_eq Rtc.consume_eq
  Rtc.writeUInt8_eq Rtc.writeUInt16_eq Rtc.writeUInt32_eq Rtc.writeUInt64_eq Rtc.writeBytes_eq
  Rtc.computeHmac_length

/-- The functions as they are documented, over a CRC32 and an HMAC-SHA1. -/
def Rtc.documented (crc32 : List UInt8 → UInt32) (hmac : String → List UInt8 → List UInt8)
    (hmac_length : ∀ key text, (hmac key text).length = 20) : Rtc where
  getBE16 := fun bytes => .ofNat (beValue (bytes.take 2))
  getBE16_eq := fun _ _ => rfl
  getBE32 := fun bytes => .ofNat (beValue (bytes.take 4))
  getBE32_eq := fun _ _ => rfl
  setBE16 := fun bytes n => beBytes 2 n.toNat ++ bytes.drop 2
  setBE16_eq := fun _ _ _ => rfl
  readUInt16 := fun bytes => (readBE 2 bytes).map fun p => (.ofNat p.1, p.2)
  readUInt16_eq := fun _ => rfl
  readUInt32 := fun bytes => (readBE 4 bytes).map fun p => (.ofNat p.1, p.2)
  readUInt32_eq := fun _ => rfl
  readBytes := readExact
  readBytes_eq := fun _ _ => rfl
  consume := fun n bytes => (readExact n bytes).map Prod.snd
  consume_eq := fun _ _ => rfl
  writeUInt8 := fun buf n => buf ++ [n]
  writeUInt8_eq := fun _ _ => rfl
  writeUInt16 := fun buf n => buf ++ beBytes 2 n.toNat
  writeUInt16_eq := fun _ _ => rfl
  writeUInt32 := fun buf n => buf ++ beBytes 4 n.toNat
  writeUInt32_eq := fun _ _ => rfl
  writeUInt64 := fun buf n => buf ++ beBytes 8 n.toNat
  writeUInt64_eq := fun _ _ => rfl
  writeBytes := fun buf bytes => buf ++ bytes
  writeBytes_eq := fun _ _ => rfl
  computeCrc32 := crc32
  computeHmac := hmac
  computeHmac_length := hmac_length
  split := fun source delimiter => (source.toList.splitOn delimiter).map String.ofList
  split_eq := fun _ _ => rfl

/-- A bit of CRC-32, with the polynomial reflected. -/
def crc32Bit (crc : UInt32) : UInt32 :=
  if crc &&& 1 = 1 then (crc >>> 1) ^^^ 0xEDB88320 else crc >>> 1

/-- CRC-32. -/
def crc32 (bytes : List UInt8) : UInt32 :=
  ~~~ bytes.foldl (fun crc b => crc32Bit^[8] (crc ^^^ b.toUInt32)) 0xFFFFFFFF

theorem length_blankHmac (_ : String) (_ : List UInt8) : (List.replicate 20 (0 : UInt8)).length = 20 :=
  List.length_replicate

/-- The functions with CRC-32, where no HMAC is looked at. -/
def Rtc.ofCrc32 : Rtc := .documented crc32 (fun _ _ => List.replicate 20 0) length_blankHmac

end Base

end XrtcServer
