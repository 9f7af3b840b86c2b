import XrtcServer.Base.Model.Rtc
import XrtcServer.Common.Text
/-!
# What is used of `rtc_base` on text

`RtcText` adds the functions that SDP is written and read with:
`string_encode.h`, and `SSLFingerprint`. A certificate is its pointer.
-/

namespace XrtcServer

namespace Base

open Common

/-- `SSLFingerprint`. -/
structure SSLFingerprint where
  algorithm : String
  digest : List UInt8
deriving DecidableEq

/-- The digest algorithms of FIPS 180. -/
def fipsAlgorithms : List String := ["sha-1", "sha-224", "sha-256", "sha-384", "sha-512"]

/-- A character of a fingerprint's text. -/
def isFingerprintChar (c : Char) : Bool := c.isDigit || ('A' ≤ c && c ≤ 'F') || c = ':'

/-- The functions of `rtc_base` with those on text. -/
structure RtcText extends Rtc where
  tokenize : String → Char → List String
  tokenize_eq : ∀ source delimiter,
    tokenize source delimiter = (tokens delimiter source.toList).map String.ofList
  tokenizeFirst : String → Char → Option (String × String)
  tokenizeFirst_eq : ∀ source delimiter, tokenizeFirst source delimiter =
    (cutFirst delimiter source.toList).map fun p => (String.ofList p.1, String.ofList p.2)
  /-- `FromString` of a `uint32_t`. -/
  fromString : String → Option UInt32
  fromString_toString : ∀ n : UInt32, fromString (toString n.toNat) = some n
  fromString_chars : ∀ s n, fromString s = some n →
    s ≠ "" ∧ ∀ c ∈ s.toList, c.isDigit = true ∨ c = '-'
  createFromCertificate : ℕ → Option SSLFingerprint
  getRfc4572Fingerprint : SSLFingerprint → String
  createUniqueFromRfc4572 : String → String → Option SSLFingerprint
  createUniqueFromRfc4572_some : ∀ algorithm text fingerprint,
    createUniqueFromRfc4572 algorithm text = some fingerprint →
      algorithm ∈ fipsAlgorithms ∧ fingerprint.algorithm = algorithm ∧ fingerprint.digest ≠ []
  /-- The fingerprint of a certificate is read as it is written. -/
  createFromCertificate_some : ∀ certificate fingerprint,
    createFromCertificate certificate = some fingerprint →
      fingerprint.algorithm ∈ fipsAlgorithms ∧ getRfc4572Fingerprint fingerprint ≠ "" ∧
      (∀ c ∈ (getRfc4572Fingerprint fingerprint).toList, isFingerprintChar c = true) ∧
      createUniqueFromRfc4572 fingerprint.algorithm (getRfc4572Fingerprint fingerprint) =
        some fingerprint
  ipAddressPrecedence : UInt32 → ℤ

/-! ## The functions as they are documented -/

/-- The value of a hexadecimal digit. -/
def hexValue (c : Char) : Option ℕ :=
  if c.isDigit then some (c.toNat - 48)
  else if 'A' ≤ c ∧ c ≤ 'F' then some (c.toNat - 55)
  else if 'a' ≤ c ∧ c ≤ 'f' then some (c.toNat - 87)
  else none

/-- The two digits of a byte. -/
def hexByte (b : UInt8) : List Char :=
  [(Nat.digitChar (b.toNat / 16)).toUpper, (Nat.digitChar (b.toNat % 16)).toUpper]

/-- `hex_encode_with_delimiter`. -/
def hexEncode : List UInt8 → List Char
  | [] => []
  | [b] => hexByte b
  | b :: bytes => hexByte b ++ ':' :: hexEncode bytes

def byteOfHex (high low : Char) : Option UInt8 :=
  (hexValue high).bind fun high => (hexValue low).map fun low => .ofNat (16 * high + low)

/-- `hex_decode_with_delimiter`. -/
def hexDecode : List Char → Option (List UInt8)
  | [high, low] => (byteOfHex high low).map fun b => [b]
  | high :: low :: ':' :: text =>
    (byteOfHex high low).bind fun b => (hexDecode text).map fun bytes => b :: bytes
  | _ => none

/-- `StringToNumber` of an unsigned type: a sign is taken, of zero only. -/
def stringToNumber (s : String) : Option UInt32 :=
  let digits := if s.toList.head? = some '-' then s.toList.tail else s.toList
  let n := Nat.ofDigitChars 10 digits 0
  if digits ≠ [] ∧ digits.all Char.isDigit ∧ n < 2 ^ 32 ∧ (s.toList.head? = some '-' → n = 0) then
    some (.ofNat n)
  else none

theorem byteOfHex_hexByte : ∀ b : UInt8,
    ∃ high low, hexByte b = [high, low] ∧ byteOfHex high low = some b ∧
      isFingerprintChar high = true ∧ isFingerprintChar low = true := by
  have hall : ∀ n < 256, byteOfHex (Nat.digitChar (n / 16)).toUpper
      (Nat.digitChar (n % 16)).toUpper = some (.ofNat n) ∧
      isFingerprintChar (Nat.digitChar (n / 16)).toUpper = true ∧
      isFingerprintChar (Nat.digitChar (n % 16)).toUpper = true := by decide +kernel
  intro b
  have hb := hall b.toNat b.toNat_lt
  rw [UInt8.ofNat_toNat] at hb
  exact ⟨_, _, rfl, hb⟩

/-- A digest is read as it is written. -/
theorem hexDecode_hexEncode {bytes : List UInt8} (h : bytes ≠ []) :
    hexDecode (hexEncode bytes) = some bytes := by
  induction bytes with
  | nil => exact absurd rfl h
  | cons b bytes ih =>
    obtain ⟨high, low, hb, hbyte, -⟩ := byteOfHex_hexByte b
    cases bytes with
    | nil => simp [hexEncode, hb, hexDecode, hbyte]
    | cons b' bytes =>
      rw [hexEncode, hb, List.cons_append, List.cons_append, List.nil_append, hexDecode, hbyte,
        ih (List.cons_ne_nil _ _)]
      · rfl
      · simp

theorem isFingerprintChar_of_mem_hexEncode {bytes : List UInt8} :
    ∀ c ∈ hexEncode bytes, isFingerprintChar c = true := by
  induction bytes with
  | nil => simp [hexEncode]
  | cons b bytes ih =>
    obtain ⟨high, low, hb, -, hhigh, hlow⟩ := byteOfHex_hexByte b
    cases bytes with
    | nil => simp [hexEncode, hb, hhigh, hlow]
    | cons b' bytes =>
      intro c hc
      rw [hexEncode, hb] at hc
      swap
      · simp
      simp only [List.cons_append, List.nil_append, List.mem_cons] at hc
      rcases hc with rfl | rfl | rfl | hc
      · exact hhigh
      · exact hlow
      · decide
      · exact ih c hc

theorem stringToNumber_toString (n : UInt32) : stringToNumber (toString n.toNat) = some n := by
  have hdigits : (toString n.toNat).toList = Nat.toDigits 10 n.toNat := Nat.toList_repr
  have hall : ∀ c ∈ Nat.toDigits 10 n.toNat, c.isDigit = true := fun c hc =>
    Nat.isDigit_of_mem_toDigits (by decide) (by decide) hc
  have hne : Nat.toDigits 10 n.toNat ≠ [] := Nat.toDigits_ne_nil
  have hsign : (Nat.toDigits 10 n.toNat).head? ≠ some '-' := by
    intro h
    have hc := hall _ (List.mem_of_mem_head? h)
    revert hc
    decide
  simp only [stringToNumber, hdigits, if_neg hsign, Nat.ofDigitChars_ten_toDigits]
  rw [if_pos ⟨hne, List.all_eq_true.2 hall, n.toNat_lt, fun h => absurd h hsign⟩,
    UInt32.ofNat_toNat]

/-- A number that is read has digits, and a sign at most. -/
theorem stringToNumber_chars {s : String} {n : UInt32} (h : stringToNumber s = some n) :
    s ≠ "" ∧ ∀ c ∈ s.toList, c.isDigit = true ∨ c = '-' := by
  by_cases hsign : s.toList.head? = some '-'
  · obtain ⟨rest, hrest⟩ := List.head?_eq_some_iff.1 hsign
    simp only [stringToNumber, hrest, List.head?_cons, if_true, List.tail_cons,
      Option.ite_none_right_eq_some, List.all_eq_true] at h
    obtain ⟨⟨-, hall, -⟩, -⟩ := h
    constructor
    · rintro rfl
      cases hrest
    · intro c hc
      rw [hrest] at hc
      rcases List.mem_cons.1 hc with rfl | hc
      · exact .inr rfl
      · exact .inl (hall c hc)
  · simp only [stringToNumber, if_neg hsign, Option.ite_none_right_eq_some, List.all_eq_true] at h
    obtain ⟨⟨hne, hall, -⟩, -⟩ := h
    constructor
    · rintro rfl
      exact hne rfl
    · intro c hc
      exact .inl (hall c hc)

/-- The functions over those of `Rtc` and what is signed: a certificate with
a SHA-256 fingerprint. -/
def RtcText.documented (rtc : Rtc) (digest : ℕ → List UInt8)
    (hdigest : ∀ certificate, digest certificate ≠ []) : RtcText where
  toRtc := rtc
  tokenize := fun source delimiter => (tokens delimiter source.toList).map String.ofList
  tokenize_eq := fun _ _ => rfl
  tokenizeFirst := fun source delimiter =>
    (cutFirst delimiter source.toList).map fun p => (String.ofList p.1, String.ofList p.2)
  tokenizeFirst_eq := fun _ _ => rfl
  fromString := stringToNumber
  fromString_toString := stringToNumber_toString
  fromString_chars := fun _ _ => stringToNumber_chars
  createFromCertificate := fun certificate => some ⟨"sha-256", digest certificate⟩
  getRfc4572Fingerprint := fun fingerprint => String.ofList (hexEncode fingerprint.digest)
  createUniqueFromRfc4572 := fun algorithm text =>
    if algorithm ∈ fipsAlgorithms then
      (hexDecode text.toList).bind fun digest =>
        if digest = [] then none else some ⟨algorithm, digest⟩
    else none
  createUniqueFromRfc4572_some := by
    intro algorithm text fingerprint h
    split at h
    · rename_i halg
      obtain ⟨bytes, -, h⟩ := Option.bind_eq_some_iff.1 h
      split at h
      · cases h
      · rename_i hne
        obtain rfl := Option.some.inj h
        exact ⟨halg, rfl, hne⟩
    · cases h
  createFromCertificate_some := by
    intro certificate fingerprint h
    obtain rfl := Option.some.inj h
    have halg : "sha-256" ∈ fipsAlgorithms := by decide
    have hdecode := hexDecode_hexEncode (hdigest certificate)
    refine ⟨halg, ?_, ?_, ?_⟩
    · intro hempty
      have hnil : hexEncode (digest certificate) = [] := by
        rw [← String.toList_ofList (l := hexEncode (digest certificate)), hempty]
        rfl
      rw [hnil] at hdecode
      cases hdecode
    · rw [String.toList_ofList]
      exact isFingerprintChar_of_mem_hexEncode
    · simp only [String.toList_ofList, if_pos halg, hdecode, Option.bind_some,
        if_neg (hdigest certificate)]
  ipAddressPrecedence := fun _ => 30

end Base

end XrtcServer
