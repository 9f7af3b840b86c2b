import Mathlib.Data.List.Basic
import Mathlib.Data.Nat.Notation
import Mathlib.Tactic.Ring
/-!
# Bytes in network order

A number is written as its digits to the base 256, most significant first,
in a fixed width; `beBytes` and `beValue` are inverse where the number fits.
A reader takes what it needs from the front of its bytes and is left with
the rest (`readExact`, `readBE`). Data that is aligned to four bytes ends in
padding (`padding`, `padded`).
-/

namespace XrtcServer

namespace Common

variable {w n : ℕ} {bytes rest value : List UInt8}

/-! ## Numbers -/

/-- The last `w` digits of a number, most significant first. -/
def beBytes : ℕ → ℕ → List UInt8
  | 0, _ => []
  | w + 1, n => UInt8.ofNat (n / 256 ^ w) :: beBytes w n

/-- The number some digits stand for. -/
def beValue : List UInt8 → ℕ
  | [] => 0
  | b :: bytes => b.toNat * 256 ^ bytes.length + beValue bytes

@[simp] theorem length_beBytes (w n : ℕ) : (beBytes w n).length = w := by
  induction w with
  | zero => rfl
  | succ w ih => rw [beBytes, List.length_cons, ih]

theorem beValue_lt (bytes : List UInt8) : beValue bytes < 256 ^ bytes.length := by
  induction bytes with
  | nil => exact Nat.one_pos
  | cons b bytes ih =>
    have hb : b.toNat + 1 ≤ 256 := b.toNat_lt
    have hmul := Nat.mul_le_mul_right (256 ^ bytes.length) hb
    rw [beValue, List.length_cons, pow_succ]
    rw [Nat.add_mul, Nat.one_mul] at hmul
    omega

theorem beValue_beBytes_mod (w n : ℕ) : beValue (beBytes w n) = n % 256 ^ w := by
  induction w with
  | zero => simp [beBytes, beValue, Nat.mod_one]
  | succ w ih =>
    have hdigit : (UInt8.ofNat (n / 256 ^ w)).toNat = n / 256 ^ w % 256 := rfl
    rw [beBytes, beValue, ih, length_beBytes, hdigit, pow_succ, Nat.mod_mul]
    ring

theorem beValue_beBytes (h : n < 256 ^ w) : beValue (beBytes w n) = n := by
  rw [beValue_beBytes_mod, Nat.mod_eq_of_lt h]

theorem beBytes_beValue (bytes : List UInt8) : beBytes bytes.length (beValue bytes) = bytes := by
  have hstarts : ∀ (bytes : List UInt8) (k : ℕ),
      beBytes bytes.length (k * 256 ^ bytes.length + beValue bytes) = bytes := by
    intro bytes
    induction bytes with
    | nil => exact fun _ => rfl
    | cons b bytes ih =>
      intro k
      have hsum : k * 256 ^ (b :: bytes).length + beValue (b :: bytes) =
          (k * 256 + b.toNat) * 256 ^ bytes.length + beValue bytes := by
        rw [beValue, List.length_cons, pow_succ]
        ring
      have hdigit : ((k * 256 + b.toNat) * 256 ^ bytes.length + beValue bytes) / 256 ^ bytes.length =
          k * 256 + b.toNat := by
        rw [Nat.mul_comm, Nat.mul_add_div (Nat.pow_pos (by decide)), Nat.div_eq_of_lt (beValue_lt bytes),
          Nat.add_zero]
      have hbyte : UInt8.ofNat (k * 256 + b.toNat) = b := by
        rw [← UInt8.toNat_inj]
        show (k * 256 + b.toNat) % 256 = b.toNat
        have hb := b.toNat_lt
        omega
      rw [hsum, List.length_cons, beBytes, hdigit, hbyte, ih]
  have h := hstarts bytes 0
  rw [Nat.zero_mul, Nat.zero_add] at h
  exact h

/-! ## Readers -/

/-- The first `n` bytes and the rest. -/
def readExact (n : ℕ) (bytes : List UInt8) : Option (List UInt8 × List UInt8) :=
  if n ≤ bytes.length then some (bytes.take n, bytes.drop n) else none

/-- A number of `w` bytes and the rest. -/
def readBE (w : ℕ) (bytes : List UInt8) : Option (ℕ × List UInt8) :=
  (readExact w bytes).map fun p => (beValue p.1, p.2)

theorem readExact_eq_some :
    readExact n bytes = some (value, rest) ↔ bytes = value ++ rest ∧ value.length = n := by
  unfold readExact
  constructor
  · intro h
    split at h
    · rename_i hn
      obtain ⟨rfl, rfl⟩ := Prod.mk.inj (Option.some.inj h)
      exact ⟨(List.take_append_drop n bytes).symm, List.length_take_of_le hn⟩
    · cases h
  · rintro ⟨rfl, rfl⟩
    simp

theorem readExact_append (h : value.length = n) (rest : List UInt8) :
    readExact n (value ++ rest) = some (value, rest) :=
  readExact_eq_some.2 ⟨rfl, h⟩

theorem readExact_some {p : List UInt8 × List UInt8} (h : readExact n bytes = some p) :
    bytes = p.1 ++ p.2 ∧ p.1.length = n :=
  readExact_eq_some.1 h

theorem readExact_length {p : List UInt8 × List UInt8} (h : readExact n bytes = some p) :
    bytes.length = n + p.2.length := by
  obtain ⟨rfl, rfl⟩ := readExact_some h
  exact List.length_append

theorem readExact_of_le (h : n ≤ bytes.length) :
    readExact n bytes = some (bytes.take n, bytes.drop n) := if_pos h

theorem readExact_of_lt (h : bytes.length < n) : readExact n bytes = none :=
  if_neg (Nat.not_le_of_lt h)

theorem readBE_append (h : n < 256 ^ w) (rest : List UInt8) :
    readBE w (beBytes w n ++ rest) = some (n, rest) := by
  unfold readBE
  rw [readExact_append (length_beBytes w n), Option.map_some, beValue_beBytes h]

/-- What is behind the bytes read makes no difference. -/
theorem readExact_append_right {p : List UInt8 × List UInt8} (h : readExact n bytes = some p)
    (rest : List UInt8) : readExact n (bytes ++ rest) = some (p.1, p.2 ++ rest) := by
  obtain ⟨rfl, hlength⟩ := readExact_some h
  exact readExact_eq_some.2 ⟨List.append_assoc .., hlength⟩

theorem readBE_append_right {p : ℕ × List UInt8} (h : readBE w bytes = some p) (rest : List UInt8) :
    readBE w (bytes ++ rest) = some (p.1, p.2 ++ rest) := by
  obtain ⟨q, hq, rfl⟩ := Option.map_eq_some_iff.1 h
  unfold readBE
  rw [readExact_append_right hq]
  rfl

theorem readBE_length {p : ℕ × List UInt8} (h : readBE w bytes = some p) :
    bytes.length = w + p.2.length := by
  obtain ⟨q, hq, rfl⟩ := Option.map_eq_some_iff.1 h
  exact readExact_length hq

/-! ## Padding -/

/-- How far a length is from the next multiple of four. -/
def padding (n : ℕ) : ℕ := (4 - n % 4) % 4

/-- The next multiple of four. -/
def padded (n : ℕ) : ℕ := n + padding n

theorem padded_mod (n : ℕ) : padded n % 4 = 0 := by
  unfold padded padding
  omega

theorem le_padded (n : ℕ) : n ≤ padded n := Nat.le_add_right ..

theorem padded_lt (n : ℕ) : padded n < n + 4 := by
  unfold padded padding
  omega

end Common

end XrtcServer
