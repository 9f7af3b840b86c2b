import Mathlib.Logic.Function.Basic
/-!
# Indexes over a heap

Objects at addresses, and a table that finds something of an object by a key
of it. `IsIndex` says that the table has exactly what the objects there are
give it: it stays so when an object is made whose key is not in use, when one
is replaced by another with its key, and when one is deleted.
-/

namespace XrtcServer

namespace Common

variable {A O K V : Type*}

/-- **The table is the index of the objects** by this key, of this value. -/
def IsIndex (heap : A → Option O) (key : A → O → K) (val : A → O → V) (index : K → Option V) :
    Prop :=
  ∀ k v, index k = some v ↔ ∃ a o, heap a = some o ∧ key a o = k ∧ val a o = v

namespace IsIndex

variable {heap : A → Option O} {key key' : A → O → K} {val : A → O → V} {index : K → Option V}
variable {a b : A} {o p : O}

theorem lookup (h : IsIndex heap key val index) (ha : heap a = some o) :
    index (key a o) = some (val a o) :=
  (h _ _).2 ⟨a, o, ha, rfl, rfl⟩

/-- Two objects with one key have one value. -/
theorem val_eq (h : IsIndex heap key val index) (ha : heap a = some o) (hb : heap b = some p)
    (hkey : key a o = key b p) : val a o = val b p := by
  have hlookup := h.lookup hb
  rw [← hkey, h.lookup ha] at hlookup
  exact Option.some.inj hlookup

/-- The key matters of the objects there are only. -/
theorem congr (h : IsIndex heap key val index)
    (hkey : ∀ a o, heap a = some o → key' a o = key a o) : IsIndex heap key' val index := by
  intro k v
  rw [h k v]
  constructor
  · rintro ⟨a, o, ha, hk, hv⟩
    exact ⟨a, o, ha, (hkey a o ha).trans hk, hv⟩
  · rintro ⟨a, o, ha, hk, hv⟩
    exact ⟨a, o, ha, (hkey a o ha).symm.trans hk, hv⟩

theorem empty : IsIndex (fun _ => none : A → Option O) key val (fun _ => none) := by
  intro k v
  constructor
  · intro h
    cases h
  · rintro ⟨a, o, ha, -⟩
    cases ha

section Update

variable [DecidableEq A]

/-- **A new object.** -/
theorem insert [DecidableEq K] (h : IsIndex heap key val index) (hfree : heap a = none)
    (hkey : index (key a o) = none) :
    IsIndex (Function.update heap a (some o)) key val
      (Function.update index (key a o) (some (val a o))) := by
  intro k v
  constructor
  · intro hk
    by_cases hnew : k = key a o
    · subst hnew
      rw [Function.update_self] at hk
      exact ⟨a, o, Function.update_self .., rfl, Option.some.inj hk⟩
    · rw [Function.update_of_ne hnew] at hk
      obtain ⟨b, p, hb, hbk, hbv⟩ := (h k v).1 hk
      have hba : b ≠ a := by
        rintro rfl
        rw [hfree] at hb
        cases hb
      exact ⟨b, p, (Function.update_of_ne hba ..).trans hb, hbk, hbv⟩
  · rintro ⟨b, p, hb, rfl, rfl⟩
    by_cases hba : b = a
    · subst hba
      rw [Function.update_self] at hb
      obtain rfl := Option.some.inj hb
      exact Function.update_self ..
    · rw [Function.update_of_ne hba] at hb
      have hlookup := h.lookup hb
      -- the new key was not in use
      have hne : key b p ≠ key a o := by
        intro heq
        rw [heq, hkey] at hlookup
        cases hlookup
      rw [Function.update_of_ne hne]
      exact hlookup

/-- **An object in the place of another.** -/
theorem replace (h : IsIndex heap key val index) (ha : heap a = some o)
    (hkey : key a p = key a o) (hval : val a p = val a o) :
    IsIndex (Function.update heap a (some p)) key val index := by
  intro k v
  rw [h k v]
  constructor
  · rintro ⟨b, q, hb, hk, hv⟩
    by_cases hba : b = a
    · subst hba
      obtain rfl := Option.some.inj (ha.symm.trans hb)
      exact ⟨b, p, Function.update_self .., hkey.trans hk, hval.trans hv⟩
    · exact ⟨b, q, (Function.update_of_ne hba ..).trans hb, hk, hv⟩
  · rintro ⟨b, q, hb, hk, hv⟩
    by_cases hba : b = a
    · subst hba
      rw [Function.update_self] at hb
      obtain rfl := Option.some.inj hb
      exact ⟨b, o, ha, hkey.symm.trans hk, hval.symm.trans hv⟩
    · rw [Function.update_of_ne hba] at hb
      exact ⟨b, q, hb, hk, hv⟩

/-- **An object deleted**, where no other has its value. -/
theorem remove [DecidableEq K] (h : IsIndex heap key val index) (ha : heap a = some o)
    (hval : ∀ b p, heap b = some p → val b p = val a o → b = a) :
    IsIndex (Function.update heap a none) key val (Function.update index (key a o) none) := by
  intro k v
  constructor
  · intro hk
    by_cases hgone : k = key a o
    · subst hgone
      rw [Function.update_self] at hk
      cases hk
    · rw [Function.update_of_ne hgone] at hk
      obtain ⟨b, p, hb, hbk, hbv⟩ := (h k v).1 hk
      have hba : b ≠ a := by
        rintro rfl
        obtain rfl := Option.some.inj (ha.symm.trans hb)
        exact hgone hbk.symm
      exact ⟨b, p, (Function.update_of_ne hba ..).trans hb, hbk, hbv⟩
  · rintro ⟨b, p, hb, rfl, rfl⟩
    have hba : b ≠ a := by
      rintro rfl
      rw [Function.update_self] at hb
      cases hb
    rw [Function.update_of_ne hba] at hb
    -- with the key it would have the value too, and be the object deleted
    have hne : key b p ≠ key a o := fun heq => hba (hval b p hb (h.val_eq hb ha heq))
    rw [Function.update_of_ne hne]
    exact h.lookup hb

end Update

end IsIndex

end Common

end XrtcServer
