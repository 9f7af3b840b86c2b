import Mathlib.Data.List.Nodup
/-!
# Lists searched by a key

`updateFirst` changes the first element with a property. `upsert` looks an
element up by its key and pushes a new one where there is none; the element
found or pushed is then changed. While changes keep the keys, the keys stay
distinct, in the order of their first occurrence.
-/

namespace XrtcServer

namespace Common

variable {α κ : Type*} [DecidableEq κ] {key : α → κ} {new a : α} {f : α → α} {list more : List α}

/-- The first element with the property changed. -/
def updateFirst (p : α → Bool) (f : α → α) : List α → List α
  | [] => []
  | a :: list => if p a then f a :: list else a :: updateFirst p f list

/-- The first element with the key of `new` changed, or `new`, changed and pushed. -/
def upsert (key : α → κ) (new : α) (f : α → α) : List α → List α
  | [] => [f new]
  | a :: list => if key a = key new then f a :: list else a :: upsert key new f list

/-- Elements without the property are passed over. -/
theorem updateFirst_append {p : α → Bool} (h : ∀ a ∈ list, p a = false) :
    updateFirst p f (list ++ more) = list ++ updateFirst p f more := by
  induction list with
  | nil => rfl
  | cons a list ih =>
    rw [List.cons_append, updateFirst, h a List.mem_cons_self, if_neg Bool.false_ne_true,
      ih fun b hb => h b (List.mem_cons_of_mem _ hb), List.cons_append]

/-- What no change of an element touches is the same in the whole list. -/
theorem map_updateFirst {β : Type*} {g : α → β} {p : α → Bool} (hf : ∀ a, g (f a) = g a) :
    (updateFirst p f list).map g = list.map g := by
  induction list with
  | nil => rfl
  | cons a list ih =>
    rw [updateFirst]
    split
    · rw [List.map_cons, List.map_cons, hf]
    · rw [List.map_cons, List.map_cons, ih]

/-- An element of the result is an old one, or the one that was changed. -/
theorem mem_updateFirst {p : α → Bool} (h : a ∈ updateFirst p f list) :
    a ∈ list ∨ ∃ b ∈ list, a = f b := by
  induction list with
  | nil => exact .inl h
  | cons b list ih =>
    rw [updateFirst] at h
    split at h
    · rcases List.mem_cons.1 h with rfl | h
      · exact .inr ⟨b, List.mem_cons_self, rfl⟩
      · exact .inl (List.mem_cons_of_mem _ h)
    · rcases List.mem_cons.1 h with rfl | h
      · exact .inl List.mem_cons_self
      · rcases ih h with h | ⟨c, hc, rfl⟩
        · exact .inl (List.mem_cons_of_mem _ h)
        · exact .inr ⟨c, List.mem_cons_of_mem _ hc, rfl⟩

theorem upsert_append (h : key new ∉ list.map key) :
    upsert key new f (list ++ more) = list ++ upsert key new f more := by
  induction list with
  | nil => rfl
  | cons a list ih =>
    rw [List.map_cons, List.mem_cons, not_or] at h
    rw [List.cons_append, upsert, if_neg (Ne.symm h.1), ih h.2, List.cons_append]

/-- A new key is pushed. -/
theorem upsert_of_notMem (h : key new ∉ list.map key) :
    upsert key new f list = list ++ [f new] := by
  have happ : upsert key new f (list ++ []) = list ++ upsert key new f [] := upsert_append h
  rwa [List.append_nil] at happ

/-- **An element of the result** is an old one, or the one that was changed. -/
theorem mem_upsert (h : a ∈ upsert key new f list) :
    a ∈ list ∨ a = f new ∨ ∃ b ∈ list, key b = key new ∧ a = f b := by
  induction list with
  | nil => exact .inr (.inl (List.mem_singleton.1 h))
  | cons b list ih =>
    rw [upsert] at h
    split at h
    · rename_i hkey
      rcases List.mem_cons.1 h with rfl | h
      · exact .inr (.inr ⟨b, List.mem_cons_self, hkey, rfl⟩)
      · exact .inl (List.mem_cons_of_mem _ h)
    · rcases List.mem_cons.1 h with rfl | h
      · exact .inl List.mem_cons_self
      · rcases ih h with h | h | ⟨c, hc, hkey, rfl⟩
        · exact .inl (List.mem_cons_of_mem _ h)
        · exact .inr (.inl h)
        · exact .inr (.inr ⟨c, List.mem_cons_of_mem _ hc, hkey, rfl⟩)

/-- The keys of the result. -/
theorem map_key_upsert (hf : ∀ a, key (f a) = key a) :
    (upsert key new f list).map key =
      if key new ∈ list.map key then list.map key else list.map key ++ [key new] := by
  induction list with
  | nil => simp [upsert, hf]
  | cons a list ih =>
    rw [upsert]
    by_cases hkey : key a = key new
    · simp [hkey, hf]
    · have hne : ¬ key new = key a := fun h => hkey h.symm
      rw [if_neg hkey, List.map_cons, ih, List.map_cons]
      by_cases hmem : key new ∈ list.map key <;> simp [hmem, hne]

/-- **The keys stay distinct.** -/
theorem nodup_upsert (hf : ∀ a, key (f a) = key a) (h : (list.map key).Nodup) :
    ((upsert key new f list).map key).Nodup := by
  rw [map_key_upsert hf]
  split
  · exact h
  · rename_i hmem
    rw [List.nodup_append]
    refine ⟨h, List.nodup_singleton _, ?_⟩
    rintro k hk _ hnew rfl
    exact hmem (List.mem_singleton.1 hnew ▸ hk)

end Common

end XrtcServer
