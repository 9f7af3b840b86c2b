import Mathlib.Data.List.Basic
/-!
# Texts

`List.splitOn` cuts a text at every occurrence of a separator: the fields
are free of it, and joined by it they are the text. `tokens` leaves out the
empty fields, and `cutFirst` cuts at the first run of separators only. A
key is searched as an infix: one that lacks the separator is found in a
field, or not at all.
-/

namespace XrtcServer

namespace Common

variable {α : Type*} [BEq α] [LawfulBEq α] {sep : α} {text left right : List α}

/-- The fields that are not empty. -/
def tokens (sep : α) (text : List α) : List (List α) := (text.splitOn sep).filter (! ·.isEmpty)

/-- What comes before the first separator, and what comes behind the run of
separators there. -/
def cutFirst (sep : α) (text : List α) : Option (List α × List α) :=
  match text.dropWhile (· != sep) with
  | [] => none
  | _ :: rest => some (text.takeWhile (· != sep), rest.dropWhile (· == sep))

omit [BEq α] [LawfulBEq α] in
/-- A check of the elements one by one. -/
theorem forall_mem_of_all {p : α → Prop} [DecidablePred p]
    (h : (text.all fun a => decide (p a)) = true) : ∀ a ∈ text, p a := by
  simpa using h

/-- No field holds the separator. -/
theorem not_mem_of_mem_splitOn (h : left ∈ text.splitOn sep) : sep ∉ left := by
  induction text generalizing left with
  | nil =>
    rw [List.splitOn_nil, List.mem_singleton] at h
    rw [h]
    exact List.not_mem_nil
  | cons c text ih =>
    rw [List.splitOn_cons_eq_if_modifyHead] at h
    split at h
    · rcases List.mem_cons.1 h with rfl | h
      · exact List.not_mem_nil
      · exact ih h
    · rename_i hne
      obtain ⟨field, fields, hfields⟩ := List.exists_cons_of_ne_nil (List.splitOn_ne_nil sep text)
      rw [hfields, List.modifyHead_cons] at h
      rcases List.mem_cons.1 h with rfl | h
      · intro hmem
        rcases List.mem_cons.1 hmem with rfl | hmem
        · exact hne (by simp)
        · exact ih (hfields ▸ List.mem_cons_self) hmem
      · exact ih (hfields ▸ List.mem_cons_of_mem _ h)

omit [LawfulBEq α] in
/-- A field is part of its text. -/
theorem mem_of_mem_splitOn {a : α} (h : left ∈ text.splitOn sep) (ha : a ∈ left) : a ∈ text := by
  induction text generalizing left with
  | nil =>
    rw [List.splitOn_nil, List.mem_singleton] at h
    exact absurd (h ▸ ha) List.not_mem_nil
  | cons c text ih =>
    obtain ⟨first, fields, hfields⟩ := List.exists_cons_of_ne_nil (List.splitOn_ne_nil sep text)
    rw [List.splitOn_cons_eq_if_modifyHead, hfields, List.modifyHead_cons] at h
    rw [hfields] at ih
    split at h
    · rcases List.mem_cons.1 h with rfl | h
      · exact absurd ha List.not_mem_nil
      · exact List.mem_cons_of_mem _ (ih h ha)
    · rcases List.mem_cons.1 h with rfl | h
      · rcases List.mem_cons.1 ha with rfl | ha
        · exact List.mem_cons_self
        · exact List.mem_cons_of_mem _ (ih List.mem_cons_self ha)
      · exact List.mem_cons_of_mem _ (ih (List.mem_cons_of_mem _ h) ha)

/-- **A text of two fields.** -/
theorem splitOn_eq_pair :
    text.splitOn sep = [left, right] ↔ text = left ++ sep :: right ∧ sep ∉ left ∧ sep ∉ right := by
  constructor
  · intro h
    have hfree : ∀ field ∈ [left, right], sep ∉ field := fun field hfield =>
      not_mem_of_mem_splitOn (h ▸ hfield)
    have hjoin : [sep].intercalate (text.splitOn sep) = text := List.intercalate_splitOn sep
    rw [h] at hjoin
    refine ⟨?_, hfree left List.mem_cons_self, hfree right (by simp)⟩
    rw [← hjoin]
    simp [List.intercalate]
  · rintro ⟨rfl, hleft, hright⟩
    rw [List.splitOn_append_cons_self_of_not_mem hleft, List.splitOn_eq_singleton hright]

/-- What is not the separator stands in a field. -/
theorem exists_field_of_mem {c : α} (h : c ∈ text) (hc : c ≠ sep) :
    ∃ field ∈ text.splitOn sep, c ∈ field := by
  induction text with
  | nil => exact absurd h List.not_mem_nil
  | cons a text ih =>
    obtain ⟨first, fields, hfields⟩ := List.exists_cons_of_ne_nil (List.splitOn_ne_nil sep text)
    rw [List.splitOn_cons_eq_if_modifyHead, hfields, List.modifyHead_cons]
    rw [hfields] at ih
    rcases List.mem_cons.1 h with rfl | h
    · rw [if_neg (by simpa using hc)]
      exact ⟨c :: first, List.mem_cons_self, List.mem_cons_self⟩
    · obtain ⟨field, hfield, hmem⟩ := ih h
      split
      · exact ⟨field, List.mem_cons_of_mem _ hfield, hmem⟩
      · rcases List.mem_cons.1 hfield with rfl | hfield
        · exact ⟨a :: field, List.mem_cons_self, List.mem_cons_of_mem _ hmem⟩
        · exact ⟨field, List.mem_cons_of_mem _ hfield, hmem⟩

/-- The tokens behind a first one. -/
theorem tokens_append_cons (h : sep ∉ left) (hne : left ≠ []) :
    tokens sep (left ++ sep :: right) = left :: tokens sep right := by
  rw [tokens, tokens, List.splitOn_append_cons_self_of_not_mem h, List.filter_cons_of_pos]
  simpa using hne

/-- **A text of fields that end with the separator**, but the last. -/
theorem splitOn_flatMap_append {fields : List (List α)} (h : ∀ field ∈ fields, sep ∉ field)
    (hlast : sep ∉ left) :
    (fields.flatMap (· ++ [sep]) ++ left).splitOn sep = fields ++ [left] := by
  induction fields with
  | nil => exact List.splitOn_eq_singleton hlast
  | cons field fields ih =>
    rw [List.flatMap_cons, List.append_assoc, List.append_assoc, List.singleton_append,
      List.splitOn_append_cons_self_of_not_mem (h field List.mem_cons_self),
      ih fun field' hfield => h field' (List.mem_cons_of_mem _ hfield), List.cons_append]

/-- **A text of fields with the separator in front of each**, but the first. -/
theorem splitOn_append_flatMap_cons {fields : List (List α)} (h : sep ∉ left)
    (hfields : ∀ field ∈ fields, sep ∉ field) :
    (left ++ fields.flatMap (sep :: ·)).splitOn sep = left :: fields := by
  induction fields generalizing left with
  | nil => rw [List.flatMap_nil, List.append_nil, List.splitOn_eq_singleton h]
  | cons field fields ih =>
    rw [List.flatMap_cons, List.cons_append, List.splitOn_append_cons_self_of_not_mem h,
      ih (hfields field List.mem_cons_self) fun field' hfield =>
        hfields field' (List.mem_cons_of_mem _ hfield)]

theorem cutFirst_append (h : sep ∉ left) :
    cutFirst sep (left ++ sep :: right) = some (left, right.dropWhile (· == sep)) := by
  have hall : ∀ a ∈ left, (a != sep) = true := by
    intro a ha
    rw [bne_iff_ne]
    rintro rfl
    exact h ha
  have hdrop : (left ++ sep :: right).dropWhile (· != sep) = sep :: right := by
    rw [List.dropWhile_append_of_pos hall, List.dropWhile_cons_of_neg (by simp)]
  have htake : (left ++ sep :: right).takeWhile (· != sep) = left := by
    rw [List.takeWhile_append_of_pos hall, List.takeWhile_cons_of_neg (by simp), List.append_nil]
  rw [cutFirst, hdrop, htake]

/-- **What is cut off** is part of the text, and does not start with the separator. -/
theorem cutFirst_eq_some (h : cutFirst sep text = some (left, right)) :
    (∀ a ∈ right, a ∈ text) ∧ right.head? ≠ some sep := by
  unfold cutFirst at h
  split at h
  · cases h
  · rename_i a rest hdrop
    obtain ⟨-, rfl⟩ := Prod.mk.inj (Option.some.inj h)
    constructor
    · intro c hc
      have hrest : c ∈ text.dropWhile (· != sep) := by
        rw [hdrop]
        exact List.mem_cons_of_mem _ ((List.dropWhile_sublist _).subset hc)
      exact (List.dropWhile_sublist _).subset hrest
    · intro hhead
      have hnot := List.head?_dropWhile_not (· == sep) rest
      rw [hhead] at hnot
      simp at hnot

/-! ## Searching a text -/

section Search

variable {β : Type*} {sep : β} {text left right key : List β}

/-- A key without the separator does not reach past one. -/
theorem prefix_append_cons_iff (h : sep ∉ key) : key <+: left ++ sep :: right ↔ key <+: left := by
  constructor
  · intro hstarts
    induction left generalizing key with
    | nil =>
      cases key with
      | nil => exact List.nil_prefix
      | cons c key =>
        rw [List.nil_append, List.cons_prefix_cons] at hstarts
        exact absurd (hstarts.1 ▸ List.mem_cons_self) h
    | cons a left ih =>
      cases key with
      | nil => exact List.nil_prefix
      | cons c key =>
        rw [List.cons_append, List.cons_prefix_cons] at hstarts
        rw [List.cons_prefix_cons]
        exact ⟨hstarts.1, ih (fun hmem => h (List.mem_cons_of_mem _ hmem)) hstarts.2⟩
  · exact fun hstarts => hstarts.trans (List.prefix_append _ _)

/-- **It is found in one of the two sides.** -/
theorem infix_append_cons_iff (h : sep ∉ key) :
    key <:+: left ++ sep :: right ↔ key <:+: left ∨ key <:+: right := by
  induction left with
  | nil =>
    have hstart : key <+: [] ++ sep :: right ↔ key <+: [] := prefix_append_cons_iff h
    rw [List.nil_append] at hstart ⊢
    rw [List.infix_cons_iff, hstart, List.prefix_nil, List.infix_nil]
  | cons a left ih =>
    have hstart : key <+: (a :: left) ++ sep :: right ↔ key <+: a :: left :=
      prefix_append_cons_iff h
    rw [List.cons_append] at hstart ⊢
    rw [List.infix_cons_iff, hstart, ih, List.infix_cons_iff, or_assoc]

/-- A key whose second letter is missing from the front of a text, where that
does not end with its first, is found behind the front. -/
theorem infix_append_iff_of_notMem {c d : β} {front : List β} (hd : d ∉ front)
    (hlast : front.getLast? ≠ some c) :
    c :: d :: key <:+: front ++ text ↔ c :: d :: key <:+: text := by
  induction front with
  | nil => exact Iff.rfl
  | cons a front ih =>
    rw [List.mem_cons, not_or] at hd
    rw [List.cons_append, List.infix_cons_iff]
    have hstart : ¬ c :: d :: key <+: a :: (front ++ text) := by
      rw [List.cons_prefix_cons]
      rintro ⟨rfl, hrest⟩
      cases front with
      | nil => exact hlast rfl
      | cons b front =>
        rw [List.cons_append, List.cons_prefix_cons] at hrest
        exact hd.2 (hrest.1 ▸ List.mem_cons_self)
    rw [or_iff_right hstart]
    cases front with
    | nil => exact Iff.rfl
    | cons b front =>
      rw [List.getLast?_cons_cons] at hlast
      exact ih hd.2 hlast

end Search

end Common

end XrtcServer
