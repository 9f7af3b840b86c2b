import Mathlib.Data.List.Basic
import Mathlib.Data.Nat.Notation
/-!
# Frames

A frame is a header of `k` elements and a body of the length that the header
says. Data is framed if it is frames end to end. The first frame is where the
header at the front says it ends, so `isFramed_iff` takes framed data apart
from the front.
-/

namespace XrtcServer

namespace Common

variable {α : Type*} {k : ℕ} {len : List α → ℕ} {frame data rest : List α}

/-- A header of `k` elements, and the body it says the length of. -/
def IsFrame (k : ℕ) (len : List α → ℕ) (frame : List α) : Prop :=
  ∃ header body, frame = header ++ body ∧ header.length = k ∧ len header = body.length

/-- Frames end to end. -/
def IsFramed (k : ℕ) (len : List α → ℕ) (data : List α) : Prop :=
  ∃ frames : List (List α), (∀ frame ∈ frames, IsFrame k len frame) ∧ data = frames.flatten

theorem isFramed_nil : IsFramed k len [] := by
  refine ⟨[], ?_, List.flatten_nil.symm⟩
  intro frame hframe
  cases hframe

theorem IsFramed.append (hframe : IsFrame k len frame) (h : IsFramed k len rest) :
    IsFramed k len (frame ++ rest) := by
  obtain ⟨frames, hframes, rfl⟩ := h
  refine ⟨frame :: frames, ?_, List.flatten_cons.symm⟩
  intro frame' hmem
  cases hmem with
  | head => exact hframe
  | tail _ hmem => exact hframes frame' hmem

/-- The header at the front says where the frame there ends. -/
theorem IsFrame.length_eq (h : IsFrame k len frame) (rest : List α) :
    frame.length = k + len ((frame ++ rest).take k) := by
  obtain ⟨header, body, rfl, rfl, hlen⟩ := h
  rw [List.append_assoc, List.take_left, hlen, List.length_append]

theorem IsFrame.le_length (h : IsFrame k len frame) : k ≤ frame.length := by
  obtain ⟨header, body, rfl, rfl, hlen⟩ := h
  rw [List.length_append]
  exact Nat.le_add_right ..

/-- Where the header at the front says that a frame ends, there is one. -/
theorem isFrame_take (hk : k ≤ data.length) (h : k + len (data.take k) ≤ data.length) :
    IsFrame k len (data.take (k + len (data.take k))) := by
  refine ⟨data.take k, (data.drop k).take (len (data.take k)), ?_, ?_, ?_⟩
  · rw [List.take_add]
  · rw [List.length_take, Nat.min_eq_left hk]
  · rw [List.length_take, List.length_drop, Nat.min_eq_left (by omega)]

/-- **Framed data from the front.** Data that is not empty is framed where
the frame at its front fits it and the rest is framed. -/
theorem isFramed_iff (hne : data ≠ []) :
    IsFramed k len data ↔
      k ≤ data.length ∧ k + len (data.take k) ≤ data.length ∧
        IsFramed k len (data.drop (k + len (data.take k))) := by
  constructor
  · rintro ⟨frames, hframes, rfl⟩
    cases frames with
    | nil => exact absurd List.flatten_nil hne
    | cons frame frames =>
      have hframe := hframes frame List.mem_cons_self
      have hlength := hframe.length_eq frames.flatten
      have hk := hframe.le_length
      rw [List.flatten_cons, ← hlength, List.length_append]
      refine ⟨by omega, by omega, frames, ?_, List.drop_left⟩
      intro frame' hmem
      exact hframes frame' (List.mem_cons_of_mem _ hmem)
  · rintro ⟨hk, hfits, hrest⟩
    rw [← List.take_append_drop (k + len (data.take k)) data]
    exact hrest.append (isFrame_take hk hfits)

end Common

end XrtcServer
