import Mathlib.Data.List.GetD
import XrtcServer.Common.Bytes
import XrtcServer.Common.Frames
import XrtcServer.Pc.Model.RecordLoop
/-!
# The records of a DTLS packet

A record is framed: 13 bytes of header, of which the last two are the length
of the body. `recordsFit` and the loop of `_handle_dtls_packet` both take
framed data apart from the front (`isFramed_iff`); the loop stays inside the
packet as it does (`Walks`).
-/

namespace XrtcServer

namespace Pc

namespace Dtls

open Common

variable {data record : List UInt8} {s s' : RecordCursor}

/-- The length that a header says. -/
def bodyLen (header : List UInt8) : ℕ := beValue (header.drop 11)

/-- A complete record. -/
def IsRecord (record : List UInt8) : Prop := IsFrame k_dtls_record_header_len bodyLen record

/-- One or more complete records. -/
def IsRecords (data : List UInt8) : Prop :=
  ∃ records : List (List UInt8),
    records ≠ [] ∧ (∀ record ∈ records, IsRecord record) ∧ data = records.flatten

theorem isRecords_iff (hne : data ≠ []) :
    IsRecords data ↔ IsFramed k_dtls_record_header_len bodyLen data := by
  constructor
  · rintro ⟨records, -, hrecords, rfl⟩
    exact ⟨records, hrecords, rfl⟩
  · rintro ⟨records, hrecords, rfl⟩
    refine ⟨records, ?_, hrecords, rfl⟩
    rintro rfl
    exact hne List.flatten_nil

/-! ## The length of a record -/

/-- The two bytes that the code puts together are the length in the header
at that position. -/
theorem bodyLen_take_drop (data : List UInt8) (pos : ℕ)
    (h : k_dtls_record_header_len ≤ (data.drop pos).length) :
    bodyLen ((data.drop pos).take k_dtls_record_header_len) =
      (data.getD (pos + 11) 0).toNat <<< 8 ||| (data.getD (pos + 12) 0).toNat := by
  have h13 : pos + 13 ≤ data.length := by
    have hlength := h
    rw [List.length_drop, k_dtls_record_header_len] at hlength
    omega
  have hdigits : (data.drop pos).drop 11 =
      data.getD (pos + 11) 0 :: data.getD (pos + 12) 0 :: data.drop (pos + 13) := by
    rw [List.drop_drop, List.drop_eq_getElem_cons (by omega), List.drop_eq_getElem_cons (by omega),
      List.getD_eq_getElem _ _ (by omega), List.getD_eq_getElem _ _ (by omega)]
  have hlow := (data.getD (pos + 12) 0).toNat_lt
  rw [bodyLen, k_dtls_record_header_len, List.drop_take, hdigits,
    ← Nat.shiftLeft_add_eq_or_of_lt hlow, Nat.shiftLeft_eq]
  simp [beValue]

/-! ## `recordsFit` -/

theorem recordsFit_succ {n : ℕ} (hne : data ≠ []) :
    recordsFit (n + 1) data =
      if data.length < k_dtls_record_header_len then false
      else
        let recordLen := (data.getD 11 0).toNat <<< 8 ||| (data.getD 12 0).toNat
        if data.length < recordLen + k_dtls_record_header_len then false
        else recordsFit n (data.drop (k_dtls_record_header_len + recordLen)) := by
  cases data with
  | nil => exact absurd rfl hne
  | cons b data => rfl

theorem recordsFit_iff {n : ℕ} (h : data.length ≤ n) :
    recordsFit n data = true ↔ IsFramed k_dtls_record_header_len bodyLen data := by
  induction n generalizing data with
  | zero =>
    obtain rfl := List.eq_nil_of_length_eq_zero (Nat.le_zero.1 h)
    exact iff_of_true rfl isFramed_nil
  | succ n ih =>
    by_cases hne : data = []
    · subst hne
      exact iff_of_true rfl isFramed_nil
    rw [isFramed_iff hne, recordsFit_succ hne]
    by_cases hk : data.length < k_dtls_record_header_len
    · rw [if_pos hk]
      exact iff_of_false Bool.false_ne_true fun hframed => absurd hframed.1 (Nat.not_le_of_lt hk)
    have hlen := bodyLen_take_drop data 0 (Nat.le_of_not_lt hk)
    rw [List.drop_zero, Nat.zero_add, Nat.zero_add] at hlen
    rw [if_neg hk, hlen]
    dsimp only
    by_cases hfits : data.length <
        ((data.getD 11 0).toNat <<< 8 ||| (data.getD 12 0).toNat) + k_dtls_record_header_len
    · rw [if_pos hfits]
      exact iff_of_false Bool.false_ne_true fun hframed => by omega
    · rw [if_neg hfits, ih]
      · constructor
        · intro hrest
          exact ⟨by omega, by omega, hrest⟩
        · intro hframed
          exact hframed.2.2
      · rw [List.length_drop, k_dtls_record_header_len]
        omega

/-! ## The loop -/

/-- **A pass that goes on** has found a record that fits what is left, and
has moved behind it. -/
theorem recordPass_inl (hpass : recordPass data s = .inl s') :
    s.tmpSize ≠ 0 ∧ k_dtls_record_header_len ≤ s.tmpSize ∧ ∃ recordLen,
      (data.getD (s.tmpData + 11) 0).toNat <<< 8 ||| (data.getD (s.tmpData + 12) 0).toNat =
          recordLen ∧
        k_dtls_record_header_len + recordLen ≤ s.tmpSize ∧
        s' =
          { tmpData := s.tmpData + (k_dtls_record_header_len + recordLen)
            tmpSize := s.tmpSize - (k_dtls_record_header_len + recordLen)
            reads := s.reads ++ [s.tmpData + 11, s.tmpData + 12] } := by
  unfold recordPass at hpass
  split at hpass
  · cases hpass
  rename_i hs
  split at hpass
  · cases hpass
  rename_i hk
  dsimp only at hpass
  split at hpass
  · cases hpass
  rename_i hfits
  refine ⟨hs, Nat.le_of_not_lt hk, _, rfl, ?_, (Sum.inl.inj hpass).symm⟩
  rw [Nat.add_comm]
  exact Nat.le_of_not_lt hfits

/-- Inside the packet, with what is left framed where the packet is. -/
structure Walks (data : List UInt8) (s : RecordCursor) : Prop where
  span : s.tmpData + s.tmpSize = data.length
  reads : ∀ pos ∈ s.reads, pos < data.length
  rest : IsFramed k_dtls_record_header_len bodyLen (data.drop s.tmpData) ↔
    IsFramed k_dtls_record_header_len bodyLen data

theorem walks_start (data : List UInt8) : Walks data (.start data) where
  span := Nat.zero_add _
  reads _ hpos := by cases hpos
  rest := Iff.rfl

namespace Walks

theorem length_drop (h : Walks data s) : (data.drop s.tmpData).length = s.tmpSize := by
  rw [List.length_drop, ← h.span, Nat.add_sub_cancel_left]

theorem drop_ne_nil (h : Walks data s) (hs : s.tmpSize ≠ 0) : data.drop s.tmpData ≠ [] := by
  intro hnil
  rw [← h.length_drop, hnil] at hs
  exact hs rfl

/-- The two positions that a pass reads are inside. -/
theorem reads_append (h : Walks data s) (hk : k_dtls_record_header_len ≤ s.tmpSize) :
    ∀ pos ∈ s.reads ++ [s.tmpData + 11, s.tmpData + 12], pos < data.length := by
  have hspan := h.span
  unfold k_dtls_record_header_len at hk
  intro pos hpos
  rcases List.mem_append.1 hpos with hpos | hpos
  · exact h.reads pos hpos
  · simp only [List.mem_cons, List.not_mem_nil, or_false] at hpos
    omega

/-- The packet is framed where the record at the cursor fits what is left and
what is behind it is framed. -/
theorem isFramed_iff (h : Walks data s) (hs : s.tmpSize ≠ 0)
    (hk : k_dtls_record_header_len ≤ s.tmpSize) {recordLen : ℕ}
    (hlen : (data.getD (s.tmpData + 11) 0).toNat <<< 8 ||| (data.getD (s.tmpData + 12) 0).toNat =
      recordLen) :
    IsFramed k_dtls_record_header_len bodyLen data ↔
      k_dtls_record_header_len + recordLen ≤ s.tmpSize ∧
        IsFramed k_dtls_record_header_len bodyLen
          (data.drop (s.tmpData + (k_dtls_record_header_len + recordLen))) := by
  have hbody := bodyLen_take_drop data s.tmpData (h.length_drop ▸ hk)
  rw [← h.rest, Common.isFramed_iff (h.drop_ne_nil hs), h.length_drop, hbody, hlen, List.drop_drop]
  constructor
  · intro hframed
    exact hframed.2
  · intro hframed
    exact ⟨hk, hframed⟩

/-- **A pass stays inside the packet.** -/
theorem pass (h : Walks data s) (hpass : recordPass data s = .inl s') : Walks data s' := by
  obtain ⟨hs, hk, recordLen, hlen, hfits, rfl⟩ := recordPass_inl hpass
  have hspan := h.span
  have hframed := h.isFramed_iff hs hk hlen
  exact
    { span := by
        dsimp only
        omega
      reads := h.reads_append hk
      rest := by
        rw [hframed]
        constructor
        · intro hrest
          exact ⟨hfits, hrest⟩
        · intro hframed'
          exact hframed'.2 }

/-- **The loop is left with true where the packet is framed,** and has read
nothing outside it. -/
theorem leave (h : Walks data s) {valid : Bool} {reads : List ℕ}
    (hpass : recordPass data s = .inr (valid, reads)) :
    (∀ pos ∈ reads, pos < data.length) ∧
      (valid = true ↔ IsFramed k_dtls_record_header_len bodyLen data) := by
  unfold recordPass at hpass
  split at hpass
  · rename_i hs
    obtain ⟨rfl, rfl⟩ := Prod.mk.inj (Sum.inr.inj hpass)
    refine ⟨h.reads, iff_of_true rfl (h.rest.1 ?_)⟩
    have hnil := List.eq_nil_of_length_eq_zero (h.length_drop.trans hs)
    rw [hnil]
    exact isFramed_nil
  rename_i hs
  split at hpass
  · rename_i hk
    obtain ⟨rfl, rfl⟩ := Prod.mk.inj (Sum.inr.inj hpass)
    refine ⟨h.reads, iff_of_false Bool.false_ne_true ?_⟩
    rw [← h.rest, Common.isFramed_iff (h.drop_ne_nil hs), h.length_drop]
    intro hframed
    exact absurd hframed.1 (Nat.not_le_of_lt hk)
  rename_i hk
  dsimp only at hpass
  split at hpass
  · rename_i hfits
    obtain ⟨rfl, rfl⟩ := Prod.mk.inj (Sum.inr.inj hpass)
    refine ⟨h.reads_append (Nat.le_of_not_lt hk), iff_of_false Bool.false_ne_true ?_⟩
    rw [h.isFramed_iff hs (Nat.le_of_not_lt hk) rfl]
    intro hframed
    omega
  · cases hpass

end Walks

/-- Every pass that goes on takes a record off what is left. -/
theorem recordPass_lt (data : List UInt8) (s s' : RecordCursor)
    (hpass : recordPass data s = .inl s') : s'.tmpSize < s.tmpSize := by
  obtain ⟨hs, -, recordLen, -, hfits, rfl⟩ := recordPass_inl hpass
  have hpos : 0 < k_dtls_record_header_len := Nat.succ_pos 12
  dsimp only
  omega

/-- **The loop of `_handle_dtls_packet` ends** within a pass more than the
packet has bytes, reads nothing outside the packet and answers as
`recordsFit`. -/
theorem loop_recordPass (data : List UInt8) :
    ∃ reads : List ℕ, (∀ pos ∈ reads, pos < data.length) ∧
      ∀ passes, data.length < passes →
        loop (recordPass data) passes (.start data) =
          .inr (recordsFit data.length data, reads) := by
  obtain ⟨⟨valid, reads⟩, hleft⟩ :=
    loop_of_measure (s := .start data) (recordPass_lt data) (Nat.lt_succ_self data.length)
  obtain ⟨-, hinr⟩ := loop_of_inv (I := Walks data)
    (Q := fun r => (∀ pos ∈ r.2, pos < data.length) ∧
      (r.1 = true ↔ IsFramed k_dtls_record_header_len bodyLen data))
    (fun _ _ h hpass => h.pass hpass) (fun _ _ h hpass => h.leave hpass) (walks_start data)
    (data.length + 1)
  obtain ⟨hreads, hvalid⟩ := hinr _ hleft
  have hfit : valid = recordsFit data.length data := by
    rw [Bool.eq_iff_iff]
    exact hvalid.trans (recordsFit_iff (Nat.le_refl _)).symm
  refine ⟨reads, hreads, fun passes hpasses => ?_⟩
  rw [loop_fuel_eq (recordPass_lt data) hpasses, ← hfit]
  exact hleft

/-! ## The packet -/

theorem recordsFit_length_iff (hne : data ≠ []) :
    recordsFit data.length data = true ↔ IsRecords data :=
  (recordsFit_iff (Nat.le_refl _)).trans (isRecords_iff hne).symm

theorem ne_nil_of_isDtlsPacket (h : isDtlsPacket data = true) : data ≠ [] := by
  rintro rfl
  cases h

/-- **Complete records and nothing else get through.** `_handle_dtls_packet`
returns, with nothing read outside the packet, and hands the packet on as it
is exactly where it is one or more complete records. -/
theorem handleDtlsPacket_iff_records (t : DtlsTransport) (hdtls : isDtlsPacket data = true) :
    (∃ reads : List ℕ, (∀ pos ∈ reads, pos < data.length) ∧
      ∀ passes, data.length < passes →
        t.runHandleDtlsPacket passes data = .inr (t.handleDtlsPacket data, reads)) ∧
    (t.handleDtlsPacket data = (t.call (.onReceivedPacket t.downward data), true) ↔
      IsRecords data) ∧
    (¬ IsRecords data → t.handleDtlsPacket data = (t, false)) := by
  have hfit := recordsFit_length_iff (ne_nil_of_isDtlsPacket hdtls)
  refine ⟨?_, ?_, ?_⟩
  · obtain ⟨reads, hreads, hloop⟩ := loop_recordPass data
    refine ⟨reads, hreads, fun passes hpasses => ?_⟩
    rw [DtlsTransport.runHandleDtlsPacket, hloop passes hpasses, DtlsTransport.handleDtlsPacket]
    cases recordsFit data.length data with
    | false => rfl
    | true => rfl
  · rw [← hfit, DtlsTransport.handleDtlsPacket]
    cases recordsFit data.length data with
    | false =>
      refine iff_of_false (fun hhandled => ?_) Bool.false_ne_true
      exact Bool.false_ne_true (Prod.mk.inj hhandled).2
    | true => exact iff_of_true rfl rfl
  · intro hno
    rw [← hfit] at hno
    rw [DtlsTransport.handleDtlsPacket, if_neg hno]

/-- An alert of two bytes, and a record without a body. -/
def twoRecords : List UInt8 :=
  [21, 254, 253, 0, 1, 0, 0, 0, 0, 0, 0, 0, 2, 1, 0,
    20, 254, 253, 0, 1, 0, 0, 0, 0, 0, 1, 0, 0]

theorem handleDtlsPacket_iff_records_two :
    isDtlsPacket twoRecords = true ∧ IsRecords twoRecords ∧
      isDtlsPacket (twoRecords.take 20) = true ∧ ¬ IsRecords (twoRecords.take 20) := by
  refine ⟨rfl, ?_, rfl, fun hrecords => ?_⟩
  · exact (handleDtlsPacket_iff_records {} rfl).2.1.1 rfl
  · have hhandled := (handleDtlsPacket_iff_records {} rfl).2.1.2 hrecords
    exact Bool.false_ne_true (Prod.mk.inj hhandled).2

end Dtls

end Pc

end XrtcServer
