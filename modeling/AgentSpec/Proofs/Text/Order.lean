import AgentSpec.Proofs.Names
import Mathlib.Data.List.Lex
import Mathlib.Order.Basic
import Mathlib.Tactic.SplitIfs

/-!
The order of names.

Names are compared by their code points, and the bytes of their encodings compare alike
(`Text.bytes_lt_bytes`).  So both ways to sort names leave them in the order of their bytes: with
repetitions left out, or of names that do not repeat.
-/
namespace AgentSpec.Text

/-- The encoding of a text. -/
def bytes (s : String) : List UInt8 := s.toUTF8.data.toList

theorem bytes_eq (s : String) : bytes s = s.toList.flatMap String.utf8EncodeChar := by
  conv => lhs; rw [← String.ofList_toList (s := s)]
  rw [bytes, String.toUTF8_eq_toByteArray]
  exact List.toList_data_toByteArray

/-- A smaller code point has a smaller encoding, whatever follows. -/
theorem utf8EncodeChar_append_lt {c d : Char} (h : c < d) (r r' : List UInt8) :
    String.utf8EncodeChar c ++ r < String.utf8EncodeChar d ++ r' := by
  have hlt : c.val.toNat < d.val.toNat := UInt32.lt_iff_toNat_lt.mp h
  have hmax : d.val.toNat < 0x110000 := by
    have hvalid := d.valid
    simp only [UInt32.isValidChar, Nat.isValidChar] at hvalid
    omega
  simp only [String.utf8EncodeChar]
  generalize c.val.toNat = v at hlt
  generalize d.val.toNat = u at hlt hmax
  have hnested (n : Nat) : n / 4096 = n / 64 / 64 ∧ n / 262144 = n / 64 / 64 / 64 := by omega
  rw [(hnested v).1, (hnested v).2, (hnested u).1, (hnested u).2]
  split_ifs
  -- the leading bytes of longer encodings are larger, and encodings of one length are numerals
  all_goals
    simp only [List.cons_append, List.nil_append, List.cons_lt_cons_iff, UInt8.lt_iff_toNat_lt,
      ← UInt8.toNat_inj, UInt8.toNat_ofNat']
    omega

theorem flatMap_utf8EncodeChar_lt {cs ds : List Char} (h : cs < ds) :
    cs.flatMap String.utf8EncodeChar < ds.flatMap String.utf8EncodeChar := by
  induction h with
  | @nil d ds =>
    rw [List.flatMap_nil, List.flatMap_cons]
    cases he : String.utf8EncodeChar d with
    | nil => exact absurd he String.utf8EncodeChar_ne_nil
    | cons b bs => exact .nil
  | @rel c cs d ds hcd =>
    rw [List.flatMap_cons, List.flatMap_cons]
    exact utf8EncodeChar_append_lt hcd _ _
  | @cons c cs ds _ ih =>
    rw [List.flatMap_cons, List.flatMap_cons]
    exact List.append_left_lt ih

/-- Names compare like the bytes of their encodings. -/
theorem bytes_lt_bytes {s t : String} : bytes s < bytes t ↔ s < t := by
  rw [bytes_eq, bytes_eq]
  refine ⟨fun h => ?_, flatMap_utf8EncodeChar_lt⟩
  by_contra hge
  rcases eq_or_ne s t with rfl | hne
  · exact List.lt_irrefl _ h
  · have hgt : t < s := by
      by_contra hle
      exact hne (String.le_antisymm (String.not_lt.mp hle) (String.not_lt.mp hge))
    exact List.lt_asymm h (flatMap_utf8EncodeChar_lt hgt)

/-! ## Lists of names in order -/

variable {names : List String} {n : String}

/-- A name goes in front of a larger one. -/
theorem pairwise_cons_cons {head : String} {rest : List String} (hlt : n < head)
    (h : (head :: rest).Pairwise (· < ·)) : (n :: head :: rest).Pairwise (· < ·) := by
  refine List.pairwise_cons.mpr ⟨fun m hm => ?_, h⟩
  rcases List.mem_cons.mp hm with rfl | hm
  · exact hlt
  · exact String.lt_trans hlt (List.rel_of_pairwise_cons h hm)

theorem pairwise_insertOnce (h : names.Pairwise (· < ·)) (n : String) :
    (insertOnce n names).Pairwise (· < ·) := by
  induction names with
  | nil => exact List.pairwise_singleton _ _
  | cons head rest ih =>
    obtain ⟨hhead, hrest⟩ := List.pairwise_cons.mp h
    unfold insertOnce
    by_cases hlt : head < n
    · rw [if_pos hlt]
      refine List.pairwise_cons.mpr ⟨fun m hm => ?_, ih hrest⟩
      rcases (mem_insertOnce ..).mp hm with rfl | hm
      · exact hlt
      · exact hhead m hm
    · rw [if_neg hlt]
      by_cases hgt : n < head
      · rw [if_pos hgt]
        exact pairwise_cons_cons hgt h
      · rw [if_neg hgt]
        exact h

theorem pairwise_sortedOnce (names : List String) : (sortedOnce names).Pairwise (· < ·) := by
  induction names with
  | nil => exact .nil
  | cons head rest ih => exact pairwise_insertOnce ih head

theorem mem_insertSorted (n m : String) (names : List String) :
    m ∈ insertSorted n names ↔ m = n ∨ m ∈ names := by
  induction names with
  | nil => simp [insertSorted]
  | cons head rest ih =>
    unfold insertSorted
    by_cases hlt : head < n
    · rw [if_pos hlt, List.mem_cons, ih, List.mem_cons]
      tauto
    · rw [if_neg hlt, List.mem_cons]

theorem mem_sorted (n : String) (names : List String) : n ∈ sorted names ↔ n ∈ names := by
  induction names with
  | nil => rfl
  | cons head rest ih =>
    rw [sorted, List.foldr_cons, mem_insertSorted, List.mem_cons]
    exact or_congr_right ih

/-- A name that is not there takes its place. -/
theorem pairwise_insertSorted (h : names.Pairwise (· < ·)) (hn : n ∉ names) :
    (insertSorted n names).Pairwise (· < ·) := by
  induction names with
  | nil => exact List.pairwise_singleton _ _
  | cons head rest ih =>
    obtain ⟨hhead, hrest⟩ := List.pairwise_cons.mp h
    obtain ⟨hne, hn⟩ := not_or.mp (mt List.mem_cons.mpr hn)
    unfold insertSorted
    by_cases hlt : head < n
    · rw [if_pos hlt]
      refine List.pairwise_cons.mpr ⟨fun m hm => ?_, ih hrest hn⟩
      rcases (mem_insertSorted ..).mp hm with rfl | hm
      · exact hlt
      · exact hhead m hm
    · rw [if_neg hlt]
      have hgt : n < head := by
        by_contra hge
        exact hne (String.le_antisymm (String.not_lt.mp hlt) (String.not_lt.mp hge))
      exact pairwise_cons_cons hgt h

theorem pairwise_sorted (h : names.Nodup) : (sorted names).Pairwise (· < ·) := by
  induction names with
  | nil => exact .nil
  | cons head rest ih =>
    obtain ⟨hhead, hrest⟩ := List.nodup_cons.mp h
    exact pairwise_insertSorted (ih hrest) fun hmem => hhead ((mem_sorted ..).mp hmem)

/-- Names in the order of their bytes, none twice. -/
def Ascending (names : List String) : Prop := names.Pairwise fun m n => bytes m < bytes n

theorem ascending_iff : Ascending names ↔ names.Pairwise (· < ·) := by
  unfold Ascending
  simp only [bytes_lt_bytes]

theorem ascending_sortedOnce (names : List String) : Ascending (sortedOnce names) :=
  ascending_iff.mpr (pairwise_sortedOnce names)

theorem ascending_sorted (h : names.Nodup) : Ascending (sorted names) :=
  ascending_iff.mpr (pairwise_sorted h)

end AgentSpec.Text
