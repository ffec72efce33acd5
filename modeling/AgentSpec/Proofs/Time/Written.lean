import AgentSpec.Proofs.Results
import AgentSpec.Proofs.Time.Calendar
import AgentSpec.Time.Scan

/-!
Instants that are written and read again.

Main statement: an instant with a year of four digits is read back from the text that rows keep
(`Instant.Ordinary.ofText_toOffsetText`).
-/
namespace AgentSpec

/-! ## Digits -/

theorem digitsValue_toDigits (n : Nat) : digitsValue (Nat.toDigits 10 n) = n := by
  have h : Nat.ofDigitChars 10 (Nat.toDigits 10 n) 0 = n := Nat.ofDigitChars_ten_toDigits
  exact h

theorem digitsValue_replicate_append (k : Nat) (cs : List Char) :
    digitsValue (List.replicate k '0' ++ cs) = digitsValue cs := by
  induction k with
  | zero => rfl
  | succ k ih => exact ih

theorem padded_toList (width n : Nat) : (padded width n).toList =
    List.replicate (width - (Nat.toDigits 10 n).length) '0' ++ Nat.toDigits 10 n := by
  have hlen : (toString n).length = (Nat.toDigits 10 n).length := by
    rw [← String.length_toList, Nat.toString_eq_ofList_toDigits, String.toList_ofList]
  unfold padded
  rw [String.toList_append, String.toList_ofList, hlen, Nat.toString_eq_ofList_toDigits,
    String.toList_ofList]

theorem digitsValue_padded (width n : Nat) : digitsValue (padded width n).toList = n := by
  rw [padded_toList, digitsValue_replicate_append, digitsValue_toDigits]

theorem isDigit_of_mem_padded {width n : Nat} {c : Char} (h : c ∈ (padded width n).toList) :
    c.isDigit := by
  rw [padded_toList, List.mem_append] at h
  rcases h with h | h
  · rw [(List.mem_replicate.mp h).2]
    rfl
  · exact Nat.isDigit_of_mem_toDigits (by decide) (by decide) h

theorem length_padded {width n : Nat} (hpos : 0 < width) (h : n < tenTo width) :
    (padded width n).toList.length = width := by
  have hle := (Nat.length_toDigits_le_iff (by decide) hpos).mpr h
  rw [padded_toList, List.length_append, List.length_replicate]
  omega

namespace Instant

theorem scanNumber_padded {k n : Nat} {rest : List Char} (hpos : 0 < k) (h : n < tenTo k) :
    scanNumber k (some k) ((padded k n).toList ++ rest) = .ok (n, rest) := by
  have hlen := length_padded hpos h
  have htake : (((padded k n).toList ++ rest).takeWhile Char.isDigit).take k =
      (padded k n).toList := by
    rw [List.takeWhile_append_of_pos fun c => isDigit_of_mem_padded, List.take_append_of_le_length
      (Nat.le_of_eq hlen.symm), List.take_of_length_le (Nat.le_of_eq hlen)]
  unfold scanNumber
  simp only [htake, hlen, Nat.le_refl, if_true, digitsValue_padded]
  rw [List.drop_append_of_le_length (Nat.le_of_eq hlen.symm), List.drop_of_length_le
    (Nat.le_of_eq hlen), List.nil_append]

theorem scanPart_padded {k n low high : Nat} {rest : List Char} (hpos : 0 < k) (h : n < tenTo k)
    (hrange : low ≤ n ∧ n ≤ high) :
    scanPart k k low high ((padded k n).toList ++ rest) = .ok (n, rest) :=
  bind_eq_ok.mpr ⟨_, scanNumber_padded hpos h, if_pos hrange⟩

theorem scanLetter_cons {admits : Char → Bool} {c : Char} {rest : List Char} (h : admits c) :
    scanLetter admits (c :: rest) = .ok ((), rest) := if_pos h

/-- Digits to the end of the fraction, read in nanoseconds. -/
theorem scanFraction_padded {k n : Nat} {rest : List Char} (hpos : 0 < k) (hk : k ≤ 9)
    (h : n < tenTo k) (hrest : ∀ c ∈ rest.head?, ¬c.isDigit) :
    scanFraction ('.' :: ((padded k n).toList ++ rest)) = .ok (n * tenTo (9 - k), rest) := by
  have hlen := length_padded hpos h
  have hnone : rest.takeWhile Char.isDigit = [] := by
    cases rest with
    | nil => rfl
    | cons c rest => exact List.takeWhile_cons_of_neg (hrest c rfl)
  have hwhile : ((padded k n).toList ++ rest).takeWhile Char.isDigit = (padded k n).toList := by
    rw [List.takeWhile_append_of_pos fun c => isDigit_of_mem_padded, hnone, List.append_nil]
  have htake : (padded k n).toList.take 9 = (padded k n).toList :=
    List.take_of_length_le (by omega)
  have hscan : scanNumber 1 none ((padded k n).toList ++ rest) = .ok (n, rest) := by
    unfold scanNumber
    simp only [hwhile, hlen, if_pos (Nat.succ_le_of_lt hpos), digitsValue_padded]
    rw [List.drop_append_of_le_length (Nat.le_of_eq hlen.symm), List.drop_of_length_le
      (Nat.le_of_eq hlen), List.nil_append]
  refine bind_eq_ok.mpr ⟨_, hscan, ?_⟩
  simp only [hwhile, htake, hlen, digitsValue_padded]

theorem scanFraction_fractionText {nano : Nat} {rest : List Char} (h : nano < 1000000000) :
    scanFraction ((fractionText nano).toList ++ '+' :: rest) = .ok (nano, '+' :: rest) := by
  have hplus : ∀ c ∈ ('+' :: rest).head?, ¬c.isDigit := by
    intro c hc
    cases hc
    decide
  have hscan {k n : Nat} (hpos : 0 < k) (hk : k ≤ 9) (hn : n < tenTo k) :
      scanFraction (("." ++ padded k n).toList ++ '+' :: rest) =
        .ok (n * tenTo (9 - k), '+' :: rest) := by
    have hpoint : ".".toList = ['.'] := rfl
    rw [String.toList_append, hpoint, List.append_assoc, List.singleton_append]
    exact scanFraction_padded hpos hk hn hplus
  unfold fractionText
  by_cases hzero : nano = 0
  · rw [if_pos hzero, hzero]
    rfl
  rw [if_neg hzero]
  by_cases hmillis : nano % 1000000 = 0
  · have hsize : tenTo 3 = 1000 := rfl
    rw [if_pos hmillis, hscan (by decide) (by decide) (by omega)]
    have hback : nano / 1000000 * tenTo (9 - 3) = nano := by
      show nano / 1000000 * 1000000 = nano
      omega
    rw [hback]
  rw [if_neg hmillis]
  by_cases hmicros : nano % 1000 = 0
  · have hsize : tenTo 6 = 1000000 := rfl
    rw [if_pos hmicros, hscan (by decide) (by decide) (by omega)]
    have hback : nano / 1000 * tenTo (9 - 6) = nano := by
      show nano / 1000 * 1000 = nano
      omega
    rw [hback]
  · rw [if_neg hmicros, hscan (by decide) (by decide) h]
    exact congrArg (fun n => Except.ok (n, '+' :: rest)) (Nat.mul_one nano)

/-! ## Whole texts -/

/-- An instant that a clock shows: its year has four digits, and it lies within a second of its day.
A leap second is the last one of a minute. -/
structure Ordinary (t : Instant) : Prop where
  year : 0 ≤ (Date.ofDay t.day).year ∧ (Date.ofDay t.day).year ≤ 9999
  second : t.second < 86400
  nano : t.nano < 1000000000 ∨ (t.second % 60 = 59 ∧ t.nano < 2000000000)

variable {t : Instant}

theorem toOffsetText_toList (h : t.Ordinary) : t.toOffsetText.toList =
    (padded 4 (Date.ofDay t.day).year.toNat).toList ++
      '-' :: ((padded 2 (Date.ofDay t.day).month).toList ++
      '-' :: ((padded 2 (Date.ofDay t.day).day).toList ++
      'T' :: ((padded 2 (t.second / 3600)).toList ++
      ':' :: ((padded 2 (t.second / 60 % 60)).toList ++
      ':' :: ((padded 2 (t.second % 60 + t.nano / 1000000000)).toList ++
      ((fractionText (t.nano % 1000000000)).toList ++ ['+', '0', '0', ':', '0', '0'])))))) := by
  have hdash : "-".toList = ['-'] := rfl
  have hbetween : "T".toList = ['T'] := rfl
  have hcolon : ":".toList = [':'] := rfl
  have hoffset : "+00:00".toList = ['+', '0', '0', ':', '0', '0'] := rfl
  unfold toOffsetText localText yearText
  simp only [if_pos h.year, String.toList_append, hdash, hbetween, hcolon, hoffset,
    List.append_assoc, List.cons_append, List.nil_append]

/-- The time of day is that of its hours, minutes and seconds. -/
theorem ofClock_eq (h : t.Ordinary) :
    ofClock (t.second / 3600) (t.second / 60 % 60) (t.second % 60 + t.nano / 1000000000)
      (t.nano % 1000000000) = (t.second, t.nano) := by
  unfold ofClock
  rcases h.nano with hn | ⟨hlast, hn⟩
  · have hleap : t.nano / 1000000000 = 0 := by omega
    rw [hleap, if_neg (by omega)]
    exact Prod.ext (by omega) (by omega)
  · by_cases hleap : t.nano / 1000000000 = 0
    · rw [hleap, if_neg (by omega)]
      exact Prod.ext (by omega) (by omega)
    · have hone : t.nano / 1000000000 = 1 := by omega
      rw [hone, hlast, if_pos rfl]
      exact Prod.ext (by omega) (by omega)

theorem ofLocal_eq (h : t.Ordinary) :
    ofLocal (Date.ofDay t.day) t.second t.nano 0 = .ok t := by
  have hvalid : (Date.ofDay t.day).isValid := by
    obtain ⟨hlow, hhigh⟩ := h.year
    unfold Date.isValid
    rw [Date.toDay_ofDay, Bool.and_eq_true, Bool.and_eq_true, decide_eq_true_eq, decide_eq_true_eq]
    exact ⟨⟨by omega, by omega⟩, beq_self_eq_true _⟩
  have hsecond := h.second
  have hday : (t.second - 0 : Int).fdiv 86400 = 0 := by
    rw [Int.fdiv_eq_ediv_of_nonneg _ (by decide)]
    omega
  unfold ofLocal
  simp only [hvalid, Date.toDay_ofDay, hday]
  simp [hvalid]

/-- The text that rows keep of an instant is read as this instant. -/
theorem Ordinary.ofText_toOffsetText (h : t.Ordinary) : ofText t.toOffsetText = .ok t := by
  obtain ⟨hmonth, hmonth', hday, hday'⟩ := Date.ofDay_ranges t.day
  obtain ⟨hyear, hyear'⟩ := h.year
  have hsecond := h.second
  have htwo : tenTo 2 = 100 := rfl
  have hfour : tenTo 4 = 10000 := rfl
  have hleap : t.second % 60 + t.nano / 1000000000 ≤ 60 := by
    rcases h.nano with hn | ⟨hlast, hn⟩
    · omega
    · omega
  unfold ofText
  rw [toOffsetText_toList h]
  refine bind_eq_ok.mpr ⟨_, scanPart_padded (by decide) (by omega) (by omega), ?_⟩
  refine bind_eq_ok.mpr ⟨_, scanLetter_cons (by decide), ?_⟩
  refine bind_eq_ok.mpr ⟨_, scanPart_padded (by decide) (by omega) (by omega), ?_⟩
  refine bind_eq_ok.mpr ⟨_, scanLetter_cons (by decide), ?_⟩
  refine bind_eq_ok.mpr ⟨_, scanPart_padded (by decide) (by omega) (by omega), ?_⟩
  refine bind_eq_ok.mpr ⟨_, scanLetter_cons (by decide), ?_⟩
  refine bind_eq_ok.mpr ⟨_, scanPart_padded (by decide) (by omega) (by omega), ?_⟩
  refine bind_eq_ok.mpr ⟨_, scanLetter_cons (by decide), ?_⟩
  refine bind_eq_ok.mpr ⟨_, scanPart_padded (by decide) (by omega) (by omega), ?_⟩
  refine bind_eq_ok.mpr ⟨_, scanLetter_cons (by decide), ?_⟩
  refine bind_eq_ok.mpr ⟨_, scanPart_padded (by decide) (by omega) (by omega), ?_⟩
  refine bind_eq_ok.mpr ⟨_, scanFraction_fractionText (Nat.mod_lt _ (by decide)), ?_⟩
  have hoffset : scanOffset (scanLetter (· == ':')) ['+', '0', '0', ':', '0', '0'] =
      .ok (0, []) := rfl
  refine bind_eq_ok.mpr ⟨_, hoffset, ?_⟩
  have hdate : (⟨((Date.ofDay t.day).year.toNat : Int), (Date.ofDay t.day).month,
      (Date.ofDay t.day).day⟩ : Date) = Date.ofDay t.day := by
    rw [Int.toNat_of_nonneg hyear]
  simp only [ofClock_eq h, hdate]
  exact ofLocal_eq h

end Instant
end AgentSpec
