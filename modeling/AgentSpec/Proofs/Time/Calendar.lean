import AgentSpec.Time.Instant

/-!
Days and dates.

Main statement: the number of a date that was made of a day is this day (`Date.toDay_ofDay`).
-/
namespace AgentSpec.Date

/-! ## Years of an era -/

/-- The year of a day that is counted from the start of an era. -/
def yearOfEra (d : Nat) : Nat := (d - d / 1460 + d / 36524 - d / 146096) / 365

/-- The days before a year of an era. -/
def daysBeforeYear (y : Nat) : Nat := 365 * y + y / 4 - y / 100

variable {d : Nat}

/-- A year has 365 days, one more for each cycle of four years and one less for each century. -/
theorem yearOfEra_spec (h : d < 146097) :
    yearOfEra d < 400 ∧ daysBeforeYear (yearOfEra d) ≤ d ∧
      d ≤ daysBeforeYear (yearOfEra d) + 365 := by
  -- the last day of an era is one more day of the last century
  by_cases hlast : d = 146096
  · subst hlast
    decide
  obtain ⟨i, hi⟩ : ∃ i, d / 1460 = i := ⟨_, rfl⟩
  obtain ⟨f, hf⟩ : ∃ f, d / 36524 = f := ⟨_, rfl⟩
  have hg : d / 146096 = 0 := by omega
  obtain ⟨y, hy⟩ : ∃ y, yearOfEra d = y := ⟨_, rfl⟩
  have hyear : 365 * y ≤ d - i + f ∧ d - i + f < 365 * y + 365 := by
    unfold yearOfEra at hy
    rw [hi, hf, hg] at hy
    omega
  have hi' : 1460 * i ≤ d ∧ d < 1460 * i + 1460 := by omega
  have hf' : 36524 * f ≤ d ∧ d < 36524 * f + 36524 := by omega
  have hcycle : y / 4 ≤ i ∧ i ≤ y / 4 + 1 := by omega
  have hcentury : y / 100 = f := by
    have hcases : f = 0 ∨ f = 1 ∨ f = 2 ∨ f = 3 := by omega
    rcases hcases with rfl | rfl | rfl | rfl
    · omega
    · omega
    · omega
    · omega
  rw [hy]
  unfold daysBeforeYear
  rw [hcentury]
  omega

/-! ## Days of a year -/

/-- The month of a day of a year that begins with March. -/
def monthOfYear (d : Nat) : Nat := (5 * d + 2) / 153

theorem monthOfYear_spec (h : d ≤ 365) :
    monthOfYear d ≤ 11 ∧ daysBeforeMonth (monthOfYear d) ≤ d ∧
      d ≤ daysBeforeMonth (monthOfYear d) + 30 := by
  unfold monthOfYear daysBeforeMonth
  omega

/-! ## Dates of days -/

/-- The day in its era. -/
def dayOfEra (n : Int) : Nat := ((n + 719468) - (n + 719468).fdiv daysPerEra * daysPerEra).toNat

theorem dayOfEra_lt (n : Int) : dayOfEra n < 146097 := by
  have hdiv := Int.fdiv_eq_ediv_of_nonneg (n + 719468) (b := daysPerEra) (by decide)
  unfold dayOfEra
  rw [hdiv]
  unfold daysPerEra
  omega

theorem era_add_dayOfEra (n : Int) :
    (n + 719468).fdiv daysPerEra * daysPerEra + dayOfEra n = n + 719468 := by
  have hdiv := Int.fdiv_eq_ediv_of_nonneg (n + 719468) (b := daysPerEra) (by decide)
  unfold dayOfEra
  rw [hdiv]
  unfold daysPerEra
  omega

/-- The year begins with March. -/
theorem ofDay_eq (n : Int) :
    let y := yearOfEra (dayOfEra n)
    let d := dayOfEra n - daysBeforeYear y
    let m := monthOfYear d
    let month := if m < 10 then m + 3 else m - 9
    ofDay n =
      ⟨(n + 719468).fdiv daysPerEra * 400 + y + (if month ≤ 2 then 1 else 0), month,
        d - daysBeforeMonth m + 1⟩ := rfl

theorem ofDay_ranges (n : Int) :
    1 ≤ (ofDay n).month ∧ (ofDay n).month ≤ 12 ∧ 1 ≤ (ofDay n).day ∧ (ofDay n).day ≤ 31 := by
  obtain ⟨-, -, hyear⟩ := yearOfEra_spec (dayOfEra_lt n)
  obtain ⟨hmonth, -, hday⟩ := monthOfYear_spec
    (d := dayOfEra n - daysBeforeYear (yearOfEra (dayOfEra n))) (by omega)
  rw [ofDay_eq]
  simp only
  split
  · omega
  · omega

/-- The number of a date by the month in a year that begins with March. -/
theorem toDay_eq {era : Int} {y m d : Nat} (hy : y < 400) (hm : m ≤ 11) :
    let month := if m < 10 then m + 3 else m - 9
    toDay ⟨era * 400 + y + (if month ≤ 2 then 1 else 0), month, d⟩ =
      era * daysPerEra + daysBeforeYear y + daysBeforeMonth m + d - 1 - 719468 := by
  have hyear : (era * 400 + y).fdiv 400 = era := by
    rw [Int.fdiv_eq_ediv_of_nonneg _ (by decide)]
    omega
  have hrest : era * 400 + (y : Int) - era * 400 = y := by omega
  have hbefore : (y : Int) * 365 + (y : Int).fdiv 4 - (y : Int).fdiv 100 = daysBeforeYear y := by
    rw [Int.fdiv_eq_ediv_of_nonneg _ (by decide), Int.fdiv_eq_ediv_of_nonneg _ (by decide)]
    unfold daysBeforeYear
    omega
  unfold toDay
  by_cases h : m < 10
  · have hmonth : ¬m + 3 ≤ 2 := by omega
    simp only [if_pos h, if_neg hmonth, Int.add_zero, Nat.add_sub_cancel, hyear, hrest]
    omega
  · have hmonth : m - 9 ≤ 2 := by omega
    have hback : m - 9 + 9 = m := by omega
    simp only [if_neg h, if_pos hmonth, Int.add_sub_cancel, hback, hyear, hrest]
    omega

theorem toDay_ofDay (n : Int) : (ofDay n).toDay = n := by
  have hera := era_add_dayOfEra n
  obtain ⟨hlt, hbefore, hyear⟩ := yearOfEra_spec (dayOfEra_lt n)
  obtain ⟨d, hd⟩ : ∃ d, dayOfEra n - daysBeforeYear (yearOfEra (dayOfEra n)) = d := ⟨_, rfl⟩
  obtain ⟨hmonth, hle, -⟩ := monthOfYear_spec (d := d) (by omega)
  rw [ofDay_eq]
  simp only [hd]
  rw [toDay_eq hlt hmonth]
  omega

end AgentSpec.Date
