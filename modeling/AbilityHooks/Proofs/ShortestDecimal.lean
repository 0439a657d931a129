import AbilityHooks.Decimal.Basic
import Mathlib.Algebra.Order.Field.Power
import Mathlib.Tactic.FieldSimp
import Mathlib.Tactic.Linarith
import Mathlib.Tactic.Positivity
import Mathlib.Tactic.Ring

/-!
# The shortest decimal of a double

The digits of a decimal are tried one number after another. With seventeen digits the steps between
decimals are narrower than the interval of the numbers that round to a double, so the search always
succeeds, and what it finds lies in the interval. The interval of a positive double is above zero,
and so is the decimal.
-/

namespace AbilityHooks

/-- The number that a decimal stands for. -/
def Decimal.toRat (d : Decimal) : ℚ := d.digits * (10 : ℚ) ^ d.exponent

/-- A power of two is the quotient of its two parts, which are positive. -/
theorem Double.powerOfTwo_ratio (exponent : Int) :
    0 < (powerOfTwo exponent).1 ∧ 0 < (powerOfTwo exponent).2 := by
  unfold powerOfTwo
  split
  · exact ⟨Nat.pow_pos (by decide), Nat.one_pos⟩
  · exact ⟨Nat.one_pos, Nat.pow_pos (by decide)⟩

/-- Rounding a ratio answers one of its two neighbours. -/
theorem Double.roundToEven_neighbour (num den : Nat) :
    roundToEven num den = num / den ∨ roundToEven num den = num / den + 1 := by
  simp only [roundToEven]
  split
  · exact .inl rfl
  · split
    · exact .inr rfl
    · omega

namespace Decimal

/-- A power of ten is the quotient of its two parts, which are positive. -/
theorem powerOfTen_ratio (exponent : Int) :
    0 < (powerOfTen exponent).1 ∧ 0 < (powerOfTen exponent).2 ∧
      ((powerOfTen exponent).1 : ℚ) / (powerOfTen exponent).2 = (10 : ℚ) ^ exponent := by
  unfold powerOfTen
  split
  · rename_i natural
    refine ⟨Nat.pow_pos (by decide), Nat.one_pos, ?_⟩
    rw [Nat.pow_eq, Nat.cast_one, div_one, Nat.cast_pow, Nat.cast_ofNat, ← zpow_natCast,
      Int.toNat_of_nonneg natural]
  · rename_i negative
    refine ⟨Nat.one_pos, Nat.pow_pos (by decide), ?_⟩
    rw [Nat.pow_eq, Nat.cast_one, one_div, Nat.cast_pow, Nat.cast_ofNat, ← zpow_natCast, ← zpow_neg,
      Int.toNat_of_nonneg (by omega), neg_neg]

/-- Zeros that move into the exponent do not change the number. -/
theorem toRat_stripZeros (d : Decimal) : d.stripZeros.toRat = d.toRat := by
  induction d using stripZeros.induct with
  | case1 d trailing ih =>
    rw [stripZeros, dif_pos trailing, ih]
    have whole : (d.digits : ℚ) = 10 * (d.digits / 10 : Nat) := by
      have := Nat.div_add_mod d.digits 10
      rw [trailing.2, Nat.add_zero] at this
      exact_mod_cast this.symm
    rw [toRat, toRat, zpow_add_one₀ (by norm_num), whole]
    ring
  | case2 d other => rw [stripZeros, dif_neg other]

/-- A positive number lies between the powers of ten that its width tells. -/
theorem pow_width (n : Nat) (positive : 0 < n) : 10 ^ (width n - 1) ≤ n ∧ n < 10 ^ width n := by
  have filled : 0 < width n := Nat.length_toDigits_pos
  constructor
  · by_cases single : width n = 1
    · rw [single]
      exact positive
    · refine Nat.le_of_not_lt fun less => ?_
      have narrow := (Nat.length_toDigits_le_iff (by decide : 1 < 10) (by omega)).mpr less
      change width n ≤ _ at narrow
      omega
  · exact (Nat.length_toDigits_le_iff (by decide : 1 < 10) filled).mp (Nat.le_refl _)

namespace Interval

variable {i : Interval} {d : Decimal}

/-- The size of a quarter unit. -/
def grain (i : Interval) : ℚ := i.unit.1 / i.unit.2

/-- A bound is not above a decimal if this is so of their whole multiples. -/
theorem le_toRat_iff (unit : 0 < i.unit.2) {bound : Nat} : bound * i.grain ≤ d.toRat ↔
    bound * i.unit.1 * (powerOfTen d.exponent).2 ≤
      d.digits * (powerOfTen d.exponent).1 * i.unit.2 := by
  obtain ⟨-, down, ten⟩ := powerOfTen_ratio d.exponent
  have unitRat : (0 : ℚ) < i.unit.2 := by exact_mod_cast unit
  have downRat : (0 : ℚ) < (powerOfTen d.exponent).2 := by exact_mod_cast down
  rw [grain, toRat, ← ten, ← mul_div_assoc, ← mul_div_assoc, div_le_div_iff₀ unitRat downRat]
  norm_cast

/-- A decimal is not above a bound if this is so of their whole multiples. -/
theorem toRat_le_iff (unit : 0 < i.unit.2) {bound : Nat} : d.toRat ≤ bound * i.grain ↔
    d.digits * (powerOfTen d.exponent).1 * i.unit.2 ≤
      bound * i.unit.1 * (powerOfTen d.exponent).2 := by
  obtain ⟨-, down, ten⟩ := powerOfTen_ratio d.exponent
  have unitRat : (0 : ℚ) < i.unit.2 := by exact_mod_cast unit
  have downRat : (0 : ℚ) < (powerOfTen d.exponent).2 := by exact_mod_cast down
  rw [grain, toRat, ← ten, ← mul_div_assoc, ← mul_div_assoc, div_le_div_iff₀ downRat unitRat]
  norm_cast

/-- A decimal lies in an interval if its number lies between the bounds. -/
theorem holds_iff (unit : 0 < i.unit.2) : i.holds d = true ↔
    if i.closed then i.low * i.grain ≤ d.toRat ∧ d.toRat ≤ i.high * i.grain
    else i.low * i.grain < d.toRat ∧ d.toRat < i.high * i.grain := by
  cases closed : i.closed with
  | true =>
    simp only [holds, closed, if_true, Bool.and_eq_true, decide_eq_true_eq, le_toRat_iff unit,
      toRat_le_iff unit]
  | false =>
    simp only [holds, closed, Bool.false_eq_true, if_false, Bool.and_eq_true, decide_eq_true_eq,
      ← not_le, le_toRat_iff unit, toRat_le_iff unit]

/-- Whether a decimal lies in an interval is told by its number. -/
theorem holds_congr (unit : 0 < i.unit.2) {other : Decimal} (same : d.toRat = other.toRat) :
    i.holds d = i.holds other := by
  rw [Bool.eq_iff_iff, holds_iff unit, holds_iff unit, same]

/-- The leading digit of the value stands at a power of ten that is not above the value. -/
theorem pow_leading (value : 0 < i.value) (grain : 0 < i.unit.1) (unit : 0 < i.unit.2) :
    (10 : ℚ) ^ i.leading ≤ i.value * i.grain := by
  have numPositive : 0 < i.value * i.unit.1 := Nat.mul_pos value grain
  have unitRat : (0 : ℚ) < i.unit.2 := by exact_mod_cast unit
  have quotient : i.value * i.grain = (i.value * i.unit.1 : Nat) / i.unit.2 := by
    rw [Interval.grain, Nat.cast_mul, mul_div_assoc]
  simp only [leading]
  generalize numEq : i.value * i.unit.1 = num at *
  split
  · obtain ⟨low, -⟩ := pow_width num numPositive
    obtain ⟨-, high⟩ := pow_width i.unit.2 unit
    have filled : 0 < width num := Nat.length_toDigits_pos
    have split : (width num : Int) - width i.unit.2 - 1 =
        (width num - 1 : Nat) - width i.unit.2 := by omega
    have lowRat : (10 : ℚ) ^ (width num - 1) ≤ num := by exact_mod_cast low
    have highRat : (i.unit.2 : ℚ) ≤ 10 ^ width i.unit.2 := by exact_mod_cast high.le
    rw [quotient, split, zpow_sub₀ (by norm_num), zpow_natCast, zpow_natCast]
    exact div_le_div₀ (by positivity) lowRat unitRat highRat
  · rename_i above
    obtain ⟨-, down, ten⟩ := powerOfTen_ratio ((width num : Int) - width i.unit.2)
    have downRat : (0 : ℚ) < (powerOfTen ((width num : Int) - width i.unit.2)).2 := by
      exact_mod_cast down
    rw [quotient, ← ten, div_le_div_iff₀ downRat unitRat]
    have enough := Nat.le_of_not_lt above
    rw [Nat.mul_comm i.unit.2] at enough
    exact_mod_cast enough

/-- The power of ten at which the last of some digits of the value stands. -/
def lastPlace (i : Interval) (count : Nat) : Int := i.leading - count + 1

/-- The digits of the value down to a place. -/
def digitsBelow (i : Interval) (count : Nat) : Nat :=
  i.value * i.unit.1 * (powerOfTen (i.lastPlace count)).2 /
    (i.unit.2 * (powerOfTen (i.lastPlace count)).1)

/-- The value lies between its digits down to a place and the decimal one step above. -/
theorem digitsBelow_brackets (unit : 0 < i.unit.2) (count : Nat) :
    toRat ⟨i.digitsBelow count, i.lastPlace count⟩ ≤ i.value * i.grain ∧
      i.value * i.grain < toRat ⟨i.digitsBelow count + 1, i.lastPlace count⟩ := by
  obtain ⟨up, -, -⟩ := powerOfTen_ratio (i.lastPlace count)
  have step : 0 < i.unit.2 * (powerOfTen (i.lastPlace count)).1 := Nat.mul_pos unit up
  rw [← not_le, toRat_le_iff unit, toRat_le_iff unit, not_le]
  constructor
  · calc
      i.digitsBelow count * (powerOfTen (i.lastPlace count)).1 * i.unit.2
          = i.digitsBelow count * (i.unit.2 * (powerOfTen (i.lastPlace count)).1) := by ring
      _ ≤ i.value * i.unit.1 * (powerOfTen (i.lastPlace count)).2 := Nat.div_mul_le_self _ _
  · calc
      i.value * i.unit.1 * (powerOfTen (i.lastPlace count)).2
          < i.unit.2 * (powerOfTen (i.lastPlace count)).1 * (i.digitsBelow count + 1) :=
        Nat.lt_mul_div_succ _ step
      _ = (i.digitsBelow count + 1) * (powerOfTen (i.lastPlace count)).1 * i.unit.2 := by ring

/-- The digits of the value rounded to a place. -/
def digitsNear (i : Interval) (count : Nat) : Nat :=
  Double.roundToEven (i.value * i.unit.1 * (powerOfTen (i.lastPlace count)).2)
    (i.unit.2 * (powerOfTen (i.lastPlace count)).1)

/-- The decimal of a number of digits is a neighbour of the value that lies in the interval. -/
theorem closest?_eq (i : Interval) (count : Nat) : i.closest? count =
    match i.holds ⟨i.digitsBelow count, i.lastPlace count⟩,
      i.holds ⟨i.digitsBelow count + 1, i.lastPlace count⟩ with
    | true, true => some ⟨i.digitsNear count, i.lastPlace count⟩
    | true, false => some ⟨i.digitsBelow count, i.lastPlace count⟩
    | false, true => some ⟨i.digitsBelow count + 1, i.lastPlace count⟩
    | false, false => none := by
  unfold closest?
  rfl

/-- The decimal of a number of digits lies in the interval. -/
theorem holds_of_closest? {count : Nat} (found : i.closest? count = some d) :
    i.holds d = true := by
  have near : i.digitsNear count = i.digitsBelow count ∨
      i.digitsNear count = i.digitsBelow count + 1 := Double.roundToEven_neighbour _ _
  rw [closest?_eq] at found
  split at found
  · rename_i below above
    obtain rfl := Option.some.inj found
    rcases near with same | same
    · rw [same]
      exact below
    · rw [same]
      exact above
  · rename_i below _
    exact Option.some.inj found ▸ below
  · rename_i _ above
    exact Option.some.inj found ▸ above
  · cases found

/-- Where a number of digits gives no decimal, neither neighbour of the value lies in the
interval. -/
theorem neighbours_of_closest?_none {count : Nat} (missed : i.closest? count = none) :
    i.holds ⟨i.digitsBelow count, i.lastPlace count⟩ = false ∧
      i.holds ⟨i.digitsBelow count + 1, i.lastPlace count⟩ = false := by
  rw [closest?_eq] at missed
  split at missed
  · cases missed
  · cases missed
  · cases missed
  · rename_i below above
    exact ⟨below, above⟩

/-- An interval that is wider than the steps between decimals holds a neighbour of its value. -/
theorem closest?_isSome {count : Nat} (unit : 0 < i.unit.2) (grain : 0 < i.grain)
    (lowBelow : i.low < i.value) (highAbove : i.value < i.high)
    (wide : (10 : ℚ) ^ i.lastPlace count < ((i.high : ℚ) - i.low) * i.grain) :
    (i.closest? count).isSome = true := by
  rw [Option.isSome_iff_ne_none]
  intro missed
  obtain ⟨below, above⟩ := neighbours_of_closest?_none missed
  obtain ⟨notAbove, notBelow⟩ := digitsBelow_brackets unit count
  have lowValue : (i.low : ℚ) * i.grain < i.value * i.grain := by
    exact mul_lt_mul_of_pos_right (by exact_mod_cast lowBelow) grain
  have highValue : (i.value : ℚ) * i.grain < i.high * i.grain := by
    exact mul_lt_mul_of_pos_right (by exact_mod_cast highAbove) grain
  have step : toRat ⟨i.digitsBelow count + 1, i.lastPlace count⟩ =
      toRat ⟨i.digitsBelow count, i.lastPlace count⟩ + (10 : ℚ) ^ i.lastPlace count := by
    simp only [toRat]
    push_cast
    ring
  rw [← Bool.not_eq_true, holds_iff unit] at below above
  have tooLow : toRat ⟨i.digitsBelow count, i.lastPlace count⟩ ≤ i.low * i.grain := by
    by_contra inside
    refine below ?_
    split
    · exact ⟨(not_le.mp inside).le, (notAbove.trans_lt highValue).le⟩
    · exact ⟨not_le.mp inside, notAbove.trans_lt highValue⟩
  have tooHigh : i.high * i.grain ≤ toRat ⟨i.digitsBelow count + 1, i.lastPlace count⟩ := by
    by_contra inside
    refine above ?_
    split
    · exact ⟨(lowValue.trans notBelow).le, (not_le.mp inside).le⟩
    · exact ⟨lowValue.trans notBelow, not_le.mp inside⟩
  rw [step] at tooHigh
  have narrow : ((i.high : ℚ) - i.low) * i.grain ≤ 10 ^ i.lastPlace count := by
    rw [sub_mul]
    linarith
  exact absurd wide (not_lt.mpr narrow)

end Interval

end Decimal

/-- The significand of a positive double has at most 53 bits, and it is the least one of them where
the gap below is narrow. -/
structure Double.Sized (x : Double) : Prop where
  positive : 0 < x.significand
  bounded : x.significand < 2 ^ 53
  least : x.narrowBelow = true → x.significand = unitSignificand

namespace Decimal

variable {x : Double}

/-- The quarter unit of a double is positive. -/
theorem Interval.grain_around (x : Double) :
    0 < (around x).unit.1 ∧ 0 < (around x).unit.2 ∧ 0 < (around x).grain := by
  obtain ⟨up, unit⟩ := Double.powerOfTwo_ratio (x.exponent - 2)
  exact ⟨up, unit, div_pos (by exact_mod_cast up) (by exact_mod_cast unit)⟩

/-- The value of a positive double is less than ten to the power 16 times the width of its
interval. -/
theorem Interval.value_lt_widths (sized : x.Sized) : ((around x).value : ℚ) <
    ((around x).high - (around x).low) * 10 ^ 16 := by
  obtain ⟨positive, bounded, least⟩ := sized
  have whole : (around x).value + (around x).low * 10 ^ 16 < (around x).high * 10 ^ 16 := by
    simp only [around]
    split
    · rename_i narrow
      have unitSized := least narrow
      rw [Double.unitSignificand] at unitSized
      omega
    · omega
  have wholeRat : ((around x).value : ℚ) + (around x).low * 10 ^ 16 <
      (around x).high * 10 ^ 16 := by exact_mod_cast whole
  rw [sub_mul]
  linarith

/-- Seventeen digits are enough for every positive double. -/
theorem closest?_seventeen (sized : x.Sized) : ((Interval.around x).closest? 17).isSome = true := by
  obtain ⟨up, unit, grain⟩ := Interval.grain_around x
  have narrow := Interval.value_lt_widths sized
  have value : 0 < (Interval.around x).value := Nat.mul_pos (by decide) sized.positive
  have lowBelow : (Interval.around x).low < (Interval.around x).value := by
    simp only [Interval.around] at value ⊢
    split <;> omega
  have highAbove : (Interval.around x).value < (Interval.around x).high := by
    simp [Interval.around]
  generalize Interval.around x = i at *
  have place : (10 : ℚ) ^ i.lastPlace 17 * 10 ^ 16 = 10 ^ i.leading := by
    rw [← zpow_natCast, ← zpow_add₀ (by norm_num), Interval.lastPlace]
    congr 1
    push_cast
    ring
  have scaled : (10 : ℚ) ^ i.lastPlace 17 * 10 ^ 16 < (i.high - i.low) * i.grain * 10 ^ 16 := by
    calc
      (10 : ℚ) ^ i.lastPlace 17 * 10 ^ 16 = 10 ^ i.leading := place
      _ ≤ i.value * i.grain := Interval.pow_leading value up unit
      _ < (i.high - i.low) * 10 ^ 16 * i.grain := mul_lt_mul_of_pos_right narrow grain
      _ = (i.high - i.low) * i.grain * 10 ^ 16 := by ring
  have wide := lt_of_mul_lt_mul_right scaled (by positivity)
  exact Interval.closest?_isSome unit grain lowBelow highAbove wide

/-- The shortest decimal of a positive double lies in its interval. -/
theorem holds_shortest {value : Float} (sized : (Double.decode value).Sized) :
    (Interval.around (Double.decode value)).holds (shortest value) = true := by
  obtain ⟨-, unit, -⟩ := Interval.grain_around (Double.decode value)
  obtain ⟨d, found⟩ : ∃ d, (List.range' 1 17).findSome?
      (Interval.around (Double.decode value)).closest? = some d := by
    rw [← Option.isSome_iff_exists, List.findSome?_isSome_iff]
    exact ⟨17, by decide, closest?_seventeen sized⟩
  obtain ⟨count, -, closest⟩ := List.exists_of_findSome?_eq_some found
  have stripped : shortest value = d.stripZeros := by
    rw [shortest, found, Option.getD_some]
  rw [stripped, Interval.holds_congr unit d.toRat_stripZeros]
  exact Interval.holds_of_closest? closest

/-- The shortest decimal of a positive double is positive. -/
theorem shortest_pos {value : Float} (sized : (Double.decode value).Sized) :
    0 < (shortest value).digits := by
  obtain ⟨-, unit, grain⟩ := Interval.grain_around (Double.decode value)
  have lowPositive : 0 < (Interval.around (Double.decode value)).low := by
    have := sized.positive
    simp only [Interval.around]
    split <;> omega
  have above : 0 < (Interval.around (Double.decode value)).low *
      (Interval.around (Double.decode value)).grain :=
    mul_pos (by exact_mod_cast lowPositive) grain
  have inside := (Interval.holds_iff unit).mp (holds_shortest sized)
  have positive : 0 < (shortest value).toRat := by
    split at inside
    · exact above.trans_le inside.1
    · exact above.trans inside.1
  refine Nat.pos_of_ne_zero fun zero => ?_
  rw [toRat, zero, Nat.cast_zero, zero_mul] at positive
  exact lt_irrefl 0 positive

end Decimal

end AbilityHooks
