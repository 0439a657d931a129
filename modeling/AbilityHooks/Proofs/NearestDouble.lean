import AbilityHooks.Proofs.DoubleBits
import Mathlib.Algebra.Order.Ring.Abs
import Mathlib.Data.Nat.Cast.Order.Field
import Mathlib.Order.Monotone.Basic
import Mathlib.Tactic.NormNum

/-!
# The double nearest to a decimal

The doubles without a sign stand on a grid, and their bits count its points: one more is the next
point. Rounding a ratio first picks the step of the grid around it, and then the nearer of the two
points at the ends of this step; so no point of the grid is nearer. The bits of infinity stand where
the next double would be, and a decimal whose leading digit is far away needs no ratio.
-/

namespace AbilityHooks

namespace Double

/-- The number that a double stands for, its sign left out. The infinity stands for the number that
the next double would have. -/
def magnitude (x : Float) : ℚ := (decode x).significand * (2 : ℚ) ^ (decode x).exponent

/-- Whether a double is the one to which a number is rounded: no other double is nearer, and where
another one is as near, the significand is even. -/
structure IsNearest (number : ℚ) (x : Float) : Prop where
  unsigned : IsUnsigned x
  nearest : ∀ other, IsUnsigned other → |magnitude x - number| ≤ |magnitude other - number|
  even : ∀ other, IsUnsigned other → |magnitude x - number| = |magnitude other - number| →
    other = x ∨ (decode x).significand % 2 = 0

/-! ## The grid -/

/-- How often the steps of the grid have been doubled where bits count. -/
def doublings (bits : Nat) : Nat := bits / unitSignificand - 1

/-- The width of the steps of the grid after some doublings. -/
def step (doublings : Nat) : ℚ := (2 : ℚ) ^ ((doublings : Int) + leastExponent)

/-- The point of the grid that bits count. -/
def point (bits : Nat) : ℚ :=
  (bits - doublings bits * unitSignificand : Nat) * step (doublings bits)

/-- Steps are wider than nothing. -/
theorem step_pos (doublings : Nat) : 0 < step doublings := zpow_pos (by norm_num) _

/-- After one more doubling a step is twice as wide. -/
theorem step_succ (doublings : Nat) : step (doublings + 1) = 2 * step doublings := by
  rw [step, step, Nat.cast_add_one, add_right_comm, zpow_add_one₀ (by norm_num), mul_comm]

/-- A significand and its doublings count a point of the grid. -/
theorem point_eq {significand count : Nat} (bounded : significand ≤ 2 * unitSignificand)
    (normal : count = 0 ∨ unitSignificand ≤ significand) :
    point (significand + count * unitSignificand) = significand * step count := by
  rcases Nat.lt_or_eq_of_le bounded with below | full
  · have same : doublings (significand + count * unitSignificand) = count := by
      have unit : 0 < unitSignificand := by decide
      rw [doublings, Nat.add_mul_div_right _ _ unit]
      rw [Nat.mul_comm] at below
      have least := Nat.div_lt_of_lt_mul below
      rcases normal with rfl | above
      · omega
      · have field : 1 ≤ significand / unitSignificand := Nat.div_pos above unit
        omega
    rw [point, same, Nat.add_sub_cancel]
  · -- The significand that is too large by one is the least one with one more doubling.
    have same : doublings (significand + count * unitSignificand) = count + 1 := by
      rw [doublings, full, ← Nat.add_mul, Nat.mul_div_cancel _ (by decide)]
      omega
    have rest : significand + count * unitSignificand - (count + 1) * unitSignificand =
        unitSignificand := by
      rw [full, Nat.add_mul count, Nat.one_mul]
      omega
    rw [point, same, rest, step_succ, full]
    push_cast
    ring

/-- Bits count a significand and its doublings. -/
theorem exists_significand (bits : Nat) : ∃ significand count,
    bits = significand + count * unitSignificand ∧ significand < 2 * unitSignificand ∧
      (count = 0 ∨ unitSignificand ≤ significand) := by
  refine ⟨bits - doublings bits * unitSignificand, doublings bits, ?_⟩
  have whole := Nat.div_add_mod bits unitSignificand
  have rest := Nat.mod_lt bits (by decide : 0 < unitSignificand)
  simp only [doublings, Nat.sub_mul, Nat.one_mul]
  rw [Nat.mul_comm] at whole
  rcases Nat.eq_zero_or_pos (bits / unitSignificand) with zero | field
  · rw [zero] at whole ⊢
    omega
  · have least := Nat.mul_le_mul_right unitSignificand field
    omega

/-- Each point of the grid is one step above the one before it. -/
theorem point_succ {significand count : Nat} (bounded : significand < 2 * unitSignificand)
    (normal : count = 0 ∨ unitSignificand ≤ significand) :
    point (significand + count * unitSignificand + 1) =
      point (significand + count * unitSignificand) + step count := by
  have next : count = 0 ∨ unitSignificand ≤ significand + 1 := normal.imp_right Nat.le_succ_of_le
  rw [Nat.add_right_comm, point_eq (Nat.succ_le_of_lt bounded) next,
    point_eq (Nat.le_of_lt bounded) normal]
  push_cast
  ring

/-- Larger bits count larger points. -/
theorem point_strictMono : StrictMono point := by
  refine strictMono_nat_of_lt_succ fun bits => ?_
  obtain ⟨significand, count, rfl, bounded, normal⟩ := exists_significand bits
  rw [point_succ bounded normal]
  exact lt_add_of_pos_right _ (step_pos count)

/-! ## The nearest point -/

/-- Whether bits count the point of the grid to which a number is rounded. -/
def NearestBits (number : ℚ) (bits : Nat) : Prop :=
  bits ≤ infinityBits ∧ ∀ other ≤ infinityBits,
    |point bits - number| ≤ |point other - number| ∧
      (|point bits - number| = |point other - number| → other = bits ∨ bits % 2 = 0)

variable {number : ℚ} {bits other : Nat}

/-- The distance to a point that is not above. -/
theorem distance_below (below : point bits ≤ number) :
    |point bits - number| = number - point bits := by
  rw [abs_sub_comm, abs_of_nonneg (sub_nonneg.mpr below)]

/-- The distance to a point that is not below. -/
theorem distance_above (above : number ≤ point bits) :
    |point bits - number| = point bits - number :=
  abs_of_nonneg (sub_nonneg.mpr above)

/-- From a number on, the points below are the farther the smaller they are. -/
theorem distance_of_lt (below : point bits ≤ number) (smaller : other < bits) :
    |point bits - number| < |point other - number| := by
  have less := point_strictMono smaller
  rw [distance_below below, distance_below (less.le.trans below)]
  linarith

/-- From a number on, the points above are the farther the larger they are. -/
theorem distance_of_gt (above : number ≤ point bits) (larger : bits < other) :
    |point bits - number| < |point other - number| := by
  have more := point_strictMono larger
  rw [distance_above above, distance_above (above.trans more.le)]
  linarith

/-- No bits count a nearest point beyond another one. -/
theorem NearestBits.not_lt (near : NearestBits number bits) (near' : NearestBits number other) :
    ¬bits < other := by
  intro less
  have same := le_antisymm (near.2 _ near'.1).1 (near'.2 _ near.1).1
  have apart := point_strictMono less
  -- The number lies in the middle between the two points.
  have middle : number - point bits = point other - number := by
    rcases le_total number (point bits) with below | above
    · rw [distance_above below, distance_above (below.trans apart.le)] at same
      linarith
    rcases le_total number (point other) with inside | beyond
    · rwa [distance_below above, distance_above inside] at same
    · rw [distance_below above, distance_below beyond] at same
      linarith
  rcases Nat.lt_or_eq_of_le less with between | next
  · -- A point between the two is nearer.
    have left := point_strictMono (Nat.lt_succ_self bits)
    have right := point_strictMono between
    have farther := (near.2 _ (between.le.trans near'.1)).1
    rw [distance_below (by linarith), le_abs] at farther
    rcases farther with right | left <;> linarith
  · -- Of two neighbours only one is even.
    have even := ((near.2 _ near'.1).2 same).resolve_left less.ne'
    have even' := ((near'.2 _ near.1).2 same.symm).resolve_left less.ne
    omega

/-- The nearest point is counted by one number of bits. -/
theorem NearestBits.unique (near : NearestBits number bits) (near' : NearestBits number other) :
    bits = other :=
  Nat.le_antisymm (Nat.not_lt.mp (near'.not_lt near)) (Nat.not_lt.mp (near.not_lt near'))

/-- A number beyond the grid is nearest to its end. -/
theorem nearest_end (beyond : point infinityBits ≤ number) : NearestBits number infinityBits := by
  refine ⟨Nat.le_refl _, fun other inside => ?_⟩
  rcases Nat.lt_or_eq_of_le inside with smaller | same
  · have farther := distance_of_lt beyond smaller
    exact ⟨farther.le, fun tie => absurd tie farther.ne⟩
  · exact ⟨by rw [same], fun _ => .inl same⟩

/-- A number in the lower half of a step is nearest to its lower end. -/
theorem nearest_lower (inside : bits ≤ infinityBits) (below : point bits ≤ number)
    (above : number ≤ point (bits + 1)) (half : number - point bits ≤ point (bits + 1) - number)
    (tie : number - point bits = point (bits + 1) - number → bits % 2 = 0) :
    NearestBits number bits := by
  refine ⟨inside, fun other _ => ?_⟩
  have near := distance_below below
  have far := distance_above above
  rcases Nat.lt_trichotomy other bits with smaller | same | larger
  · have farther := distance_of_lt below smaller
    exact ⟨farther.le, fun tie => absurd tie farther.ne⟩
  · exact ⟨by rw [same], fun _ => .inl same⟩
  · rcases Nat.lt_or_eq_of_le (Nat.succ_le_of_lt larger) with beyond | next
    · have farther := distance_of_gt above beyond
      have less : |point bits - number| < |point other - number| := by linarith
      exact ⟨less.le, fun tie => absurd tie less.ne⟩
    · subst next
      refine ⟨by linarith, fun same => .inr (tie ?_)⟩
      rw [← near, same, far]

/-- A number in the upper half of a step is nearest to its upper end. -/
theorem nearest_upper (inside : bits + 1 ≤ infinityBits) (below : point bits ≤ number)
    (above : number ≤ point (bits + 1)) (half : point (bits + 1) - number ≤ number - point bits)
    (tie : point (bits + 1) - number = number - point bits → (bits + 1) % 2 = 0) :
    NearestBits number (bits + 1) := by
  refine ⟨inside, fun other _ => ?_⟩
  have near := distance_above above
  have far := distance_below below
  rcases Nat.lt_trichotomy other (bits + 1) with smaller | same | larger
  · rcases Nat.lt_or_eq_of_le (Nat.le_of_lt_succ smaller) with beyond | next
    · have farther := distance_of_lt below beyond
      have less : |point (bits + 1) - number| < |point other - number| := by linarith
      exact ⟨less.le, fun tie => absurd tie less.ne⟩
    · subst next
      refine ⟨by linarith, fun same => .inr (tie ?_)⟩
      rw [← near, same, far]
  · exact ⟨by rw [same], fun _ => .inl same⟩
  · have farther := distance_of_gt above larger
    exact ⟨farther.le, fun tie => absurd tie farther.ne⟩

/-- A number that is not above half of the first step is nearest to zero. -/
theorem nearest_zero (unsigned : 0 ≤ number) (small : 2 * number ≤ step 0) :
    NearestBits number 0 := by
  have zero : point 0 = 0 := by simp [point]
  have one : point 1 = step 0 := by simp [point, doublings, unitSignificand]
  refine nearest_lower (Nat.zero_le _) (zero ▸ unsigned) ?_ ?_ fun _ => rfl
  · rw [one]
    linarith
  · rw [zero, one]
    linarith

/-- The end of the grid. -/
theorem point_infinityBits : point infinityBits = (2 : ℚ) ^ 1024 := by
  have split : infinityBits = unitSignificand + 2046 * unitSignificand := by decide
  have unit : (unitSignificand : ℚ) = 2 ^ (52 : Int) := by norm_num [unitSignificand]
  rw [split, point_eq (by decide) (.inr (Nat.le_refl _)), step, leastExponent, unit,
    ← zpow_add₀ (by norm_num), ← zpow_natCast]
  rfl

/-! ## Rounding a ratio -/

/-- A power of two is the quotient of its two parts. -/
theorem powerOfTwo_eq (exponent : Int) :
    ((powerOfTwo exponent).1 : ℚ) / (powerOfTwo exponent).2 = (2 : ℚ) ^ exponent := by
  unfold powerOfTwo
  split
  case isTrue natural =>
    rw [Nat.pow_eq, Nat.cast_one, div_one, Nat.cast_pow, Nat.cast_ofNat, ← zpow_natCast,
      Int.toNat_of_nonneg natural]
  case isFalse negative =>
    rw [Nat.pow_eq, Nat.cast_one, one_div, Nat.cast_pow, Nat.cast_ofNat, ← zpow_natCast, ← zpow_neg,
      Int.toNat_of_nonneg (by omega), neg_neg]

/-- The ratio that is left when a ratio is divided by a power of two. -/
theorem scaled_eq (num den : Nat) (exponent : Int) :
    ((num * (powerOfTwo exponent).2 : Nat) : ℚ) / (den * (powerOfTwo exponent).1 : Nat) =
      num / den / (2 : ℚ) ^ exponent := by
  obtain ⟨up, down⟩ := powerOfTwo_ratio exponent
  have upRat : ((powerOfTwo exponent).1 : ℚ) ≠ 0 := by exact_mod_cast up.ne'
  have downRat : ((powerOfTwo exponent).2 : ℚ) ≠ 0 := by exact_mod_cast down.ne'
  rw [← powerOfTwo_eq]
  push_cast
  by_cases zero : (den : ℚ) = 0
  · simp [zero]
  · field_simp

/-- The exponent that would be right for a significand of 53 bits, or one more. -/
def guessFor (num den : Nat) : Int := (num.log2 : Int) - den.log2 - 52

/-- The exponent that gives a ratio a significand of 53 bits. -/
def normalExponent (num den : Nat) : Int :=
  if num * (powerOfTwo (guessFor num den)).2 <
      unitSignificand * (den * (powerOfTwo (guessFor num den)).1) then guessFor num den - 1
  else guessFor num den

/-- The exponent for a ratio is the one for 53 bits, as long as this is not too small. -/
theorem exponentFor_eq (num den : Nat) :
    exponentFor num den = max (normalExponent num den) leastExponent := rfl

/-- The guess is off by one at most. -/
theorem guessFor_fits {num den : Nat} (positive : 0 < num) (denominator : 0 < den) :
    (2 : ℚ) ^ 51 < (num : ℚ) / den / (2 : ℚ) ^ guessFor num den ∧
      (num : ℚ) / den / (2 : ℚ) ^ guessFor num den < (2 : ℚ) ^ 53 := by
  have numLow : (2 : ℚ) ^ num.log2 ≤ num := by exact_mod_cast Nat.log2_self_le positive.ne'
  have numHigh : (num : ℚ) < 2 ^ (num.log2 + 1) := by exact_mod_cast Nat.lt_log2_self
  have denLow : (2 : ℚ) ^ den.log2 ≤ den := by exact_mod_cast Nat.log2_self_le denominator.ne'
  have denHigh : (den : ℚ) < 2 ^ (den.log2 + 1) := by exact_mod_cast Nat.lt_log2_self
  have scale : (2 : ℚ) ^ guessFor num den = 2 ^ num.log2 / 2 ^ den.log2 / 2 ^ 52 := by
    rw [guessFor, zpow_sub₀ (by norm_num), zpow_sub₀ (by norm_num), zpow_natCast, zpow_natCast]
    rfl
  have denRat : (0 : ℚ) < den := by exact_mod_cast denominator
  rw [scale]
  constructor
  · rw [lt_div_iff₀ (by positivity), lt_div_iff₀ denRat]
    calc
      (2 : ℚ) ^ 51 * (2 ^ num.log2 / 2 ^ den.log2 / 2 ^ 52) * den
          < 2 ^ 51 * (2 ^ num.log2 / 2 ^ den.log2 / 2 ^ 52) * 2 ^ (den.log2 + 1) :=
        mul_lt_mul_of_pos_left denHigh (by positivity)
      _ = 2 ^ num.log2 := by
        rw [pow_succ]
        field_simp
        ring
      _ ≤ num := numLow
  · rw [div_lt_iff₀ (by positivity), div_lt_iff₀ denRat]
    calc
      (num : ℚ) < 2 ^ (num.log2 + 1) := numHigh
      _ = 2 ^ 53 * (2 ^ num.log2 / 2 ^ den.log2 / 2 ^ 52) * 2 ^ den.log2 := by
        rw [pow_succ]
        field_simp
      _ ≤ 2 ^ 53 * (2 ^ num.log2 / 2 ^ den.log2 / 2 ^ 52) * den :=
        mul_le_mul_of_nonneg_left denLow (by positivity)

/-- With the normal exponent a ratio has a significand of 53 bits. -/
theorem normalExponent_fits {num den : Nat} (positive : 0 < num) (denominator : 0 < den) :
    (unitSignificand : ℚ) ≤ (num : ℚ) / den / (2 : ℚ) ^ normalExponent num den ∧
      (num : ℚ) / den / (2 : ℚ) ^ normalExponent num den < (2 * unitSignificand : Nat) := by
  obtain ⟨low, high⟩ := guessFor_fits positive denominator
  have unit : (unitSignificand : ℚ) = 2 ^ 52 := by norm_num [unitSignificand]
  have test : num * (powerOfTwo (guessFor num den)).2 <
      unitSignificand * (den * (powerOfTwo (guessFor num den)).1) ↔
        (num : ℚ) / den / (2 : ℚ) ^ guessFor num den < unitSignificand := by
    obtain ⟨up, -⟩ := powerOfTwo_ratio (guessFor num den)
    have scaled : (0 : ℚ) < (den * (powerOfTwo (guessFor num den)).1 : Nat) := by
      exact_mod_cast Nat.mul_pos denominator up
    rw [← scaled_eq, div_lt_iff₀ scaled]
    norm_cast
  unfold normalExponent
  push_cast
  split
  case isTrue small =>
    have twice : (num : ℚ) / den / (2 : ℚ) ^ (guessFor num den - 1) =
        2 * ((num : ℚ) / den / (2 : ℚ) ^ guessFor num den) := by
      rw [zpow_sub_one₀ (by norm_num), ← div_eq_mul_inv, div_div_eq_mul_div, mul_comm,
        mul_div_assoc]
    rw [test, unit] at small
    rw [twice, unit]
    constructor <;> linarith
  case isFalse large =>
    rw [test, not_lt] at large
    refine ⟨large, ?_⟩
    rw [unit]
    linarith

/-- The exponent for a ratio leaves a significand of at most 53 bits, and of exactly so many unless
it is the least exponent. -/
theorem exponentFor_fits {num den : Nat} (positive : 0 < num) (denominator : 0 < den) :
    let exponent := exponentFor num den
    leastExponent ≤ exponent ∧
      (num : ℚ) / den / (2 : ℚ) ^ exponent < (2 * unitSignificand : Nat) ∧
      (exponent = leastExponent ∨
        (unitSignificand : ℚ) ≤ (num : ℚ) / den / (2 : ℚ) ^ exponent) := by
  intro exponent
  obtain ⟨low, high⟩ := normalExponent_fits positive denominator
  have ratio : (0 : ℚ) ≤ (num : ℚ) / den := by positivity
  rcases le_total leastExponent (normalExponent num den) with normal | least
  · have same : exponent = normalExponent num den :=
      (exponentFor_eq num den).trans (max_eq_left normal)
    rw [same]
    exact ⟨normal, high, .inr low⟩
  · have same : exponent = leastExponent :=
      (exponentFor_eq num den).trans (max_eq_right least)
    rw [same]
    refine ⟨le_refl _, lt_of_le_of_lt ?_ high, .inl rfl⟩
    exact div_le_div_of_nonneg_left ratio (by positivity) (zpow_le_zpow_right₀ (by norm_num) least)

/-- The nearer end of a step is the one to which a ratio is rounded. -/
theorem roundToEven_nearest {num den low : Nat} (denominator : 0 < den) {width : ℚ}
    (positive : 0 < width) (inside : low + num / den + 1 ≤ infinityBits) (even : low % 2 = 0)
    (start : point (low + num / den) = (num / den : Nat) * width)
    (stop : point (low + num / den + 1) = (num / den + 1 : Nat) * width) :
    NearestBits ((num : ℚ) / den * width) (low + roundToEven num den) := by
  have denRat : (0 : ℚ) < den := by exact_mod_cast denominator
  have split : (num : ℚ) / den = (num / den : Nat) + (num % den : Nat) / den := by
    have whole : (num : ℚ) = den * (num / den : Nat) + (num % den : Nat) := by
      exact_mod_cast (Nat.div_add_mod num den).symm
    rw [div_eq_iff denRat.ne', add_mul, div_mul_cancel₀ _ denRat.ne', mul_comm]
    exact whole
  have below : (num : ℚ) / den * width - point (low + num / den) =
      (num % den : Nat) * (width / den) := by
    rw [start, split]
    ring
  have above : point (low + num / den + 1) - (num : ℚ) / den * width =
      (den - (num % den : Nat)) * (width / den) := by
    rw [stop, split]
    push_cast
    field_simp
    ring
  have grain : 0 < width / den := div_pos positive denRat
  have rest : ((num % den : Nat) : ℚ) ≤ den := by exact_mod_cast (Nat.mod_lt num denominator).le
  have startBelow : point (low + num / den) ≤ (num : ℚ) / den * width := by
    rw [← sub_nonneg, below]
    positivity
  have stopAbove : (num : ℚ) / den * width ≤ point (low + num / den + 1) := by
    rw [← sub_nonneg, above]
    exact mul_nonneg (sub_nonneg.mpr rest) grain.le
  have lower (half : 2 * (num % den) ≤ den) (tie : 2 * (num % den) = den → num / den % 2 = 0) :
      NearestBits ((num : ℚ) / den * width) (low + num / den) := by
    have halfRat : ((num % den : Nat) : ℚ) ≤ den - (num % den : Nat) := by
      have : (2 : ℚ) * (num % den : Nat) ≤ den := by exact_mod_cast half
      linarith
    refine nearest_lower (Nat.le_of_succ_le inside) startBelow stopAbove ?_ fun same => ?_
    · rw [below, above]
      exact mul_le_mul_of_nonneg_right halfRat grain.le
    · rw [below, above] at same
      have equal := mul_right_cancel₀ grain.ne' same
      have whole : (2 : ℚ) * (num % den : Nat) = den := by linarith
      have := tie (by exact_mod_cast whole)
      omega
  have upper (half : den ≤ 2 * (num % den)) (tie : 2 * (num % den) = den → num / den % 2 = 1) :
      NearestBits ((num : ℚ) / den * width) (low + num / den + 1) := by
    have halfRat : (den : ℚ) - (num % den : Nat) ≤ (num % den : Nat) := by
      have : (den : ℚ) ≤ 2 * (num % den : Nat) := by exact_mod_cast half
      linarith
    refine nearest_upper inside startBelow stopAbove ?_ fun same => ?_
    · rw [below, above]
      exact mul_le_mul_of_nonneg_right halfRat grain.le
    · rw [below, above] at same
      have equal := mul_right_cancel₀ grain.ne' same
      have whole : (2 : ℚ) * (num % den : Nat) = den := by linarith
      have := tie (by exact_mod_cast whole)
      omega
  -- Which end is nearer is told by the rest of the division; of two equally near ends one is even.
  simp only [roundToEven]
  split
  case isTrue less => exact lower less.le fun tie => absurd tie less.ne
  case isFalse notLess =>
    split
    case isTrue more => exact upper more.le fun tie => absurd tie more.ne'
    case isFalse notMore =>
      rcases Nat.mod_two_eq_zero_or_one (num / den) with zero | one
      · rw [zero]
        exact lower (Nat.le_of_not_lt notMore) fun _ => zero
      · rw [one]
        exact upper (Nat.le_of_not_lt notLess) fun _ => one

/-- The bits for a ratio count the point to which it is rounded. -/
theorem nearestBits_nearest {num den : Nat} (denominator : 0 < den) :
    NearestBits ((num : ℚ) / den) (nearestBits num den) := by
  rcases Nat.eq_zero_or_pos num with rfl | positive
  · rw [Nat.cast_zero, zero_div]
    exact nearest_zero (le_refl _) (by rw [mul_zero]; exact (step_pos 0).le)
  obtain ⟨least, small, normal⟩ := exponentFor_fits positive denominator
  obtain ⟨up, -⟩ := powerOfTwo_ratio (exponentFor num den)
  generalize exponentEq : exponentFor num den = exponent at *
  obtain ⟨count, rfl⟩ : ∃ count : Nat, exponent = count + leastExponent :=
    ⟨(exponent - leastExponent).toNat, by omega⟩
  have scaled := scaled_eq num den (count + leastExponent)
  generalize numEq : num * (powerOfTwo (count + leastExponent)).2 = scaledNum at *
  generalize denEq : den * (powerOfTwo (count + leastExponent)).1 = scaledDen at *
  have scaledPositive : 0 < scaledDen := denEq ▸ Nat.mul_pos denominator up
  have scaledRat : (0 : ℚ) < scaledDen := by exact_mod_cast scaledPositive
  have number : (num : ℚ) / den = (scaledNum : ℚ) / scaledDen * step count := by
    rw [scaled, step, div_mul_cancel₀ _ (zpow_ne_zero _ (by norm_num))]
  have bits : nearestBits num den =
      min (count * unitSignificand + roundToEven scaledNum scaledDen) infinityBits := by
    have steps : ((count : Int) + leastExponent - leastExponent).toNat = count := by omega
    rw [nearestBits, if_neg positive.ne']
    simp only [exponentEq, steps, numEq, denEq, infinityBits, Nat.add_comm]
  have bounded : scaledNum / scaledDen < 2 * unitSignificand := by
    rw [← scaled, div_lt_iff₀ scaledRat] at small
    rw [Nat.div_lt_iff_lt_mul scaledPositive]
    exact_mod_cast small
  have filled : count = 0 ∨ unitSignificand ≤ scaledNum / scaledDen := by
    refine normal.imp (fun same => by omega) fun large => ?_
    rw [← scaled, le_div_iff₀ scaledRat] at large
    rw [Nat.le_div_iff_mul_le scaledPositive]
    exact_mod_cast large
  have start := point_eq bounded.le filled
  have stop := point_eq (Nat.succ_le_of_lt bounded) (filled.imp_right Nat.le_succ_of_le)
  rw [number, bits]
  rw [Nat.add_comm] at start
  by_cases inside : count * unitSignificand + scaledNum / scaledDen + 1 ≤ infinityBits
  · have even : count * unitSignificand % 2 = 0 := by
      rw [Nat.mul_mod]
      exact (Nat.mul_zero _).symm ▸ rfl
    have near := roundToEven_nearest scaledPositive (step_pos count) inside even start (by
      rw [← stop]
      congr 1
      omega)
    rwa [min_eq_left near.1]
  · have least : infinityBits ≤ count * unitSignificand + scaledNum / scaledDen := by omega
    have past : infinityBits ≤ count * unitSignificand + roundToEven scaledNum scaledDen := by
      rcases roundToEven_neighbour scaledNum scaledDen with same | same <;> omega
    rw [min_eq_right past]
    refine nearest_end ?_
    calc
      point infinityBits ≤ point (count * unitSignificand + scaledNum / scaledDen) :=
        point_strictMono.monotone least
      _ = (scaledNum / scaledDen : Nat) * step count := start
      _ ≤ scaledNum / scaledDen * step count :=
        mul_le_mul_of_nonneg_right Nat.cast_div_le (step_pos count).le

/-! ## Doubles and decimals -/

/-- The magnitude of a double without a sign is read off its bits. -/
theorem decode_eq {x : Float} (unsigned : IsUnsigned x) :
    let bits := x.toBits.toNat
    (decode x).significand = bits - doublings bits * unitSignificand ∧
      (decode x).exponent = doublings bits + leastExponent := by
  intro bits
  rw [IsUnsigned, infinityBits] at unsigned
  have all : x.toBits.toNat % Nat.pow 2 63 = bits := by
    rw [unitSignificand] at unsigned
    exact Nat.mod_eq_of_lt (by rw [Nat.pow_eq]; omega)
  simp only [decode, all, doublings, leastExponent]
  rw [unitSignificand]
  split
  case isTrue subnormal => constructor <;> dsimp only <;> omega
  case isFalse normal => constructor <;> dsimp only <;> omega

/-- A double without a sign stands for the point that its bits count. -/
theorem magnitude_eq {x : Float} (unsigned : IsUnsigned x) :
    magnitude x = point x.toBits.toNat := by
  obtain ⟨significand, exponent⟩ := decode_eq unsigned
  rw [magnitude, significand, exponent]
  rfl

/-- A significand is even exactly if the bits are. -/
theorem significand_parity {x : Float} (unsigned : IsUnsigned x) :
    (decode x).significand % 2 = x.toBits.toNat % 2 := by
  rw [(decode_eq unsigned).1, doublings]
  have multiple : (x.toBits.toNat / unitSignificand - 1) * unitSignificand % 2 = 0 := by
    rw [unitSignificand]
    omega
  have below : (x.toBits.toNat / unitSignificand - 1) * unitSignificand ≤ x.toBits.toNat :=
    (Nat.mul_le_mul_right _ (Nat.sub_le _ _)).trans (Nat.div_mul_le_self _ _)
  omega

/-- A double is the nearest one exactly if its bits count the nearest point. -/
theorem isNearest_iff {x : Float} (unsigned : IsUnsigned x) :
    IsNearest number x ↔ NearestBits number x.toBits.toNat := by
  constructor
  · rintro ⟨-, nearest, even⟩
    refine ⟨unsigned, fun other inside => ?_⟩
    -- The bits are those of a double.
    have own := toBits_ofBits inside
    have otherUnsigned : IsUnsigned (Float.ofBits (UInt64.ofNat other)) := own.le.trans inside
    have near := nearest _ otherUnsigned
    have tie := even _ otherUnsigned
    rw [magnitude_eq unsigned, magnitude_eq otherUnsigned, own] at near tie
    refine ⟨near, fun same => (tie same).imp (fun equal => ?_) fun even => ?_⟩
    · rw [← equal, own]
    · rw [← significand_parity unsigned, even]
  · rintro ⟨-, nearest⟩
    refine ⟨unsigned, fun other otherUnsigned => ?_, fun other otherUnsigned same => ?_⟩
    · rw [magnitude_eq unsigned, magnitude_eq otherUnsigned]
      exact (nearest _ otherUnsigned).1
    · rw [magnitude_eq unsigned, magnitude_eq otherUnsigned] at same
      rw [significand_parity unsigned]
      exact ((nearest _ otherUnsigned).2 same).imp_left eq_of_toBits

/-- Bits that count the nearest point make the nearest double. -/
theorem NearestBits.isNearest (near : NearestBits number bits) :
    IsNearest number (Float.ofBits (UInt64.ofNat bits)) := by
  have own := toBits_ofBits near.1
  have unsigned : IsUnsigned (Float.ofBits (UInt64.ofNat bits)) := own.le.trans near.1
  exact (isNearest_iff unsigned).mpr (own.symm ▸ near)

/-- Rounding the ratio of a number gives the nearest double. -/
theorem isNearest_nearest {number : ℚ} (unsigned : 0 ≤ number) :
    IsNearest number (nearest number.num.toNat number.den) := by
  have ratio : (number.num.toNat : ℚ) / number.den = number := by
    have whole : (number.num.toNat : ℤ) = number.num :=
      Int.toNat_of_nonneg (Rat.num_nonneg.mpr unsigned)
    rw [← Int.cast_natCast, whole, Rat.num_div_den]
  have near : NearestBits ((number.num.toNat : ℚ) / number.den) _ :=
    nearestBits_nearest number.den_pos
  rw [ratio] at near
  exact near.isNearest

/-- A number is rounded to one double. -/
theorem IsNearest.unique {x y : Float} (near : IsNearest number x) (near' : IsNearest number y) :
    x = y :=
  eq_of_toBits (((isNearest_iff near.unsigned).mp near).unique
    ((isNearest_iff near'.unsigned).mp near'))

end Double

namespace Decimal

open Double

/-- A decimal lies between the powers of ten that the place of its leading digit tells. -/
theorem toRat_bounds {d : Decimal} (positive : 0 < d.digits) :
    (10 : ℚ) ^ ((width d.digits : Int) + d.exponent - 1) ≤ d.toRat ∧
      d.toRat < (10 : ℚ) ^ ((width d.digits : Int) + d.exponent) := by
  obtain ⟨low, high⟩ := pow_width d.digits positive
  have filled : 0 < width d.digits := Nat.length_toDigits_pos
  have ten : (0 : ℚ) < (10 : ℚ) ^ d.exponent := zpow_pos (by norm_num) _
  have lowRat : (10 : ℚ) ^ (width d.digits - 1) ≤ d.digits := by exact_mod_cast low
  have highRat : (d.digits : ℚ) < 10 ^ width d.digits := by exact_mod_cast high
  have less : (width d.digits : Int) + d.exponent - 1 =
      (width d.digits - 1 : Nat) + d.exponent := by
    omega
  rw [less, zpow_add₀ (by norm_num), zpow_add₀ (by norm_num), zpow_natCast, zpow_natCast, toRat]
  exact ⟨mul_le_mul_of_nonneg_right lowRat ten.le, mul_lt_mul_of_pos_right highRat ten⟩

/-- A decimal whose leading digit stands far behind the point rounds to zero. -/
theorem tiny_of_leading {d : Decimal} (positive : 0 < d.digits)
    (small : (width d.digits : Int) + d.exponent < -400) : 2 * d.toRat ≤ step 0 := by
  obtain ⟨-, high⟩ := toRat_bounds positive
  have powers : (10 : ℚ) ^ ((width d.digits : Int) + d.exponent) ≤ 10 ^ (-401 : Int) :=
    zpow_le_zpow_right₀ (by norm_num) (by omega)
  have narrow : (2 : ℚ) * 10 ^ (-401 : Int) ≤ step 0 := by
    have naturals : 2 * 2 ^ 1074 ≤ 10 ^ 401 := by decide +kernel
    rw [step, leastExponent, Nat.cast_zero, zero_add, zpow_neg, zpow_neg, ← div_eq_mul_inv,
      div_le_iff₀ (by positivity), inv_mul_eq_div, le_div_iff₀ (by positivity)]
    exact_mod_cast naturals
  linarith

/-- A decimal whose leading digit stands far before the point is beyond all doubles. -/
theorem huge_of_leading {d : Decimal} (positive : 0 < d.digits)
    (large : 400 < (width d.digits : Int) + d.exponent) : point infinityBits ≤ d.toRat := by
  obtain ⟨low, -⟩ := toRat_bounds positive
  have powers : (10 : ℚ) ^ (400 : Int) ≤ 10 ^ ((width d.digits : Int) + d.exponent - 1) :=
    zpow_le_zpow_right₀ (by norm_num) (by omega)
  have wide : (2 : ℚ) ^ 1024 ≤ 10 ^ (400 : Int) := by
    have naturals : 2 ^ 1024 ≤ 10 ^ 400 := by decide +kernel
    exact_mod_cast naturals
  rw [point_infinityBits]
  exact (wide.trans powers).trans low

/-- A decimal is read as the double to which its number is rounded. -/
theorem toFloat_isNearest (d : Decimal) : IsNearest d.toRat d.toFloat := by
  have unsigned : 0 ≤ d.toRat := mul_nonneg (Nat.cast_nonneg _) (zpow_nonneg (by norm_num) _)
  unfold toFloat
  simp only
  split
  case isTrue small =>
    refine (show NearestBits d.toRat 0 from nearest_zero unsigned ?_).isNearest
    by_cases none : d.digits = 0
    · rw [toRat, none, Nat.cast_zero, zero_mul, mul_zero]
      exact (step_pos 0).le
    · rw [Bool.or_eq_true, decide_eq_true_eq, decide_eq_true_eq] at small
      exact tiny_of_leading (Nat.pos_of_ne_zero none) (small.resolve_left none)
  case isFalse seen =>
    rw [Bool.or_eq_true, decide_eq_true_eq, decide_eq_true_eq, not_or] at seen
    split
    case isTrue large =>
      refine (show NearestBits d.toRat infinityBits from nearest_end ?_).isNearest
      exact huge_of_leading (Nat.pos_of_ne_zero seen.1) large
    case isFalse near =>
      obtain ⟨-, down, ten⟩ := powerOfTen_ratio d.exponent
      have ratio : d.toRat =
          ((d.digits * (powerOfTen d.exponent).1 : Nat) : ℚ) / (powerOfTen d.exponent).2 := by
        rw [toRat, ← ten, Nat.cast_mul, mul_div_assoc]
      rw [ratio]
      exact (nearestBits_nearest down).isNearest

end Decimal

end AbilityHooks
