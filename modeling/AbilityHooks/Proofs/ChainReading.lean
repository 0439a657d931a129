import AbilityHooks.Proofs.ChainForms
import AbilityHooks.Proofs.Multipliers
import AbilityHooks.Proofs.NearestDouble
import Mathlib.Data.List.TakeWhile

/-!
# The multiplier that the calls of a text state

What a text with calls states is told by its calls alone: the first decimal, rounded, counts before
the first list, and the first list before the first percentage, each only if it can be used. The
fillers between the calls, the white space in them and the calls behind the first of each form do not
count.
-/

namespace AbilityHooks

/-! ## What numbers stand for -/

/-- The number that digits stand for. -/
def Digits.value (digits : Digits) : Nat :=
  digits.values.foldl (fun value digit => 10 * value + digit.val) 0

/-- The number that a decimal argument stands for. -/
def DecimalArgument.value : DecimalArgument → ℚ
  | whole digits => digits.value
  | pointed before behind =>
      before.elim 0 (fun digits => (digits.value : ℚ)) + behind.value / 10 ^ behind.values.length

/-- Digits are read as the number that they stand for. -/
theorem Digits.ofDigitChars_chars (digits : Digits) :
    Decimal.ofDigitChars digits.chars = digits.value := by
  have each : ∀ digit, (charOf digit).toNat - '0'.toNat = digit.val := by decide
  rw [chars, Decimal.ofDigitChars, List.foldl_map]
  simp only [each]
  rfl

/-- Digits behind others count less by their number of digits. -/
theorem Decimal.ofDigitChars_append (front back : List Char) :
    ofDigitChars (front ++ back) = ofDigitChars front * 10 ^ back.length + ofDigitChars back := by
  unfold ofDigitChars
  rw [List.foldl_append]
  generalize front.foldl _ 0 = value
  -- From the end of the digits: the last one counts once in both readings.
  induction back using List.reverseRecOn with
  | nil => simp
  | append_singleton back c ih =>
    simp only [List.foldl_append, List.foldl_cons, List.foldl_nil, ih, List.length_append,
      List.length_singleton, pow_succ]
    ring

namespace Signal

open ChainCall

variable {round : ℚ → Float} {calls early late : List ChainCall} {call : ChainCall} {text : String}

/-! ## How numbers are read -/

/-- Digits alone are read without a point. -/
theorem readNumber?_whole {digits : List Char} (plain : ∀ c ∈ digits, isPlainDigit c = true) :
    readNumber? (String.ofList digits) =
      some (Decimal.toFloat ⟨Decimal.ofDigitChars digits, 0⟩) := by
  rw [readNumber?]
  simp only [String.toList_ofList, List.takeWhile_eq_self_iff.mpr plain,
    List.dropWhile_eq_nil_iff.mpr plain]

/-- Digits with a point among them are read with it. -/
theorem readNumber?_pointed {before behind : List Char}
    (plain : ∀ c ∈ before, isPlainDigit c = true) (plain' : ∀ c ∈ behind, isPlainDigit c = true) :
    readNumber? (String.ofList (before ++ '.' :: behind)) =
      some (Decimal.toFloat ⟨Decimal.ofDigitChars (before ++ behind), -behind.length⟩) := by
  have point : isPlainDigit '.' = false := by decide
  rw [readNumber?]
  simp only [String.toList_ofList, List.takeWhile_append_of_pos plain,
    List.dropWhile_append_of_pos plain, List.takeWhile_cons, List.dropWhile_cons, point,
    Bool.false_eq_true, if_false, List.append_nil, List.all_eq_true.mpr plain', if_true]

variable (rounds : ∀ number, 0 ≤ number → Double.IsNearest number (round number))

include rounds

/-- A decimal is read as its number rounded. -/
theorem toFloat_eq_round (d : Decimal) : d.toFloat = round d.toRat :=
  (Decimal.toFloat_isNearest d).unique
    (rounds _ (mul_nonneg (Nat.cast_nonneg _) (zpow_nonneg (by norm_num) _)))

/-- Digits are read as their number rounded. -/
theorem readNumber?_digits (digits : Digits) :
    readNumber? (String.ofList digits.chars) = some (round digits.value) := by
  rw [readNumber?_whole Digits.isPlainDigit_of_mem, digits.ofDigitChars_chars,
    toFloat_eq_round rounds, Decimal.toRat, zpow_zero, mul_one]

/-- A decimal argument is read as its number rounded. -/
theorem readNumber?_argument (number : DecimalArgument) :
    readNumber? (String.ofList number.chars) = some (round number.value) := by
  cases number with
  | whole digits => exact readNumber?_digits rounds digits
  | pointed before behind =>
    have plain : ∀ c ∈ before.elim [] Digits.chars, isPlainDigit c = true := by
      cases before with
      | none => simp
      | some digits => exact Digits.isPlainDigit_of_mem
    have front : (Decimal.ofDigitChars (before.elim [] Digits.chars) : ℚ) =
        before.elim 0 fun digits => (digits.value : ℚ) := by
      cases before with
      | none => exact Nat.cast_zero
      | some digits => exact congrArg _ digits.ofDigitChars_chars
    have counted : behind.chars.length = behind.values.length := List.length_map _
    rw [DecimalArgument.chars, readNumber?_pointed plain Digits.isPlainDigit_of_mem,
      toFloat_eq_round rounds, Decimal.toRat, Decimal.ofDigitChars_append,
      behind.ofDigitChars_chars, counted, Nat.cast_add, Nat.cast_mul, front, zpow_neg, zpow_natCast, DecimalArgument.value]
    have ten : (10 : ℚ) ^ behind.values.length ≠ 0 := pow_ne_zero _ (by norm_num)
    push_cast
    rw [add_mul, mul_inv_cancel_right₀ ten, div_eq_mul_inv]

/-- A natural number is rounded to zero only if it is zero. -/
theorem round_beq_zero (n : Nat) : (round n == 0) = true ↔ n = 0 := by
  have near := rounds n (Nat.cast_nonneg n)
  rw [Double.beq_zero_iff near.unsigned]
  constructor
  · intro zero
    -- Otherwise one is nearer than zero.
    have point : Double.magnitude (round n) = 0 := by
      rw [Double.magnitude_eq near.unsigned, zero]
      simp [Double.point]
    have one : Double.magnitude (1 : Float) = 1 := by
      have decoded : Double.decode (1 : Float) = ⟨2 ^ 52, -52, true⟩ := by decide +kernel
      rw [Double.magnitude, decoded]
      norm_num
    have unsigned : Double.IsUnsigned (1 : Float) :=
      show (1 : Float).toBits.toNat ≤ Double.infinityBits by decide +kernel
    have nearer := near.nearest 1 unsigned
    rw [point, one] at nearer
    by_contra positive
    have least : (1 : ℚ) ≤ n := by exact_mod_cast Nat.pos_of_ne_zero positive
    rw [abs_of_nonpos (by linarith), abs_of_nonpos (by linarith)] at nearer
    linarith
  · rintro rfl
    have read : (Decimal.toFloat ⟨0, 0⟩).toBits.toNat = 0 := by decide +kernel
    rwa [toFloat_eq_round rounds, Decimal.toRat, Nat.cast_zero, zero_mul] at read

omit rounds

/-! ## The reading -/

/-- The quotient of two natural numbers, each rounded; none if the second one is zero. -/
def quotient? (round : ℚ → Float) (numbers : Digits × Digits) : Option Float :=
  if numbers.2.value = 0 then none else some (round numbers.1.value / round numbers.2.value)

/-- What the first call with a decimal states, if it can be used. -/
def decimalReading (round : ℚ → Float) (calls : List ChainCall) : Option Float :=
  ((calls.findSome? decimal?).map fun number => round number.value).filter fun value =>
    Meaningful value

/-- What the first call with a list that fits states, if it can be used. -/
def listReading (round : ℚ → Float) (fits : Digits → Digits → Bool) (calls : List ChainCall) :
    Option Float :=
  ((calls.findSome? (list? fits)).bind (quotient? round)).filter fun value => Meaningful value

/-- What calls state: the first decimal, or else the first list, or else the first percentage. -/
def reading (round : ℚ → Float) (calls : List ChainCall) : Option Float :=
  decimalReading round calls <|> listReading round (fun _ _ => true) calls <|>
    listReading round isPercentage calls

/-- A value can be used if it is meaningful. -/
theorem usable?_eq_filter (value : Float) :
    usable? value = (some value).filter fun value => Meaningful value := by
  have same : (value.isFinite && decide (0 < value)) = decide (Meaningful value) := by
    rw [Bool.eq_iff_iff, Bool.and_eq_true, decide_eq_true_iff, decide_eq_true_iff, Meaningful]
  rw [usable?, same, Option.filter_some]

include rounds

/-- The first call with a decimal is read. -/
theorem decimalMultiplier_eq (written : CallText calls text.toList) :
    decimalMultiplier text = decimalReading round calls := by
  have captures := decimalCall_answers.capturesIn_eq written
  have first : (calls.findSome? fun call => call.decimal?.map fun number => [number.chars]) =
      (calls.findSome? decimal?).map fun number => [number.chars] := List.map_findSome?.symm
  rw [first] at captures
  rw [decimalMultiplier, Pattern.captureIn, captures, decimalReading]
  cases calls.findSome? decimal? with
  | none => rfl
  | some number =>
    have read := readNumber?_argument rounds number
    simp [read, usable?_eq_filter]

/-- The first call with a list that fits is read. -/
theorem ratioMultiplier_eq {form : Pattern} {fits : Digits → Digits → Bool}
    (answers : Answers form fun call =>
      (call.list? fits).map fun numbers => [numbers.1.chars, numbers.2.chars])
    (written : CallText calls text.toList) :
    ratioMultiplier form text = listReading round fits calls := by
  have captures := answers.capturesIn_eq written
  have first : (calls.findSome? fun call =>
      (call.list? fits).map fun numbers => [numbers.1.chars, numbers.2.chars]) =
      (calls.findSome? (list? fits)).map fun numbers => [numbers.1.chars, numbers.2.chars] :=
    List.map_findSome?.symm
  rw [first] at captures
  rw [ratioMultiplier, captures, listReading]
  cases calls.findSome? (list? fits) with
  | none => rfl
  | some numbers =>
    obtain ⟨above, below⟩ := numbers
    have read := readNumber?_digits rounds above
    have read' := readNumber?_digits rounds below
    have zero := round_beq_zero rounds below.value
    by_cases none : below.value = 0
    · have absent : quotient? round (above, below) = Option.none := if_pos none
      simp [read, read', zero.mpr none, absent]
    · have quotient : quotient? round (above, below) =
          some (round above.value / round below.value) := if_neg none
      simp [read, read', Bool.eq_false_iff.mpr (mt zero.mp none), quotient, usable?_eq_filter]

/-- What a text with calls states is what its calls state. -/
theorem chainMultiplier_eq (written : CallText calls text.toList) :
    chainMultiplier text = reading round calls := by
  rw [chainMultiplier, decimalMultiplier_eq rounds written,
    ratioMultiplier_eq rounds fractionCall_answers written,
    ratioMultiplier_eq rounds percentCall_answers written]
  rfl

omit rounds

/-! ## Calls that do not count -/

/-- Whether an earlier call has the form of a call. A list that is a percentage has the form of the
percentages before it only. -/
def IsRepeated (early : List ChainCall) : ChainCall → Prop
  | decimal _ => ∃ number, decimal number ∈ early
  | list above below => ∃ above' below', list above' below' ∈ early ∧
      (isPercentage above below = true → isPercentage above' below' = true)

/-- What is not found behind an earlier find does not count. -/
theorem findSome?_insert {β : Type} {find : ChainCall → Option β}
    (other : (find call).isSome = true → ∃ earlier ∈ early, (find earlier).isSome = true) :
    (early ++ call :: late).findSome? find = (early ++ late).findSome? find := by
  rw [List.findSome?_append, List.findSome?_append, List.findSome?_cons]
  cases found : early.findSome? find with
  | some value => rfl
  | none =>
    cases here : find call with
    | none => rfl
    | some value =>
      obtain ⟨earlier, listed, filled⟩ := other (here ▸ rfl)
      rw [List.findSome?_eq_none_iff.mp found earlier listed] at filled
      cases filled

/-- A call with the form of an earlier one does not count. -/
theorem reading_insert (repeated : IsRepeated early call) :
    reading round (early ++ call :: late) = reading round (early ++ late) := by
  have decimals :
      (early ++ call :: late).findSome? decimal? = (early ++ late).findSome? decimal? := by
    refine findSome?_insert fun present => ?_
    cases call with
    | decimal _ =>
      obtain ⟨number, listed⟩ := repeated
      exact ⟨_, listed, rfl⟩
    | list _ _ => cases present
  have lists (fits : Digits → Digits → Bool) (passes : ∀ {above below above' below'},
      (isPercentage above below = true → isPercentage above' below' = true) →
        fits above below = true → fits above' below' = true) :
      (early ++ call :: late).findSome? (list? fits) = (early ++ late).findSome? (list? fits) := by
    refine findSome?_insert fun present => ?_
    cases call with
    | decimal _ => cases present
    | list above below =>
      obtain ⟨above', below', listed, percent⟩ := repeated
      have fitting : fits above below = true := by
        by_contra unfit
        rw [list?, if_neg unfit] at present
        cases present
      refine ⟨_, listed, ?_⟩
      rw [list?, if_pos (passes percent fitting)]
      rfl
  rw [reading, reading, decimalReading, decimalReading, decimals, listReading, listReading,
    lists _ fun _ _ => rfl, listReading, listReading, lists _ fun percent => percent]

/-! ## The reading of a text -/

/-- A text of fillers and calls states what its calls state, their numbers rounded to the nearest
double. The first decimal wins wherever it stands, if it can be used; and a call behind another one
of its form could be left out. -/
theorem chainMultiplier_reads {round : ℚ → Float}
    (rounds : ∀ number, 0 ≤ number → Double.IsNearest number (round number))
    {calls : List ChainCall} {text : String} (written : CallText calls text.toList) :
    chainMultiplier text = reading round calls ∧
      (∀ number, calls.findSome? decimal? = some number → Meaningful (round number.value) →
        chainMultiplier text = some (round number.value)) ∧
      ∀ early call late, calls = early ++ call :: late → IsRepeated early call →
        chainMultiplier text = reading round (early ++ late) := by
  have reads := chainMultiplier_eq rounds written
  refine ⟨reads, fun number first meaningful => ?_, fun early call late split repeated => ?_⟩
  · rw [reads, reading, decimalReading, first, Option.map_some, Option.filter_some,
      if_pos (decide_eq_true meaningful)]
    rfl
  · rw [reads, split, reading_insert repeated]

/-- Behind a decimal that is zero and a list with the denominator zero a percentage is read. -/
theorem chainMultiplier_reads_percentage :
    chainMultiplier "this.chainModify( .0 ); f(chainModify([1,0])); chainModify([ 130 ,100])" =
      some 1.3 := by
  let zero : ChainCall := .decimal (.pointed none ⟨[0], by decide⟩)
  let undefined : ChainCall := .list ⟨[1], by decide⟩ ⟨[0], by decide⟩
  let percentage : ChainCall := .list ⟨[1, 3, 0], by decide⟩ ⟨[1, 0, 0], by decide⟩
  have white : ∀ c ∈ " ".toList, Text.isBlank c = true := List.all_eq_true.mp (by decide)
  have none : ∀ c ∈ ([] : List Char), Text.isBlank c = true := List.all_eq_true.mp rfl
  have first : Spaced zero.words "chainModify( .0 )".toList :=
    ⟨_, _, white, ⟨_, _, white, rfl, rfl⟩, rfl⟩
  have second : Spaced undefined.words "chainModify([1,0])".toList :=
    ⟨_, _, none, ⟨_, _, none, ⟨_, _, none, ⟨_, _, none, ⟨_, _, none, ⟨_, _, none, rfl, rfl⟩, rfl⟩,
      rfl⟩, rfl⟩, rfl⟩, rfl⟩
  have third : Spaced percentage.words "chainModify([ 130 ,100])".toList :=
    ⟨_, _, none, ⟨_, _, white, ⟨_, _, white, ⟨_, _, none, ⟨_, _, none, ⟨_, _, none, rfl, rfl⟩, rfl⟩,
      rfl⟩, rfl⟩, rfl⟩, rfl⟩
  have free : ∀ filler ∈ ["this.", "; f(", "); ", ""], ¬start.toList <:+: filler.toList := by decide
  have parts : String.toList
      "this.chainModify( .0 ); f(chainModify([1,0])); chainModify([ 130 ,100])" =
        "this.".toList ++ ("chainModify( .0 )".toList ++ ("; f(".toList ++
          ("chainModify([1,0])".toList ++ ("); ".toList ++
            ("chainModify([ 130 ,100])".toList ++ "".toList))))) := by decide +kernel
  have written : CallText [zero, undefined, percentage] (String.toList
      "this.chainModify( .0 ); f(chainModify([1,0])); chainModify([ 130 ,100])") := by
    rw [parts]
    exact .call (free "this." (by decide)) first (.call (free "; f(" (by decide)) second
      (.call (free "); " (by decide)) third (.filler (free "" (by decide)))))
  exact (chainMultiplier_reads (fun _ => Double.isNearest_nearest) written).1.trans
    (by decide +kernel)

end Signal

end AbilityHooks
