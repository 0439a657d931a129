import AbilityHooks.Decimal.Basic
import AbilityHooks.Detector.Factor
import Mathlib.Tactic.Common

/-!
# Reading an integer of 32 bits

A text of a sign and digits is read from the left against a bound. It is read exactly if all its
digits are ASCII and the number they denote lies within 32 bits, and then it is read as that number,
however many leading zeros it has.
-/

namespace AbilityHooks

/-- The number that a sign and digits denote: the digits alone without a sign, else its negative. -/
def Decimal.signedValue (sign digits : List Char) : Int :=
  if sign = [] then ofDigitChars digits else -ofDigitChars digits

namespace Detector

/-- The number to which digits lead on from a number read so far. -/
def digitsFrom (value : Nat) (digits : List Char) : Nat :=
  digits.foldl (fun value c => 10 * value + (c.toNat - '0'.toNat)) value

/-- Further digits never make the number smaller. -/
theorem le_digitsFrom (value : Nat) (digits : List Char) : value ≤ digitsFrom value digits := by
  induction digits generalizing value with
  | nil => exact Nat.le_refl value
  | cons c rest ih =>
    calc
      value ≤ 10 * value + (c.toNat - '0'.toNat) := by omega
      _ ≤ digitsFrom (10 * value + (c.toNat - '0'.toNat)) rest := ih _

/-- Digits are read within a bound exactly if they are all ASCII and lead to a number within it. -/
theorem readMagnitude_eq_ok_iff {bound value size : Nat} {overflow : IntegerFault}
    {digits : List Char} (fits : value ≤ bound) :
    readMagnitude bound overflow value digits = .ok size ↔
      (∀ c ∈ digits, c.isDigit = true) ∧ digitsFrom value digits = size ∧ size ≤ bound := by
  induction digits generalizing value with
  | nil =>
    simp only [readMagnitude, Except.ok.injEq, digitsFrom, List.foldl_nil, List.not_mem_nil,
      false_implies, implies_true, true_and]
    constructor
    · rintro rfl
      exact ⟨rfl, fits⟩
    · exact And.left
  | cons c rest ih =>
    rw [readMagnitude, List.forall_mem_cons]
    by_cases digit : c.isDigit = true
    · have step : digitsFrom value (c :: rest) =
          digitsFrom (10 * value + (c.toNat - '0'.toNat)) rest := rfl
      simp only [digit, Bool.not_true, Bool.false_eq_true, if_false, true_and, step]
      split
      · -- A number beyond the bound stays beyond it, whatever digits follow.
        rename_i beyond
        have grows := le_digitsFrom (10 * value + (c.toNat - '0'.toNat)) rest
        simp only [reduceCtorEq, false_iff]
        omega
      · rename_i within
        exact ih (Nat.le_of_not_lt within)
    · simp [digit]

/-- A sign and digits are read exactly if the digits are ASCII and the number that they denote lies
within 32 bits. -/
theorem readInteger_eq_ok_iff {sign digits : List Char} {delta : Int}
    (minus : sign = [] ∨ sign = ['-']) (unsigned : ∀ c ∈ digits.head?, c ≠ '-') :
    readInteger (String.ofList (sign ++ digits)) = .ok delta ↔
      (∀ c ∈ digits, c.isDigit = true) ∧ Decimal.signedValue sign digits = delta ∧
        -2147483648 ≤ delta ∧ delta ≤ 2147483647 := by
  have value : digitsFrom 0 digits = Decimal.ofDigitChars digits := rfl
  have bound : Nat.pow 2 31 = 2147483648 := by decide
  have mapped : ∀ (found : Except IntegerFault Nat) (f : Int → Int),
      (found >>= fun size => pure (size : Int)).map f = .ok delta ↔
        ∃ size : Nat, found = .ok size ∧ f size = delta := by
    intro found f
    cases found with
    | error fault => simp [Except.map, bind, Except.bind]
    | ok size => simp [Except.map, bind, Except.bind, pure, Except.pure]
  rcases minus with rfl | rfl
  · have positive : readInteger (String.ofList ([] ++ digits)) =
        (readMagnitude (Nat.pow 2 31 - 1) .tooLarge 0 digits >>= fun size =>
          pure (size : Int)).map id := by
      rw [readInteger, List.nil_append, String.toList_ofList]
      split
      · exact absurd rfl (unsigned '-' (by simp))
      · rfl
    rw [positive, mapped]
    simp only [readMagnitude_eq_ok_iff (Nat.zero_le _), value, Decimal.signedValue, if_true, id_eq]
    constructor
    · rintro ⟨size, ⟨ascii, rfl, within⟩, rfl⟩
      exact ⟨ascii, rfl, by omega, by omega⟩
    · rintro ⟨ascii, rfl, -, within⟩
      exact ⟨_, ⟨ascii, rfl, by omega⟩, rfl⟩
  · have negative : readInteger (String.ofList (['-'] ++ digits)) =
        (readMagnitude (Nat.pow 2 31) .tooSmall 0 digits >>= fun size =>
          pure (size : Int)).map (- ·) := by
      rw [readInteger, String.toList_ofList]
      rfl
    rw [negative, mapped]
    simp only [readMagnitude_eq_ok_iff (Nat.zero_le _), value, Decimal.signedValue,
      List.cons_ne_self, if_false]
    constructor
    · rintro ⟨size, ⟨ascii, rfl, within⟩, rfl⟩
      exact ⟨ascii, rfl, by omega, by omega⟩
    · rintro ⟨ascii, rfl, within, -⟩
      exact ⟨_, ⟨ascii, rfl, by omega⟩, rfl⟩

end Detector

end AbilityHooks
