import AbilityHooks.Proofs.KeptStretches
import AbilityHooks.Proofs.PriorityShift
import AbilityHooks.Signal.Multiplier

/-!
# Texts with calls in them

A text with calls in it is made of fillers and calls in turn, where a filler is any text in which no
call begins. No call begins across the end of a filler or inside a call either, for the letter that
a call begins with stands nowhere else in it. So a search for calls of one form answers the first
call of this form, and keeps the numbers of its argument.
-/

namespace AbilityHooks

/-- Decimal digits, at least one. -/
structure Digits where
  values : List (Fin 10)
  filled : values ≠ []

namespace Digits

/-- How a digit is written. -/
def charOf (digit : Fin 10) : Char := digit.val.digitChar

/-- How digits are written. -/
def chars (digits : Digits) : List Char := digits.values.map charOf

/-- Digits are written in ASCII. -/
theorem isPlainDigit_of_mem {digits : Digits} :
    ∀ c ∈ digits.chars, Signal.isPlainDigit c = true := by
  have each : ∀ digit, Signal.isPlainDigit (charOf digit) = true := by decide
  intro c written
  obtain ⟨digit, -, rfl⟩ := List.mem_map.mp written
  exact each digit

/-- Something is written. -/
theorem chars_ne_nil (digits : Digits) : digits.chars ≠ [] :=
  mt List.map_eq_nil_iff.mp digits.filled

/-- Digits are told by how they are written. -/
theorem charOf_injective : Function.Injective charOf := by
  have each : ∀ digit other, charOf digit = charOf other → digit = other := by decide
  exact fun digit other => each digit other

end Digits

/-- A decimal argument: digits, or digits behind a point with or without digits in front of it. -/
inductive DecimalArgument where
  | whole (digits : Digits)
  | pointed (before : Option Digits) (behind : Digits)

/-- How a decimal argument is written. -/
def DecimalArgument.chars : DecimalArgument → List Char
  | whole digits => digits.chars
  | pointed before behind => before.elim [] Digits.chars ++ '.' :: behind.chars

/-- A call with a decimal or with a list of two natural numbers. -/
inductive ChainCall where
  | decimal (number : DecimalArgument)
  | list (numerator denominator : Digits)

namespace ChainCall

/-- The text that every call begins with. -/
def start : String := "chainModify("

/-- The words of a call. White space may stand between any two of them. -/
def words : ChainCall → List String
  | decimal number => [start, String.ofList number.chars, ")"]
  | list numerator denominator =>
      [start, "[", String.ofList numerator.chars, ",", String.ofList denominator.chars, "]", ")"]

/-- The decimal argument of a call. -/
def decimal? : ChainCall → Option DecimalArgument
  | decimal number => some number
  | list _ _ => none

/-- The two numbers of a call with a list, where they fit. -/
def list? (fits : Digits → Digits → Bool) : ChainCall → Option (Digits × Digits)
  | decimal _ => none
  | list numerator denominator =>
      if fits numerator denominator then some (numerator, denominator) else none

/-- Whether a list is a percentage: two or three digits, and then 100. -/
def isPercentage (numerator denominator : Digits) : Bool :=
  (numerator.values.length == 2 || numerator.values.length == 3) && denominator.values == [1, 0, 0]

end ChainCall

open ChainCall (start)

/-- A text that is made of these calls in their order, and of fillers in which no call begins. -/
inductive CallText : List ChainCall → List Char → Prop
  | filler {filler : List Char} (free : ¬start.toList <:+: filler) : CallText [] filler
  | call {filler taken rest : List Char} {call : ChainCall} {calls : List ChainCall}
      (free : ¬start.toList <:+: filler) (written : Spaced call.words taken)
      (others : CallText calls rest) : CallText (call :: calls) (filler ++ (taken ++ rest))

/-! ## Where calls begin -/

section Beginnings

variable {filler taken rest early late : List Char} {call : ChainCall}

/-- The first letter of a call. -/
theorem start_eq : start.toList = 'c' :: "hainModify(".toList := rfl

/-- No call begins in a filler, not even one that ends in what comes after it. -/
theorem not_start_in_filler (free : ¬start.toList <:+: filler)
    (next : rest = [] ∨ start.toList <+: rest) (split : filler = early ++ late)
    (filled : late ≠ []) : ¬start.toList <+: late ++ rest := by
  intro begins
  rcases Nat.le_total start.toList.length late.length with short | long
  · have inside : start.toList <+: late :=
      List.prefix_of_prefix_length_le begins (List.prefix_append _ _) short
    exact free (inside.isInfix.trans (split ▸ (List.suffix_append early late).isInfix))
  · -- The filler has the first part of the beginning, and what comes next has the other part.
    obtain ⟨tail, whole⟩ : late <+: start.toList :=
      List.prefix_of_prefix_length_le (List.prefix_append _ _) begins long
    obtain ⟨first, letters, rfl⟩ := List.exists_cons_of_ne_nil filled
    rw [← whole, List.prefix_append_right_inj] at begins
    cases tail with
    | nil =>
      refine free ?_
      rw [← whole, List.append_nil, split]
      exact (List.suffix_append early _).isInfix
    | cons c tail =>
      have inside : c ∈ "hainModify(".toList := by
        rw [← (List.cons.inj (whole.trans start_eq)).2]
        exact List.mem_append_right _ List.mem_cons_self
      obtain ⟨more, rfl⟩ := begins
      rcases next with none | again
      · cases none
      · obtain ⟨_, same⟩ := again
        obtain rfl : 'c' = c := (List.cons.inj same).1
        exact absurd inside (by decide)

/-- A call begins with its first word. -/
theorem begins_with_start (written : Spaced call.words taken) : start.toList <+: taken := by
  cases call with
  | decimal number => exact Spaced.prefix_first written
  | list numerator denominator => exact Spaced.prefix_first written

/-- The first letter of a call stands nowhere else in it. -/
theorem not_mem_tail (written : Spaced call.words taken) : 'c' ∉ taken.tail := by
  -- The characters behind the first word are blanks and those of the other words.
  obtain ⟨word, words, same, others⟩ : ∃ word words, call.words = start :: word :: words ∧
      ∀ other ∈ word :: words, 'c' ∉ other.toList := by
    have digits (number : Digits) : 'c' ∉ number.chars := fun inside =>
      absurd (Digits.isPlainDigit_of_mem _ inside) (by decide)
    cases call with
    | decimal number =>
      refine ⟨_, _, rfl, ?_⟩
      have argument : 'c' ∉ number.chars := by
        rcases number with whole | ⟨_ | before, behind⟩
        · exact digits whole
        · simpa [DecimalArgument.chars] using digits behind
        · simpa [DecimalArgument.chars] using ⟨digits before, digits behind⟩
      simpa using argument
    | list numerator denominator =>
      refine ⟨_, _, rfl, ?_⟩
      simpa using ⟨digits numerator, digits denominator⟩
  rw [same] at written
  obtain ⟨gap, later, blank, spaced, rfl⟩ := written
  intro inside
  rw [start_eq, List.cons_append, List.tail_cons] at inside
  rcases List.mem_append.mp inside with here | beyond
  · exact absurd here (by decide)
  rcases List.mem_append.mp beyond with white | further
  · exact absurd (blank _ white) (by decide)
  rcases spaced.mem further with white | ⟨other, listed, letter⟩
  · exact absurd white (by decide)
  · exact others other listed letter

/-- No call begins inside a call. -/
theorem not_start_in_call (written : Spaced call.words taken) (split : taken = early ++ late)
    (inside : early ≠ []) (filled : late ≠ []) : ¬start.toList <+: late ++ rest := by
  obtain ⟨first, others, rfl⟩ := List.exists_cons_of_ne_nil inside
  obtain ⟨c, late, rfl⟩ := List.exists_cons_of_ne_nil filled
  rintro ⟨_, same⟩
  obtain rfl : 'c' = c := (List.cons.inj same).1
  refine not_mem_tail written ?_
  rw [split, List.cons_append, List.tail_cons]
  exact List.mem_append_right _ List.mem_cons_self

end Beginnings

/-! ## Searching for calls of one form -/

/-- A pattern takes exactly the calls of one form, whatever comes after them, and keeps of each what
is given. -/
structure Answers (p : Pattern) (kept : ChainCall → Option (List (List Char))) : Prop where
  edgeless : p.edgeless = true
  begins : ∀ {stretch : List Char} {texts : List (List Char)}, p.SpellsKeeping stretch texts →
    start.toList <+: stretch
  keeps : ∀ {call : ChainCall} {taken : List Char} {texts : List (List Char)},
    Spaced call.words taken → kept call = some texts → p.SpellsKeeping taken texts
  agrees : ∀ {call : ChainCall} {taken rest stretch more : List Char} {texts : List (List Char)},
    Spaced call.words taken → p.SpellsKeeping stretch texts → taken ++ rest = stretch ++ more →
      kept call = some texts

namespace Answers

variable {p : Pattern} {kept : ChainCall → Option (List (List Char))} {before : Option Char}
variable {taken rest chars : List Char} {call : ChainCall} {calls : List ChainCall}

/-- Where no call begins, nothing is taken. -/
theorem silent (answers : Answers p kept) (none : ¬start.toList <+: rest) :
    p.runs ⟨before, rest⟩ = [] := by
  refine List.eq_nil_iff_forall_not_mem.mpr fun run found => none ?_
  obtain ⟨stretch, spells, leads⟩ := Pattern.spellsKeeping_of_run found
  have split : rest = stretch ++ run.2.rest := leads.rest
  exact split ▸ (answers.begins spells).trans (List.prefix_append _ _)

/-- At a call, what is kept of it is found, or the search goes on behind it. -/
theorem find?_call (answers : Answers p kept) (written : Spaced call.words taken) :
    (p.find? ⟨before, taken ++ rest⟩).map (·.captures.map Capture.chars) =
      (kept call).or ((p.find? ⟨taken.getLast?.or before, rest⟩).map
        (·.captures.map Capture.chars)) := by
  have alike : ∀ run ∈ p.runs ⟨before, taken ++ rest⟩,
      kept call = some (run.1.map Capture.chars) := by
    intro run found
    obtain ⟨stretch, spells, leads⟩ := Pattern.spellsKeeping_of_run found
    exact answers.agrees written spells leads.rest
  cases told : kept call with
  | some texts =>
    have leads : Place.Leads ⟨before, taken ++ rest⟩ taken _ := .of_rest rfl
    obtain ⟨captures, run, -⟩ :=
      Pattern.run_of_spellsKeeping answers.edgeless (answers.keeps written told) leads
    refine Pattern.find?_of_runs (List.ne_nil_of_mem run) fun run found => ?_
    exact (Option.some.inj (told.symm.trans (alike run found))).symm
  | none =>
    rw [Option.none_or, Pattern.find?_append]
    rintro (_ | ⟨first, early⟩) late before split filled
    · -- A run from the beginning of the call would keep something of it.
      refine List.eq_nil_iff_forall_not_mem.mpr fun run found => ?_
      obtain ⟨stretch, spells, leads⟩ := Pattern.spellsKeeping_of_run found
      have same : taken ++ rest = stretch ++ run.2.rest := by
        rw [split]
        exact leads.rest
      exact absurd (told.symm.trans (answers.agrees written spells same)) (by simp)
    · exact answers.silent (not_start_in_call written split (List.cons_ne_nil _ _) filled)

/-- A search finds the first call of its form. -/
theorem find?_eq (answers : Answers p kept) (written : CallText calls chars) :
    (p.find? ⟨before, chars⟩).map (·.captures.map Capture.chars) = calls.findSome? kept := by
  induction written generalizing before with
  | @filler filler free =>
    have passed : p.find? ⟨before, filler ++ []⟩ = p.find? ⟨filler.getLast?.or before, []⟩ :=
      Pattern.find?_append before fun early late before split filled =>
        answers.silent (not_start_in_filler free (.inl rfl) split filled)
    rw [List.append_nil] at passed
    have ends : p.at? ⟨filler.getLast?.or before, []⟩ = none :=
      Pattern.at?_eq_none_iff.mpr (answers.silent (by decide))
    rw [passed, Pattern.find?, ends]
    rfl
  | @call filler taken rest call calls free written others ih =>
    have next : start.toList <+: taken ++ rest :=
      (begins_with_start written).trans (List.prefix_append _ _)
    have passed : p.find? ⟨before, filler ++ (taken ++ rest)⟩ =
        p.find? ⟨filler.getLast?.or before, taken ++ rest⟩ :=
      Pattern.find?_append before fun early late before split filled =>
        answers.silent (not_start_in_filler free (.inr next) split filled)
    rw [passed, answers.find?_call written, ih, List.findSome?_cons]
    cases kept call <;> rfl

/-- The texts that a search keeps are those of the first call of its form. -/
theorem capturesIn_eq (answers : Answers p kept) {text : String}
    (written : CallText calls text.toList) :
    p.capturesIn text = (calls.findSome? kept).map (·.map String.ofList) := by
  have found : ((p.find? (.ofText text)).map (·.captures.map Capture.chars)) =
      calls.findSome? kept := answers.find?_eq written
  rw [Pattern.capturesIn, ← found, Option.map_map]
  simp [Function.comp_def, Capture.text]

end Answers

end AbilityHooks
