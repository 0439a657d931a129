import AbilityHooks.Proofs.ChainCalls

/-!
# The forms of a call

The patterns for the three forms of a call take exactly the calls of their form and keep the numbers
of the argument. What a pattern takes from the beginning of a call has the words of the call: white
space is passed over, and a number ends where another character than those of numbers stands.
-/

namespace AbilityHooks

namespace Spaced

variable {word other : String} {words words' : List String} {taken taken' rest rest' : List Char}

/-- Where words so spaced begin the same text, their first words have the same first letter. -/
theorem same_head (spaced : Spaced (word :: words) taken)
    (spaced' : Spaced (other :: words') taken') (filled : word.toList ≠ [])
    (filled' : other.toList ≠ []) (same : taken ++ rest = taken' ++ rest') :
    word.toList.head? = other.toList.head? := by
  obtain ⟨more, rfl⟩ := spaced.prefix_first
  obtain ⟨more', rfl⟩ := spaced'.prefix_first
  have heads := congrArg List.head? same
  simpa only [List.append_assoc, List.head?_append_of_ne_nil _ filled,
    List.head?_append_of_ne_nil _ filled'] using heads

end Spaced

namespace Pattern

variable {p : Pattern}

/-- What a word spells as a piece. -/
theorem spellsKeeping_word {word : String} {part : String × List (List Char)} :
    (lit word).SpellsKeeping part.1.toList part.2 ↔ part = (word, []) := by
  rw [spellsKeeping_lit, String.toList_inj, Prod.ext_iff]

/-- What a kept number spells as a piece. -/
theorem spellsKeeping_number {part : String × List (List Char)} (keepless : p.captureless = true) :
    (captured p).SpellsKeeping part.1.toList part.2 ↔
      p.Spells part.1.toList ∧ part = (part.1, [part.1.toList]) := by
  simp [spellsKeeping_captured keepless, Prod.ext_iff]

end Pattern

open Pattern

namespace Signal

variable {numerator denominator : Pattern} {taken : List Char} {texts : List (List Char)}

/-- A number with a point in it or none. -/
def decimalDigits : Pattern := many isPlainDigit ++ maybe (lit ".") ++ oneOrMore isPlainDigit

/-- A call with a decimal has three words, and the second one is kept. -/
theorem spellsKeeping_decimalCall : decimalCall.SpellsKeeping taken texts ↔ ∃ number : String,
    decimalDigits.Spells number.toList ∧ Spaced [ChainCall.start, number, ")"] taken ∧
      texts = [number.toList] := by
  have keepless : decimalDigits.captureless = true := by decide
  change (spaced [lit ChainCall.start, captured decimalDigits, lit ")"]).SpellsKeeping _ _ ↔ _
  rw [spellsKeeping_spaced]
  constructor
  · rintro ⟨_, _ | ⟨first, _ | ⟨second, _ | ⟨third, _ | _⟩⟩⟩, spaced, rfl⟩
    obtain rfl := spellsKeeping_word.mp first
    obtain ⟨spells, kept⟩ := (spellsKeeping_number keepless).mp second
    obtain rfl := spellsKeeping_word.mp third
    rw [kept] at spaced ⊢
    exact ⟨_, spells, spaced, rfl⟩
  · rintro ⟨number, spells, spaced, rfl⟩
    have word (word : String) : (lit word).SpellsKeeping word.toList [] :=
      spellsKeeping_lit.mpr ⟨rfl, rfl⟩
    have kept := (spellsKeeping_captured keepless).mpr ⟨spells, rfl⟩
    exact ⟨[(ChainCall.start, []), (number, [number.toList]), (")", [])],
      .cons (word _) (.cons kept (.cons (word _) .nil)), spaced, rfl⟩

/-- A call with a list has seven words, and the two numbers are kept. -/
theorem spellsKeeping_ratioCall (keepless : numerator.captureless = true)
    (keepless' : denominator.captureless = true) :
    (ratioCall numerator denominator).SpellsKeeping taken texts ↔ ∃ above below : String,
      numerator.Spells above.toList ∧ denominator.Spells below.toList ∧
        Spaced [ChainCall.start, "[", above, ",", below, "]", ")"] taken ∧
          texts = [above.toList, below.toList] := by
  rw [ratioCall, spellsKeeping_spaced]
  constructor
  · rintro ⟨_, _ | ⟨first, _ | ⟨second, _ | ⟨third, _ | ⟨fourth, _ | ⟨fifth, _ | ⟨sixth, _ |
      ⟨seventh, _ | _⟩⟩⟩⟩⟩⟩⟩, spaced, rfl⟩
    obtain rfl := spellsKeeping_word.mp first
    obtain rfl := spellsKeeping_word.mp second
    obtain ⟨spells, kept⟩ := (spellsKeeping_number keepless).mp third
    obtain rfl := spellsKeeping_word.mp fourth
    obtain ⟨spells', kept'⟩ := (spellsKeeping_number keepless').mp fifth
    obtain rfl := spellsKeeping_word.mp sixth
    obtain rfl := spellsKeeping_word.mp seventh
    rw [kept, kept'] at spaced ⊢
    exact ⟨_, _, spells, spells', spaced, rfl⟩
  · rintro ⟨above, below, spells, spells', spaced, rfl⟩
    have word (word : String) : (lit word).SpellsKeeping word.toList [] :=
      spellsKeeping_lit.mpr ⟨rfl, rfl⟩
    have first := (spellsKeeping_captured keepless).mpr ⟨spells, rfl⟩
    have second := (spellsKeeping_captured keepless').mpr ⟨spells', rfl⟩
    exact ⟨[(ChainCall.start, []), ("[", []), (above, [above.toList]), (",", []),
      (below, [below.toList]), ("]", []), (")", [])], .cons (word _) (.cons (word _) (.cons first
        (.cons (word _) (.cons second (.cons (word _) (.cons (word _) .nil)))))), spaced, rfl⟩

/-! ## The first form: a decimal -/

/-- A digit or a point. -/
def isNumberPart (c : Char) : Bool := isPlainDigit c || c == '.'

/-- An ASCII digit is a digit. -/
theorem isDigit_of_isPlainDigit {c : Char} (plain : isPlainDigit c = true) :
    Text.isDigit c = true := by
  have bounds := Char.isDigit_iff_toNat.mp plain
  have nine : '9'.toNat = 57 := rfl
  rw [Text.isDigit, if_pos (show c.toNat < 128 by omega)]
  exact plain

/-- A blank is no part of a number. -/
theorem isNumberPart_of_isBlank {c : Char} (blank : Text.isBlank c = true) :
    isNumberPart c = false := by
  refine Bool.eq_false_iff.mpr fun part => ?_
  rcases Bool.or_eq_true_iff.mp part with plain | point
  · rw [Text.isBlank_of_isDigit (isDigit_of_isPlainDigit plain)] at blank
    cases blank
  · rw [eq_of_beq point] at blank
    exact absurd blank (by decide)

/-- A word that has something in it, and no blanks, is solid. -/
theorem startsSolid_of_forall {word : String} {holds : Char → Bool} (filled : word.toList ≠ [])
    (inside : ∀ c ∈ word.toList, holds c = true)
    (blanks : ∀ c, Text.isBlank c = true → holds c = false) : StartsSolid word := by
  obtain ⟨c, rest, spelled⟩ := List.exists_cons_of_ne_nil filled
  refine ⟨c, rest, spelled, Bool.eq_false_iff.mpr fun blank => ?_⟩
  have held := inside c (spelled ▸ List.mem_cons_self)
  rw [blanks c blank] at held
  cases held

/-- The number of a decimal call has something in it, all of it digits and points. -/
theorem isNumberPart_of_spells (spells : decimalDigits.Spells taken) :
    taken ≠ [] ∧ ∀ c ∈ taken, isNumberPart c = true := by
  obtain ⟨_, behind, ⟨before, point, digits, pointed, rfl⟩, later, rfl⟩ := spells
  obtain ⟨filled, digits'⟩ := spells_oneOrMore.mp later
  refine ⟨List.append_ne_nil_of_right_ne_nil _ filled, ?_⟩
  have number {part : List Char} (digits : ∀ c ∈ part, isPlainDigit c = true) :
      ∀ c ∈ part, isNumberPart c = true :=
    fun c inside => Bool.or_eq_true_iff.mpr (.inl (digits c inside))
  have point : ∀ c ∈ point, isNumberPart c = true := by
    rcases spells_maybe.mp pointed with point | rfl
    · rw [spells_lit.mp point]
      exact List.all_eq_true.mp (by decide)
    · simp
  simp only [List.forall_mem_append]
  exact ⟨⟨number digits, point⟩, number digits'⟩

/-- A decimal argument is a number of this form. -/
theorem decimalDigits_spells (number : DecimalArgument) : decimalDigits.Spells number.chars := by
  have digits (run : Digits) : (oneOrMore isPlainDigit).Spells run.chars :=
    spells_oneOrMore.mpr ⟨run.chars_ne_nil, Digits.isPlainDigit_of_mem⟩
  cases number with
  | whole run => exact ⟨[], run.chars, ⟨[], [], by simp [Spells], .inr rfl, rfl⟩, digits run, rfl⟩
  | pointed before behind =>
    have point : (maybe (lit ".")).Spells ['.'] := .inl (spells_lit.mpr rfl)
    refine ⟨before.elim [] Digits.chars ++ ['.'], behind.chars, ⟨_, ['.'], ?_, point, rfl⟩,
      digits behind, by simp [DecimalArgument.chars]⟩
    cases before with
    | none => simp [Spells]
    | some run => exact Digits.isPlainDigit_of_mem

/-- The first pattern takes exactly the calls with a decimal. -/
theorem decimalCall_answers :
    Answers decimalCall fun call => call.decimal?.map fun number => [number.chars] where
  edgeless := by decide
  begins spells := by
    obtain ⟨number, -, spaced, -⟩ := spellsKeeping_decimalCall.mp spells
    exact spaced.prefix_first
  keeps {call} taken texts written kept := by
    cases call with
    | list above below => cases kept
    | decimal number =>
      obtain rfl : [number.chars] = texts := Option.some.inj kept
      refine spellsKeeping_decimalCall.mpr ⟨String.ofList number.chars, ?_, written, ?_⟩ <;>
        rw [String.toList_ofList]
      exact decimalDigits_spells number
  agrees {call} taken rest stretch more texts written spells same := by
    obtain ⟨argument, spelled, spaced, rfl⟩ := spellsKeeping_decimalCall.mp spells
    obtain ⟨filled, inside⟩ := isNumberPart_of_spells spelled
    have solid := startsSolid_of_forall filled inside fun _ => isNumberPart_of_isBlank
    cases call with
    | decimal number =>
      obtain ⟨filled', inside'⟩ := isNumberPart_of_spells (decimalDigits_spells number)
      rw [← String.toList_ofList (l := number.chars)] at filled' inside'
      have solid' := startsSolid_of_forall filled' inside' fun _ => isNumberPart_of_isBlank
      obtain ⟨later, later', here, here', same⟩ := Spaced.peel written spaced solid' solid same
      have closes : ∃ c letters, ")".toList = c :: letters ∧ isNumberPart c = false :=
        ⟨')', [], rfl, by decide⟩
      have word := here.same_word here' inside' inside (fun _ => isNumberPart_of_isBlank)
        closes closes same
      rw [← word, String.toList_ofList]
      rfl
    | list above below =>
      -- A bracket begins no number.
      obtain ⟨later, later', here, here', same⟩ :=
        Spaced.peel written spaced ⟨'[', [], rfl, by decide⟩ solid same
      have head := here.same_head here' (by decide) filled same
      have bracket := inside '[' (List.mem_of_mem_head? (head ▸ rfl))
      exact absurd bracket (by decide)

/-! ## The other forms: a list -/

/-- A pattern for digits alone, which keeps nothing. -/
structure IsNumeral (p : Pattern) : Prop where
  edgeless : p.edgeless = true
  captureless : p.captureless = true
  filled : ∀ {taken : List Char}, p.Spells taken → taken ≠ []
  digits : ∀ {taken : List Char}, p.Spells taken → ∀ c ∈ taken, Text.isDigit c = true

/-- A blank is no digit. -/
theorem isDigit_of_isBlank {c : Char} (blank : Text.isBlank c = true) : Text.isDigit c = false := by
  refine Bool.eq_false_iff.mpr fun digit => ?_
  rw [Text.isBlank_of_isDigit digit] at blank
  cases blank

/-- The words of a call with a list are told by a text that begins with it. -/
theorem list_words_unique {above below above' below' : String} {taken taken' rest rest' : List Char}
    (written : Spaced [ChainCall.start, "[", above, ",", below, "]", ")"] taken)
    (written' : Spaced [ChainCall.start, "[", above', ",", below', "]", ")"] taken')
    (numbers : ∀ word ∈ [above, below, above', below'],
      word.toList ≠ [] ∧ ∀ c ∈ word.toList, Text.isDigit c = true)
    (same : taken ++ rest = taken' ++ rest') : above = above' ∧ below = below' := by
  simp only [List.forall_mem_cons, List.not_mem_nil, false_imp_iff, implies_true, and_true]
    at numbers
  obtain ⟨⟨filled, inside⟩, ⟨filled₂, inside₂⟩, ⟨filled', inside'⟩, filled₂', inside₂'⟩ := numbers
  have blanks (c : Char) : Text.isBlank c = true → Text.isDigit c = false := isDigit_of_isBlank
  have solid {word : String} (filled : word.toList ≠ [])
      (inside : ∀ c ∈ word.toList, Text.isDigit c = true) : StartsSolid word :=
    startsSolid_of_forall filled inside blanks
  have bracket : StartsSolid "[" := ⟨'[', [], rfl, by decide⟩
  have comma : StartsSolid "," := ⟨',', [], rfl, by decide⟩
  have commaEnds : ∃ c letters, ",".toList = c :: letters ∧ Text.isDigit c = false :=
    ⟨',', [], rfl, by decide⟩
  have bracketEnds : ∃ c letters, "]".toList = c :: letters ∧ Text.isDigit c = false :=
    ⟨']', [], rfl, by decide⟩
  obtain ⟨_, _, list, list', same⟩ := written.peel written' bracket bracket same
  obtain ⟨_, _, numbers, numbers', same⟩ :=
    list.peel list' (solid filled inside) (solid filled' inside') same
  obtain rfl := numbers.same_word numbers' inside inside' blanks commaEnds commaEnds same
  obtain ⟨_, _, behind, behind', same⟩ := numbers.peel numbers' comma comma same
  obtain ⟨_, _, last, last', same⟩ :=
    behind.peel behind' (solid filled₂ inside₂) (solid filled₂' inside₂') same
  exact ⟨rfl, last.same_word last' inside₂ inside₂' blanks bracketEnds bracketEnds same⟩

/-- A pattern for lists takes exactly the calls with a list whose numbers fit. -/
theorem ratioCall_answers {fits : Digits → Digits → Bool} (above : IsNumeral numerator)
    (below : IsNumeral denominator) (told : ∀ first second, fits first second = true ↔
      numerator.Spells first.chars ∧ denominator.Spells second.chars) :
    Answers (ratioCall numerator denominator) fun call =>
      (call.list? fits).map fun numbers => [numbers.1.chars, numbers.2.chars] where
  edgeless := by
    refine edgeless_spaced fun piece listed => ?_
    simp only [List.mem_cons, List.not_mem_nil, or_false] at listed
    rcases listed with rfl | rfl | rfl | rfl | rfl | rfl | rfl
    all_goals first | exact edgeless_lit _ | exact above.edgeless | exact below.edgeless
  begins spells := by
    obtain ⟨_, _, -, -, spaced, -⟩ :=
      (spellsKeeping_ratioCall above.captureless below.captureless).mp spells
    exact spaced.prefix_first
  keeps {call} taken texts written kept := by
    cases call with
    | decimal number => cases kept
    | list first second =>
      obtain ⟨numbers, listed, rfl⟩ := Option.map_eq_some_iff.mp kept
      obtain ⟨fitting, both⟩ := Option.ite_none_right_eq_some.mp listed
      obtain rfl : (first, second) = numbers := Option.some.inj both
      obtain ⟨spells, spells'⟩ := (told first second).mp fitting
      refine (spellsKeeping_ratioCall above.captureless below.captureless).mpr
        ⟨String.ofList first.chars, String.ofList second.chars, ?_, ?_, written, ?_⟩ <;>
        simp only [String.toList_ofList, spells, spells']
  agrees {call} taken rest stretch more texts written spells same := by
    obtain ⟨first', second', spelled, spelled', spaced, rfl⟩ :=
      (spellsKeeping_ratioCall above.captureless below.captureless).mp spells
    cases call with
    | decimal number =>
      -- A bracket begins no number.
      obtain ⟨filled, inside⟩ := isNumberPart_of_spells (decimalDigits_spells number)
      rw [← String.toList_ofList (l := number.chars)] at filled inside
      have solid := startsSolid_of_forall filled inside fun _ => isNumberPart_of_isBlank
      obtain ⟨later, later', here, here', same⟩ :=
        Spaced.peel written spaced solid ⟨'[', [], rfl, by decide⟩ same
      have head := here.same_head here' filled (by decide) same
      have bracket := inside '[' (List.mem_of_mem_head? (head ▸ rfl))
      exact absurd bracket (by decide)
    | list first second =>
      have digits (run : Digits) : (String.ofList run.chars).toList ≠ [] ∧
          ∀ c ∈ (String.ofList run.chars).toList, Text.isDigit c = true := by
        rw [String.toList_ofList]
        exact ⟨run.chars_ne_nil, fun c inside =>
          isDigit_of_isPlainDigit (Digits.isPlainDigit_of_mem c inside)⟩
      obtain ⟨rfl, rfl⟩ := list_words_unique written spaced (by
        simp only [List.forall_mem_cons, List.not_mem_nil, false_imp_iff, implies_true, and_true]
        exact ⟨digits first, digits second, ⟨above.filled spelled, above.digits spelled⟩,
          below.filled spelled', below.digits spelled'⟩) same
      rw [String.toList_ofList] at spelled spelled'
      rw [ChainCall.list?, if_pos ((told first second).mpr ⟨spelled, spelled'⟩),
        String.toList_ofList, String.toList_ofList]
      rfl

/-- Digits of any number make a number. -/
theorem isNumeral_oneOrMore : IsNumeral (oneOrMore Text.isDigit) where
  edgeless := by decide
  captureless := by decide
  filled spells := (spells_oneOrMore.mp spells).1
  digits spells := (spells_oneOrMore.mp spells).2

/-- The second pattern takes exactly the calls with a list. -/
theorem fractionCall_answers : Answers fractionCall fun call =>
    (call.list? fun _ _ => true).map fun numbers => [numbers.1.chars, numbers.2.chars] := by
  have spells (run : Digits) : (oneOrMore Text.isDigit).Spells run.chars :=
    spells_oneOrMore.mpr ⟨run.chars_ne_nil, fun c inside =>
      isDigit_of_isPlainDigit (Digits.isPlainDigit_of_mem c inside)⟩
  exact ratioCall_answers isNumeral_oneOrMore isNumeral_oneOrMore fun first second =>
    ⟨fun _ => ⟨spells first, spells second⟩, fun _ => rfl⟩

/-- A percentage has two or three digits. -/
def percentDigits : Pattern := one Text.isDigit ++ one Text.isDigit ++ maybe (one Text.isDigit)

/-- Two or three digits are what the pattern for them spells. -/
theorem spells_percentDigits : percentDigits.Spells taken ↔
    (∀ c ∈ taken, Text.isDigit c = true) ∧ (taken.length = 2 ∨ taken.length = 3) := by
  constructor
  · rintro ⟨_, last, ⟨_, _, ⟨first, digit, rfl⟩, ⟨second, digit', rfl⟩, rfl⟩,
      ⟨third, digit'', rfl⟩ | rfl, rfl⟩
    · simp [digit, digit', digit'']
    · simp [digit, digit']
  · rintro ⟨digits, two | three⟩
    · obtain ⟨first, second, rfl⟩ := List.length_eq_two.mp two
      simp only [List.forall_mem_cons] at digits
      exact ⟨[first, second], [], ⟨[first], [second], ⟨first, digits.1, rfl⟩,
        ⟨second, digits.2.1, rfl⟩, rfl⟩, .inr rfl, rfl⟩
    · obtain ⟨first, second, third, rfl⟩ := List.length_eq_three.mp three
      simp only [List.forall_mem_cons] at digits
      exact ⟨[first, second], [third], ⟨[first], [second], ⟨first, digits.1, rfl⟩,
        ⟨second, digits.2.1, rfl⟩, rfl⟩, .inl ⟨third, digits.2.2.1, rfl⟩, rfl⟩

/-- The third pattern takes exactly the calls with a list that is a percentage. -/
theorem percentCall_answers : Answers percentCall fun call =>
    (call.list? ChainCall.isPercentage).map fun numbers => [numbers.1.chars, numbers.2.chars] := by
  have percent : IsNumeral percentDigits :=
    { edgeless := by decide
      captureless := by decide
      filled := fun spells => by
        rintro rfl
        exact absurd (spells_percentDigits.mp spells).2 (by decide)
      digits := fun spells => (spells_percentDigits.mp spells).1 }
  have hundred : IsNumeral (lit "100") :=
    { edgeless := by decide
      captureless := by decide
      filled := fun spells => by
        rw [spells_lit.mp spells]
        decide
      digits := fun spells => by
        rw [spells_lit.mp spells]
        exact List.all_eq_true.mp (by decide) }
  refine ratioCall_answers percent hundred fun first second => ?_
  have written : "100".toList = [1, 0, 0].map Digits.charOf := by decide
  have counted : first.chars.length = first.values.length := List.length_map _
  have digits : ∀ c ∈ first.chars, Text.isDigit c = true := fun c inside =>
    isDigit_of_isPlainDigit (Digits.isPlainDigit_of_mem c inside)
  change _ ↔ percentDigits.Spells _ ∧ _
  have hundreds : second.chars = [1, 0, 0].map Digits.charOf ↔ second.values = [1, 0, 0] :=
    Digits.charOf_injective.list_map.eq_iff
  rw [spells_percentDigits, spells_lit, written, counted, hundreds, and_iff_right digits]
  simp [ChainCall.isPercentage]

end Signal

end AbilityHooks
