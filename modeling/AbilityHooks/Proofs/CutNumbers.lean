import AbilityHooks.Proofs.DetectorHooks
import AbilityHooks.Proofs.PriorityShift
import AbilityHooks.Proofs.Spelling
import Mathlib.Data.List.Infix

/-!
# Numbers that are cut off

Three detectors read a number from the text of a handler: a shift of priority, the power that weak
moves have at most, and the zero that a stat is set to. Each of them looks at digits alone and not at
what comes behind them, so the number may be the beginning of a longer literal. It is the whole
literal exactly if the literal does not go on behind the digits.
-/

namespace AbilityHooks

/-! ## Literals -/

/-- A character that a number literal may hold behind its first digit: a letter or digit, a point, or
a separator. -/
def isLiteralPart (c : Char) : Bool := c.isAlphanum || c == '.' || c == '_'

/-- The number literal that characters begin with, as far as the sign of an exponent. -/
def numberLiteral (chars : List Char) : List Char := chars.takeWhile isLiteralPart

/-- The literal that digits begin is these digits: it does not go on behind them. -/
def ReadWhole (digits rest : List Char) : Prop := numberLiteral (digits ++ rest) = digits

instance (digits rest : List Char) : Decidable (ReadWhole digits rest) :=
  inferInstanceAs (Decidable (_ = _))

/-- Digits belong to the literal that they begin. -/
theorem numberLiteral_append {digits : List Char} (digit : ∀ c ∈ digits, c.isDigit = true)
    (rest : List Char) : numberLiteral (digits ++ rest) = digits ++ numberLiteral rest := by
  refine List.takeWhile_append_of_pos fun c inside => ?_
  simp [isLiteralPart, Char.isAlphanum, digit c inside]

/-- Digits are the whole literal exactly if no part of a literal comes next. -/
theorem readWhole_iff {digits rest : List Char} (digit : ∀ c ∈ digits, c.isDigit = true) :
    ReadWhole digits rest ↔ rest.head?.any isLiteralPart = false := by
  rw [ReadWhole, numberLiteral_append digit, List.append_right_eq_self, numberLiteral]
  cases rest with
  | nil => simp
  | cons c rest => cases part : isLiteralPart c <;> simp [part]

/-! ## Where numbers stand -/

namespace Detector

open Pattern Signal

/-- Characters begin with a return of the priority with a sign and digits added, and this text stands
behind the digits. All digits that are there are taken. -/
def BeginsWithNumber (chars sign digits rest : List Char) : Prop :=
  ∃ gap before after : List Char,
    chars = "return".toList ++ (gap ++ ("priority".toList ++ (before ++ ("+".toList ++
      (after ++ (sign ++ (digits ++ rest))))))) ∧
    gap ≠ [] ∧ (∀ c ∈ gap ++ before ++ after, Text.isBlank c = true) ∧
    (sign = [] ∨ sign = ['-']) ∧
    digits ≠ [] ∧ (∀ c ∈ digits, Text.isDigit c = true) ∧ ∀ c ∈ rest.head?, Text.isDigit c = false

/-- The leftmost return of the priority with a number added has this sign and these digits, and this
text stands behind them. -/
def FirstNumber (body : String) (sign digits rest : List Char) : Prop :=
  ∃ skipped shift, body.toList = skipped ++ shift ∧ BeginsWithNumber shift sign digits rest ∧
    ∀ shorter longer, body.toList = shorter ++ longer → shorter.length < skipped.length →
      ∀ sign digits, ¬BeginsWithShift longer sign digits

/-- A comparison asks for at most this number, and this text stands behind the number. -/
def AsksAtMost (body : String) (digits rest : List Char) : Prop :=
  ∃ front gap, (∀ c ∈ gap, Text.isBlank c = true) ∧
    body.toList = front ++ ("<=".toList ++ (gap ++ (digits ++ rest)))

/-- One of some stats in a table of boosts is set to this number, and this text stands behind the
number. -/
def SetsStat (body : String) (stats : List String) (digits rest : List Char) : Prop :=
  ∃ front opening stat closing before after, stat ∈ stats ∧ plainQuote.Spells opening ∧
    plainQuote.Spells closing ∧ (∀ c ∈ before ++ after, Text.isBlank c = true) ∧
    body.toList = front ++ ("boosts[".toList ++ (opening ++ (stat.toList ++ (closing ++
      ("]".toList ++ (before ++ ("=".toList ++ (after ++ (digits ++ rest)))))))))

/-- The first shift of a body is the first number that is added, whatever stands behind it. -/
theorem firstShift_iff {body : String} {sign digits : List Char} :
    FirstShift body sign digits ↔ ∃ rest, FirstNumber body sign digits rest := by
  constructor
  · rintro ⟨skipped, shift, split, ⟨gap, before, after, rest, begins⟩, leftmost⟩
    exact ⟨rest, skipped, shift, split, ⟨gap, before, after, begins⟩, leftmost⟩
  · rintro ⟨rest, skipped, shift, split, ⟨gap, before, after, begins⟩, leftmost⟩
    exact ⟨skipped, shift, split, ⟨gap, before, after, rest, begins⟩, leftmost⟩

/-- A shift is recorded exactly if it is the number of the first digits and fits. -/
theorem mem_priorityShift_iff {ability : Ability} {shift : PriorityShift} :
    (.onModifyPriority, .priority shift) ∈ priorityShift.hooksOf ability ↔
      ∃ body sign digits rest, ability.body? "onModifyPriority" = some body ∧
        FirstNumber body sign digits rest ∧ ShiftFits sign digits ∧
        shift = ⟨Decimal.signedValue sign digits, priorityCondition body⟩ := by
  constructor
  · intro recorded
    obtain ⟨body, present, text, kept, delta, read, same⟩ := mem_priorityShift.mp recorded
    obtain ⟨sign, digits, first⟩ := exists_firstShift kept
    have found : priorityShiftOf body = .ok [(.onModifyPriority, .priority shift)] := by
      simp only [priorityShiftOf, kept, read, same]
    obtain ⟨fits, hooks⟩ := (priorityShiftOf_eq_ok_iff first).mp found
    obtain ⟨rest, number⟩ := firstShift_iff.mp first
    exact ⟨body, sign, digits, rest, present, number, fits, by simpa [shiftHook] using hooks⟩
  · rintro ⟨body, sign, digits, rest, present, number, fits, rfl⟩
    have found : priorityShiftOf body = .ok [shiftHook body sign digits] :=
      (priorityShiftOf_eq_ok_iff (firstShift_iff.mpr ⟨rest, number⟩)).mpr ⟨fits, rfl⟩
    simp [hooksOf, priorityShift, present, found, shiftHook]

/-- Weak moves are asked for exactly if a comparison asks for at most a number that begins with
sixty. -/
theorem occursIn_atMostSixty {body : String} :
    atMostSixty.occursIn body = true ↔ ∃ rest, AsksAtMost body "60".toList rest := by
  have words {taken : List Char} : atMostSixty.Spells taken ↔ Spaced ["<=", "60"] taken :=
    spells_spaced_words ["<=", "60"]
  have blind : atMostSixty.edgeless = true := edgeless_spaced_words ["<=", "60"]
  rw [occursIn_iff_spells blind]
  simp only [words]
  constructor
  · rintro ⟨front, _, rest, ⟨gap, _, blank, rfl, rfl⟩, split⟩
    exact ⟨rest, front, gap, blank, by simpa only [List.append_assoc] using split⟩
  · rintro ⟨rest, front, gap, blank, split⟩
    exact ⟨front, _, rest, ⟨gap, _, blank, rfl, rfl⟩, by simpa only [List.append_assoc] using split⟩

/-- What zeroing a stat spells: the entry of the stat between quotes, a sign, and a zero. -/
theorem spells_zeroes {stats : List String} {taken : List Char} : (zeroes stats).Spells taken ↔
    ∃ opening stat closing before after, stat ∈ stats ∧ plainQuote.Spells opening ∧
      plainQuote.Spells closing ∧ (∀ c ∈ before ++ after, Text.isBlank c = true) ∧
      taken = "boosts[".toList ++ (opening ++ (stat.toList ++ (closing ++
        ("]".toList ++ (before ++ ("=".toList ++ (after ++ "0".toList))))))) := by
  simp only [zeroes, spells_spaced_cons, spells_spaced_last, spells_append, spells_lit,
    spells_words, List.forall_mem_append]
  constructor
  · rintro ⟨_, before, _, ⟨_, _, ⟨_, closing, ⟨_, _, ⟨_, opening, rfl, opens, rfl⟩,
      ⟨stat, listed, rfl⟩, rfl⟩, closes, rfl⟩, rfl, rfl⟩, blankBefore,
      ⟨_, after, _, rfl, blankAfter, rfl, rfl⟩, rfl⟩
    exact ⟨opening, stat, closing, before, after, listed, opens, closes, ⟨blankBefore, blankAfter⟩,
      by simp only [List.append_assoc]⟩
  · rintro ⟨opening, stat, closing, before, after, listed, opens, closes,
      ⟨blankBefore, blankAfter⟩, rfl⟩
    exact ⟨_, before, _, ⟨_, _, ⟨_, closing, ⟨_, _, ⟨_, opening, rfl, opens, rfl⟩,
      ⟨stat, listed, rfl⟩, rfl⟩, closes, rfl⟩, rfl, rfl⟩, blankBefore,
      ⟨_, after, _, rfl, blankAfter, rfl, rfl⟩, by simp only [List.append_assoc]⟩

/-- Zeroing a stat does not look around. -/
theorem edgeless_zeroes (stats : List String) : (zeroes stats).edgeless = true := by
  refine edgeless_spaced fun piece listed => ?_
  rcases List.mem_cons.mp listed with rfl | listed
  · have entry : ((lit "boosts[" ++ plainQuote) ++ words stats).edgeless = true :=
      Bool.and_eq_true_iff.mpr ⟨by decide, edgeless_words stats⟩
    exact Bool.and_eq_true_iff.mpr ⟨Bool.and_eq_true_iff.mpr ⟨entry, rfl⟩, by decide⟩
  · have plain : ∀ piece ∈ [lit "=", lit "0"], piece.edgeless = true := by simp
    exact plain piece listed

/-- A stat is zeroed exactly if it is set to a number that begins with zero. -/
theorem occursIn_zeroes {body : String} {stats : List String} :
    (zeroes stats).occursIn body = true ↔ ∃ rest, SetsStat body stats "0".toList rest := by
  rw [occursIn_iff_spells (edgeless_zeroes stats)]
  simp only [spells_zeroes]
  constructor
  · rintro ⟨front, _, rest, ⟨opening, stat, closing, before, after, listed, opens, closes, blank,
      rfl⟩, split⟩
    exact ⟨rest, front, opening, stat, closing, before, after, listed, opens, closes, blank,
      by simpa only [List.append_assoc] using split⟩
  · rintro ⟨rest, front, opening, stat, closing, before, after, listed, opens, closes, blank,
      split⟩
    exact ⟨front, _, rest, ⟨opening, stat, closing, before, after, listed, opens, closes, blank,
      rfl⟩, by simpa only [List.append_assoc] using split⟩

/-- A side is ignored exactly if one of its stats is set to a number that begins with zero, and sides
are recorded exactly if one of them is ignored. -/
theorem mem_statIgnoring_iff {ability : Ability} {sides : IgnoreBoosts} :
    (.ignoreBoosts, .ignoreBoosts sides) ∈ statIgnoring.hooksOf ability ↔
      ∃ body, ability.body? "onAnyModifyBoost" = some body ∧
        (sides.attacker = true ∨ sides.defender = true) ∧
        (sides.attacker = true ↔ ∃ rest, SetsStat body ["def", "spd", "evasion"] "0".toList rest) ∧
        (sides.defender = true ↔
          ∃ rest, SetsStat body ["atk", "spa", "accuracy"] "0".toList rest) := by
  simp only [mem_statIgnoring, ← occursIn_zeroes, Prod.mk.injEq, true_and,
    HookRecord.ignoreBoosts.injEq, Bool.or_eq_true]
  refine exists_congr fun body => and_congr_right fun _ => ?_
  constructor
  · rintro ⟨either, rfl⟩
    exact ⟨either, Iff.rfl, Iff.rfl⟩
  · rintro ⟨either, attacks, defends⟩
    have same : ignoredSides body = sides :=
      congrArg₂ IgnoreBoosts.mk (Bool.eq_iff_iff.mpr attacks.symm) (Bool.eq_iff_iff.mpr defends.symm)
    exact ⟨same ▸ either, same⟩

/-- Without the two phrases, power is raised exactly if a comparison asks for at most a number that
begins with sixty. -/
theorem technician_ne_nil_iff {ability : Ability} {body : String}
    (present : ability.body? "onBasePower" = some body)
    (unboosted : mentions body "Technician boost" = false)
    (unmultiplied : mentions body "basePowerAfterMultiplier" = false) :
    technician.hooksOf ability ≠ [] ↔ ∃ rest, AsksAtMost body "60".toList rest := by
  rw [ne_eq, List.eq_nil_iff_forall_not_mem, not_forall_not, ← occursIn_atMostSixty]
  simp only [mem_technician, present, Option.some.injEq, exists_eq_left', unboosted, unmultiplied,
    Bool.false_or, exists_and_left, exists_eq', and_true]

/-- Numbers are read from the digits that they begin with. A shift is recorded exactly if the first
number that is added to the priority has digits that fit; power up to sixty is asked for exactly if a
comparison has a number that begins with sixty, unless a phrase says so; and a side is ignored exactly
if one of its stats is set to a number that begins with zero. Any text may stand behind these digits,
and they are the whole literal exactly if the literal does not go on there. -/
theorem numbers_cut_off (ability : Ability) :
    (∀ shift, (.onModifyPriority, .priority shift) ∈ priorityShift.hooksOf ability ↔
      ∃ body sign digits rest, ability.body? "onModifyPriority" = some body ∧
        FirstNumber body sign digits rest ∧ ShiftFits sign digits ∧
        shift = ⟨Decimal.signedValue sign digits, priorityCondition body⟩) ∧
    (∀ body, ability.body? "onBasePower" = some body → mentions body "Technician boost" = false →
      mentions body "basePowerAfterMultiplier" = false →
      (technician.hooksOf ability ≠ [] ↔ ∃ rest, AsksAtMost body "60".toList rest)) ∧
    (∀ sides, (.ignoreBoosts, .ignoreBoosts sides) ∈ statIgnoring.hooksOf ability ↔
      ∃ body, ability.body? "onAnyModifyBoost" = some body ∧
        (sides.attacker = true ∨ sides.defender = true) ∧
        (sides.attacker = true ↔ ∃ rest, SetsStat body ["def", "spd", "evasion"] "0".toList rest) ∧
        (sides.defender = true ↔
          ∃ rest, SetsStat body ["atk", "spa", "accuracy"] "0".toList rest)) ∧
    ∀ digits rest : List Char, (∀ c ∈ digits, c.isDigit = true) →
      (ReadWhole digits rest ↔ rest.head?.any isLiteralPart = false) := by
  exact ⟨fun shift => mem_priorityShift_iff, fun body => technician_ne_nil_iff,
    fun sides => mem_statIgnoring_iff, fun digits rest => readWhole_iff⟩

/-- Digits in a text are not the whole literal if the literal goes on wherever they stand. -/
theorem not_readWhole_of_tails {body : String} {digits rest : List Char}
    (goesOn : ∀ tail ∈ body.toList.tails, digits <+: tail →
      ¬ReadWhole digits (tail.drop digits.length))
    (stand : digits ++ rest <:+ body.toList) : ¬ReadWhole digits rest := by
  have cut := goesOn _ ((List.mem_tails _ _).mpr stand) (List.prefix_append _ _)
  rwa [List.drop_left] at cut

/-- The digits of the first number stand in the body. -/
theorem FirstNumber.suffix {body : String} {sign digits rest : List Char}
    (number : FirstNumber body sign digits rest) : digits ++ rest <:+ body.toList := by
  obtain ⟨skipped, _, split, ⟨gap, before, after, rfl, -⟩, -⟩ := number
  rw [split]
  iterate 8 refine List.suffix_append_of_suffix ?_
  exact List.suffix_refl _

/-- The number of a comparison stands in the body. -/
theorem AsksAtMost.suffix {body : String} {digits rest : List Char}
    (asks : AsksAtMost body digits rest) : digits ++ rest <:+ body.toList := by
  obtain ⟨front, gap, -, split⟩ := asks
  rw [split]
  iterate 3 refine List.suffix_append_of_suffix ?_
  exact List.suffix_refl _

/-- The number that a stat is set to stands in the body. -/
theorem SetsStat.suffix {body : String} {stats : List String} {digits rest : List Char}
    (sets : SetsStat body stats digits rest) : digits ++ rest <:+ body.toList := by
  obtain ⟨front, opening, stat, closing, before, after, -, -, -, -, split⟩ := sets
  rw [split]
  iterate 9 refine List.suffix_append_of_suffix ?_
  exact List.suffix_refl _

/-- A number that is added behind a text without an r is the first one. -/
theorem firstNumber_of_begins {body : String} {skipped shift sign digits rest : List Char}
    (split : body.toList = skipped ++ shift) (begins : BeginsWithNumber shift sign digits rest)
    (none : 'r' ∉ skipped) : FirstNumber body sign digits rest := by
  refine ⟨skipped, shift, split, begins, ?_⟩
  rintro shorter longer again less _ _ ⟨gap, before, after, rest, begun, -⟩
  rw [split, List.append_eq_append_iff] at again
  rcases again with ⟨more, rfl, -⟩ | ⟨more, rfl, ends⟩
  · rw [List.length_append] at less
    omega
  · cases more with
    | nil =>
      rw [List.append_nil] at less
      exact absurd less (lt_irrefl _)
    | cons c more =>
      obtain ⟨rfl, -⟩ : 'r' = c ∧ _ := List.cons.inj (begun.symm.trans ends)
      exact none (by simp)

/-- A handler that adds more than one to the priority. -/
def shiftingBody : String := "\x7b return priority + 1.5; \x7d"

/-- A handler that raises power up to more than sixty. -/
def raisingBody : String := "\x7b if (basePower <= 600) return this.chainModify(1.5); \x7d"

/-- A handler that sets a stat to more than zero. -/
def settingBody : String := "\x7b boosts['def'] = 0.5; \x7d"

/-- An ability with these handlers. -/
def longNumbers : Ability :=
  (((Ability.named "longnumbers").withHandler ⟨"onModifyPriority", shiftingBody, some shiftingBody⟩
    ).withHandler ⟨"onBasePower", raisingBody, some raisingBody⟩
    ).withHandler ⟨"onAnyModifyBoost", settingBody, some settingBody⟩

/-- The first number added there is one, and its literal goes on. -/
theorem firstNumber_shiftingBody : FirstNumber shiftingBody [] "1".toList ".5; \x7d".toList := by
  have blank : ∀ c ∈ [' ', ' ', ' '], Text.isBlank c = true := List.all_eq_true.mp (by decide)
  have ends : ∀ c ∈ ".5; \x7d".toList.head?, Text.isDigit c = false := by
    rintro c ⟨⟩
    decide
  have begins : BeginsWithNumber "return priority + 1.5; \x7d".toList [] "1".toList
      ".5; \x7d".toList :=
    ⟨[' '], [' '], [' '], by decide, by decide, blank, .inl rfl, by decide,
      List.all_eq_true.mp (by decide), ends⟩
  have split : shiftingBody.toList =
      "\x7b ".toList ++ "return priority + 1.5; \x7d".toList := rfl
  exact firstNumber_of_begins split begins (by decide)

/-- A comparison asks there for at most a number that begins with sixty. -/
theorem asksAtMost_raisingBody :
    AsksAtMost raisingBody "60".toList "0) return this.chainModify(1.5); \x7d".toList :=
  ⟨"\x7b if (basePower ".toList, [' '], List.forall_mem_singleton.mpr rfl, by decide⟩

/-- A stat is set there to a number that begins with zero. -/
theorem setsStat_settingBody :
    SetsStat settingBody ["def", "spd", "evasion"] "0".toList ".5; \x7d".toList :=
  ⟨"\x7b ".toList, ['\x27'], "def", ['\x27'], [' '], [' '], by decide, ⟨'\x27', by decide, rfl⟩,
    ⟨'\x27', by decide, rfl⟩, List.all_eq_true.mp (by decide), by decide⟩

/-- One fits. -/
theorem shiftFits_one : ShiftFits [] "1".toList :=
  ⟨List.forall_mem_singleton.mpr (by decide), by decide, by decide⟩

/-- No stat of the other side is set there. -/
theorem not_setsStat_settingBody :
    ¬∃ rest, SetsStat settingBody ["atk", "spa", "accuracy"] "0".toList rest := by
  rw [← occursIn_zeroes]
  decide +kernel

/-- The three records come of digits behind which the literals go on. -/
theorem numbers_cut_off_longer :
    mentions raisingBody "Technician boost" = false ∧
      mentions raisingBody "basePowerAfterMultiplier" = false ∧
      (.onModifyPriority, .priority ⟨1, priorityCondition shiftingBody⟩) ∈
        priorityShift.hooksOf longNumbers ∧
      technician.hooksOf longNumbers ≠ [] ∧
      (.ignoreBoosts, .ignoreBoosts ⟨true, false⟩) ∈ statIgnoring.hooksOf longNumbers := by
  have unboosted : mentions raisingBody "Technician boost" = false := by decide +kernel
  have unmultiplied : mentions raisingBody "basePowerAfterMultiplier" = false := by decide +kernel
  obtain ⟨shifts, asks, ignores, -⟩ := numbers_cut_off longNumbers
  exact ⟨unboosted, unmultiplied,
    (shifts _).mpr ⟨shiftingBody, [], _, _, rfl, firstNumber_shiftingBody, shiftFits_one, rfl⟩,
    (asks raisingBody rfl unboosted unmultiplied).mpr ⟨_, asksAtMost_raisingBody⟩,
    (ignores _).mpr ⟨settingBody, rfl, .inl rfl, iff_of_true rfl ⟨_, setsStat_settingBody⟩,
      iff_of_false Bool.false_ne_true not_setsStat_settingBody⟩⟩

/-- A shift by one, power up to sixty and stats set to zero are recorded where none of these numbers
is a whole literal. -/
theorem longer_literals_recorded :
    ((.onModifyPriority, .priority ⟨1, priorityCondition shiftingBody⟩) ∈
        priorityShift.hooksOf longNumbers ∧
      ∀ body sign digits rest, longNumbers.body? "onModifyPriority" = some body →
        FirstNumber body sign digits rest → ¬ReadWhole digits rest) ∧
    (technician.hooksOf longNumbers ≠ [] ∧
      ∀ body rest, longNumbers.body? "onBasePower" = some body →
        mentions body "Technician boost" = false ∧
        mentions body "basePowerAfterMultiplier" = false ∧
        (AsksAtMost body "60".toList rest → ¬ReadWhole "60".toList rest)) ∧
    ((.ignoreBoosts, .ignoreBoosts ⟨true, false⟩) ∈ statIgnoring.hooksOf longNumbers ∧
      ∀ body rest, longNumbers.body? "onAnyModifyBoost" = some body →
        SetsStat body ["def", "spd", "evasion"] "0".toList rest → ¬ReadWhole "0".toList rest) := by
  have unboosted : mentions raisingBody "Technician boost" = false := by decide +kernel
  have unmultiplied : mentions raisingBody "basePowerAfterMultiplier" = false := by decide +kernel
  refine ⟨⟨?_, ?_⟩, ⟨?_, ?_⟩, ?_, ?_⟩
  · exact mem_priorityShift_iff.mpr
      ⟨shiftingBody, [], _, _, rfl, firstNumber_shiftingBody, shiftFits_one, rfl⟩
  · rintro _ sign digits rest ⟨⟩ number
    obtain ⟨-, rfl⟩ := (firstShift_iff.mpr ⟨_, number⟩).unique
      (firstShift_iff.mpr ⟨_, firstNumber_shiftingBody⟩)
    exact not_readWhole_of_tails (by decide +kernel) number.suffix
  · exact (technician_ne_nil_iff rfl unboosted unmultiplied).mpr ⟨_, asksAtMost_raisingBody⟩
  · rintro _ rest ⟨⟩
    exact ⟨unboosted, unmultiplied, fun asks =>
      not_readWhole_of_tails (by decide +kernel) asks.suffix⟩
  · exact mem_statIgnoring_iff.mpr ⟨settingBody, rfl, .inl rfl,
      iff_of_true rfl ⟨_, setsStat_settingBody⟩,
      iff_of_false Bool.false_ne_true not_setsStat_settingBody⟩
  · rintro _ rest ⟨⟩ sets
    exact not_readWhole_of_tails (by decide +kernel) sets.suffix

end Detector

end AbilityHooks
