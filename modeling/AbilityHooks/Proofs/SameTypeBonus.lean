import AbilityHooks.Proofs.Spelling
import AbilityHooks.Proofs.StandardRegistry

/-!
# The record of the same-type bonus

Whatever the handler of the same-type bonus says, a run of the standard registry records exactly one
thing about it, and no other detector adds to that. Which of three things it is depends on whether
the handler has a body and on whether the body states the raised bonus in one of three forms, each
of which is told here by the characters of the text alone.
-/

namespace AbilityHooks

open Detector

/-- A text compares the bonus with two, and later returns two and a quarter, and later two. -/
def StatesLadder (text : String) : Prop :=
  ∃ before test between first beyond second after : List Char,
    text.toList = before ++ (test ++ (between ++ (first ++ (beyond ++ (second ++ after))))) ∧
      Spaced ["stab", "===", "2"] test ∧ Spaced ["return", "2.25"] first ∧
      Spaced ["return", "2"] second

/-- A text multiplies by nine quarters. -/
def StatesNineQuarters (text : String) : Prop :=
  ∃ before call after : List Char, text.toList = before ++ (call ++ after) ∧
    Spaced ["chainModify(", "[", "9", ",", "4", "]", ")"] call

/-- A text returns two, with or without a fraction. -/
def StatesTwo (text : String) : Prop :=
  ∃ before result after : List Char, text.toList = before ++ (result ++ after) ∧
    (Spaced ["return", "2", ";"] result ∨ Spaced ["return", "2.0", ";"] result)

/-- A text states the raised bonus. -/
def StatesRaise (text : String) : Prop :=
  StatesLadder text ∨ StatesNineQuarters text ∨ StatesTwo text

namespace Detector

open Pattern

/-- The search for the ladder finds it wherever it is. -/
theorem bonusLadder_iff {body : String} :
    bonusLadder.occursIn body = true ↔ StatesLadder body := by
  rw [occursIn_iff_spells (by decide)]
  have words := fun texts taken => @spells_spaced_words taken texts
  constructor
  · rintro ⟨before, _, after, ⟨_, second, ⟨_, beyond, ⟨_, first, ⟨test, between, compares, -, rfl⟩,
      returns, rfl⟩, -, rfl⟩, returnsAgain, rfl⟩, split⟩
    refine ⟨before, test, between, first, beyond, second, after, ?_,
      (words ["stab", "===", "2"] test).mp compares, (words ["return", "2.25"] first).mp returns,
      (words ["return", "2"] second).mp returnsAgain⟩
    simpa only [List.append_assoc] using split
  · rintro ⟨before, test, between, first, beyond, second, after, split, compares, returns,
      returnsAgain⟩
    refine ⟨before, test ++ between ++ first ++ beyond ++ second, after, ?_, ?_⟩
    · exact ⟨_, second, ⟨_, beyond, ⟨_, first, ⟨test, between, (words _ _).mpr compares,
        fun _ _ => rfl, rfl⟩, (words _ _).mpr returns, rfl⟩, fun _ _ => rfl, rfl⟩,
        (words _ _).mpr returnsAgain, rfl⟩
    · simpa only [List.append_assoc] using split

/-- The search for nine quarters finds them wherever they are. -/
theorem nineQuarters_iff {body : String} :
    nineQuarters.occursIn body = true ↔ StatesNineQuarters body := by
  have words := fun taken =>
    @spells_spaced_words taken ["chainModify(", "[", "9", ",", "4", "]", ")"]
  rw [occursIn_iff_spells (by decide)]
  constructor
  · rintro ⟨before, taken, after, spells, split⟩
    exact ⟨before, taken, after, split, (words taken).mp spells⟩
  · rintro ⟨before, taken, after, split, spaced⟩
    exact ⟨before, taken, after, (words taken).mpr spaced, split⟩

/-- The number two is spelled with a fraction or without. -/
theorem spells_two {taken : List Char} :
    (lit "2" ++ maybe (captured (lit ".0"))).Spells taken ↔
      taken = "2".toList ∨ taken = "2.0".toList := by
  rw [spells_append]
  simp only [maybe, Spells, spells_lit]
  constructor
  · rintro ⟨_, _, rfl, rfl | rfl, rfl⟩
    · exact .inr rfl
    · exact .inl rfl
  · rintro (rfl | rfl)
    · exact ⟨_, [], rfl, .inr rfl, rfl⟩
    · exact ⟨_, _, rfl, .inl rfl, rfl⟩

/-- The search for a return of two finds it wherever it is. -/
theorem returnsTwo_iff {body : String} : returnsTwo.occursIn body = true ↔ StatesTwo body := by
  have spells : ∀ taken, returnsTwo.Spells taken ↔
      Spaced ["return", "2", ";"] taken ∨ Spaced ["return", "2.0", ";"] taken := by
    intro taken
    simp only [returnsTwo, spells_spaced_cons, spells_spaced_last, spells_two, spells_lit, Spaced]
    constructor
    · rintro ⟨_, gap, _, rfl, blank, ⟨_, more, _, rfl | rfl, blankMore, rfl, rfl⟩, rfl⟩
      · exact .inl ⟨gap, _, blank, ⟨more, _, blankMore, rfl, rfl⟩, rfl⟩
      · exact .inr ⟨gap, _, blank, ⟨more, _, blankMore, rfl, rfl⟩, rfl⟩
    · rintro (⟨gap, _, blank, ⟨more, _, blankMore, rfl, rfl⟩, rfl⟩ |
        ⟨gap, _, blank, ⟨more, _, blankMore, rfl, rfl⟩, rfl⟩)
      · exact ⟨_, gap, _, rfl, blank, ⟨_, more, _, .inl rfl, blankMore, rfl, rfl⟩, rfl⟩
      · exact ⟨_, gap, _, rfl, blank, ⟨_, more, _, .inr rfl, blankMore, rfl, rfl⟩, rfl⟩
  rw [occursIn_iff_spells (by decide)]
  constructor
  · rintro ⟨before, taken, after, found, split⟩
    exact ⟨before, taken, after, split, (spells taken).mp found⟩
  · rintro ⟨before, taken, after, split, found⟩
    exact ⟨before, taken, after, (spells taken).mpr found, split⟩

/-- A body raises the bonus exactly if it states so in one of the three forms. -/
theorem raisesBonus_iff {body : String} : raisesBonus body = true ↔ StatesRaise body := by
  rw [raisesBonus, Bool.or_eq_true, Bool.or_eq_true, bonusLadder_iff, nineQuarters_iff,
    returnsTwo_iff, or_assoc]
  rfl

/-- Each of the three records tells what the handler has. -/
theorem sameTypeRecord_tells (body? : Option String) :
    (sameTypeRecord body? = .note .presentNoBody ↔ body? = none) ∧
    (sameTypeRecord body? = .stab raisedBonus ↔ ∃ body, body? = some body ∧ StatesRaise body) ∧
    (sameTypeRecord body? = .note .customUnparsed ↔
      ∃ body, body? = some body ∧ ¬ StatesRaise body) := by
  cases body? with
  | none => simp [sameTypeRecord]
  | some body =>
    by_cases raises : raisesBonus body = true
    · simp [sameTypeRecord, raises, raisesBonus_iff.mp raises]
    · simp [sameTypeRecord, raises, mt raisesBonus_iff.mpr raises]

end Detector

namespace Registry

/-- What a run of the standard registry records about the same-type bonus is what its detector finds. -/
theorem standard_sameType_records (ability : Ability) :
    (Registry.standard.run ability).value.records .onModifyStab =
      ((ability.handler? "onModifySTAB").map fun handler =>
        sameTypeRecord handler.body).toList := by
  rw [@standard_records sameType (by simp [Registry.standard]) _ fun _ => rfl]
  change recordsUnder _ ((ability.handler? "onModifySTAB").map _).toList = _
  cases ability.handler? "onModifySTAB" with
  | none => rfl
  | some handler => rfl

/-- A run of the standard registry has no record of the same-type bonus exactly if the ability has no
property of that name, and otherwise it has exactly one: that the first such property has no body,
the raised bonus if the body states it, or that the body states something else. -/
theorem standard_sameType (ability : Ability) :
    let found := (Registry.standard.run ability).value.get? .onModifyStab
    (found = none ↔ ∀ handler ∈ ability.handlers, handler.name ≠ "onModifySTAB") ∧
    (∀ first earlier later, ability.handlers = earlier ++ first :: later →
      first.name = "onModifySTAB" → (∀ handler ∈ earlier, handler.name ≠ "onModifySTAB") →
      ∃ record, found = some [record] ∧
        (record = .note .presentNoBody ↔ first.body = none) ∧
        (record = .stab ⟨"hasSTAB", 2.0, 1.5, 2.25⟩ ↔
          ∃ body, first.body = some body ∧ StatesRaise body) ∧
        (record = .note .customUnparsed ↔
          ∃ body, first.body = some body ∧ ¬ StatesRaise body)) := by
  intro found
  have answer : found = (ability.handler? "onModifySTAB").map fun handler =>
      [sameTypeRecord handler.body] := by
    change (Registry.standard.run ability).value.get? .onModifyStab = _
    rw [HookTable.get?_eq, standard_sameType_records]
    cases ability.handler? "onModifySTAB" with
    | none => rfl
    | some handler => rfl
  constructor
  · rw [answer, Option.map_eq_none_iff, Ability.handler?, List.find?_eq_none]
    simp only [beq_iff_eq, ne_eq]
  · intro first earlier later split named others
    have looked : ability.handler? "onModifySTAB" = some first := by
      rw [Ability.handler?, List.find?_eq_some_iff_append]
      refine ⟨by simp [named], earlier, later, split, fun handler inside => ?_⟩
      simp [others handler inside]
    exact ⟨sameTypeRecord first.body, by rw [answer, looked]; rfl, sameTypeRecord_tells first.body⟩

/-- A ladder over several lines, with a second property of the same name behind it. -/
theorem standard_sameType_ladder :
    let body := "if (stab === 2) return 2.25\n\treturn 2"
    let ability := ((Ability.named "adaptability").withHandler
      ⟨"onModifySTAB", "", some body⟩).withHandler ⟨"onModifySTAB", "", none⟩
    StatesRaise body ∧ (Registry.standard.run ability).value.get? .onModifyStab =
      some [.stab ⟨"hasSTAB", 2.0, 1.5, 2.25⟩] := by
  intro body ability
  have blank : ∀ c ∈ [' '], Text.isBlank c = true := List.all_eq_true.mp (by decide)
  have raise : StatesRaise body :=
    .inl ⟨"if (".toList, "stab === 2".toList, ") ".toList, "return 2.25".toList, "\n\t".toList,
      "return 2".toList, [], by decide, ⟨[' '], _, blank, ⟨[' '], _, blank, rfl, rfl⟩, rfl⟩,
      ⟨[' '], _, blank, rfl, rfl⟩, ⟨[' '], _, blank, rfl, rfl⟩⟩
  obtain ⟨record, found, -, bonus, -⟩ :=
    (standard_sameType ability).2 ⟨"onModifySTAB", "", some body⟩ [] _ rfl rfl (by simp)
  rw [found, bonus.mpr ⟨body, rfl, raise⟩]
  exact ⟨raise, rfl⟩

end Registry

end AbilityHooks
