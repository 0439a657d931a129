import AbilityHooks.Detector.Standard
import AbilityHooks.Proofs.Failures
import AbilityHooks.Proofs.IntegerText
import AbilityHooks.Proofs.PatternRuns
import AbilityHooks.Proofs.StandardRegistry

/-!
# The one detector that can fail

A shift of priority is a number in the text of a handler, and the number may not fit. What the
search for it finds is told by the characters of the text alone: the leftmost stretch that returns
the priority with a sign and digits added. The detector fails exactly if these digits are not all
ASCII or denote a number beyond 32 bits. No other standard detector fails, so the failure of this
one is the only one that a run of the standard registry can report.
-/

namespace AbilityHooks

namespace Text

/-- A decimal digit lies in one of these ranges. -/
theorem inRanges_of_isDigit {c : Char} (digit : isDigit c = true) :
    inRanges ((0x30, 0x39) :: digitRanges) c = true := by
  unfold isDigit at digit
  rw [inRanges, List.any_cons]
  split at digit
  · have ascii : 0x30 ≤ c.toNat ∧ c.toNat ≤ 0x39 := Char.isDigit_iff_toNat.mp digit
    simp [ascii]
  · exact Bool.or_eq_true_iff.mpr (.inr digit)

/-- A digit of any script is one of the ten exactly if it is ASCII. -/
theorem isDigit_iff_ascii {c : Char} (digit : isDigit c = true) :
    c.isDigit = true ↔ c.toNat < 128 := by
  unfold isDigit at digit
  constructor
  · intro plain
    have bounds := Char.isDigit_iff_toNat.mp plain
    have nine : '9'.toNat = 57 := rfl
    omega
  · intro small
    rwa [if_pos small] at digit

/-- A digit is no blank. -/
theorem isBlank_of_isDigit {c : Char} (digit : isDigit c = true) : isBlank c = false := by
  have apart : ∀ number ∈ (0x30, 0x39) :: digitRanges, ∀ blank ∈ blankRanges,
      number.2 < blank.1 ∨ blank.2 < number.1 := by decide
  refine Bool.eq_false_iff.mpr fun white => ?_
  obtain ⟨number, listed, above, below⟩ := inRanges_iff.mp (inRanges_of_isDigit digit)
  obtain ⟨blank, listedBlank, aboveBlank, belowBlank⟩ := inRanges_iff.mp white
  have := apart number listed blank listedBlank
  omega

end Text

namespace Detector

/-- A text begins with a return of the priority with a sign and digits added. All digits that are
there are taken, and blanks may stand around the words. -/
def BeginsWithShift (text sign digits : List Char) : Prop :=
  ∃ gap before after rest : List Char,
    text = "return".toList ++ (gap ++ ("priority".toList ++ (before ++ ("+".toList ++
      (after ++ (sign ++ (digits ++ rest))))))) ∧
    gap ≠ [] ∧ (∀ c ∈ gap ++ before ++ after, Text.isBlank c = true) ∧
    (sign = [] ∨ sign = ['-']) ∧
    digits ≠ [] ∧ (∀ c ∈ digits, Text.isDigit c = true) ∧ ∀ c ∈ rest.head?, Text.isDigit c = false

/-- The leftmost place of a text that begins with a return of the priority with a number added has
the given sign and digits. -/
def FirstShift (text : String) (sign digits : List Char) : Prop :=
  ∃ skipped rest, text.toList = skipped ++ rest ∧ BeginsWithShift rest sign digits ∧
    ∀ shorter longer, text.toList = shorter ++ longer → shorter.length < skipped.length →
      ∀ sign digits, ¬ BeginsWithShift longer sign digits

open Pattern

/-- The number of a shift takes a sign, if there is one, and all digits. -/
theorem number_prefers {start stop : Place} {sign digits : List Char}
    (minus : sign = [] ∨ sign = ['-']) (filled : digits ≠ [])
    (digit : ∀ c ∈ digits, Text.isDigit c = true) (leads : start.Leads (sign ++ digits) stop)
    (ends : ∀ c ∈ stop.rest.head?, Text.isDigit c = false) :
    (captured (maybe (lit "-") ++ oneOrMore Text.isDigit)).Prefers start
      [⟨start.rest, stop.rest⟩] stop := by
  obtain ⟨middle, signed, counted⟩ := Place.Leads.append_iff.mp leads
  have number : (oneOrMore Text.isDigit).Prefers middle [] stop :=
    .oneOrMore filled digit counted ends
  rcases minus with rfl | rfl
  · obtain rfl := Place.Leads.nil_iff.mp signed
    have unsigned : (lit "-").runs middle = [] := by
      refine List.eq_nil_iff_forall_not_mem.mpr fun ⟨kept, last⟩ run => ?_
      have begins := ((mem_runs_lit.mp run).2.head?_rest (by decide)).symm
      rw [counted.head?_rest filled] at begins
      have first := digit '-' (List.mem_of_mem_head? begins.symm)
      exact absurd first (by decide)
    exact .captured (.append (.right unsigned .nothing) number)
  · exact .captured (.append (.left (.lit signed)) number)

/-- Where a text begins with such a return, the pattern keeps the sign and the digits. -/
theorem priorityDelta_prefers {place : Place} {sign digits : List Char}
    (begins : BeginsWithShift place.rest sign digits) :
    ∃ kept stop, priorityDelta.Prefers place [kept] stop ∧ kept.chars = sign ++ digits := by
  obtain ⟨gap, before, after, rest, split, apart, blank, minus, filled, digit, ends⟩ := begins
  obtain ⟨stop, whole, rfl⟩ : ∃ stop, place.Leads ("return".toList ++ (gap ++ ("priority".toList ++
      (before ++ ("+".toList ++ (after ++ (sign ++ digits))))))) stop ∧ stop.rest = rest :=
    ⟨⟨_, rest⟩, .of_rest (by simp only [split, List.append_assoc]), rfl⟩
  obtain ⟨afterReturn, returned, whole⟩ := Place.Leads.append_iff.mp whole
  obtain ⟨beforeName, gapped, whole⟩ := Place.Leads.append_iff.mp whole
  obtain ⟨afterName, named, whole⟩ := Place.Leads.append_iff.mp whole
  obtain ⟨beforePlus, blanked, whole⟩ := Place.Leads.append_iff.mp whole
  obtain ⟨afterPlus, added, whole⟩ := Place.Leads.append_iff.mp whole
  obtain ⟨beforeNumber, blankedAgain, number⟩ := Place.Leads.append_iff.mp whole
  obtain ⟨⟨blankGap, blankBefore⟩, blankAfter⟩ :
      ((∀ c ∈ gap, Text.isBlank c = true) ∧ ∀ c ∈ before, Text.isBlank c = true) ∧
        ∀ c ∈ after, Text.isBlank c = true := by
    simpa only [List.forall_mem_append] using blank
  -- The blanks end where the next piece begins, because no piece begins with a blank.
  have gapEnds : ∀ c ∈ beforeName.rest.head?, Text.isBlank c = false :=
    named.ends rfl (by decide)
  have beforeEnds : ∀ c ∈ beforePlus.rest.head?, Text.isBlank c = false :=
    added.ends rfl (by decide)
  have afterEnds : ∀ c ∈ beforeNumber.rest.head?, Text.isBlank c = false := by
    rcases minus with rfl | rfl
    · rw [number.head?_rest (by simp [filled])]
      exact fun c head => Text.isBlank_of_isDigit (digit c (List.mem_of_mem_head? head))
    · exact number.ends rfl (by decide)
  have words := ((Prefers.lit returned).append
    (.oneOrMore apart blankGap gapped gapEnds)).append (.lit named)
  have sum := ((words.append (.many blankBefore blanked beforeEnds)).append (.lit added)).append
    (.many blankAfter blankedAgain afterEnds)
  exact ⟨_, stop, sum.append (number_prefers minus filled digit number ends), number.chars_capture⟩

/-- Where the pattern has a run, the text begins with such a return. -/
theorem beginsWithShift_of_run {place stop : Place} {kept : List Capture}
    (run : (kept, stop) ∈ priorityDelta.runs place) :
    ∃ sign digits, BeginsWithShift place.rest sign digits := by
  simp only [priorityDelta, Pattern.gap, blanks, mem_runs_append, mem_runs_lit, mem_runs_captured,
    mem_runs_maybe, mem_runs_oneOrMore, mem_runs_many] at run
  obtain ⟨_, _, _, ⟨_, _, _, ⟨_, _, _, ⟨_, _, _, ⟨_, _, _, ⟨_, _, _, ⟨-, returned⟩,
    ⟨-, gap, apart, blankGap, gapped⟩, -⟩, ⟨-, named⟩, -⟩, ⟨-, before, blankBefore, blanked⟩, -⟩,
    ⟨-, added⟩, -⟩, ⟨-, after, blankAfter, blankedAgain⟩, -⟩,
    ⟨_, ⟨_, middle, _, signed, ⟨-, digits, filled, digit, counted⟩, -⟩, -⟩, -⟩ := run
  obtain ⟨sign, minus, signed⟩ :
      ∃ sign, (sign = [] ∨ sign = ['-']) ∧ Place.Leads _ sign middle := by
    rcases signed with ⟨-, leads⟩ | ⟨-, rfl⟩
    · exact ⟨['-'], .inr rfl, leads⟩
    · exact ⟨[], .inl rfl, Place.Leads.nil_iff.mpr rfl⟩
  -- The run may stop early; the digits behind it belong to the same number.
  have all : stop.rest = stop.rest.takeWhile Text.isDigit ++ stop.rest.dropWhile Text.isDigit :=
    (List.takeWhile_append_dropWhile).symm
  refine ⟨sign, digits ++ stop.rest.takeWhile Text.isDigit, gap, before, after,
    stop.rest.dropWhile Text.isDigit, ?_, apart, ?_, minus, by simp [filled], ?_, ?_⟩
  · rw [returned.rest, gapped.rest, named.rest, blanked.rest, added.rest, blankedAgain.rest,
      signed.rest, counted.rest, List.append_assoc, ← all]
  · simpa only [List.forall_mem_append] using ⟨⟨blankGap, blankBefore⟩, blankAfter⟩
  · refine List.forall_mem_append.mpr ⟨digit, fun c inside => ?_⟩
    exact List.all_eq_true.mp List.all_takeWhile c inside
  · intro c head
    have stopped := List.head?_dropWhile_not Text.isDigit stop.rest
    rw [Option.mem_def.mp head] at stopped
    exact stopped

/-- A search in a body keeps the sign and the digits of its first shift. -/
theorem captureIn_priorityDelta {body : String} {sign digits : List Char}
    (first : FirstShift body sign digits) :
    priorityDelta.captureIn body = some (String.ofList (sign ++ digits)) := by
  obtain ⟨skipped, rest, split, begins, leftmost⟩ := first
  have leads : (Place.ofText body).Leads skipped ⟨skipped.getLast?.or none, rest⟩ := .of_rest split
  obtain ⟨kept, stop, prefers, chars⟩ :=
    @priorityDelta_prefers ⟨skipped.getLast?.or none, rest⟩ _ _ begins
  have found : priorityDelta.find? (.ofText body) = some ⟨[kept], stop⟩ := by
    refine find?_eq_some_iff.mpr ⟨skipped, _, leads, prefers, ?_⟩
    intro shorter earlier reached less
    refine List.eq_nil_iff_forall_not_mem.mpr fun ⟨_, last⟩ run => ?_
    obtain ⟨_, _, beginsBefore⟩ := beginsWithShift_of_run run
    exact leftmost shorter earlier.rest reached.rest less _ _ beginsBefore
  rw [captureIn, capturesIn, found]
  simp only [Option.map_some, List.map_cons, Option.bind_some, List.head?_cons, Capture.text, chars]

/-- A body has one first shift at most. -/
theorem FirstShift.unique {body : String} {sign otherSign digits otherDigits : List Char}
    (first : FirstShift body sign digits) (again : FirstShift body otherSign otherDigits) :
    sign = otherSign ∧ digits = otherDigits := by
  have kept := (captureIn_priorityDelta first).symm.trans (captureIn_priorityDelta again)
  have joined : sign ++ digits = otherSign ++ otherDigits :=
    String.ofList_injective (Option.some.inj kept)
  obtain ⟨_, _, -, ⟨_, _, _, _, -, -, -, minus, -, digit, -⟩, -⟩ := first
  obtain ⟨_, _, -, ⟨_, _, _, _, -, -, -, otherMinus, -, otherDigit, -⟩, -⟩ := again
  have minusIsNone : Text.isDigit '-' = false := by decide
  rcases minus with rfl | rfl <;> rcases otherMinus with rfl | rfl
  · exact ⟨rfl, joined⟩
  · have signed := digit '-' (by simp [show digits = '-' :: otherDigits from joined])
    rw [minusIsNone] at signed
    cases signed
  · have signed := otherDigit '-' (by simp [show otherDigits = '-' :: digits from joined.symm])
    rw [minusIsNone] at signed
    cases signed
  · exact ⟨rfl, (List.cons.inj joined).2⟩

/-- A body in which the search keeps something has a first shift. -/
theorem exists_firstShift {body text : String} (kept : priorityDelta.captureIn body = some text) :
    ∃ sign digits, FirstShift body sign digits := by
  obtain ⟨captures, captured, -⟩ := Option.bind_eq_some_iff.mp kept
  obtain ⟨found, search, -⟩ := Option.map_eq_some_iff.mp captured
  obtain ⟨skipped, start, leads, prefers, leftmost⟩ := find?_eq_some_iff.mp search
  obtain ⟨sign, digits, begins⟩ := beginsWithShift_of_run prefers.mem_runs
  refine ⟨sign, digits, skipped, start.rest, leads.rest, begins, ?_⟩
  intro shorter longer split less _ _ beginsBefore
  obtain ⟨_, _, run, -⟩ :=
    @priorityDelta_prefers ⟨shorter.getLast?.or none, longer⟩ _ _ beginsBefore
  have blocked : priorityDelta.runs ⟨shorter.getLast?.or none, longer⟩ = [] :=
    leftmost shorter _ (.of_rest split) less
  have listed := run.mem_runs
  rw [blocked] at listed
  cases listed

/-! ## Shifts that fit -/

/-- The digits of a shift are ASCII, and the number lies within 32 bits. -/
def ShiftFits (sign digits : List Char) : Prop :=
  (∀ c ∈ digits, c.toNat < 128) ∧
    -2147483648 ≤ Decimal.signedValue sign digits ∧ Decimal.signedValue sign digits ≤ 2147483647

/-- The hook of a shift. -/
def shiftHook (body : String) (sign digits : List Char) : Hook :=
  (.onModifyPriority, .priority ⟨Decimal.signedValue sign digits, priorityCondition body⟩)

/-- A body with a first shift is read exactly if the shift fits, and then as that shift. -/
theorem priorityShiftOf_eq_ok_iff {body : String} {sign digits : List Char} {hooks : List Hook}
    (first : FirstShift body sign digits) :
    priorityShiftOf body = .ok hooks ↔
      ShiftFits sign digits ∧ hooks = [shiftHook body sign digits] := by
  have kept := captureIn_priorityDelta first
  obtain ⟨_, _, -, ⟨_, _, _, _, -, -, -, minus, -, digit, -⟩, -⟩ := first
  have unsigned : ∀ c ∈ digits.head?, c ≠ '-' := by
    rintro c head rfl
    exact absurd (digit '-' (List.mem_of_mem_head? head)) (by decide)
  have ascii : (∀ c ∈ digits, c.isDigit = true) ↔ ∀ c ∈ digits, c.toNat < 128 :=
    forall₂_congr fun c inside => Text.isDigit_iff_ascii (digit c inside)
  have read := fun delta => @readInteger_eq_ok_iff sign digits delta minus unsigned
  simp only [priorityShiftOf, kept]
  cases parsed : readInteger (String.ofList (sign ++ digits)) with
  | ok delta =>
    obtain ⟨plain, rfl, within⟩ := (read delta).mp parsed
    have fits : ShiftFits sign digits := ⟨ascii.mp plain, within⟩
    simp only [Except.ok.injEq, fits, true_and, shiftHook]
    exact eq_comm
  | error fault =>
    have unfit : ¬ ShiftFits sign digits := by
      rintro ⟨plain, within⟩
      have fine := (read _).mpr ⟨ascii.mpr plain, rfl, within⟩
      rw [parsed] at fine
      cases fine
    simp only [reduceCtorEq, unfit, false_and]

/-- A body without a shift has no hook. -/
theorem priorityShiftOf_of_none {body : String}
    (none : ∀ sign digits, ¬ FirstShift body sign digits) : priorityShiftOf body = .ok [] := by
  unfold priorityShiftOf
  cases kept : priorityDelta.captureIn body with
  | none => rfl
  | some text =>
    obtain ⟨sign, digits, first⟩ := exists_firstShift kept
    exact absurd first (none sign digits)

/-- The detector fails exactly if the first shift of the body does not fit. -/
theorem priorityShift_fails_iff {ability : Ability} : priorityShift.answers ability = false ↔
    ∃ body sign digits, ability.body? "onModifyPriority" = some body ∧
      FirstShift body sign digits ∧ ¬ ShiftFits sign digits := by
  unfold answers
  simp only [priorityShift]
  cases ability.body? "onModifyPriority" with
  | none => simp [Except.isOk, Except.toBool]
  | some body =>
    simp only [Option.some.injEq, ↓existsAndEq, true_and]
    constructor
    · intro fails
      by_cases shifts : ∃ sign digits, FirstShift body sign digits
      · obtain ⟨sign, digits, first⟩ := shifts
        refine ⟨sign, digits, first, fun fits => ?_⟩
        rw [(priorityShiftOf_eq_ok_iff first).mpr ⟨fits, rfl⟩] at fails
        cases fails
      · rw [priorityShiftOf_of_none fun sign digits first => shifts ⟨sign, digits, first⟩] at fails
        cases fails
    · rintro ⟨sign, digits, first, unfit⟩
      cases found : priorityShiftOf body with
      | error failure => rfl
      | ok hooks => exact absurd ((priorityShiftOf_eq_ok_iff first).mp found).1 unfit

/-- A detector that cannot fail answers. -/
theorem total_answers {name : String} {hooks : Ability → List Hook} {ability : Ability} :
    (total name hooks).answers ability = true := rfl

/-- Every other standard detector answers. -/
theorem standard_answers {ability : Ability} : ∀ detector ∈ Registry.standard,
    detector.name ≠ priorityShiftName → detector.answers ability = true := by
  have fine : ∀ {name hooks}, (total name hooks).name ≠ priorityShiftName →
      (total name hooks).answers ability = true := fun _ => total_answers
  simp only [Registry.standard, List.forall_mem_cons]
  exact ⟨fine, fine, fine, fine, absurd rfl, fine, fine, fine, fine, fine, fine, fine, fine, fine,
    fine, fine, fine, fine, fine, fine, fine, fine, fine, fine, fine, fine, fine, fine, fine, fine,
    fine, fine, by simp⟩

end Detector

namespace Registry

open Detector

/-- The standard registry without the detector of priority shifts. -/
abbrev withoutPriorityShift : Registry :=
  Registry.standard.filter (·.name ≠ priorityShiftName)

/-- The detector of priority shifts has others before it and behind it. -/
theorem standard_around : ∃ earlier later : Registry,
    Registry.standard = earlier ++ priorityShift :: later ∧
      withoutPriorityShift = earlier ++ later :=
  ⟨Registry.standard.take 4, Registry.standard.drop 5, rfl, rfl⟩

/-- The detectors besides that of priority shifts are standard ones with other names. -/
theorem mem_withoutPriorityShift {detector : Detector} : detector ∈ withoutPriorityShift ↔
    detector ∈ Registry.standard ∧ detector.name ≠ priorityShiftName := by
  rw [List.mem_filter, decide_eq_true_iff]

/-- The failures of the standard registry are those of the detector of priority shifts. -/
theorem standard_failures_eq (ability : Ability) :
    Registry.standard.failures ability = (priorityShift.failure? ability).toList := by
  have quiet : withoutPriorityShift.filterMap (·.failure? ability) = [] := by
    refine List.filterMap_eq_nil_iff.mpr fun detector inside => ?_
    obtain ⟨listed, differ⟩ := mem_withoutPriorityShift.mp inside
    exact failure?_eq_none_iff.mpr (standard_answers detector listed differ)
  obtain ⟨earlier, later, around, others⟩ := standard_around
  rw [others, List.filterMap_append, List.append_eq_nil_iff] at quiet
  rw [failures_eq, around, List.filterMap_append, List.filterMap_cons, quiet.1, quiet.2]
  cases priorityShift.failure? ability <;> rfl

/-- The records of priority shifts are those of their detector. -/
theorem standard_priority_records (ability : Ability) :
    (Registry.standard.run ability).value.records .onModifyPriority =
      recordsUnder .onModifyPriority (priorityShift.hooksOf ability) :=
  standard_records (by simp [Registry.standard]) (fun _ => rfl) ability

/-- If the detector of priority shifts fails, the hooks are those of the others. -/
theorem standard_hooksOf_of_fails {ability : Ability}
    (fails : priorityShift.answers ability = false) :
    Registry.standard.hooksOf ability = Registry.hooksOf withoutPriorityShift ability := by
  obtain ⟨earlier, later, around, others⟩ := standard_around
  rw [around, others, hooksOf, hooksOf, List.flatMap_append, List.flatMap_append,
    List.flatMap_cons, hooksOf_of_not_answers fails, List.nil_append]

/-- Only a shift of priority can fail. Every other standard detector answers. The detector of
priority shifts fails exactly if the leftmost return of the priority with a number added has digits
that are not all ASCII or that denote a number beyond 32 bits; if it does not fail, this number is
what it records. Its failure is then the only one of the run, and the hooks are those of the
registry without it. -/
theorem standard_failures (ability : Ability) :
    (∀ detector ∈ Registry.standard, detector.name ≠ priorityShiftName →
      detector.answers ability = true) ∧
    (priorityShift.answers ability = false ↔
      ∃ body sign digits, ability.body? "onModifyPriority" = some body ∧
        FirstShift body sign digits ∧ ¬ ShiftFits sign digits) ∧
    (∀ body sign digits, ability.body? "onModifyPriority" = some body →
      FirstShift body sign digits → priorityShift.answers ability = true →
        priorityShift.detect ability = .ok [shiftHook body sign digits] ∧
        (Registry.standard.run ability).value.records .onModifyPriority =
          [.priority ⟨Decimal.signedValue sign digits, priorityCondition body⟩]) ∧
    (priorityShift.answers ability = false →
      (∃ message, Registry.standard.failures ability = [(priorityShiftName, message)]) ∧
      (Registry.standard.run ability).value =
        (Registry.run (Registry.standard.filter (·.name ≠ priorityShiftName)) ability).value) := by
  refine ⟨standard_answers, priorityShift_fails_iff, ?_, ?_⟩
  · intro body sign digits present first answers
    have fits : ShiftFits sign digits := by
      by_contra unfit
      rw [priorityShift_fails_iff.mpr ⟨body, sign, digits, present, first, unfit⟩] at answers
      cases answers
    have found : priorityShift.detect ability = .ok [shiftHook body sign digits] := by
      simp only [priorityShift, present]
      exact (priorityShiftOf_eq_ok_iff first).mpr ⟨fits, rfl⟩
    refine ⟨found, ?_⟩
    rw [standard_priority_records, Detector.hooksOf, found]
    rfl
  · intro fails
    constructor
    · obtain ⟨message, failed⟩ := exists_failure?_of_not_answers fails
      exact ⟨message, by rw [standard_failures_eq, failed]; rfl⟩
    · rw [value_run, value_run, standard_hooksOf_of_fails fails]

/-- One more than 32 bits hold is a failure, and leading zeros are none. -/
theorem standard_failures_overflow :
    let holder := fun body =>
      (Ability.named "triage").withHandler ⟨"onModifyPriority", "", some body⟩
    let beyond := "return priority + 2147483648"
    let padded := "return priority + -007"
    priorityShift.answers (holder beyond) = false ∧
      (∃ message, Registry.standard.failures (holder beyond) = [(priorityShiftName, message)]) ∧
      (Registry.standard.run (holder padded)).value.records .onModifyPriority =
        [.priority ⟨-7, priorityCondition padded⟩] := by
  intro holder beyond padded
  have blank : ∀ c ∈ [' ', ' ', ' '], Text.isBlank c = true := List.all_eq_true.mp (by decide)
  have firstBeyond : FirstShift beyond [] "2147483648".toList :=
    ⟨[], _, rfl, ⟨[' '], [' '], [' '], [], by decide, by decide, blank, .inl rfl, by decide,
      List.all_eq_true.mp (by decide), by simp⟩, by simp⟩
  have firstPadded : FirstShift padded ['-'] "007".toList :=
    ⟨[], _, rfl, ⟨[' '], [' '], [' '], [], by decide, by decide, blank, .inr rfl, by decide,
      List.all_eq_true.mp (by decide), by simp⟩, by simp⟩
  have unfit : ¬ ShiftFits [] "2147483648".toList := fun fits => absurd fits.2.2 (by decide)
  have fails : priorityShift.answers (holder beyond) = false :=
    (standard_failures (holder beyond)).2.1.mpr ⟨beyond, _, _, rfl, firstBeyond, unfit⟩
  have ascii : "007".toList.all (fun c => decide (c.toNat < 128)) = true := by decide
  have fits : ShiftFits ['-'] "007".toList :=
    ⟨fun c inside => of_decide_eq_true (List.all_eq_true.mp ascii c inside), by decide, by decide⟩
  have answers : priorityShift.answers (holder padded) = true := by
    change (priorityShiftOf padded).isOk = true
    rw [(priorityShiftOf_eq_ok_iff firstPadded).mpr ⟨fits, rfl⟩]
    rfl
  exact ⟨fails, ((standard_failures (holder beyond)).2.2.2 fails).1,
    ((standard_failures (holder padded)).2.2.1 padded _ _ rfl firstPadded answers).2⟩

end Registry

end AbilityHooks
