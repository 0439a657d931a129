import AbilityHooks.Proofs.AllFinds
import AbilityHooks.Proofs.DetectorHooks
import AbilityHooks.Proofs.ReturnedNames
import Mathlib.Data.List.Infix

/-!
# Comparisons of health

A handler asks for full health in one of three ways: it compares the health of a creature with the
full health of the same creature, it compares some health with anything that names full health before
the statement ends, or it logs a phrase. A word begins behind a dot, so the second way takes in each
comparison of the first one, and those of two creatures with it. That the creatures are the same is
decisive only where the name of full health goes on to a longer name.
-/

namespace AbilityHooks

namespace Signal

open Pattern

variable {text : String} {start stop : Place} {left right : List Char}

/-- A sign that holds at full health. -/
def IsFullSign (sign : List Char) : Prop := ∃ word ∈ ["===", ">="], sign = word.toList

/-- A text compares health with something that names full health before the statement ends. Both
names are whole words. -/
def ComparesHealth (text : String) : Prop :=
  ∃ front gap sign between rest, text.toList = front ++ ("hp".toList ++ (gap ++ (sign ++
      (between ++ ("maxhp".toList ++ rest))))) ∧
    (∀ c ∈ gap, Text.isBlank c = true) ∧ IsFullSign sign ∧ (∀ c ∈ between, c ≠ ';') ∧
    front.getLast?.any Text.isWord = false ∧ between.getLast?.any Text.isWord = false ∧
    rest.head?.any Text.isWord = false

/-- A character of a name: a word character or a dollar sign. -/
def isNamePart (c : Char) : Bool := Text.isWord c || c == '$'

/-- Characters make up a name. -/
def IsName (name : List Char) : Prop := name ≠ [] ∧ ∀ c ∈ name, isNamePart c = true

/-- A text compares the health of what one name stands for with the full health of another one, with
any white space around the sign. -/
def ComparesSubjects (text : String) (left right : List Char) : Prop :=
  ∃ front gap sign more rest, text.toList = front ++ (left ++ (".hp".toList ++ (gap ++ (sign ++
      (more ++ (right ++ (".maxhp".toList ++ rest))))))) ∧
    IsName left ∧ IsName right ∧ (∀ c ∈ gap ++ more, Text.isBlank c = true) ∧ IsFullSign sign ∧
    front.getLast?.any isNamePart = false ∧ rest.head?.any isNamePart = false

/-- The search for pairs finds one creature in both places, and the name of full health goes on there
to a longer one. -/
def FindsLongerName (text : String) : Prop :=
  ∃ found ∈ healthPair.all (.ofText text), ∃ left right, found.captures = [left, right] ∧
    left.chars = right.chars ∧ found.after.rest.head?.any Text.isWord = true

/-- A sign ends in no word character. -/
theorem IsFullSign.getLast? {sign : List Char} (full : IsFullSign sign) :
    sign.getLast? = some '=' := by
  obtain ⟨word, listed, rfl⟩ := full
  have ends : ∀ word ∈ ["===", ">="], word.toList.getLast? = some '=' := by decide
  exact ends word listed

/-- No word character is before what follows a sign. -/
theorem IsFullSign.apart {sign : List Char} (full : IsFullSign sign)
    (leads : start.Leads sign stop) : stop.before.any Text.isWord = false := by
  have plain : Text.isWord '=' = false := by decide
  rw [leads.before, full.getLast?]
  exact plain

/-- A sign is one of two words. -/
theorem spells_atLeast {sign : List Char} : atLeast.Spells sign ↔ IsFullSign sign := spells_words

/-- A blank is no semicolon. -/
theorem ne_semicolon {c : Char} (blank : Text.isBlank c = true) : c ≠ ';' := by
  rintro rfl
  exact absurd blank (by decide)

/-- The loose comparison leads from whole word to whole word. -/
theorem reaches_healthLoose : healthLoose.Reaches start stop ↔
    ∃ gap sign between, start.Leads ("hp".toList ++ (gap ++ (sign ++
        (between ++ "maxhp".toList)))) stop ∧
      (∀ c ∈ gap, Text.isBlank c = true) ∧ IsFullSign sign ∧ (∀ c ∈ between, c ≠ ';') ∧
      start.before.any Text.isWord = false ∧ between.getLast?.any Text.isWord = false ∧
      stop.rest.head?.any Text.isWord = false := by
  have health : (captured (lit "hp")).edgeless = true := by decide
  have sign : atLeast.edgeless = true := by decide
  have hp : "hp".toList.head?.any Text.isWord = true := by decide
  have maxhp : "maxhp".toList.head?.any Text.isWord = true := by decide
  have maxhpEnds : "maxhp".toList.getLast?.any Text.isWord = true := by decide
  simp only [healthLoose, blanks, reaches_append, reaches_wordEdge, reaches_lit, reaches_many,
    reaches_iff_spells health, reaches_iff_spells sign, spells_atLeast, Spells, spells_lit]
  constructor
  · rintro ⟨_, ⟨_, ⟨_, ⟨_, ⟨_, ⟨_, ⟨_, ⟨_, ⟨rfl, edge⟩, _, rfl, named⟩, gap, blankGap, gapped⟩,
      sign, full, signed⟩, more, blankMore, spaced⟩, others, within, filled⟩, rfl, inner⟩,
      fullNamed⟩, rfl, last⟩
    have between := Place.Leads.append_iff.mpr ⟨_, spaced, filled⟩
    have free : ∀ c ∈ more ++ others, c ≠ ';' :=
      List.forall_mem_append.mpr ⟨fun c inside => ne_semicolon (blankMore c inside),
        fun c inside => bne_iff_ne.mp (within c inside)⟩
    refine ⟨gap, sign, more ++ others, ?_, blankGap, full, free,
      (named.atWordEdge_start hp).mp edge, ?_, (fullNamed.atWordEdge_stop maxhpEnds).mp last⟩
    · exact Place.Leads.append_iff.mpr ⟨_, named, Place.Leads.append_iff.mpr ⟨_, gapped,
        Place.Leads.append_iff.mpr ⟨_, signed, Place.Leads.append_iff.mpr ⟨_, between, fullNamed⟩⟩⟩⟩
    · rw [← between.before_any (full.apart signed)]
      exact (fullNamed.atWordEdge_start maxhp).mp inner
  · rintro ⟨gap, sign, between, leads, blankGap, full, free, edge, inner, last⟩
    obtain ⟨_, named, leads⟩ := Place.Leads.append_iff.mp leads
    obtain ⟨_, gapped, leads⟩ := Place.Leads.append_iff.mp leads
    obtain ⟨_, signed, leads⟩ := Place.Leads.append_iff.mp leads
    obtain ⟨_, filled, fullNamed⟩ := Place.Leads.append_iff.mp leads
    rw [← filled.before_any (full.apart signed)] at inner
    -- Blanks behind the sign need not be taken apart from what else stands between.
    exact ⟨_, ⟨_, ⟨_, ⟨_, ⟨_, ⟨_, ⟨_, ⟨_, ⟨rfl, (named.atWordEdge_start hp).mpr edge⟩, _, rfl, named⟩,
      gap, blankGap, gapped⟩, sign, full, signed⟩, [], List.forall_mem_nil _,
      Place.Leads.nil_iff.mpr rfl⟩, between, fun c inside => bne_iff_ne.mpr (free c inside), filled⟩,
      rfl, (fullNamed.atWordEdge_start maxhp).mpr inner⟩, fullNamed⟩, rfl,
      (fullNamed.atWordEdge_stop maxhpEnds).mpr last⟩

/-- The loose comparison occurs in a text exactly if the text compares health. -/
theorem healthLoose_occursIn_iff : healthLoose.occursIn text = true ↔ ComparesHealth text := by
  simp only [occursIn_iff_reaches, reaches_healthLoose]
  have begins : (Place.ofText text).before.any Text.isWord = false := rfl
  constructor
  · rintro ⟨front, start, stop, reached, gap, sign, between, leads, blank, full, free, edge, inner,
      last⟩
    rw [reached.before_any begins] at edge
    have rest : text.toList = front ++ start.rest := reached.rest
    refine ⟨front, gap, sign, between, stop.rest, ?_, blank, full, free, edge, inner, last⟩
    simp only [rest, leads.rest, List.append_assoc]
  · rintro ⟨front, gap, sign, between, rest, split, blank, full, free, edge, inner, last⟩
    have reached : (Place.ofText text).Leads front ⟨front.getLast?.or none, _⟩ := .of_rest split
    rw [← reached.before_any begins] at edge
    exact ⟨front, _, ⟨_, rest⟩, reached, gap, sign, between,
      .of_rest (by simp only [List.append_assoc]), blank, full, free, edge, inner, last⟩

/-- A part of a name is no semicolon. -/
theorem ne_semicolon_of_isNamePart {c : Char} (part : isNamePart c = true) : c ≠ ';' := by
  rintro rfl
  exact absurd part (by decide)

/-- Health behind a dot is compared with full health behind another dot: a word begins behind each of
them. -/
theorem comparesHealth_of_split {front gap sign more name rest : List Char}
    (split : text.toList = front ++ (".hp".toList ++ (gap ++ (sign ++ (more ++ (name ++
      (".maxhp".toList ++ rest)))))))
    (blank : ∀ c ∈ gap ++ more, Text.isBlank c = true) (full : IsFullSign sign)
    (named : ∀ c ∈ name, isNamePart c = true) (last : rest.head?.any Text.isWord = false) :
    ComparesHealth text := by
  obtain ⟨blankGap, blankMore⟩ := List.forall_mem_append.mp blank
  have free : ∀ c ∈ more ++ (name ++ ['.']), c ≠ ';' :=
    List.forall_mem_append.mpr ⟨fun c inside => ne_semicolon (blankMore c inside),
      List.forall_mem_append.mpr ⟨fun c inside => ne_semicolon_of_isNamePart (named c inside),
        List.forall_mem_singleton.mpr (by decide)⟩⟩
  have dot : Text.isWord '.' = false := by decide
  refine ⟨front ++ ['.'], gap, sign, more ++ (name ++ ['.']), rest, ?_, blankGap, full, free, ?_, ?_,
    last⟩
  · simpa using split
  · simpa using dot
  · simpa using dot

/-- Who compares the health of two names compares health. -/
theorem ComparesSubjects.comparesHealth (compares : ComparesSubjects text left right) :
    ComparesHealth text := by
  obtain ⟨front, gap, sign, more, rest, split, -, ⟨-, named⟩, blank, full, -, last⟩ := compares
  rw [← List.append_assoc] at split
  refine comparesHealth_of_split split blank full named ?_
  cases rest with
  | nil => rfl
  | cons c rest => exact (Bool.or_eq_false_iff.mp last).1

/-- Names that are kept have parts of names only. -/
theorem isNamePart_of_spells {name : List Char} (spells : identifier.Spells name) :
    ∀ c ∈ name, isNamePart c = true := by
  have first := spellsWords_identifier name spells
  obtain ⟨-, others⟩ := spells_identifier.mp spells
  cases name with
  | nil => exact List.forall_mem_nil _
  | cons c letters =>
    rw [List.tail_cons, List.all_eq_true] at others
    exact List.forall_mem_cons.mpr ⟨Bool.or_eq_true_iff.mpr (.inl first),
      fun d inside => Bool.or_eq_true_iff.mpr (.inl (others d inside))⟩

/-- A pair is a comparison of health where the name of full health ends. -/
theorem comparesHealth_of_run {skipped : List Char} {kept : List Capture}
    (reached : (Place.ofText text).Leads skipped start) (run : (kept, stop) ∈ healthPair.runs start)
    (last : stop.rest.head?.any Text.isWord = false) : ComparesHealth text := by
  obtain ⟨taken, spells, leads⟩ := spells_of_run run
  simp only [healthPair, blanks, spells_append, spells_lit, spells_atLeast, Spells] at spells
  obtain ⟨_, _, ⟨_, name, ⟨_, more, ⟨_, sign, ⟨_, gap, ⟨left, _, -, rfl, rfl⟩, blankGap, rfl⟩, full,
    rfl⟩, blankMore, rfl⟩, named, rfl⟩, rfl, rfl⟩ := spells
  have split : text.toList = skipped ++ start.rest := reached.rest
  simp only [leads.rest, List.append_assoc] at split
  rw [← List.append_assoc] at split
  exact comparesHealth_of_split split (List.forall_mem_append.mpr ⟨blankGap, blankMore⟩) full
    (isNamePart_of_spells named) last

/-- A handler asks for full health exactly if it compares some health, or the same creature is found at
a longer name, or it logs the phrase. -/
theorem checksFullHealth_iff (body : String) : checksFullHealth body = true ↔
    ComparesHealth body ∨ FindsLongerName body ∨ mentions body "Multiscale weaken" = true := by
  rw [checksFullHealth, Bool.or_eq_true, Bool.or_eq_true, healthLoose_occursIn_iff, List.any_eq_true]
  constructor
  · rintro ((⟨found, listed, paired⟩ | loose) | phrase)
    · split at paired
      next left right captures =>
        cases last : found.after.rest.head?.any Text.isWord with
        | true => exact .inr (.inl ⟨found, listed, left, right, captures, eq_of_beq paired, last⟩)
        | false =>
          obtain ⟨skipped, start, reached, run⟩ := run_of_mem_all listed
          exact .inl (comparesHealth_of_run reached run last)
      next => cases paired
    · exact .inl loose
    · exact .inr (.inr phrase)
  · rintro (loose | ⟨found, listed, left, right, captures, same, -⟩ | phrase)
    · exact .inl (.inr loose)
    · exact .inl (.inl ⟨found, listed, by simp [captures, same]⟩)
    · exact .inr phrase

end Signal

namespace Detector

open Signal

/-- The handlers for damage, in the order in which they are read. -/
def damageBodies (ability : Ability) : List String :=
  ability.bodiesIn ["onSourceModifyDamage", "onModifyDamage"]

/-- A lone handler that asks for full health gives its reduction. -/
theorem hooksOf_fullHealthMitigation {ability : Ability} {body : String}
    (alone : damageBodies ability = [body]) (checks : checksFullHealth body = true) :
    fullHealthMitigation.hooksOf ability =
      (reduction? body).toList.map fun multiply =>
        (.onModifyDamage, .factor "defenderAtFullHP" multiply) := by
  have search : fullHealthMitigation.hooksOf ability = (((damageBodies ability).findSome? fun body =>
      if checksFullHealth body then reduction? body else none).bind fun multiply =>
        some (.onModifyDamage, .factor "defenderAtFullHP" multiply)).toList := rfl
  rw [search, alone, List.findSome?_singleton, if_pos checks]
  cases reduction? body <;> rfl

/-- Any comparison of health is a sign of full health, and the search for pairs of one creature adds
those at longer names only. So whoever compares the health of a creature with the full health of any
creature, the same or another one, asks for full health, and a reduction is recorded. -/
theorem full_health_of_any_creatures (body : String) :
    (checksFullHealth body = true ↔
      ComparesHealth body ∨ FindsLongerName body ∨ mentions body "Multiscale weaken" = true) ∧
    ∀ left right, ComparesSubjects body left right → checksFullHealth body = true ∧
      ∀ ability, damageBodies ability = [body] → fullHealthMitigation.hooksOf ability =
        (reduction? body).toList.map fun multiply =>
          (.onModifyDamage, .factor "defenderAtFullHP" multiply) := by
  refine ⟨checksFullHealth_iff body, fun left right compares => ?_⟩
  have checks := (checksFullHealth_iff body).mpr (.inl compares.comparesHealth)
  exact ⟨checks, fun ability alone => hooksOf_fullHealthMitigation alone checks⟩

/-- A handler that compares the health of the target with the full health of the source. -/
def crossingBody : String :=
  "\x7b if (target.hp >= source.maxhp) return this.chainModify(0.5); \x7d"

/-- An ability with that handler. -/
def crossingAbility : Ability :=
  (Ability.named "crossing").withHandler ⟨"onModifyDamage", crossingBody, some crossingBody⟩

/-- The handler compares two creatures. -/
theorem comparesSubjects_crossingBody :
    ComparesSubjects crossingBody "target".toList "source".toList := by
  have blank : ∀ c ∈ [' ', ' '], Text.isBlank c = true := List.all_eq_true.mp (by decide)
  have target : IsName "target".toList := ⟨by decide, List.all_eq_true.mp (by decide)⟩
  have source : IsName "source".toList := ⟨by decide, List.all_eq_true.mp (by decide)⟩
  exact ⟨"\x7b if (".toList, [' '], ">=".toList, [' '], ") return this.chainModify(0.5); \x7d".toList,
    by decide, target, source, blank, ⟨">=", by decide, rfl⟩, by decide, by decide⟩

/-- The handler asks for full health, and its reduction is recorded. -/
theorem full_health_of_any_creatures_crossing :
    ComparesSubjects crossingBody "target".toList "source".toList ∧
      damageBodies crossingAbility = [crossingBody] ∧ checksFullHealth crossingBody = true ∧
      fullHealthMitigation.hooksOf crossingAbility =
        (reduction? crossingBody).toList.map fun multiply =>
          (.onModifyDamage, .factor "defenderAtFullHP" multiply) := by
  have compares := comparesSubjects_crossingBody
  obtain ⟨checks, hooks⟩ := (full_health_of_any_creatures crossingBody).2 _ _ compares
  exact ⟨compares, rfl, checks, hooks crossingAbility rfl⟩

/-- Health is named nowhere else in the handler than in the comparison of two creatures, and no phrase
is logged. It asks for full health all the same, and its reduction is recorded. -/
theorem two_creatures_taken_for_one :
    ComparesSubjects crossingBody "target".toList "source".toList ∧ "target" ≠ "source" ∧
      crossingBody.toList.tails.countP ("hp".toList.isPrefixOf ·) = 2 ∧
      mentions crossingBody "Multiscale weaken" = false ∧
      checksFullHealth crossingBody = true ∧
      fullHealthMitigation.hooksOf crossingAbility =
        (reduction? crossingBody).toList.map fun multiply =>
          (.onModifyDamage, .factor "defenderAtFullHP" multiply) := by
  have compares := comparesSubjects_crossingBody
  have checks := (checksFullHealth_iff crossingBody).mpr (.inl compares.comparesHealth)
  exact ⟨compares, by decide, by decide +kernel, by decide +kernel, checks,
    hooksOf_fullHealthMitigation rfl checks⟩

end Detector

end AbilityHooks
