import AbilityHooks.Proofs.FoldedWords
import AbilityHooks.Proofs.HintSpelling
import AbilityHooks.Proofs.KeptStretches
import Mathlib.Data.List.Infix

/-!
# Returned names

The search for a returned name takes any word between a return and a semicolon for a name, also the
words null, false, true and undefined, which give no target. So a handler that returns no target still
draws moves in if one of its returns says so in words; only if all its returns are bare it does not.
-/

namespace AbilityHooks

namespace Text

/-- Blanks are no word characters. -/
theorem isWord_of_isBlank {c : Char} (blank : isBlank c = true) : isWord c = false := by
  have small : ∀ code < 0x80, isBlank (Char.ofNat code) = true →
      isWord (Char.ofNat code) = false := by decide
  have apart : ∀ letter ∈ wordRanges, ∀ white ∈ blankRanges,
      white.2 < 0x80 ∨ letter.2 < white.1 ∨ white.2 < letter.1 := by decide +kernel
  by_cases ascii : c.toNat < 0x80
  · have same := small c.toNat ascii
    rw [Char.ofNat_toNat] at same
    exact same blank
  · rw [isWord, if_neg ascii, ← Bool.not_eq_true]
    intro letter
    obtain ⟨range, listed, above, below⟩ := inRanges_iff.mp letter
    obtain ⟨white, listedWhite, aboveWhite, belowWhite⟩ := inRanges_iff.mp blank
    have := apart range listed white listedWhite
    omega

/-- Word characters are no blanks. -/
theorem isBlank_of_isWord {c : Char} (letter : isWord c = true) : isBlank c = false := by
  rw [← Bool.not_eq_true]
  intro blank
  rw [isWord_of_isBlank blank] at letter
  cases letter

/-- Letters and digits are word characters. -/
theorem isWord_of_isAlphanum {c : Char} (plain : c.isAlphanum = true) : isWord c = true :=
  Hint.ascii_of_isAlphanum (fun c => c.isAlphanum = true → isWord c = true) (by decide) plain plain

end Text

namespace Signal

open Pattern

variable {value : Pattern} {text : String} {taken after : List Char} {place stop : Place}

/-! ## Returns -/

/-- The keyword return stands in a text in front of some characters. -/
def ReturnBefore (text : String) (after : List Char) : Prop :=
  ∃ before, text.toList = before ++ ("return".toList ++ after) ∧
    before.getLast?.any Text.isWord = false ∧ after.head?.any Text.isWord = false

/-- Characters begin with a value and a semicolon, with any white space around the value. -/
def BeginsWithValue (value after : List Char) : Prop :=
  ∃ ahead behind rest, (∀ c ∈ ahead, Text.isBlank c = true) ∧
    (∀ c ∈ behind, Text.isBlank c = true) ∧ after = ahead ++ (value ++ (behind ++ ';' :: rest))

/-- A pattern spells words only. -/
def SpellsWords (value : Pattern) : Prop :=
  ∀ taken, value.Spells taken → taken.head?.any Text.isWord = true

/-- A return leads over the keyword, white space, a value, white space and a semicolon. -/
theorem reaches_returnOf (blind : value.edgeless = true) : (returnOf value).Reaches place stop ↔
    place.before.any Text.isWord = false ∧ ∃ ahead taken behind, ahead ≠ [] ∧
      (∀ c ∈ ahead, Text.isBlank c = true) ∧ value.Spells taken ∧
      (∀ c ∈ behind, Text.isBlank c = true) ∧
      place.Leads ("return".toList ++ (ahead ++ (taken ++ (behind ++ ";".toList)))) stop := by
  have word : "return".toList.head?.any Text.isWord = true := by decide
  simp only [returnOf, gap, blanks, reaches_append, reaches_wordEdge, reaches_lit, reaches_many,
    reaches_oneOrMore, reaches_iff_spells blind]
  constructor
  · rintro ⟨_, ⟨_, ⟨_, ⟨_, ⟨_, ⟨rfl, edge⟩, keyword⟩, ahead, filled, blankAhead, gapped⟩,
      taken, spells, valued⟩, behind, blankBehind, spaced⟩, ending⟩
    refine ⟨(keyword.atWordEdge_start word).mp edge, ahead, taken, behind, filled, blankAhead,
      spells, blankBehind, ?_⟩
    exact Place.Leads.append_iff.mpr ⟨_, keyword, Place.Leads.append_iff.mpr ⟨_, gapped,
      Place.Leads.append_iff.mpr ⟨_, valued, Place.Leads.append_iff.mpr ⟨_, spaced, ending⟩⟩⟩⟩
  · rintro ⟨edge, ahead, taken, behind, filled, blankAhead, spells, blankBehind, leads⟩
    obtain ⟨_, keyword, leads⟩ := Place.Leads.append_iff.mp leads
    obtain ⟨_, gapped, leads⟩ := Place.Leads.append_iff.mp leads
    obtain ⟨_, valued, leads⟩ := Place.Leads.append_iff.mp leads
    obtain ⟨_, spaced, ending⟩ := Place.Leads.append_iff.mp leads
    exact ⟨_, ⟨_, ⟨_, ⟨_, ⟨_, ⟨rfl, (keyword.atWordEdge_start word).mpr edge⟩, keyword⟩,
      ahead, filled, blankAhead, gapped⟩, taken, spells, valued⟩, behind, blankBehind, spaced⟩,
      ending⟩

/-- A text returns a value of a pattern exactly if a keyword stands in front of one. -/
theorem returnOf_occursIn_iff (blind : value.edgeless = true) (words : SpellsWords value) :
    (returnOf value).occursIn text = true ↔ ∃ after taken, ReturnBefore text after ∧
      value.Spells taken ∧ BeginsWithValue taken after := by
  simp only [occursIn_iff_reaches, reaches_returnOf blind]
  constructor
  · rintro ⟨before, start, stop, leads, edge, ahead, taken, behind, filled, blankAhead, spells,
      blankBehind, covers⟩
    rw [leads.before, Place.ofText, Option.or_none] at edge
    refine ⟨ahead ++ (taken ++ (behind ++ ';' :: stop.rest)), taken, ⟨before, ?_, edge, ?_⟩, spells,
      ahead, behind, stop.rest, blankAhead, blankBehind, rfl⟩
    · have rest : text.toList = before ++ start.rest := leads.rest
      simp [rest, covers.rest]
    · obtain ⟨c, others, rfl⟩ := List.exists_cons_of_ne_nil filled
      exact Text.isWord_of_isBlank (blankAhead c List.mem_cons_self)
  · rintro ⟨_, taken, ⟨before, split, edge, apart⟩, spells, ahead, behind, rest, blankAhead,
      blankBehind, rfl⟩
    have filled : ahead ≠ [] := by
      rintro rfl
      have letter := words taken spells
      cases taken with
      | nil => cases letter
      | cons c letters =>
        rw [List.nil_append, List.cons_append, List.head?_cons] at apart
        exact Bool.false_ne_true (apart.symm.trans letter)
    refine ⟨before, _, ⟨_, rest⟩, .of_rest split, ?_, ahead, taken, behind, filled, blankAhead,
      spells, blankBehind, .of_rest ?_⟩
    · rwa [Place.ofText, Option.or_none]
    · simp

/-! ## Names and refusals -/

/-- A name begins with a letter or an underscore and goes on with word characters. -/
theorem spells_identifier : identifier.Spells taken ↔
    taken.head?.any (fun c => c.isAlpha || c == '_') = true ∧
      taken.tail.all Text.isWord = true := by
  rw [identifier, spells_append, List.all_eq_true]
  constructor
  · rintro ⟨_, letters, ⟨c, begins, rfl⟩, inside, rfl⟩
    exact ⟨begins, inside⟩
  · rintro ⟨begins, inside⟩
    cases taken with
    | nil => cases begins
    | cons c letters => exact ⟨[c], letters, ⟨c, begins, rfl⟩, inside, rfl⟩

/-- Names are words. -/
theorem spellsWords_identifier : SpellsWords identifier := by
  intro taken spells
  obtain ⟨begins, -⟩ := spells_identifier.mp spells
  cases taken with
  | nil => cases begins
  | cons c letters =>
    rcases Bool.or_eq_true_iff.mp begins with letter | underscore
    · exact Text.isWord_of_isAlphanum (Hint.isAlphanum_of_isAlpha letter)
    · have mark : Text.isWord '_' = true := by decide
      rw [eq_of_beq underscore]
      exact mark

/-- The words that a handler returns to give no target. -/
def refusals : List String := ["null", "false", "true", "undefined"]

/-- All returns of a text give no target: each is bare or gives one of the words for nothing. -/
def ReturnsNoTarget (text : String) : Prop :=
  ∀ after, ReturnBefore text after →
    ∃ word ∈ "" :: refusals, BeginsWithValue word.toList after

/-- A return of a text gives one of the words for nothing. -/
def StatesRefusal (text : String) : Prop :=
  ∃ after, ReturnBefore text after ∧ ∃ word ∈ refusals, BeginsWithValue word.toList after

/-- The words for nothing are spelled like names. -/
theorem refusals_spelled : ∀ word ∈ refusals, identifier.Spells word.toList := by
  simp only [spells_identifier]
  decide

/-- The first character behind blanks is told by the text. -/
theorem solid_unique {c d : Char} {ahead ahead' rest rest' : List Char}
    (blank : ∀ c ∈ ahead, Text.isBlank c = true) (blank' : ∀ c ∈ ahead', Text.isBlank c = true)
    (solid : Text.isBlank c = false) (solid' : Text.isBlank d = false)
    (same : ahead ++ c :: rest = ahead' ++ d :: rest') : c = d := by
  have ends : ∀ e ∈ (c :: rest).head?, Text.isBlank e = false := by
    rintro e ⟨⟩
    exact solid
  have ends' : ∀ e ∈ (d :: rest').head?, Text.isBlank e = false := by
    rintro e ⟨⟩
    exact solid'
  obtain ⟨-, backs⟩ := span_unique blank blank' ends ends' same
  exact (List.cons.inj backs).1

/-- A return that gives a word is not bare. -/
theorem BeginsWithValue.not_bare (begins : BeginsWithValue taken after)
    (word : taken.head?.any Text.isWord = true) : ¬BeginsWithValue [] after := by
  rintro ⟨ahead', behind', rest', blankAhead', blankBehind', bare⟩
  obtain ⟨ahead, behind, rest, blankAhead, -, rfl⟩ := begins
  cases taken with
  | nil => cases word
  | cons c letters =>
    have blanks : ∀ d ∈ ahead' ++ behind', Text.isBlank d = true :=
      List.forall_mem_append.mpr ⟨blankAhead', blankBehind'⟩
    have same : ahead ++ c :: (letters ++ (behind ++ ';' :: rest)) =
        (ahead' ++ behind') ++ ';' :: rest' := by
      rw [List.append_assoc]
      exact bare
    have letter : Text.isWord c = true := word
    have solid := Text.isBlank_of_isWord letter
    rw [solid_unique blankAhead blanks solid (by decide) same] at letter
    exact absurd letter (by decide)

/-- A text that gives one of the words for nothing is taken to return a name. -/
theorem StatesRefusal.returnsIdentifier (states : StatesRefusal text) :
    returnsIdentifier text = true := by
  obtain ⟨after, stands, word, listed, begins⟩ := states
  exact (returnOf_occursIn_iff rfl spellsWords_identifier).mpr
    ⟨after, word.toList, stands, refusals_spelled word listed, begins⟩

/-- A text without targets is taken to return a name only where it gives a word for nothing. -/
theorem ReturnsNoTarget.returnsIdentifier_iff (targetless : ReturnsNoTarget text) :
    returnsIdentifier text = true ↔ StatesRefusal text := by
  refine ⟨fun named => ?_, StatesRefusal.returnsIdentifier⟩
  obtain ⟨after, taken, stands, spells, begins⟩ :=
    (returnOf_occursIn_iff rfl spellsWords_identifier).mp named
  obtain ⟨word, listed, given⟩ := targetless after stands
  rcases List.mem_cons.mp listed with rfl | refused
  · exact absurd given (begins.not_bare (spellsWords_identifier taken spells))
  · exact ⟨after, stands, word, refused, given⟩

/-- Whatever is taken for a refusal is taken for a returned name too. -/
theorem returnsIdentifier_of_returnsBlock (blocks : returnsBlock text = true) :
    returnsIdentifier text = true := by
  have refused : ∀ taken, (words ["false", "null", "undefined"]).Spells taken →
      ∃ word ∈ refusals, taken = word.toList := by
    intro taken spells
    obtain ⟨word, among, same⟩ := spells_words.mp spells
    have known : ∀ word ∈ ["false", "null", "undefined"], word ∈ refusals := by decide
    exact ⟨word, known word among, same⟩
  have blind := edgeless_words ["false", "null", "undefined"]
  have wordy : SpellsWords (words ["false", "null", "undefined"]) := by
    intro taken spells
    obtain ⟨word, listed, rfl⟩ := refused taken spells
    exact spellsWords_identifier _ (refusals_spelled word listed)
  obtain ⟨after, taken, stands, spells, begins⟩ := (returnOf_occursIn_iff blind wordy).mp blocks
  obtain ⟨word, listed, rfl⟩ := refused taken spells
  exact StatesRefusal.returnsIdentifier ⟨after, stands, word, listed, begins⟩

end Signal

namespace Detector

open Signal

/-- A handler that returns no target draws nothing in unless it asks for a type and gives a word for
nothing. -/
theorem redirectionOf?_eq_none_iff {body : String} (targetless : ReturnsNoTarget body) :
    redirectionOf? body = none ↔
      capturedLower drawnType body = none ∨ ¬StatesRefusal body := by
  rw [← targetless.returnsIdentifier_iff, redirectionOf?]
  cases capturedLower drawnType body with
  | none => simp
  | some moveType => simp

/-- What is drawn in by one handler is never an empty list of hooks. -/
theorem redirectionOf?_ne_nil {body : String} : redirectionOf? body ≠ some [] := by
  intro found
  obtain ⟨moveType, -, -, listed⟩ := redirectionOf?_eq_some.mp found
  cases listed

/-- The handlers for redirection, in the order in which they are read. -/
def redirectBodies (ability : Ability) : List String :=
  ability.bodiesIn ["onAnyRedirectTarget", "onFoeRedirectTarget", "onAllyRedirectTarget"]

/-- An ability draws nothing in exactly if none of its handlers for redirection does. -/
theorem hooksOf_redirect_eq_nil_iff {ability : Ability} : redirect.hooksOf ability = [] ↔
    ∀ body ∈ redirectBodies ability, redirectionOf? body = none := by
  have hooks : redirect.hooksOf ability =
      ((redirectBodies ability).findSome? redirectionOf?).getD [] := rfl
  rw [hooks, ← List.findSome?_eq_none_iff]
  cases search : (redirectBodies ability).findSome? redirectionOf? with
  | none => exact iff_of_true rfl rfl
  | some found =>
    obtain ⟨body, -, here⟩ := List.exists_of_findSome?_eq_some search
    refine iff_of_false ?_ (Option.some_ne_none found)
    rintro rfl
    exact redirectionOf?_ne_nil here

/-- A handler that returns no target is taken to return a name exactly if one of its returns gives a
word for nothing in place of a target, and then it draws in the type that it asks for. So beside
handlers that draw nothing, its ability draws nothing exactly if it asks for no type or has bare
returns only. -/
theorem redirect_without_target (body : String) (targetless : ReturnsNoTarget body) :
    (returnsIdentifier body = true ↔ StatesRefusal body) ∧
      (redirectionOf? body = none ↔ capturedLower drawnType body = none ∨ ¬StatesRefusal body) ∧
      ∀ ability : Ability, body ∈ redirectBodies ability →
        (∀ other ∈ redirectBodies ability, other ≠ body → redirectionOf? other = none) →
        (redirect.hooksOf ability = [] ↔
          capturedLower drawnType body = none ∨ ¬StatesRefusal body) := by
  have drawn := redirectionOf?_eq_none_iff targetless
  refine ⟨targetless.returnsIdentifier_iff, drawn, fun ability listed others => ?_⟩
  rw [hooksOf_redirect_eq_nil_iff, ← drawn]
  refine ⟨fun each => each body listed, fun none other among => ?_⟩
  by_cases same : other = body
  · rw [same, none]
  · exact others other among same

/-- A handler that asks for electric moves, raises special attack, and gives no target. -/
def refusingBody : String :=
  "if (move.type === 'Electric') \x7b this.boost(\x7bspa: 1\x7d); return null; \x7d"

/-- An ability with that handler. -/
def refusingAbility : Ability :=
  (Ability.named "grounded").withHandler ⟨"onAnyRedirectTarget", refusingBody, some refusingBody⟩

/-- The only return of that handler gives null. -/
theorem after_of_refusingBody {after : List Char} (stands : ReturnBefore refusingBody after) :
    after = " null; \x7d".toList := by
  have single : ∀ tail ∈ refusingBody.toList.tails, "return".toList <+: tail →
      tail.drop 6 = " null; \x7d".toList := by decide +kernel
  obtain ⟨before, split, -, -⟩ := stands
  have ending : "return".toList ++ after ∈ refusingBody.toList.tails :=
    (List.mem_tails _ _).mpr ⟨before, split.symm⟩
  exact single _ ending (List.prefix_append _ _)

/-- What follows that return is null and a semicolon. -/
theorem beginsWithValue_null : BeginsWithValue "null".toList " null; \x7d".toList :=
  ⟨[' '], [], " \x7d".toList, List.forall_mem_singleton.mpr rfl, List.forall_mem_nil _, by decide⟩

/-- The handler returns no target. -/
theorem returnsNoTarget_refusingBody : ReturnsNoTarget refusingBody := by
  intro after stands
  rw [after_of_refusingBody stands]
  exact ⟨"null", by decide, beginsWithValue_null⟩

/-- The handler gives a word for nothing. -/
theorem statesRefusal_refusingBody : StatesRefusal refusingBody := by
  have stands : ReturnBefore refusingBody " null; \x7d".toList :=
    ⟨"if (move.type === 'Electric') \x7b this.boost(\x7bspa: 1\x7d); ".toList,
      by decide, by decide, by decide⟩
  exact ⟨_, stands, "null", by decide, beginsWithValue_null⟩

/-- The ability with that handler draws in moves although it gives no target. -/
theorem redirect_without_target_null : ReturnsNoTarget refusingBody ∧
    returnsIdentifier refusingBody = true ∧ redirect.hooksOf refusingAbility ≠ [] := by
  have targetless := returnsNoTarget_refusingBody
  have alone : redirectBodies refusingAbility = [refusingBody] := rfl
  have asked : capturedLower drawnType refusingBody = some "electric" := by decide +kernel
  obtain ⟨named, -, drawn⟩ := redirect_without_target refusingBody targetless
  have hooks := drawn refusingAbility (List.mem_singleton_self _)
  rw [alone, List.forall_mem_singleton] at hooks
  refine ⟨targetless, named.mpr statesRefusal_refusingBody, fun empty => ?_⟩
  rcases (hooks (absurd rfl)).mp empty with untyped | bare
  · rw [asked] at untyped
    cases untyped
  · exact bare statesRefusal_refusingBody

/-- A handler that gives no target is taken to return a name, and both hooks of redirection come of
it. -/
theorem refusal_taken_for_target : ∃ (ability : Ability) (body : String),
    body ∈ redirectBodies ability ∧ ReturnsNoTarget body ∧ returnsIdentifier body = true ∧
      (.redirect, .redirect "electric") ∈ redirect.hooksOf ability ∧
      (.onRedirect, .boost (.granted (.ofList [("spa", 1)]))) ∈ redirect.hooksOf ability := by
  have listed : refusingBody ∈ redirectBodies refusingAbility := List.mem_singleton_self _
  have named : returnsIdentifier refusingBody = true := by decide +kernel
  have boosted : (onlyBoost "boost(" "spa" "1").occursIn refusingBody = true := by decide +kernel
  have asked : capturedLower drawnType refusingBody = some "electric" := by decide +kernel
  have drawn := redirectionOf?_eq_some.mpr ⟨"electric", asked, named, rfl⟩
  rw [if_pos boosted] at drawn
  have search : (redirectBodies refusingAbility).findSome? redirectionOf? = _ :=
    List.findSome?_singleton.trans drawn
  exact ⟨refusingAbility, refusingBody, listed, returnsNoTarget_refusingBody, named,
    mem_redirect.mpr ⟨_, search, List.mem_cons_self⟩,
    mem_redirect.mpr ⟨_, search, List.mem_cons_of_mem _ (List.mem_singleton_self _)⟩⟩

end Detector

end AbilityHooks
