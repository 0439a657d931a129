import AbilityHooks.Proofs.DetectorHooks
import AbilityHooks.Proofs.Spelling

/-!
# Searches that one handler decides

Three detectors go along a list of handlers and stop at the first one whose body passes all of their
tests. A handler that is missing, that has no body or that passes only some of the tests is passed
over, and nothing is kept of it. So the hooks are those that one body gives, whatever the handlers
behind it say.
-/

namespace AbilityHooks

/-! ## What is kept where a pattern occurs -/

namespace Pattern

variable {p : Pattern} {taken : List Char} {texts : List (List Char)}

/-- Whether every run of a pattern keeps something. -/
def keepsSomething : Pattern → Bool
  | both first second => first.keepsSomething || second.keepsSomething
  | either first second => first.keepsSomething && second.keepsSomething
  | captured _ => true
  | _ => false

/-- Of a stretch of such a pattern something is kept. -/
theorem ne_nil_of_keepsSomething (keeps : p.keepsSomething = true)
    (spells : p.SpellsKeeping taken texts) : texts ≠ [] := by
  induction p generalizing taken texts with
  | both first second ihFirst ihSecond =>
    obtain ⟨before, after, early, late, begins, ends, -, rfl⟩ := spells
    rcases Bool.or_eq_true_iff.mp keeps with keeps | keeps
    · exact List.append_ne_nil_of_left_ne_nil (ihFirst keeps begins) late
    · exact List.append_ne_nil_of_right_ne_nil early (ihSecond keeps ends)
  | either first second ihFirst ihSecond =>
    obtain ⟨keepsFirst, keepsSecond⟩ := Bool.and_eq_true_iff.mp keeps
    exact spells.elim (ihFirst keepsFirst) (ihSecond keepsSecond)
  | captured inner =>
    obtain ⟨deeper, -, rfl⟩ := spells
    exact List.cons_ne_nil _ _
  | _ => cases keeps

end Pattern

/-- Where such a pattern occurs, something is kept in lower case. -/
theorem Signal.capturedLower_isSome {p : Pattern} (keeps : p.keepsSomething = true)
    (text : String) : (capturedLower p text).isSome = p.occursIn text := by
  rw [capturedLower, Option.isSome_map, Pattern.captureIn, Pattern.capturesIn, Pattern.occursIn]
  cases search : p.find? (.ofText text) with
  | none => rfl
  | some found =>
    obtain ⟨_, start, -, prefers, -⟩ := Pattern.find?_eq_some_iff.mp search
    obtain ⟨_, spells, -⟩ := Pattern.spellsKeeping_of_run prefers.mem_runs
    have filled := Pattern.ne_nil_of_keepsSomething keeps spells
    obtain ⟨capture, others, same⟩ := List.exists_cons_of_ne_nil (mt List.map_eq_nil_iff.mpr filled)
    simp [same]

/-! ## Searches along handlers -/

/-- The bodies under some names are read one name after another. -/
theorem Ability.bodiesIn_eq (ability : Ability) (names : List String) :
    ability.bodiesIn names = names.filterMap ability.body? := by
  rw [bodiesIn, handlersIn, List.filterMap_filterMap]
  rfl

/-- A detector that goes along handlers: the names of the handlers in the order in which they are
tried, the tests that a body has to pass, and the hooks that such a body gives. -/
structure CandidateSearch where
  detector : Detector
  names : List String
  confirms : String → Bool
  gives : String → List Hook

namespace CandidateSearch

variable {search : CandidateSearch} {ability other : Ability} {earlier : List String}
variable {name body : String}

/-- The first handler whose body passes all tests has this name and this body, and the names before
it are these. -/
structure DecidedBy (search : CandidateSearch) (ability : Ability) (earlier : List String)
    (name body : String) : Prop where
  listed : ∃ later, search.names = earlier ++ name :: later
  read : ability.body? name = some body
  confirmed : search.confirms body = true
  passedOver : ∀ asked ∈ earlier, ∀ text, ability.body? asked = some text →
    search.confirms text = false

/-- The detector finds the hooks of the first body that passes all tests, and such a body gives
some. -/
structure Follows (search : CandidateSearch) : Prop where
  hooksOf : ∀ ability, search.detector.hooksOf ability =
    ((ability.bodiesIn search.names).find? search.confirms).elim [] search.gives
  gives : ∀ body, search.confirms body = true → search.gives body ≠ []

/-- The deciding handler is the first one with a body that passes all tests. -/
theorem DecidedBy.find? (decided : search.DecidedBy ability earlier name body) :
    (ability.bodiesIn search.names).find? search.confirms = some body := by
  obtain ⟨⟨later, listed⟩, read, confirmed, passedOver⟩ := decided
  have none : (earlier.filterMap ability.body?).find? search.confirms = none := by
    rw [List.find?_eq_none]
    intro text among
    obtain ⟨asked, inside, found⟩ := List.mem_filterMap.mp among
    rw [passedOver asked inside text found]
    exact Bool.false_ne_true
  rw [Ability.bodiesIn_eq, listed, List.filterMap_append, List.find?_append, none, Option.none_or,
    List.filterMap_cons_some read, List.find?_cons_of_pos confirmed]

/-- Another ability with the same bodies up to the deciding handler is decided by it too. -/
theorem DecidedBy.congr (decided : search.DecidedBy ability earlier name body)
    (same : ∀ asked ∈ earlier ++ [name], other.body? asked = ability.body? asked) :
    search.DecidedBy other earlier name body where
  listed := decided.listed
  read := (same name (List.mem_append_right _ (List.mem_singleton_self _))).trans decided.read
  confirmed := decided.confirmed
  passedOver asked inside text found :=
    decided.passedOver asked inside text ((same asked (List.mem_append_left _ inside)).symm.trans found)

namespace Follows

/-- The deciding body gives the hooks. -/
theorem hooksOf_of_decidedBy (follows : search.Follows)
    (decided : search.DecidedBy ability earlier name body) :
    search.detector.hooksOf ability = search.gives body := by
  rw [follows.hooksOf, decided.find?]
  rfl

/-- No hook is found exactly if no body passes all tests. -/
theorem hooksOf_eq_nil_iff (follows : search.Follows) : search.detector.hooksOf ability = [] ↔
    ∀ name ∈ search.names, ∀ body, ability.body? name = some body →
      search.confirms body = false := by
  have bodies : (∀ body ∈ ability.bodiesIn search.names, ¬search.confirms body = true) ↔
      ∀ name ∈ search.names, ∀ body, ability.body? name = some body →
        search.confirms body = false := by
    simp only [Ability.bodiesIn_eq, List.mem_filterMap, Bool.not_eq_true]
    exact ⟨fun each name listed body read => each body ⟨name, listed, read⟩,
      fun each body ⟨name, listed, read⟩ => each name listed body read⟩
  rw [← bodies, ← List.find?_eq_none, follows.hooksOf]
  cases first : (ability.bodiesIn search.names).find? search.confirms with
  | none => exact iff_of_true rfl rfl
  | some body =>
    exact iff_of_false (follows.gives body (List.find?_some first)) (Option.some_ne_none body)

end Follows

end CandidateSearch

/-! ## The three detectors -/

namespace Detector

open Pattern Signal

/-- Moves drawn in: a body compares the type of the move and returns a name. -/
def redirectSearch : CandidateSearch where
  detector := redirect
  names := ["onAnyRedirectTarget", "onFoeRedirectTarget", "onAllyRedirectTarget"]
  confirms body := drawnType.occursIn body && returnsIdentifier body
  gives body := (capturedLower drawnType body).toList.flatMap fun moveType =>
    (.redirect, .redirect moveType) ::
      if (onlyBoost "boost(" "spa" "1").occursIn body then
        [(.onRedirect, .boost (.granted (.ofList [("spa", 1)])))]
      else []

/-- Moves that heal: a body compares the type of the move and heals. -/
def absorbSearch : CandidateSearch where
  detector := absorb
  names := ["onTryHit", "onDamagingHit", "onSourceHit", "onDamage"]
  confirms body := healingType.occursIn body && mentions body "heal("
  gives body := (capturedLower healingType body).toList.map fun moveType =>
    (.absorb, .absorb ⟨moveType, "fraction", "1/4"⟩)

/-- Less damage at full health: a body asks for full health and states a multiplier below one. -/
def fullHealthSearch : CandidateSearch where
  detector := fullHealthMitigation
  names := ["onSourceModifyDamage", "onModifyDamage"]
  confirms body := checksFullHealth body && (chainMultiplier body).any (· < 1.0)
  gives body := (chainMultiplier body).toList.map fun multiply =>
    (.onModifyDamage, .factor "defenderAtFullHP" multiply)

/-- The detectors that one handler decides. -/
def candidateSearches : List CandidateSearch := [redirectSearch, absorbSearch, fullHealthSearch]

/-- The first body with an answer is the first one that passes the tests, if these tell which bodies
have an answer. -/
theorem findSome?_eq_bind_find? {α β : Type} {answer : α → Option β} {holds : α → Bool}
    (told : ∀ a, (answer a).isSome = holds a) (choices : List α) :
    choices.findSome? answer = (choices.find? holds).bind answer := by
  induction choices with
  | nil => rfl
  | cons a rest ih =>
    rw [List.findSome?_cons, List.find?_cons, ← told a, ih]
    cases here : answer a with
    | none => rfl
    | some value => exact here.symm

/-- A detector that takes the first answer of a body follows its search. -/
theorem follows_of_answer {search : CandidateSearch} {α : Type} {answer : String → Option α}
    {hooks : α → List Hook}
    (hooksOf : ∀ ability, search.detector.hooksOf ability =
      ((ability.bodiesIn search.names).findSome? answer).elim [] hooks)
    (told : ∀ body, (answer body).isSome = search.confirms body)
    (gives : ∀ body value, answer body = some value →
      search.gives body = hooks value ∧ hooks value ≠ []) : search.Follows where
  hooksOf ability := by
    rw [hooksOf, findSome?_eq_bind_find? told]
    cases first : (ability.bodiesIn search.names).find? search.confirms with
    | none => rfl
    | some body =>
      obtain ⟨value, answered⟩ :=
        Option.isSome_iff_exists.mp ((told body).trans (List.find?_some first))
      rw [Option.bind_some, answered]
      exact (gives body value answered).1.symm
  gives body confirmed := by
    obtain ⟨value, answered⟩ := Option.isSome_iff_exists.mp ((told body).trans confirmed)
    obtain ⟨same, filled⟩ := gives body value answered
    rwa [same]

/-- Moves are drawn in by this search. -/
theorem redirectSearch_follows : redirectSearch.Follows := by
  refine @follows_of_answer redirectSearch _ redirectionOf? id (fun ability => ?_) (fun body => ?_)
    fun body hooks drawn => ?_
  · change ((ability.bodiesIn redirectSearch.names).findSome? redirectionOf?).getD [] = _
    cases (ability.bodiesIn redirectSearch.names).findSome? redirectionOf? <;> rfl
  · change _ = (drawnType.occursIn body && returnsIdentifier body)
    rw [← capturedLower_isSome (by decide) body, redirectionOf?]
    cases capturedLower drawnType body with
    | none => rfl
    | some moveType => cases returnsIdentifier body <;> simp
  · obtain ⟨moveType, asked, -, rfl⟩ := redirectionOf?_eq_some.mp drawn
    refine ⟨?_, List.cons_ne_nil _ _⟩
    simp [redirectSearch, asked]

/-- Healing moves are found by this search. -/
theorem absorbSearch_follows : absorbSearch.Follows := by
  refine @follows_of_answer absorbSearch _ absorbedType?
    (fun moveType => [(.absorb, .absorb ⟨moveType, "fraction", "1/4"⟩)])
    (fun ability => ?_) (fun body => ?_) fun body moveType heals => ?_
  · change (((ability.bodiesIn absorbSearch.names).findSome? absorbedType?).bind _).toList = _
    cases (ability.bodiesIn absorbSearch.names).findSome? absorbedType? <;> rfl
  · change _ = (healingType.occursIn body && mentions body "heal(")
    rw [← capturedLower_isSome (by decide) body, absorbedType?]
    cases mentions body "heal(" <;> simp
  · have asked : capturedLower healingType body = some moveType :=
      (Option.ite_none_right_eq_some.mp heals).2
    exact ⟨by simp [absorbSearch, asked], List.cons_ne_nil _ _⟩

/-- Less damage at full health is found by this search. -/
theorem fullHealthSearch_follows : fullHealthSearch.Follows := by
  refine @follows_of_answer fullHealthSearch _
    (fun body => if checksFullHealth body then reduction? body else none)
    (fun multiply => [(.onModifyDamage, .factor "defenderAtFullHP" multiply)])
    (fun ability => ?_) (fun body => ?_) fun body multiply reduces => ?_
  · change (((ability.bodiesIn fullHealthSearch.names).findSome? _).bind _).toList = _
    cases (ability.bodiesIn fullHealthSearch.names).findSome? _ <;> rfl
  · change _ = (checksFullHealth body && (chainMultiplier body).any (· < 1.0))
    cases checksFullHealth body with
    | false => rfl
    | true =>
      rw [if_pos rfl, Bool.true_and, reduction?]
      cases stated : chainMultiplier body with
      | none => rfl
      | some multiply => by_cases below : multiply < 1.0 <;> simp [Option.filter, below]
  · have stated : chainMultiplier body = some multiply :=
      (Option.filter_eq_some_iff.mp (Option.ite_none_right_eq_some.mp reduces).2).1
    exact ⟨by simp [fullHealthSearch, stated], List.cons_ne_nil _ _⟩

/-- Each of the three detectors follows its search. -/
theorem candidateSearches_follow : ∀ search ∈ candidateSearches, search.Follows := by
  simp only [candidateSearches, List.forall_mem_cons]
  exact ⟨redirectSearch_follows, absorbSearch_follows, fullHealthSearch_follows,
    List.forall_mem_nil _⟩

/-- Redirection, absorption and weakening at full health are each decided by the first of their
handlers, in the order of the search, whose body passes all tests: the hooks are those that this body
gives, in every ability with the same bodies up to this one. Nothing is found exactly if no body
passes all tests. -/
theorem first_candidate_decides : ∀ search ∈ candidateSearches, ∀ ability : Ability,
    (∀ earlier name body, search.DecidedBy ability earlier name body →
      search.detector.hooksOf ability = search.gives body ∧ search.gives body ≠ [] ∧
      ∀ other : Ability, (∀ asked ∈ earlier ++ [name], other.body? asked = ability.body? asked) →
        search.detector.hooksOf other = search.gives body) ∧
    (search.detector.hooksOf ability = [] ↔ ∀ name ∈ search.names, ∀ body,
      ability.body? name = some body → search.confirms body = false) := by
  intro search listed ability
  have follows := candidateSearches_follow search listed
  refine ⟨fun earlier name body decided => ?_, follows.hooksOf_eq_nil_iff⟩
  exact ⟨follows.hooksOf_of_decidedBy decided, follows.gives body decided.confirmed,
    fun other same => follows.hooksOf_of_decidedBy (decided.congr same)⟩

/-- Water moves are drawn in although a handler that comes before compares electric moves, since it
returns no name, and although a handler that comes behind draws in electric moves. -/
theorem first_candidate_decides_water :
    let asking := "if (move.type === 'Electric') return this.effectState.target;"
    let drawing := "if (move.type === 'Water') return target;"
    let late := "if (move.type === 'Electric') return target;"
    let ability : Ability := ⟨"stormdrain", "", [⟨"onAllyRedirectTarget", late, some late⟩,
      ⟨"onFoeRedirectTarget", drawing, some drawing⟩,
      ⟨"onAnyRedirectTarget", asking, some asking⟩], []⟩
    let shorter : Ability := ⟨"stormdrain", "", ability.handlers.tail, []⟩
    redirectSearch ∈ candidateSearches ∧
      redirectSearch.DecidedBy ability ["onAnyRedirectTarget"] "onFoeRedirectTarget" drawing ∧
      redirect.hooksOf ability = [(.redirect, .redirect "water")] ∧
      redirect.hooksOf shorter = [(.redirect, .redirect "water")] := by
  intro asking drawing late ability shorter
  have listed : redirectSearch ∈ candidateSearches := List.mem_cons_self
  have decided :
      redirectSearch.DecidedBy ability ["onAnyRedirectTarget"] "onFoeRedirectTarget" drawing :=
    ⟨⟨["onAllyRedirectTarget"], rfl⟩, rfl, by decide +kernel, by
      intro asked among text read
      obtain rfl := List.mem_singleton.mp among
      obtain rfl : asking = text := Option.some.inj read
      decide +kernel⟩
  have gives : redirectSearch.gives drawing = [(.redirect, .redirect "water")] := by
    have asked : capturedLower drawnType drawing = some "water" := by decide +kernel
    have plain : (onlyBoost "boost(" "spa" "1").occursIn drawing = false := by decide +kernel
    simp [redirectSearch, asked, plain]
  obtain ⟨hooks, -, others⟩ := (first_candidate_decides redirectSearch listed ability).1 _ _ _ decided
  refine ⟨listed, decided, hooks.trans gives, (others shorter fun asked among => ?_).trans gives⟩
  have early : asked = "onAnyRedirectTarget" ∨ asked = "onFoeRedirectTarget" := by
    simpa using among
  rcases early with rfl | rfl <;> rfl

end Detector

end AbilityHooks
