import AbilityHooks.Proofs.FirstCandidates

/-!
# Code that is added

An ability gains code: lines around what its handlers say, and handlers under new names. Eight
detectors of what the holder refuses or does not take ask whether something stands in a text, and never
whether it is absent. So what they find stays found. Three things look beyond the stretch that is
found, and none of them sees past what is added. A word edge asks for the characters on both sides,
where the end of a line is no word character, as little as an end of the text. The lower case of a
sigma depends on the letters around it, but only on those of its line. And the first handler of a name
hides the others, but an added one has a name of its own.
-/

namespace AbilityHooks

variable {old new text longer : String} {more : List Char}

/-- A text stands whole among further lines of a longer text, or makes up all of it. -/
def AmongLines (text longer : String) : Prop :=
  ∃ before after : List String, longer = "\n".intercalate (before ++ text :: after)

/-- Around a text among lines stand characters that do not touch it with a word character. -/
theorem AmongLines.exists_around (among : AmongLines text longer) :
    ∃ before after, longer.toList = before ++ (text.toList ++ after) ∧
      before.getLast?.any Text.isWord = false ∧ after.head?.any Text.isWord = false := by
  have lineEnd : Text.isWord '\n' = false := by decide +kernel
  obtain ⟨earlier, later, rfl⟩ := among
  rw [String.toList_intercalate, List.map_append, List.map_cons]
  induction earlier with
  | nil =>
    cases later with
    | nil => exact ⟨[], [], by simp, rfl, rfl⟩
    | cons line others =>
      exact ⟨[], _, List.intercalate_cons_cons.trans (List.append_assoc _ _ _), rfl, lineEnd⟩
  | cons line others ih =>
    obtain ⟨before, after, split, apart, closed⟩ := ih
    refine ⟨line.toList ++ ['\n'] ++ before, after, ?_, ?_, closed⟩
    · rw [List.map_cons, List.cons_append, List.intercalate_cons_of_ne_nil (by simp), split]
      exact (List.append_assoc _ _ _).symm
    · cases before with
      | nil => simpa using lineEnd
      | cons c rest => rwa [List.getLast?_append_of_ne_nil _ (List.cons_ne_nil _ _)]

/-! ## Patterns among lines -/

/-- A place is found again in a longer text: the text behind it goes on, and the character before it
is a word character here and there, or in neither text. -/
structure Place.Resumes (more : List Char) (place wider : Place) : Prop where
  rest : wider.rest = place.rest ++ more
  before : wider.before.any Text.isWord = place.before.any Text.isWord

namespace Place.Resumes

variable {start stop wider : Place} {taken : List Char}

/-- A place that is found again leads over the same characters to a place that is found again. -/
theorem leads (resumes : start.Resumes more wider) (leads : start.Leads taken stop) :
    ∃ stop', stop.Resumes more stop' ∧ wider.Leads taken stop' := by
  have split : wider.rest = taken ++ (stop.rest ++ more) := by
    rw [resumes.rest, leads.rest, List.append_assoc]
  refine ⟨_, ⟨rfl, ?_⟩, .of_rest split⟩
  rw [leads.before]
  cases taken.getLast? with
  | none => exact resumes.before
  | some c => rfl

/-- A word edge stays one if no word character is added behind the text. -/
theorem atWordEdge (resumes : start.Resumes more wider)
    (closed : more.head?.any Text.isWord = false) : wider.atWordEdge = start.atWordEdge := by
  have next : wider.rest.head?.any Text.isWord = start.rest.head?.any Text.isWord := by
    rw [resumes.rest]
    cases start.rest with
    | nil => exact closed
    | cons c rest => rfl
  rw [Place.atWordEdge, Place.atWordEdge, resumes.before, next]

end Place.Resumes

namespace Pattern

variable {p : Pattern} {start stop wider : Place}

/-- What leads from place to place leads between the same places of a longer text. Only a word edge
asks for more than the characters that it leads over. -/
theorem Reaches.resumes (closed : more.head?.any Text.isWord = false)
    (reaches : p.Reaches start stop) (resumes : start.Resumes more wider) :
    ∃ stop', stop.Resumes more stop' ∧ p.Reaches wider stop' := by
  induction p generalizing start stop wider with
  | nothing =>
    obtain ⟨kept, run⟩ := reaches
    obtain ⟨-, rfl⟩ := Prod.mk.inj (List.mem_singleton.mp run)
    exact ⟨wider, resumes, [], List.mem_singleton_self _⟩
  | one holds =>
    obtain ⟨kept, run⟩ := reaches
    obtain ⟨-, c, held, leads⟩ := mem_runs_one.mp run
    obtain ⟨stop', again, leads⟩ := resumes.leads leads
    exact ⟨stop', again, [], mem_runs_one.mpr ⟨rfl, c, held, leads⟩⟩
  | many holds =>
    obtain ⟨taken, holding, leads⟩ := reaches_many.mp reaches
    obtain ⟨stop', again, leads⟩ := resumes.leads leads
    exact ⟨stop', again, reaches_many.mpr ⟨taken, holding, leads⟩⟩
  | both first second ihFirst ihSecond =>
    obtain ⟨middle, begins, ends⟩ := reaches_append.mp reaches
    obtain ⟨middle', between, begins⟩ := ihFirst begins resumes
    obtain ⟨stop', again, ends⟩ := ihSecond ends between
    exact ⟨stop', again, reaches_append.mpr ⟨middle', begins, ends⟩⟩
  | either first second ihFirst ihSecond =>
    obtain ⟨kept, run⟩ := reaches
    rcases mem_runs_either.mp run with run | run
    · obtain ⟨stop', again, kept, run⟩ := ihFirst ⟨kept, run⟩ resumes
      exact ⟨stop', again, kept, mem_runs_either.mpr (.inl run)⟩
    · obtain ⟨stop', again, kept, run⟩ := ihSecond ⟨kept, run⟩ resumes
      exact ⟨stop', again, kept, mem_runs_either.mpr (.inr run)⟩
  | captured inner ih =>
    obtain ⟨kept, run⟩ := reaches
    obtain ⟨deeper, run, -⟩ := mem_runs_captured.mp run
    obtain ⟨stop', again, deeper, run⟩ := ih ⟨deeper, run⟩ resumes
    exact ⟨stop', again, _, mem_runs_captured.mpr ⟨deeper, run, rfl⟩⟩
  | wordEdge =>
    obtain ⟨rfl, edge⟩ := reaches_wordEdge.mp reaches
    exact ⟨wider, resumes, reaches_wordEdge.mpr ⟨rfl, (resumes.atWordEdge closed).trans edge⟩⟩

/-- A pattern that occurs in a text occurs in every text that has it among its lines. -/
theorem occursIn_of_amongLines (among : AmongLines text longer) (occurs : p.occursIn text = true) :
    p.occursIn longer = true := by
  obtain ⟨ahead, behind, split, apart, closed⟩ := among.exists_around
  obtain ⟨skipped, start, stop, leads, reaches⟩ := occursIn_iff_reaches.mp occurs
  have enters : (Place.ofText longer).Leads ahead ⟨ahead.getLast?.or none, text.toList ++ behind⟩ :=
    .of_rest split
  have seam : (Place.ofText text).Resumes behind ⟨ahead.getLast?.or none, text.toList ++ behind⟩ :=
    ⟨rfl, by rwa [Option.or_none]⟩
  obtain ⟨start', begins, leads⟩ := seam.leads leads
  obtain ⟨stop', -, reaches⟩ := reaches.resumes closed begins
  exact occursIn_iff_reaches.mpr
    ⟨ahead ++ skipped, start', stop', Place.Leads.append_iff.mpr ⟨_, enters, leads⟩, reaches⟩

end Pattern

/-! ## Lower case among lines -/

namespace Text

/-- The end of a line hides what is behind it from case context. -/
theorem leadsCased_append_lineEnd (chars rest : List Char) :
    leadsCased (chars ++ '\n' :: rest) = leadsCased chars := by
  have seen : inRanges caseIgnorableRanges '\n' = false := by decide +kernel
  have uncased : inRanges casedRanges '\n' = false := by decide +kernel
  induction chars with
  | nil => simp [leadsCased, seen, uncased]
  | cons c chars ih =>
    cases ignored : inRanges caseIgnorableRanges c with
    | true => simpa [leadsCased, ignored] using ih
    | false => simp [leadsCased, ignored]

/-- What is before the line has no say in its lower case. -/
theorem lowerAfter_append_lineEnd (before earlier chars : List Char) :
    lowerAfter (before ++ '\n' :: earlier) chars = lowerAfter before chars := by
  induction chars generalizing before with
  | nil => rfl
  | cons c rest ih =>
    rw [lowerAfter, lowerAfter, leadsCased_append_lineEnd, ← List.cons_append, ih]

/-- The end of a line parts a text into texts that are lower-cased on their own. -/
theorem lowerAfter_lineEnd (before chars rest : List Char) :
    lowerAfter before (chars ++ '\n' :: rest) =
      lowerAfter before chars ++ '\n' :: lowerAfter [] rest := by
  induction chars generalizing before with
  | nil => exact congrArg ('\n' :: ·) (lowerAfter_append_lineEnd [] before rest)
  | cons c chars ih =>
    rw [List.cons_append, lowerAfter, lowerAfter, leadsCased_append_lineEnd, ih, List.append_assoc]

/-- A text is lower-cased line by line. -/
theorem lowerCase_intercalate (lines : List String) :
    lowerCase ("\n".intercalate lines) = "\n".intercalate (lines.map lowerCase) := by
  have lineEnd : "\n".toList = ['\n'] := rfl
  induction lines with
  | nil => rfl
  | cons line others ih =>
    cases others with
    | nil => simp
    | cons next others =>
      rw [← String.toList_inj] at ih ⊢
      simp only [lowerCase, String.toList_ofList, String.toList_intercalate, List.map_cons,
        List.intercalate_cons_cons, lineEnd, List.append_assoc, List.singleton_append,
        lowerAfter_lineEnd] at ih ⊢
      rw [ih]

end Text

/-- In lower case a text stands among the same lines in lower case. -/
theorem AmongLines.lowerCase (among : AmongLines text longer) :
    AmongLines (Text.lowerCase text) (Text.lowerCase longer) := by
  obtain ⟨before, after, rfl⟩ := among
  refine ⟨before.map Text.lowerCase, after.map Text.lowerCase, ?_⟩
  rw [Text.lowerCase_intercalate, List.map_append, List.map_cons]

/-! ## Tests that added lines leave passed -/

/-- A text that passes the test passes it among any lines. -/
def Steady (test : String → Bool) : Prop :=
  ∀ text longer, AmongLines text longer → test text = true → test longer = true

namespace Steady

variable {test other : String → Bool}

/-- A search for a pattern is steady. -/
theorem occursIn (p : Pattern) : Steady p.occursIn :=
  fun _ _ among occurs => Pattern.occursIn_of_amongLines among occurs

/-- A steady test of the lower case is steady. -/
theorem lowerCase (steady : Steady test) : Steady fun text => test (Text.lowerCase text) :=
  fun _ _ among passed => steady _ _ among.lowerCase passed

/-- Two steady tests make a steady one. -/
theorem and (first : Steady test) (second : Steady other) :
    Steady fun text => test text && other text := by
  intro text longer among passed
  rw [Bool.and_eq_true_iff] at passed ⊢
  exact ⟨first text longer among passed.1, second text longer among passed.2⟩

/-- A choice of steady tests is steady. -/
theorem any {α : Type} {choices : List α} {tests : α → String → Bool}
    (each : ∀ choice ∈ choices, Steady (tests choice)) :
    Steady fun text => choices.any (tests · text) := by
  intro text longer among passed
  obtain ⟨choice, listed, passed⟩ := List.any_eq_true.mp passed
  exact List.any_eq_true.mpr ⟨choice, listed, each choice listed text longer among passed⟩

/-- One of two steady tests makes a steady one. -/
theorem or (first : Steady test) (second : Steady other) :
    Steady fun text => test text || other text := by
  intro text longer among passed
  rw [Bool.or_eq_true] at passed ⊢
  exact passed.imp (first text longer among) (second text longer among)

end Steady

/-! ## Abilities that grow -/

/-- A handler keeps its name. Its text gains lines or stays, and so does its body if it has one. -/
structure Handler.GrowsTo (old new : Handler) : Prop where
  name : new.name = old.name
  text : AmongLines old.text new.text
  body : ∀ body, old.body = some body → ∃ longer, new.body = some longer ∧ AmongLines body longer

/-- Handlers grow, and handlers under names other than the given ones join them. -/
inductive HandlersGrow (names : List String) : List Handler → List Handler → Prop
  | nil : HandlersGrow names [] []
  | grown {handler longer : Handler} {old new : List Handler} :
      handler.GrowsTo longer → HandlersGrow names old new →
      HandlersGrow names (handler :: old) (longer :: new)
  | added {handler : Handler} {old new : List Handler} :
      handler.name ∉ names → HandlersGrow names old new → HandlersGrow names old (handler :: new)

/-- The handlers of an ability grow, and handlers under names that it does not have join them. -/
def Ability.GrowsTo (old new : Ability) : Prop :=
  HandlersGrow (old.handlers.map (·.name)) old.handlers new.handlers

/-- The first handler of a listed name is still the first one of its name. -/
theorem HandlersGrow.find? {names : List String} {old new : List Handler} {name : String}
    {handler : Handler} (grow : HandlersGrow names old new) (listed : name ∈ names)
    (found : old.find? (·.name == name) = some handler) :
    ∃ longer, new.find? (·.name == name) = some longer ∧ handler.GrowsTo longer := by
  induction grow with
  | nil => cases found
  | @grown first longer old new grows rest ih =>
    by_cases named : first.name = name
    · have same : (first.name == name) = true := beq_iff_eq.mpr named
      rw [List.find?_cons, same] at found
      rw [List.find?_cons, grows.name, same]
      obtain rfl := Option.some.inj found
      exact ⟨longer, rfl, grows⟩
    · have other : (first.name == name) = false := beq_eq_false_iff_ne.mpr named
      rw [List.find?_cons, other] at found
      rw [List.find?_cons, grows.name, other]
      exact ih found
  | added fresh rest ih =>
    -- The name is a listed one and that of the added handler is not, so the search passes over it.
    have other := beq_eq_false_iff_ne.mpr (ne_of_mem_of_not_mem listed fresh).symm
    rw [List.find?_cons, other]
    exact ih found

namespace Ability.GrowsTo

variable {old new : Ability} {names : List String} {handler : Handler} {body : String}

/-- A handler is found again under its name. -/
theorem handler? {name : String} (grows : old.GrowsTo new) (found : old.handler? name = some handler) :
    ∃ longer, new.handler? name = some longer ∧ handler.GrowsTo longer := by
  have named : handler.name = name := by simpa using List.find?_some found
  have listed : name ∈ old.handlers.map (·.name) :=
    named ▸ List.mem_map_of_mem (List.mem_of_find?_eq_some found)
  exact HandlersGrow.find? grows listed found

/-- A handler under some names is found again under them. -/
theorem handlersIn (grows : old.GrowsTo new) (inside : handler ∈ old.handlersIn names) :
    ∃ longer ∈ new.handlersIn names, handler.GrowsTo longer := by
  obtain ⟨name, listed, found⟩ := List.mem_filterMap.mp inside
  obtain ⟨longer, found, grown⟩ := grows.handler? found
  exact ⟨longer, List.mem_filterMap.mpr ⟨name, listed, found⟩, grown⟩

/-- A body under some names is found again among the lines of a body under them. -/
theorem bodiesIn (grows : old.GrowsTo new) (inside : body ∈ old.bodiesIn names) :
    ∃ longer ∈ new.bodiesIn names, AmongLines body longer := by
  obtain ⟨handler, listed, read⟩ := List.mem_filterMap.mp inside
  obtain ⟨grownHandler, listed, grown⟩ := grows.handlersIn listed
  obtain ⟨longer, read, among⟩ := grown.body body read
  exact ⟨longer, List.mem_filterMap.mpr ⟨grownHandler, listed, read⟩, among⟩

end Ability.GrowsTo

/-! ## Refusals and immunities -/

namespace Detector

open Pattern Signal

/-- A detector finds at most one hook, and finds it again in an ability that has grown. -/
structure Lasting (detector : Detector) : Prop where
  answers : ∀ ability, ∃ hook? : Option Hook, detector.detect ability = .ok hook?.toList
  keeps : ∀ {old new : Ability}, old.GrowsTo new → detector.hooksOf old ⊆ detector.hooksOf new

variable {name : String} {handlers : List String} {hook : Hook} {test : String → Bool}

/-- A steady test of bodies makes a detector whose finds last. -/
theorem lasting_fromBodies (steady : Steady test) : (fromBodies name handlers hook test).Lasting where
  answers ability := ⟨_, rfl⟩
  keeps grows _ found := by
    obtain ⟨⟨body, inside, passed⟩, same⟩ := mem_fromBodies.mp found
    obtain ⟨longer, inside, among⟩ := grows.bodiesIn inside
    exact mem_fromBodies.mpr ⟨⟨longer, inside, steady body longer among passed⟩, same⟩

/-- A steady test of whole texts makes a detector whose finds last. -/
theorem lasting_fromTexts (steady : Steady test) : (fromTexts name handlers hook test).Lasting where
  answers ability := ⟨_, rfl⟩
  keeps grows _ found := by
    obtain ⟨⟨handler, inside, passed⟩, same⟩ := mem_fromTexts.mp found
    obtain ⟨longer, inside, grown⟩ := grows.handlersIn inside
    exact mem_fromTexts.mpr ⟨⟨longer, inside, steady _ _ grown.text passed⟩, same⟩

/-- The detectors of moves, damage and recoil that the holder does not take. -/
def refusals : List Detector :=
  [blockStatusMoves, blockBallistic, blockSound, powderImmunity, weatherChipImmunity, recoilNegation,
    statusReflection, residualImmunity]

/-- What each of them finds lasts, since it only asks where patterns occur. -/
theorem lasting_of_mem_refusals : ∀ detector ∈ refusals, detector.Lasting := by
  have blocks : Steady returnsBlock := .occursIn _
  have status : Steady checksStatusCategory := .occursIn _
  have weather : Steady fun text =>
      ["sandstorm", "hail", "snow"].any (mentions (Text.lowerCase text)) :=
    .any fun word _ => (Steady.occursIn (lit word)).lowerCase
  simp only [refusals, List.forall_mem_cons]
  refine ⟨?status, ?ballistic, ?sound, ?powder, ?weather, ?recoil, ?reflection, ?residual,
    List.forall_mem_nil _⟩
  case status => exact lasting_fromBodies (status.and (blocks.or (.occursIn _)))
  case ballistic => exact lasting_fromBodies (.and (.occursIn MoveFlag.bullet.pattern) blocks)
  case sound => exact lasting_fromTexts (.and (.occursIn MoveFlag.sound.pattern) blocks)
  case powder => exact lasting_fromTexts (.and (Steady.occursIn (lit "powder")).lowerCase blocks)
  case weather => exact lasting_fromTexts (weather.and blocks)
  case recoil => exact lasting_fromTexts (.occursIn _)
  case reflection => exact lasting_fromTexts (status.and (.occursIn _))
  case residual => exact lasting_fromTexts (.or (.occursIn _) (.occursIn _))

/-- Added code retracts no refusal. Each of the eight detectors answers with one hook at most, and
with every hook that it found before lines were added around the texts and the bodies of handlers and
before handlers under new names were added. -/
theorem refusals_kept_of_growsTo : ∀ detector ∈ refusals, ∀ old new : Ability, old.GrowsTo new →
    ∃ found more, detector.detect old = .ok found ∧ detector.detect new = .ok more ∧
      found ⊆ more ∧ found.length ≤ 1 ∧ more.length ≤ 1 := by
  intro detector listed old new grows
  have lasting := lasting_of_mem_refusals detector listed
  have atMostOne : ∀ hook? : Option Hook, hook?.toList.length ≤ 1 := by rintro (_ | _) <;> simp
  obtain ⟨found, answer⟩ := lasting.answers old
  obtain ⟨more, later⟩ := lasting.answers new
  have kept := lasting.keeps grows
  rw [hooksOf, hooksOf, answer, later] at kept
  exact ⟨_, _, answer, later, kept, atMostOne found, atMostOne more⟩

/-- Powders stay refused after lines with a sigma at either end of what the handler says, and after a
handler for immunities that comes first. -/
theorem refusals_kept_powder :
    let said := "return null; // POWDERΣ"
    let around := "\n".intercalate ["// ΑΣ", said, "Α"]
    let old : Ability := ⟨"overcoat", said, [⟨"onTryHit", said, none⟩], []⟩
    let new : Ability := ⟨"overcoat", around,
      [⟨"onImmunity", "onImmunity: true", none⟩, ⟨"onTryHit", around, none⟩], []⟩
    powderImmunity ∈ refusals ∧ old.GrowsTo new ∧
      powderImmunity.detect old = .ok [refusedTag "powder"] ∧
      powderImmunity.detect new = .ok [refusedTag "powder"] := by
  intro said around old new
  have listed : powderImmunity ∈ refusals := by simp [refusals]
  have longer : Handler.GrowsTo ⟨"onTryHit", said, none⟩ ⟨"onTryHit", around, none⟩ :=
    ⟨rfl, ⟨["// ΑΣ"], ["Α"], rfl⟩, fun _ read => nomatch read⟩
  have grows : old.GrowsTo new := .added (by decide) (.grown longer .nil)
  have passed : (mentions (Text.lowerCase said) "powder" && returnsBlock said) = true := by
    decide +kernel
  have before : refusedTag "powder" ∈ powderImmunity.hooksOf old :=
    mem_fromTexts.mpr ⟨⟨⟨"onTryHit", said, none⟩, List.mem_singleton_self _, passed⟩, rfl⟩
  obtain ⟨found, more, answer, later, kept, short, alsoShort⟩ :=
    refusals_kept_of_growsTo powderImmunity listed old new grows
  rw [hooksOf, answer] at before
  have alone : ∀ {hooks : List Hook}, refusedTag "powder" ∈ hooks → hooks.length ≤ 1 →
      hooks = [refusedTag "powder"] := by
    intro hooks inside short
    obtain ⟨hook, rfl⟩ := List.length_eq_one_iff.mp
      (Nat.le_antisymm short (List.length_pos_of_mem inside))
    rw [List.mem_singleton.mp inside]
  exact ⟨listed, grows, answer.trans (congrArg _ (alone before short)),
    later.trans (congrArg _ (alone (kept before) alsoShort))⟩

end Detector

end AbilityHooks
