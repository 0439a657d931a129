import AbilityHooks.Proofs.Failures

/-!
# What the standard registry looks at

An ability can have any properties, but the standard detectors ask for few of them, and only for the
first one of a name. For each detector a list names the properties it may read; two abilities that
agree on these, on the text, on the calls and on the normalized id cannot be told apart by it. The
lists together name every property that can matter to the standard registry.
-/

namespace AbilityHooks

open Detector

/-- Two abilities that agree on everything but their properties, and on the first property of each
of some names. -/
structure Ability.Alike (names : List String) (left right : Ability) : Prop where
  id : Hint.normalize left.id = Hint.normalize right.id
  text : left.text = right.text
  calls : left.calls = right.calls
  handler? : ∀ name ∈ names, left.handler? name = right.handler? name

namespace Ability.Alike

variable {names : List String} {left right : Ability}

/-- Abilities that agree on more names agree on fewer. -/
theorem mono {more : List String} (alike : Alike more left right) (fewer : names ⊆ more) :
    Alike names left right :=
  ⟨alike.id, alike.text, alike.calls, fun name among => alike.handler? name (fewer among)⟩

/-- Abilities that are alike have the same bodies under the names. -/
theorem body? (alike : Alike names left right) {name : String} (among : name ∈ names) :
    left.body? name = right.body? name := by
  rw [Ability.body?, Ability.body?, alike.handler? name among]

/-- Abilities that are alike have the same properties of the names. -/
theorem handlersIn (alike : Alike names left right) :
    left.handlersIn names = right.handlersIn names :=
  List.filterMap_congr alike.handler?

/-- Abilities that are alike have the same bodies of the names. -/
theorem bodiesIn (alike : Alike names left right) :
    left.bodiesIn names = right.bodiesIn names := by
  rw [Ability.bodiesIn, Ability.bodiesIn, alike.handlersIn]

/-- Abilities that are alike have the same first property of the names. -/
theorem firstHandler? (alike : Alike names left right) :
    left.firstHandler? names = right.firstHandler? names := by
  rw [Ability.firstHandler?, Ability.firstHandler?, ← List.head?_filterMap, ← List.head?_filterMap]
  exact congrArg List.head? alike.handlersIn

/-- Abilities that are alike make the same first call of something. -/
theorem firstCall? (alike : Alike names left right) (ending : String) :
    left.firstCall? ending = right.firstCall? ending := by
  rw [Ability.firstCall?, Ability.firstCall?, alike.calls]

end Ability.Alike

/-! ## What each detector reads -/

namespace Detector

variable {names : List String}

/-- A detector reads no more than the properties of some names if it answers the same at abilities
that are alike in them. -/
def Reads (names : List String) (detector : Detector) : Prop :=
  ∀ left right, Ability.Alike names left right → detector.detect left = detector.detect right

namespace Reads

/-- A detector that reads no more than some properties reads no more than these and others. -/
theorem mono {more : List String} {detector : Detector} (reads : detector.Reads names)
    (fewer : names ⊆ more) : detector.Reads more :=
  fun left right alike => reads left right (alike.mono fewer)

/-- A detector that cannot fail reads what its hooks are read from. -/
theorem total {name : String} {hooks : Ability → List Hook}
    (same : ∀ left right, Ability.Alike names left right → hooks left = hooks right) :
    (Detector.total name hooks).Reads names :=
  fun left right alike => congrArg Except.ok (same left right alike)

/-- A detector of at most one hook reads what that hook is read from. -/
theorem single {name : String} {hook? : Ability → Option Hook}
    (same : ∀ left right, Ability.Alike names left right → hook? left = hook? right) :
    (Detector.single name hook?).Reads names :=
  total fun left right alike => congrArg Option.toList (same left right alike)

/-- A detector of a hook in one body reads the property with that body. -/
theorem body {name asked : String} {hook? : String → Option Hook} :
    (Detector.single name fun ability => (ability.body? asked).bind hook?).Reads [asked] :=
  single fun _ _ alike =>
    congrArg (Option.bind · hook?) (alike.body? (List.mem_singleton_self asked))

/-- A detector that tests bodies reads the properties it names. -/
theorem fromBodies {name : String} {asked : List String} {hook : Hook} {test : String → Bool} :
    (Detector.fromBodies name asked hook test).Reads asked :=
  single fun left right alike => by rw [alike.bodiesIn]

/-- A detector that tests whole texts reads the properties it names. -/
theorem fromTexts {name : String} {asked : List String} {hook : Hook} {test : String → Bool} :
    (Detector.fromTexts name asked hook test).Reads asked :=
  single fun left right alike => by rw [alike.handlersIn]

end Reads

/-- The same-type bonus is read from its property. -/
theorem sameType_reads : sameType.Reads ["onModifySTAB"] :=
  .single fun _ _ alike => by rw [alike.handler? "onModifySTAB" (by simp)]

/-- A setter is read from the calls. -/
theorem entryState_reads {name setter : String} {action : String → EntryAction} :
    (single name (entryState? · setter action)).Reads [] :=
  .single fun _ _ alike => by rw [entryState?, entryState?, alike.firstCall?]

/-- A shift of priority is read from the body of its property. -/
theorem priorityShift_reads : priorityShift.Reads ["onModifyPriority"] := by
  intro left right alike
  have body := alike.body? (List.mem_singleton_self "onModifyPriority")
  simp only [priorityShift, body]

/-- The factors on the attacking stats are read from two bodies. -/
theorem statChain_reads : statChain.Reads ["onModifyAtk", "onModifySpA"] := by
  refine .total fun left right alike => List.filterMap_congr fun (name, key) among => ?_
  have listed : name ∈ ["onModifyAtk", "onModifySpA"] := List.mem_map_of_mem (f := (·.1)) among
  simp only [statFactor?, alike.body? listed]

/-- Damage at full health is read from two bodies. -/
theorem fullHealthMitigation_reads :
    fullHealthMitigation.Reads ["onSourceModifyDamage", "onModifyDamage"] :=
  .single fun _ _ alike => by rw [alike.bodiesIn]

/-- Moves drawn in are read from three bodies. -/
theorem redirect_reads : redirect.Reads
    ["onAnyRedirectTarget", "onFoeRedirectTarget", "onAllyRedirectTarget"] :=
  .total fun _ _ alike => by rw [alike.bodiesIn]

/-- Moves that heal are read from four bodies. -/
theorem absorb_reads : absorb.Reads ["onTryHit", "onDamagingHit", "onSourceHit", "onDamage"] :=
  .single fun _ _ alike => by rw [alike.bodiesIn]

/-- Poison that heals is read from the property at the end of a turn. -/
theorem poisonHeal_reads : poisonHeal.Reads ["onResidual"] :=
  .single fun _ _ alike => by rw [alike.handler? "onResidual" (by simp)]

/-- Stages are read from the properties of entry, of boosts tried and of boosts made. -/
theorem reactiveBoosts_reads : reactiveBoosts.Reads
    ["onStart", "onSwitchIn", "onTryBoost", "onAfterEachBoost", "onAfterBoost", "onBoost"] := by
  refine .total fun left right alike => ?_
  have entry : left.firstHandler? ["onStart", "onSwitchIn"] = right.firstHandler? _ :=
    (alike.mono (by simp)).firstHandler?
  have guard := alike.handler? "onTryBoost" (by simp)
  have raises : left.handlersIn ["onAfterEachBoost", "onAfterBoost", "onBoost"] =
      right.handlersIn _ := (alike.mono (by simp)).handlersIn
  simp only [foeDrop?, dropGuard?, entry, guard, raises]

/-- The flags of moves with power are read from the body of the power property. -/
theorem basePowerTags_reads : basePowerTags.Reads ["onBasePower"] :=
  .total fun _ _ alike => by simp only [alike.body? (List.mem_singleton_self "onBasePower")]

/-- The raise of the best stat is read from the text. -/
theorem paradoxBooster_reads : paradoxBooster.Reads [] :=
  .single fun _ _ alike => by rw [alike.text]

/-- A change of type is read from the properties of types and of power. -/
theorem typeChange_reads : typeChange.Reads ["onModifyType", "onBasePower"] :=
  .total fun _ _ alike => by
    simp only [alike.handler? "onModifyType" (by simp), alike.handler? "onBasePower" (by simp)]

/-- The loss of secondary effects is read from the properties of moves and of power. -/
theorem secondaryStripping_reads : secondaryStripping.Reads ["onModifyMove", "onBasePower"] :=
  .total fun _ _ alike => by
    simp only [alike.handler? "onModifyMove" (by simp), alike.handler? "onBasePower" (by simp)]

/-- A hint is read from the normalized id. -/
theorem nameHeuristics_reads : nameHeuristics.Reads [] :=
  .single fun _ _ alike => by rw [Hint.ofId?, Hint.ofId?, alike.id]

end Detector

/-- The names of the properties that can matter to the standard detectors. -/
def Ability.relevantNames : List String := [
  "onModifySTAB", "onModifyDamage", "onSourceModifyDamage", "onModifyPriority", "onModifyAtk",
  "onModifySpA", "onModifySpe", "onBasePower", "onModifyMove", "onModifyType", "onResidual",
  "onTryHit", "onTryMove", "onAllyTryHit", "onDamage", "onDamagingHit", "onSourceHit",
  "onImmunity", "onAnyRedirectTarget", "onFoeRedirectTarget", "onAllyRedirectTarget",
  "onAnyModifyBoost", "onStart", "onSwitchIn", "onTryBoost", "onAfterEachBoost", "onAfterBoost",
  "onBoost"]

namespace Registry

open Ability

/-- Every standard detector reads relevant properties only. -/
theorem standard_reads : ∀ detector ∈ Registry.standard, detector.Reads relevantNames := by
  have one : ∀ name asked hook?, asked ∈ relevantNames →
      (Detector.single name fun ability => (ability.body? asked).bind hook?).Reads relevantNames :=
    fun name asked hook? among => Reads.body.mono (by simpa using among)
  simp only [Registry.standard, List.forall_mem_cons]
  exact ⟨sameType_reads.mono (by decide), entryState_reads.mono (by decide),
    entryState_reads.mono (by decide), one _ "onModifyDamage" _ (by decide),
    priorityShift_reads.mono (by decide), statChain_reads.mono (by decide),
    Reads.fromBodies.mono (by decide), Reads.fromBodies.mono (by decide),
    redirect_reads.mono (by decide), absorb_reads.mono (by decide),
    one _ "onImmunity" _ (by decide), fullHealthMitigation_reads.mono (by decide),
    one _ "onAnyModifyBoost" _ (by decide), reactiveBoosts_reads.mono (by decide),
    one _ "onBasePower" _ (by decide), basePowerTags_reads.mono (by decide),
    paradoxBooster_reads.mono (by decide), one _ "onModifyMove" _ (by decide),
    typeChange_reads.mono (by decide), one _ "onBasePower" _ (by decide),
    one _ "onBasePower" _ (by decide), Reads.fromTexts.mono (by decide),
    secondaryStripping_reads.mono (by decide), one _ "onModifySpe" _ (by decide),
    one _ "onBasePower" _ (by decide), Reads.fromTexts.mono (by decide),
    Reads.fromTexts.mono (by decide), poisonHeal_reads.mono (by decide),
    Reads.fromTexts.mono (by decide), Reads.fromTexts.mono (by decide),
    Reads.fromTexts.mono (by decide), nameHeuristics_reads.mono (by decide), by simp⟩

/-- Two abilities fare alike under a registry if its runs find the same hooks at both and fail in
the same way. -/
structure FareAlike (registry : Registry) (left right : Ability) : Prop where
  hooks : (registry.run left).value = (registry.run right).value
  failures : registry.failures left = registry.failures right

/-- Abilities that are alike fare alike under detectors that read no more. -/
theorem FareAlike.of_reads {registry : Registry} {names : List String} {left right : Ability}
    (reads : ∀ detector ∈ registry, detector.Reads names) (alike : Alike names left right) :
    registry.FareAlike left right := by
  have same : ∀ detector ∈ registry, detector.detect left = detector.detect right :=
    fun detector listed => reads detector listed left right alike
  constructor
  · have stream : registry.hooksOf left = registry.hooksOf right :=
      List.flatMap_congr fun detector listed => by
        rw [Detector.hooksOf, Detector.hooksOf, same detector listed]
    rw [value_run, value_run, stream]
  · rw [failures_eq, failures_eq]
    exact List.filterMap_congr fun detector listed => by
      rw [Detector.failure?, Detector.failure?, same detector listed]

end Registry

namespace Ability

/-- An ability is alike to itself with its properties in another order, if those of one name stay in
theirs. -/
theorem alike_shuffled {ability : Ability} {shuffled : List Handler} (names : List String)
    (kept : ∀ name, ability.handlers.filter (·.name == name) = shuffled.filter (·.name == name)) :
    Alike names ability { ability with handlers := shuffled } := by
  refine ⟨rfl, rfl, rfl, fun name _ => ?_⟩
  rw [handler?, handler?, ← List.head?_filter, ← List.head?_filter, kept]

/-- An ability is alike to itself with one more property, if that has none of the names or stands
behind another one of its name. -/
theorem alike_inserted {ability : Ability} {names : List String} {before after : List Handler}
    {handler : Handler} (split : ability.handlers = before ++ after)
    (idle : handler.name ∉ names ∨ handler.name ∈ before.map (·.name)) :
    Alike names ability { ability with handlers := before ++ handler :: after } := by
  refine ⟨rfl, rfl, rfl, fun name among => ?_⟩
  rw [handler?, handler?, split, List.find?_append, List.find?_append]
  by_cases asked : handler.name = name
  · -- A property that is asked for is hidden by the one of its name before it.
    have hidden : name ∈ before.map (·.name) := by
      rcases idle with other | earlier
      · exact absurd (asked ▸ among) other
      · exact asked ▸ earlier
    obtain ⟨first, inside, named⟩ := List.mem_map.mp hidden
    have found : (before.find? (·.name == name)).isSome :=
      List.find?_isSome.mpr ⟨first, inside, beq_iff_eq.mpr named⟩
    rw [Option.or_of_isSome found, Option.or_of_isSome found]
  · rw [List.find?_cons_of_neg (by simpa using asked)]

end Ability

namespace Registry

open Ability

/-- The standard registry finds the same hooks and fails in the same way at abilities with the same
normalized id, text and calls that agree on the first property of each relevant name. So neither
the order of properties with different names, nor a property of another name, nor one behind
another of its name has any influence. -/
theorem standard_reads_relevant (ability : Ability) :
    (∀ other, Alike relevantNames ability other → Registry.standard.FareAlike ability other) ∧
    (∀ shuffled : List Handler,
      (∀ name, ability.handlers.filter (·.name == name) = shuffled.filter (·.name == name)) →
        Registry.standard.FareAlike ability { ability with handlers := shuffled }) ∧
    (∀ (before after : List Handler) (handler : Handler), ability.handlers = before ++ after →
      handler.name ∉ relevantNames ∨ handler.name ∈ before.map (·.name) →
        Registry.standard.FareAlike ability
          { ability with handlers := before ++ handler :: after }) := by
  have fare : ∀ other, Alike relevantNames ability other →
      Registry.standard.FareAlike ability other :=
    fun other => FareAlike.of_reads standard_reads
  refine ⟨fare, ?_, ?_⟩
  · intro shuffled kept
    exact fare _ (alike_shuffled relevantNames kept)
  · intro before after handler split idle
    exact fare _ (alike_inserted split idle)

/-- An ability whose shift of priority does not fit, under another spelling of its id, with its two
properties exchanged, and with a second shift behind the first. -/
theorem standard_reads_relevant_respelled :
    let shift : Handler := ⟨"onModifyPriority", "", some "return priority + 2147483648"⟩
    let hit : Handler := ⟨"onTryHit", "", none⟩
    let ability : Ability := ⟨"voltabsorb", "", [shift, hit], []⟩
    let other : Ability := ⟨"Volt Absorb", "", [hit, shift], []⟩
    let again : Handler := ⟨"onModifyPriority", "", some "return priority + 1"⟩
    (Alike relevantNames ability other ∧ Registry.standard.FareAlike ability other) ∧
    ((∀ name, [shift, hit].filter (·.name == name) = [hit, shift].filter (·.name == name)) ∧
      Registry.standard.FareAlike ability { ability with handlers := [hit, shift] }) ∧
    (again.name ∈ [shift].map (·.name) ∧
      Registry.standard.FareAlike ability { ability with handlers := [shift, again, hit] }) := by
  intro shift hit ability other again
  have alike : Alike relevantNames ability other := ⟨by decide, rfl, rfl, by decide⟩
  have kept : ∀ name, [shift, hit].filter (·.name == name) =
      [hit, shift].filter (·.name == name) := by
    intro name
    by_cases first : shift.name = name
    · subst first
      decide
    · rw [List.filter_cons_of_neg (by simpa using first)]
      cases named : hit.name == name <;> simp [named, first]
  have earlier : again.name ∈ [shift].map (·.name) := by decide
  obtain ⟨fareOther, fareShuffled, fareInserted⟩ := standard_reads_relevant ability
  exact ⟨⟨alike, fareOther other alike⟩, ⟨kept, fareShuffled _ kept⟩,
    earlier, fareInserted [shift] [hit] again rfl (.inr earlier)⟩

end Registry

end AbilityHooks
