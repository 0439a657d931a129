import AbilityHooks.Proofs.StandardRegistry

/-!
# Records that belong together

Three detectors split what they find over two keys: the loss of secondary effects and the power it
gives, the change of a type and the power it gives, and a type that is drawn in and the raise beside
it. Each of them finds both parts at once or the first alone, and no other detector finds a record
of these kinds. So the parts stay together in a run of the standard registry, whatever else the
other detectors put under their keys.
-/

namespace AbilityHooks

open Detector

/-- Whether a record is a factor with a tag. -/
def HookRecord.taggedWith (tag : String) : HookRecord → Bool
  | .modifier factor => factor.tag == some tag
  | _ => false

/-- Whether a record takes the secondary effects from moves. -/
def HookRecord.takesSecondaries : HookRecord → Bool
  | .moveChange (.stripSecondaries _) => true
  | _ => false

/-- A factor on power goes with a change of type: to normal from every type, and to any other type
from normal alone and with the same-type bonus. -/
def TypeChange.Gives (change : TypeChange) (factor : Modifier) : Prop :=
  (change = ⟨none, "normal", none, some true⟩ ∧ factor.when = "type:normal") ∨
    (change.target ≠ "normal" ∧ change = ⟨some "normal", change.target, some true, none⟩ ∧
      factor.when = "afterTypeRewrite:normal->" ++ change.target)

/-- A record with the tag of the lost secondary effects is one. -/
theorem HookRecord.taggedWith_iff {tag : String} {record : HookRecord} :
    record.taggedWith tag = true ↔ ∃ factor, record = .modifier factor ∧ factor.tag = some tag := by
  cases record with
  | modifier factor => simp [taggedWith]
  | _ => simp [taggedWith]

/-- The change to a type gives the factor under the condition for it. -/
theorem TypeChange.gives_changeTo (target : String) (multiply : Float) (tag : Option String) :
    (changeTo target).Gives ⟨changeCondition target, multiply, tag⟩ := by
  by_cases normal : target = "normal"
  · subst normal
    exact .inl ⟨rfl, rfl⟩
  · have other : (target == "normal") = false := beq_false_of_ne normal
    refine .inr ⟨?_, ?_, ?_⟩
    · simpa [changeTo, other] using normal
    · simp [changeTo, other]
    · simp [changeTo, changeCondition, other]

namespace Detector

variable {ability : Ability}

/-- The loss of secondary effects comes with its factor or not at all. -/
theorem secondaryStripping_hooks (ability : Ability) :
    secondaryStripping.hooksOf ability = [] ∨
      ∃ text, secondaryStripping.hooksOf ability =
        [(.onModifyMove, .moveChange (.stripSecondaries true)),
          taggedPowerFactor "hadSecondariesStrippedOrEligible" text 1.3 "sheerforce"] := by
  unfold hooksOf
  simp only [secondaryStripping, total]
  split
  · split
    · exact .inr ⟨_, rfl⟩
    · exact .inl rfl
  · exact .inl rfl

/-- A change of type comes with its factor, alone, or not at all. -/
theorem typeChange_hooks (ability : Ability) :
    typeChange.hooksOf ability = [] ∨
      ∃ target, typeChange.hooksOf ability = [(.onModifyType, .typeChange (changeTo target))] ∨
        ∃ text, typeChange.hooksOf ability = [(.onModifyType, .typeChange (changeTo target)),
          taggedPowerFactor (changeCondition target) text 1.2 "typeRewrite"] := by
  unfold hooksOf
  simp only [typeChange, total]
  split
  · split
    · exact .inl rfl
    · split
      · exact .inr ⟨_, .inr ⟨_, rfl⟩⟩
      · exact .inr ⟨_, .inl rfl⟩
  · exact .inl rfl

/-- A type that is drawn in comes with its raise, alone, or not at all. -/
theorem redirect_hooks (ability : Ability) :
    redirect.hooksOf ability = [] ∨
      ∃ moveType, redirect.hooksOf ability = [(.redirect, .redirect moveType)] ∨
        ∃ stages, redirect.hooksOf ability =
          [(.redirect, .redirect moveType), (.onRedirect, .boost (.granted stages))] := by
  change Option.getD (List.findSome? _ _) [] = [] ∨ _
  cases first : (ability.bodiesIn ["onAnyRedirectTarget", "onFoeRedirectTarget",
    "onAllyRedirectTarget"]).findSome? redirectionOf? with
  | none => exact .inl rfl
  | some hooks =>
    have found : redirect.hooksOf ability = hooks := congrArg (Option.getD · []) first
    obtain ⟨body, -, drawn⟩ := List.exists_of_findSome?_eq_some first
    obtain ⟨moveType, -, -, rfl⟩ := redirectionOf?_eq_some.mp drawn
    refine .inr ⟨moveType, ?_⟩
    split at found
    · exact .inr ⟨_, found⟩
    · exact .inl found

end Detector

namespace Registry

/-- The factors on power with a tag come from the detector that the tag tells. -/
theorem standard_tagged_factors {detector : Detector} (among : detector ∈ Registry.standard)
    {tag : String}
    (told : ∀ factor : Modifier, factor.tag = some tag → powerFinder factor = detector.name)
    (ability : Ability) :
    ((Registry.standard.run ability).value.records .onBasePower).filter (·.taggedWith tag) =
      (recordsUnder .onBasePower (detector.hooksOf ability)).filter (·.taggedWith tag) := by
  refine standard_filter_records among (fun record tagged => ?_) ability
  obtain ⟨factor, rfl, tag⟩ := HookRecord.taggedWith_iff.mp tagged
  exact told factor tag

/-- The changes of moves that take secondary effects come from their detector. -/
theorem standard_secondary_changes (ability : Ability) :
    ((Registry.standard.run ability).value.records .onModifyMove).filter
        HookRecord.takesSecondaries =
      (recordsUnder .onModifyMove (secondaryStripping.hooksOf ability)).filter
        HookRecord.takesSecondaries := by
  refine standard_filter_records (by simp [Registry.standard]) (fun record taking => ?_) ability
  cases record with
  | moveChange change =>
    cases change with
    | set ignoring => cases taking
    | stripSecondaries strip => rfl
  | _ => cases taking

/-- Secondary effects are lost with a factor for that, one of each, or not at all. -/
theorem standard_secondary_pair (ability : Ability) :
    let power := (Registry.standard.run ability).value.records .onBasePower
    let moves := (Registry.standard.run ability).value.records .onModifyMove
    (power.filter (·.taggedWith "sheerforce") = [] ∧
        moves.filter HookRecord.takesSecondaries = []) ∨
      ∃ factor change, power.filter (·.taggedWith "sheerforce") = [factor] ∧
        moves.filter HookRecord.takesSecondaries = [change] := by
  intro power moves
  have told : ∀ factor : Modifier, factor.tag = some "sheerforce" →
      powerFinder factor = secondaryStripping.name := by
    intro factor tag
    simp only [powerFinder, tag]
    rfl
  have factors := standard_tagged_factors (by simp [Registry.standard]) told ability
  have changes := standard_secondary_changes ability
  rcases secondaryStripping_hooks ability with none | ⟨text, both⟩
  · rw [none] at factors changes
    exact .inl ⟨factors, changes⟩
  · rw [both] at factors changes
    exact .inr ⟨_, _, factors, changes⟩

/-- A type changes with a factor for that or without one, once, and there is no such factor without
a change of type. -/
theorem standard_type_pair (ability : Ability) :
    let power := (Registry.standard.run ability).value.records .onBasePower
    let types := (Registry.standard.run ability).value.records .onModifyType
    power.filter (·.taggedWith "typeRewrite") = [] ∨
      ∃ target multiply, types = [.typeChange (changeTo target)] ∧
        power.filter (·.taggedWith "typeRewrite") =
          [.taggedFactor (changeCondition target) multiply "typeRewrite"] := by
  intro power types
  have told : ∀ factor : Modifier, factor.tag = some "typeRewrite" →
      powerFinder factor = typeChange.name := by
    intro factor tag
    simp only [powerFinder, tag]
    rfl
  have factors := standard_tagged_factors (by simp [Registry.standard]) told ability
  have changes := @standard_records typeChange (by simp [Registry.standard]) .onModifyType
    (fun _ => rfl) ability
  rcases typeChange_hooks ability with none | ⟨target, alone | ⟨text, both⟩⟩
  · rw [none] at factors
    exact .inl factors
  · rw [alone] at factors
    exact .inl factors
  · rw [both] at factors changes
    exact .inr ⟨target, _, changes, factors⟩

/-- A raise for a type that is drawn in stands beside that type, one of each, or there is none. -/
theorem standard_redirect_pair (ability : Ability) :
    let table := (Registry.standard.run ability).value
    table.get? .onRedirect = none ∨
      ∃ drawn raise, table.get? .redirect = some [drawn] ∧ table.get? .onRedirect = some [raise] := by
  intro table
  have own : ∀ key, (∀ record, finder key record = Detector.redirect.name) →
      table.records key = recordsUnder key (Detector.redirect.hooksOf ability) :=
    fun key told => standard_records (by simp [Registry.standard]) told ability
  have drawn := own .redirect fun _ => rfl
  have raised := own .onRedirect fun _ => rfl
  rw [HookTable.get?_eq, HookTable.get?_eq, drawn, raised]
  rcases redirect_hooks ability with none | ⟨moveType, alone | ⟨stages, both⟩⟩
  · rw [none]
    exact .inl rfl
  · rw [alone]
    exact .inl rfl
  · rw [both]
    exact .inr ⟨_, _, rfl, rfl⟩

/-- In a run of the standard registry the factor for lost secondary effects is there exactly if the
loss is, and neither is there twice. A factor for a changed type is the only one, it stands beside
the only change of type, and its condition is that of the change. A raise for a type that is drawn in
stands beside that type, and there is one of each. -/
theorem standard_pairs (ability : Ability) :
    let table := (Registry.standard.run ability).value
    ((∃ record ∈ table.records .onBasePower, record.taggedWith "sheerforce" = true) ↔
        ∃ record ∈ table.records .onModifyMove, record.takesSecondaries = true) ∧
    (table.records .onBasePower).countP (·.taggedWith "sheerforce") ≤ 1 ∧
    (table.records .onModifyMove).countP HookRecord.takesSecondaries ≤ 1 ∧
    (∀ factor : Modifier, .modifier factor ∈ table.records .onBasePower →
      factor.tag = some "typeRewrite" →
        (table.records .onBasePower).countP (·.taggedWith "typeRewrite") = 1 ∧
        ∃ change, table.get? .onModifyType = some [.typeChange change] ∧ change.Gives factor) ∧
    (∀ raises, table.get? .onRedirect = some raises →
      raises.length = 1 ∧ ∃ drawn, table.get? .redirect = some drawn ∧ drawn.length = 1) := by
  intro table
  have present : ∀ (records : List HookRecord) (kind : HookRecord → Bool),
      (∃ record ∈ records, kind record = true) ↔ records.filter kind ≠ [] := by
    intro records kind
    simp [List.filter_eq_nil_iff]
  refine ⟨?_, ?_, ?_, ?_, ?_⟩
  · rw [present, present]
    rcases standard_secondary_pair ability with ⟨factors, changes⟩ | ⟨_, _, factors, changes⟩
    · rw [factors, changes]
    · rw [factors, changes]
      simp
  · rw [List.countP_eq_length_filter]
    rcases standard_secondary_pair ability with ⟨factors, -⟩ | ⟨_, _, factors, -⟩
    · rw [factors]
      exact Nat.zero_le 1
    · rw [factors]
      exact Nat.le_refl 1
  · rw [List.countP_eq_length_filter]
    rcases standard_secondary_pair ability with ⟨-, changes⟩ | ⟨_, _, -, changes⟩
    · rw [changes]
      exact Nat.zero_le 1
    · rw [changes]
      exact Nat.le_refl 1
  · intro factor inside tag
    have tagged : HookRecord.modifier factor ∈
        (table.records .onBasePower).filter (·.taggedWith "typeRewrite") :=
      List.mem_filter.mpr ⟨inside, HookRecord.taggedWith_iff.mpr ⟨factor, rfl, tag⟩⟩
    rcases standard_type_pair ability with none | ⟨target, multiply, changes, factors⟩
    · rw [none] at tagged
      cases tagged
    · rw [factors] at tagged
      obtain rfl := HookRecord.modifier.inj (List.mem_singleton.mp tagged)
      refine ⟨by rw [List.countP_eq_length_filter, factors]; rfl, changeTo target, ?_,
        TypeChange.gives_changeTo target multiply _⟩
      rw [HookTable.get?_eq, changes]
      rfl
  · intro raises found
    rcases standard_redirect_pair ability with none | ⟨drawn, raise, drawnFound, raiseFound⟩
    · rw [none] at found
      cases found
    · obtain rfl := Option.some.inj (raiseFound.symm.trans found)
      exact ⟨rfl, [drawn], drawnFound, rfl⟩

/-- Moves that become fairy moves, and gain power by that, in an ability that also draws water moves
in. -/
theorem standard_pairs_fairy :
    let assigns := "move.type = 'Fairy';"
    let asks := "if (move.typeChangerBoosted === this.effect) return this.chainModify(1.2);"
    let draws := "if (move.type === 'Water') \x7b this.boost(\x7bspa: 1\x7d); return target; \x7d"
    let ability : Ability := ⟨"pixilate", "", [⟨"onModifyType", assigns, none⟩,
      ⟨"onBasePower", asks, none⟩, ⟨"onAnyRedirectTarget", draws, some draws⟩], []⟩
    let table := (Registry.standard.run ability).value
    let factor : Modifier := ⟨"afterTypeRewrite:normal->fairy", 1.2, some "typeRewrite"⟩
    (.modifier factor ∈ table.records .onBasePower ∧
      ∃ change, table.get? .onModifyType = some [.typeChange change] ∧ change.Gives factor) ∧
    (∃ raises, table.get? .onRedirect = some raises ∧
      ∃ drawn, table.get? .redirect = some drawn ∧ drawn.length = 1) := by
  intro assigns asks draws ability table factor
  have stated : Signal.chainMultiplierOr asks 1.2 = 1.2 := by decide +kernel
  have changed : (.onBasePower, .modifier factor) ∈ typeChange.hooksOf ability :=
    mem_typeChange.mpr ⟨_, rfl, _, rfl, "fairy", by decide +kernel, .inr ⟨by decide +kernel, by
      rw [taggedPowerFactor, stated]
      rfl⟩⟩
  have inside : .modifier factor ∈ table.records .onBasePower :=
    mem_records_run.mpr ⟨typeChange, by simp [Registry.standard], changed⟩
  have raised : table.get? .onRedirect = some [.boost (.granted [("spa", 1)])] := by
    have drawn : redirectionOf? draws =
        some [(.redirect, .redirect "water"), (.onRedirect, .boost (.granted [("spa", 1)]))] :=
      redirectionOf?_eq_some.mpr ⟨"water", by decide +kernel, by decide +kernel, by
        rw [if_pos (by decide +kernel)]
        rfl⟩
    have hooks : Detector.redirect.hooksOf ability =
        [(.redirect, .redirect "water"), (.onRedirect, .boost (.granted [("spa", 1)]))] := by
      change Option.getD (List.findSome? redirectionOf? [draws]) [] = _
      rw [List.findSome?_singleton, drawn]
      rfl
    have records := @standard_records Detector.redirect (by simp [Registry.standard]) .onRedirect
      (fun _ => rfl) ability
    rw [HookTable.get?_eq, records, hooks]
    rfl
  obtain ⟨-, -, -, types, draw⟩ := standard_pairs ability
  exact ⟨⟨inside, (types factor inside rfl).2⟩, _, raised, (draw _ raised).2⟩

end Registry

end AbilityHooks
