import AbilityHooks.Proofs.DetectorHooks
import AbilityHooks.Proofs.Spelling
import Mathlib.Data.List.Infix

/-!
# Terrains and the word for rain

The word for rain ends the word terrain. So a handler that asks for a terrain is taken to speak of
rain, and this is the only way in which the word hides in it: with all terrains cut out of a text, the
words of the other weathers stay where they are, since none of them shares letters with an end of the
word terrain.
-/

namespace AbilityHooks

variable {word kept chars rest : List Char}

/-! ## Cutting out a word -/

/-- The characters without the occurrences of a word, which are cut out from left to right. -/
def cutOut (word : List Char) : List Char → List Char
  | [] => []
  | c :: rest =>
    if word.isPrefixOf (c :: rest) then cutOut word (rest.drop (word.length - 1))
    else c :: cutOut word rest
termination_by chars => chars.length

/-- Whether no stretch at the end of the first word begins the second one, or the other way round. -/
def EndsApart (first second : List Char) : Prop :=
  ∀ tail ∈ first.tails, tail ≠ [] → ¬tail <+: second ∧ ¬second <+: tail

instance (first second : List Char) : Decidable (EndsApart first second) :=
  inferInstanceAs (Decidable (∀ tail ∈ first.tails, _))

/-- A word in whose first characters another one begins is not apart from it. -/
theorem EndsApart.not_both {first second : List Char} (apart : EndsApart first second)
    (filled : first ≠ []) (begins : first <+: chars) : ¬second <+: chars := by
  intro alsoBegins
  obtain ⟨notIn, notOut⟩ := apart first ((List.mem_tails _ _).mpr List.suffix_rfl) filled
  rcases List.prefix_or_prefix_of_prefix begins alsoBegins with inside | inside
  · exact notIn inside
  · exact notOut inside

/-- The end of a word is as far apart as the word. -/
theorem EndsApart.of_cons {c : Char} {first second : List Char}
    (apart : EndsApart (c :: first) second) : EndsApart first second := by
  intro tail ending filled
  have longer := ((List.mem_tails _ _).mp ending).trans (List.suffix_cons c first)
  exact apart tail ((List.mem_tails _ _).mpr longer) filled

/-- Behind a word that it is apart from, a stretch is found in the rest. -/
theorem EndsApart.infix_rest (apart : EndsApart word kept) (found : kept <:+: word ++ rest) :
    kept <:+: rest := by
  induction word with
  | nil => exact found
  | cons c letters ih =>
    rcases List.infix_cons_iff.mp found with begins | later
    · exact absurd begins (apart.not_both (List.cons_ne_nil _ _) (List.prefix_append _ _))
    · exact ih apart.of_cons later

/-- A stretch at the start of a text stays there. -/
theorem prefix_cutOut (apart : EndsApart kept word) (begins : kept <+: chars) :
    kept <+: cutOut word chars := by
  induction kept generalizing chars with
  | nil => exact List.nil_prefix
  | cons c letters ih =>
    obtain ⟨after, rfl⟩ := begins
    have uncut : ¬word.isPrefixOf (c :: (letters ++ after)) = true := by
      rw [List.isPrefixOf_iff_prefix]
      exact apart.not_both (List.cons_ne_nil _ _) (List.prefix_append _ _)
    rw [List.cons_append, cutOut, if_neg uncut, List.cons_prefix_cons]
    exact ⟨rfl, ih apart.of_cons (List.prefix_append _ _)⟩

/-- A stretch that is apart from a word on both ends stays in a text from which the word is cut. -/
theorem infix_cutOut (filled : word ≠ []) (ahead : EndsApart word kept)
    (behind : EndsApart kept word) (found : kept <:+: chars) : kept <:+: cutOut word chars := by
  fun_induction cutOut word chars with
  | case1 => exact found
  | case2 c rest begins ih =>
    apply ih
    obtain ⟨after, split⟩ := List.isPrefixOf_iff_prefix.mp begins
    have same : rest.drop (word.length - 1) = after := by
      cases word with
      | nil => exact absurd rfl filled
      | cons d letters =>
        obtain ⟨rfl, rfl⟩ := List.cons.inj split
        exact List.drop_left
    rw [same]
    exact ahead.infix_rest (split ▸ found)
  | case3 c rest uncut ih =>
    rcases List.infix_cons_iff.mp found with begins | later
    · have kept := prefix_cutOut behind begins
      rw [cutOut, if_neg uncut] at kept
      exact kept.isInfix
    · exact (ih later).trans (List.suffix_cons _ _).isInfix

/-- A text in which a word does not occur stays whole. -/
theorem cutOut_of_not_infix (absent : ¬word <:+: chars) : cutOut word chars = chars := by
  induction chars with
  | nil => rw [cutOut]
  | cons c rest ih =>
    obtain ⟨uncut, later⟩ := not_or.mp (mt List.infix_cons_iff.mpr absent)
    rw [cutOut, if_neg (mt List.isPrefixOf_iff_prefix.mp uncut), ih later]

/-! ## The weather of a text -/

namespace Signal

open Pattern

/-- A text without the word terrain. -/
def withoutTerrain (text : String) : String :=
  String.ofList (cutOut "terrain".toList text.toList)

/-- A text mentions a word if the word is a stretch of it. -/
theorem mentions_iff {text word : String} :
    mentions text word = true ↔ word.toList <:+: text.toList := by
  rw [mentions, occursIn_iff_spells (edgeless_lit word)]
  constructor
  · rintro ⟨before, taken, after, spells, split⟩
    rw [spells_lit] at spells
    exact ⟨before, after, by rw [split, spells, List.append_assoc]⟩
  · rintro ⟨before, after, split⟩
    exact ⟨before, _, after, spells_lit.mpr rfl, by rw [← split, List.append_assoc]⟩

/-- A text that mentions no terrain stays whole. -/
theorem withoutTerrain_eq {text : String} (absent : mentions text "terrain" = false) :
    withoutTerrain text = text := by
  have noStretch : ¬"terrain".toList <:+: text.toList := by
    rw [← mentions_iff, absent]
    exact Bool.false_ne_true
  rw [withoutTerrain, cutOut_of_not_infix noStretch, String.ofList_toList]

/-- A text that mentions a word which is apart from terrain mentions it without its terrains. -/
theorem mentions_withoutTerrain {text word : String}
    (ahead : EndsApart "terrain".toList word.toList)
    (behind : EndsApart word.toList "terrain".toList) (mentioned : mentions text word = true) :
    mentions (withoutTerrain text) word = true := by
  rw [mentions_iff, withoutTerrain, String.toList_ofList]
  exact infix_cutOut (by decide) ahead behind (mentions_iff.mp mentioned)

/-- A text mentions rain outside of terrains, or it mentions a terrain. -/
def MentionsRainOrTerrain (text : String) : Prop :=
  mentions (withoutTerrain text) "rain" = true ∨ mentions text "terrain" = true

/-- A text that mentions rain mentions it outside of terrains, or it mentions a terrain. -/
theorem mentions_rain_iff (text : String) :
    mentions text "rain" = true ↔ MentionsRainOrTerrain text := by
  have hidden : "rain".toList <:+: "terrain".toList := ⟨"ter".toList, [], by decide⟩
  rw [MentionsRainOrTerrain]
  cases terrain : mentions text "terrain" with
  | false => simp [withoutTerrain_eq terrain]
  | true =>
    have rain := hidden.trans (mentions_iff.mp terrain)
    simp [mentions_iff.mpr rain]

end Signal

namespace Weather

open Signal

/-- A text that speaks of no weather once its terrains are cut out. -/
def OnlyTerrains (lowered : String) : Prop :=
  ∀ weather : Weather, weather.mentionedIn (withoutTerrain lowered) = false

/-- A text speaks of rain if it mentions it outside of terrains, or mentions a terrain. -/
theorem rain_mentionedIn_iff (lowered : String) :
    rain.mentionedIn lowered = true ↔ MentionsRainOrTerrain lowered := by
  rw [← mentions_rain_iff]
  simp [mentionedIn, cues]

/-- No word of another weather than rain shares letters with an end of the word terrain. -/
theorem cues_apart (weather : Weather) (other : weather ≠ rain) : ∀ cue ∈ weather.cues,
    EndsApart "terrain".toList cue.toList ∧ EndsApart cue.toList "terrain".toList := by
  cases weather with
  | rain => exact absurd rfl other
  | _ => decide

/-- A speed handler is asked for rain first. -/
theorem ofSpeed?_eq_rain_iff (lowered : String) :
    ofSpeed? lowered = some rain ↔ rain.mentionedIn lowered = true := by
  rw [ofSpeed?, List.find?_cons]
  cases rain.mentionedIn lowered with
  | true => simp
  | false =>
    refine iff_of_false (fun later => ?_) Bool.false_ne_true
    exact absurd (List.mem_of_find?_eq_some later) (by decide)

/-- A power handler is asked for sand, and then for rain. -/
theorem ofPower?_eq_rain_iff (lowered : String) :
    ofPower? lowered = some rain ↔
      sand.mentionedIn lowered = false ∧ rain.mentionedIn lowered = true := by
  rw [ofPower?, List.find?_cons, List.find?_cons]
  cases sand.mentionedIn lowered with
  | true => simp
  | false =>
    cases rain.mentionedIn lowered with
    | true => simp
    | false =>
      refine iff_of_false (fun later => ?_) fun both => Bool.false_ne_true both.2
      exact absurd (List.mem_of_find?_eq_some later) (by decide)

namespace OnlyTerrains

variable {lowered : String}

/-- Only rain hides in terrains. -/
theorem mentionedIn_eq (only : OnlyTerrains lowered) (weather : Weather) :
    weather.mentionedIn lowered = (weather == rain && mentions lowered "terrain") := by
  by_cases isRain : weather = rain
  · subst isRain
    have outside : mentions (withoutTerrain lowered) "rain" = false := by
      simpa [mentionedIn, cues] using only rain
    rw [Bool.eq_iff_iff, rain_mentionedIn_iff, MentionsRainOrTerrain, outside]
    simp
  · rw [beq_false_of_ne isRain, Bool.false_and, ← Bool.not_eq_true]
    intro speaks
    obtain ⟨cue, listed, mentioned⟩ := List.any_eq_true.mp speaks
    obtain ⟨ahead, behind⟩ := cues_apart weather isRain cue listed
    have kept := mentions_withoutTerrain ahead behind mentioned
    have still : weather.mentionedIn (withoutTerrain lowered) = true :=
      List.any_eq_true.mpr ⟨cue, listed, kept⟩
    rw [only weather] at still
    cases still

/-- In whatever order the weathers are asked for, a terrain counts as rain. -/
theorem find?_eq (only : OnlyTerrains lowered) {order : List Weather} (asked : rain ∈ order) :
    order.find? (·.mentionedIn lowered) =
      if mentions lowered "terrain" then some rain else none := by
  simp only [only.mentionedIn_eq]
  cases mentions lowered "terrain" with
  | false => simp
  | true =>
    have found : (order.find? (· == rain)).isSome = true :=
      List.find?_isSome.mpr ⟨rain, asked, beq_self_eq_true rain⟩
    obtain ⟨weather, here⟩ := Option.isSome_iff_exists.mp found
    obtain rfl : weather = rain := by simpa using List.find?_some here
    simpa using here

/-- The speed handler of an ability that asks for terrains only. -/
theorem hooksOf_weatherSpeed {ability : Ability} {body : String}
    (only : OnlyTerrains (Text.lowerCase body)) (read : ability.body? "onModifySpe" = some body) :
    Detector.weatherSpeed.hooksOf ability =
      if mentions (Text.lowerCase body) "terrain" then
        [(.onModifySpe, .factor "weather:rain" (chainMultiplierOr body 2.0))]
      else [] := by
  have found : Detector.weatherSpeed.hooksOf ability =
      ((ability.body? "onModifySpe").bind Detector.weatherSpeedOf?).toList := rfl
  rw [found, read, Option.bind_some, Detector.weatherSpeedOf?, ofSpeed?, only.find?_eq (by decide)]
  split <;> rfl

/-- The power handler of an ability that asks for terrains only. -/
theorem hooksOf_weatherPower {ability : Ability} {body : String}
    (only : OnlyTerrains (Text.lowerCase body)) (read : ability.body? "onBasePower" = some body) :
    Detector.weatherPower.hooksOf ability =
      if mentions (Text.lowerCase body) "terrain" then
        (capturedLower Detector.weatherType (Text.lowerCase body)).toList.map fun moveType =>
          (.onBasePower,
            .factor ("weather:rain:type:" ++ moveType) (chainMultiplierOr body 1.3))
      else [] := by
  have found : Detector.weatherPower.hooksOf ability =
      ((ability.body? "onBasePower").bind Detector.weatherPowerOf?).toList := rfl
  rw [found, read, Option.bind_some, Detector.weatherPowerOf?, ofPower?, only.find?_eq (by decide)]
  split
  · cases capturedLower Detector.weatherType (Text.lowerCase body) <;> rfl
  · rfl

end OnlyTerrains

/-- A speed handler is taken for one about rain exactly if it mentions rain outside of terrains or
mentions a terrain, and a power handler if besides it mentions no sandstorm. So an ability whose
handler speaks of no weather outside of terrains has a hook of rain exactly if the handler mentions a
terrain (and, for power, compares a type). -/
theorem rain_told_by_terrain (body : String) :
    (ofSpeed? (Text.lowerCase body) = some rain ↔
      MentionsRainOrTerrain (Text.lowerCase body)) ∧
      (ofPower? (Text.lowerCase body) = some rain ↔
        mentions (Text.lowerCase body) "sandstorm" = false ∧
          MentionsRainOrTerrain (Text.lowerCase body)) ∧
      (OnlyTerrains (Text.lowerCase body) → ∀ ability : Ability,
        (ability.body? "onModifySpe" = some body → Detector.weatherSpeed.hooksOf ability =
          if mentions (Text.lowerCase body) "terrain" then
            [(.onModifySpe, .factor "weather:rain" (chainMultiplierOr body 2.0))]
          else []) ∧
        (ability.body? "onBasePower" = some body → Detector.weatherPower.hooksOf ability =
          if mentions (Text.lowerCase body) "terrain" then
            (capturedLower Detector.weatherType (Text.lowerCase body)).toList.map fun moveType =>
              (.onBasePower,
                .factor ("weather:rain:type:" ++ moveType) (chainMultiplierOr body 1.3))
          else [])) := by
  have rains := rain_mentionedIn_iff (Text.lowerCase body)
  have sands : sand.mentionedIn (Text.lowerCase body) =
      mentions (Text.lowerCase body) "sandstorm" := by
    simp [mentionedIn, cues]
  refine ⟨(ofSpeed?_eq_rain_iff _).trans rains, ?_, fun only ability => ?_⟩
  · rw [ofPower?_eq_rain_iff, sands, rains]
  · exact ⟨only.hooksOf_weatherSpeed, only.hooksOf_weatherPower⟩

/-- A handler that doubles speed on electric terrain. -/
def terrainBody : String := "if (isTerrain('electricterrain')) return spe * 2;"

/-- An ability with that handler. -/
def terrainAbility : Ability :=
  (Ability.named "surgesurfer").withHandler ⟨"onModifySpe", terrainBody, some terrainBody⟩

/-- That handler in lower case. -/
theorem lowerCase_terrainBody : Text.lowerCase terrainBody =
    "if (isterrain('electricterrain')) return spe * 2;" := by
  decide +kernel

/-- The handler speaks of no weather. -/
theorem onlyTerrains_terrainBody : OnlyTerrains (Text.lowerCase terrainBody) := by
  rw [lowerCase_terrainBody]
  intro weather
  cases weather <;> decide +kernel

/-- The ability that doubles speed on electric terrain has a hook of rain. -/
theorem rain_told_by_electric_terrain :
    OnlyTerrains (Text.lowerCase terrainBody) ∧ Detector.weatherSpeed.hooksOf terrainAbility =
      [(.onModifySpe, .factor "weather:rain" (chainMultiplierOr terrainBody 2.0))] := by
  have terrain : mentions (Text.lowerCase terrainBody) "terrain" = true := by
    rw [lowerCase_terrainBody]
    decide +kernel
  have only := onlyTerrains_terrainBody
  have hooks := ((rain_told_by_terrain terrainBody).2.2 only terrainAbility).1 rfl
  rw [if_pos terrain] at hooks
  exact ⟨only, hooks⟩

/-- Texts without rain outside of terrains are taken to speak of rain. -/
theorem terrain_taken_for_rain :
    (∃ text : String, mentions (withoutTerrain (Text.lowerCase text)) "rain" = false ∧
      ofSpeed? (Text.lowerCase text) = some rain ∧ ofPower? (Text.lowerCase text) = some rain) ∧
      ∃ (ability : Ability) (body : String), ability.body? "onModifySpe" = some body ∧
        OnlyTerrains (Text.lowerCase body) ∧ Detector.weatherSpeed.hooksOf ability ≠ [] := by
  have answers : mentions (withoutTerrain (Text.lowerCase terrainBody)) "rain" = false ∧
      ofSpeed? (Text.lowerCase terrainBody) = some rain ∧
      ofPower? (Text.lowerCase terrainBody) = some rain := by
    rw [lowerCase_terrainBody]
    decide +kernel
  have read : terrainAbility.body? "onModifySpe" = some terrainBody := rfl
  have hook := Detector.mem_weatherSpeed.mpr ⟨terrainBody, read, rain, answers.2.1, rfl⟩
  exact ⟨⟨terrainBody, answers⟩,
    terrainAbility, terrainBody, read, onlyTerrains_terrainBody, List.ne_nil_of_mem hook⟩

end Weather

end AbilityHooks
