import AbilityHooks.Detector.Basic
import AbilityHooks.Signal.Multiplier
import AbilityHooks.Signal.Weather

/-!
# Weather and terrain

Setting the weather or the terrain on entry, and the speed and the power that a weather gives.
-/

namespace AbilityHooks.Detector

open Pattern Signal

/-- What entering does, if the first call of a setter has a string literal. A setter with any
other argument hides the later ones. -/
def entryState? (ability : Ability) (setter : String) (action : String → EntryAction) :
    Option Hook :=
  match (ability.firstCall? setter).bind (·.argument) with
  | some (.literal value) => some (.onSwitchIn, .action (action value))
  | _ => none

/-- The weather set on entry. -/
def setWeather : Detector :=
  single "set_weather" (entryState? · "setWeather" (.setWeather · 5 "icyrock"))

/-- The terrain set on entry. -/
def setTerrain : Detector :=
  single "set_terrain" (entryState? · "setTerrain" (.setTerrain · 5 "terrainextender"))

/-- The factor on speed, from the body of the speed handler. -/
def weatherSpeedOf? (body : String) : Option Hook := do
  let weather ← Weather.ofSpeed? (Text.lowerCase body)
  some (.onModifySpe, .factor ("weather:" ++ weather.name) (chainMultiplierOr body 2.0))

/-- Speed in a weather. -/
def weatherSpeed : Detector :=
  single "weather_speed" fun ability => (ability.body? "onModifySpe").bind weatherSpeedOf?

/-- A comparison of the type of the move with one that weathers raise; the type is kept. -/
def weatherType : Pattern :=
  spaced [litFolded "move.type", lit "===",
    quote ++ captured (wordsFolded ["rock", "ground", "steel", "water", "fire", "ice", "electric"])
      ++ quote]

/-- The factor on power, from the body of the power handler. -/
def weatherPowerOf? (body : String) : Option Hook := do
  let lowered := Text.lowerCase body
  let weather ← Weather.ofPower? lowered
  let moveType ← capturedLower weatherType lowered
  some (.onBasePower,
    .factor ("weather:" ++ weather.name ++ ":type:" ++ moveType) (chainMultiplierOr body 1.3))

/-- Power of moves of a type in a weather. -/
def weatherPower : Detector :=
  single "weather_power" fun ability => (ability.body? "onBasePower").bind weatherPowerOf?

end AbilityHooks.Detector
