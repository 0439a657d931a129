import AbilityHooks.Signal.Check

/-!
# Weather groups

The weather a handler speaks of, told by the words in its lower-cased text. Which group is
asked first depends on the kind of handler.
-/

namespace AbilityHooks

/-- A family of weathers. -/
inductive Weather where
  | rain
  | sun
  | sand
  | snow
  deriving DecidableEq, Repr

namespace Weather

/-- The name of a group in records. -/
def name : Weather → String
  | rain => "rain"
  | sun => "sun"
  | sand => "sand"
  | snow => "snow"

/-- The words that tell a group. -/
def cues : Weather → List String
  | rain => ["rain"]
  | sun => ["sun", "desolateland"]
  | sand => ["sandstorm"]
  | snow => ["snow", "hail"]

/-- Whether a text speaks of the group. -/
def mentionedIn (weather : Weather) (text : String) : Bool :=
  weather.cues.any (Signal.mentions text)

/-- The weather of a speed handler, from its lower-cased text. -/
def ofSpeed? (lowered : String) : Option Weather :=
  [rain, sun, sand, snow].find? (·.mentionedIn lowered)

/-- The weather of a power handler, from its lower-cased text. The word for sun hides inside
unrelated names, so sand comes first. -/
def ofPower? (lowered : String) : Option Weather :=
  [sand, rain, sun, snow].find? (·.mentionedIn lowered)

end Weather

end AbilityHooks
