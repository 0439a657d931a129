import AbilityHooks.Hook.Record

/-!
# Hints by name

Some abilities act too indirectly for their handlers to be read; what they do is known by
their names. Names are compared by their ASCII letters and digits alone, in lower case.
-/

namespace AbilityHooks.Hint

/-- The ASCII letters and digits of a name, in lower case. -/
def normalize (id : String) : String :=
  String.ofList ((id.toList.filter Char.isAlphanum).map Char.toLower)

/-- The hints by normalized name. -/
def table : List (String × Hint) := [
  ("levitate", { immunities := some ["ground"] }),
  ("voltabsorb", { absorb := some ["electric"] }),
  ("waterabsorb", { absorb := some ["water"] }),
  ("stormdrain", { redirect := some ["water"], boosts := some (.stages [("spa", 1)]) }),
  ("lightningrod", { redirect := some ["electric"], boosts := some (.stages [("spa", 1)]) }),
  ("sapsipper", { absorb := some ["grass"], boosts := some (.stages [("atk", 1)]) }),
  ("flashfire", { absorb := some ["fire"], boosts := some (.power "fire" 1.5) }),
  ("eartheater", { absorb := some ["ground"] }),
  ("goodasgold", { block := some ["statusMoves"] }),
  ("bulletproof", { blockTags := some ["ballistic"] })]

/-- The hint for an ability id. -/
def ofId? (id : String) : Option Hint :=
  (table.find? (·.1 == normalize id)).map (·.2)

end AbilityHooks.Hint
