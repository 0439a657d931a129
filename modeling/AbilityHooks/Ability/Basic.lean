/-!
# Abilities as the detectors see them

An ability is its id, the text of its definition, its properties in declaration order and the
calls in it in document order. Nothing of the syntax tree stays.
-/

namespace AbilityHooks

/-- A property of an ability: its name, its whole text, and the text of the first block of
statements in it. -/
structure Handler where
  name : String
  text : String
  body : Option String
  deriving DecidableEq, Repr

/-- The first argument of a call: the value of a string literal, or the text of anything
else. -/
inductive Argument where
  | literal (value : String)
  | other (text : String)
  deriving DecidableEq, Repr

/-- A call: the text of what is called, and its first argument if it has one. -/
structure Call where
  callee : String
  argument : Option Argument
  deriving DecidableEq, Repr

/-- An ability definition. -/
structure Ability where
  id : String
  text : String
  handlers : List Handler
  calls : List Call
  deriving DecidableEq, Repr

namespace Ability

/-- An ability without properties and without text. -/
def named (id : String) : Ability := ⟨id, "", [], []⟩

/-- The ability with one more property, whose text goes on a line of its own. -/
def withHandler (ability : Ability) (handler : Handler) : Ability :=
  { ability with
    text := ability.text ++ handler.text ++ "\n"
    handlers := ability.handlers ++ [handler] }

/-- The first property with a name. -/
def handler? (ability : Ability) (name : String) : Option Handler :=
  ability.handlers.find? (·.name == name)

/-- The body of the first property with a name. -/
def body? (ability : Ability) (name : String) : Option String :=
  (ability.handler? name).bind (·.body)

/-- The first properties with the given names, in the order of the names. -/
def handlersIn (ability : Ability) (names : List String) : List Handler :=
  names.filterMap ability.handler?

/-- The property of the first name that has one. -/
def firstHandler? (ability : Ability) (names : List String) : Option Handler :=
  names.findSome? ability.handler?

/-- The bodies of the properties with the given names, in the order of the names. -/
def bodiesIn (ability : Ability) (names : List String) : List String :=
  (ability.handlersIn names).filterMap (·.body)

/-- The first call of something whose text ends with the given text. -/
def firstCall? (ability : Ability) (ending : String) : Option Call :=
  ability.calls.find? (·.callee.endsWith ending)

end Ability

end AbilityHooks
