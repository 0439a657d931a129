/-!
# Words of a command line

A word is an option, the value of one, or an operand. Options can be written with a long name
or with a letter; several letters can share a word, and the value of an option stands in the
same word or in the next one. After a word of two dashes every word is an operand.
-/

namespace AbilityHooks.Command

/-- What is wrong with a command line. -/
inductive UsageError where
  | unknownOption (word : String)
  | missingValue (name : String)
  | unexpectedValue (name : String)
  | invalidValue (name value : String)
  | repeated (name : String)
  | conflict (name other : String)
  | missingOperand (name : String)
  | unexpectedOperand (word : String)
  | missingCommand
  | unknownCommand (word : String)
  deriving DecidableEq, Repr

/-- An option: its long name, its letter, and whether a value belongs to it. -/
structure OptionForm where
  name : String
  letter : Option Char := none
  takesValue : Bool := false
  deriving DecidableEq, Repr

/-- What a part of a command line gives. -/
inductive Given where
  /-- An option without a value. -/
  | switch (name : String)
  | setting (name value : String)
  | operand (text : String)
  /-- The line is wrong from here on. -/
  | wrong (error : UsageError)
  deriving DecidableEq, Repr

/-- The text after a character, if the text begins with it. -/
def after? (mark : Char) : List Char → Option (List Char)
  | [] => none
  | c :: rest => if c == mark then some rest else none

/-- Whether a word is an option or the mark that ends the options. -/
def isDashed (word : String) : Bool := word.toList.head? == some '-' && word != "-"

/-- The name and the value of a word with a long name. -/
def splitLong (text : List Char) : String × Option String :=
  let name := text.takeWhile (· != '=')
  (String.ofList name, (after? '=' (text.drop name.length)).map String.ofList)

/-- What a word gives, and the option whose value has to be the next word. -/
abbrev WordReading := List Given × Option OptionForm

/-- What an option without a value in its own word gives. -/
def givenBy (option : OptionForm) : WordReading :=
  if option.takesValue then ([], some option) else ([.switch option.name], none)

/-- A word with a long name, without its dashes. -/
def readLong (options : List OptionForm) (text : List Char) : WordReading :=
  let (name, value) := splitLong text
  match options.find? (·.name == name), value with
  | none, _ => ([.wrong (.unknownOption ("--" ++ name))], none)
  | some option, none => givenBy option
  | some option, some value =>
    if option.takesValue then ([.setting option.name value], none)
    else ([.wrong (.unexpectedValue option.name)], none)

/-- A word of letters, without its dash. -/
def readLetters (options : List OptionForm) : List Char → WordReading
  | [] => ([], none)
  | c :: rest =>
    match options.find? (·.letter == some c) with
    | none => ([.wrong (.unknownOption (String.ofList ['-', c]))], none)
    | some option =>
      if option.takesValue && !rest.isEmpty then
        ([.setting option.name (String.ofList ((after? '=' rest).getD rest))], none)
      else
        let (givens, pending) := readLetters options rest
        ((givenBy option).1 ++ givens, (givenBy option).2.or pending)

/-- A word that begins with a dash. -/
def readWord (options : List OptionForm) (word : String) : WordReading :=
  match word.toList with
  | '-' :: '-' :: text => readLong options text
  | text => readLetters options (text.drop 1)

/-- What the rest of a line gives, in which the value of an option may be due. What
stands after the first wrong part says nothing. -/
def readRest (options : List OptionForm) : Option OptionForm → List String → List Given
  | none, [] => []
  | some option, [] => [.wrong (.missingValue option.name)]
  | some option, word :: rest =>
    if isDashed word then [.wrong (.missingValue option.name)]
    else .setting option.name word :: readRest options none rest
  | none, word :: rest =>
    if !isDashed word then .operand word :: readRest options none rest
    else if word == "--" then rest.map .operand
    else (readWord options word).1 ++ readRest options (readWord options word).2 rest

/-- What a line gives. -/
def readWords (options : List OptionForm) (words : List String) : List Given :=
  readRest options none words

end AbilityHooks.Command
