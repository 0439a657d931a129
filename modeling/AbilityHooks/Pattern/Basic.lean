import AbilityHooks.Text.Blank
import AbilityHooks.Text.Word

/-!
# Text patterns

A pattern describes a stretch of text between two places. Only single characters repeat, so
every pattern has finitely many runs from a place, and they come in an order of preference:
the first alternative before the second, the longer repetition before the shorter. `runs`
lists them all; `attempt` tries them one after another without building the list, and agrees
with it (`attempt_eq_findSome?_runs`).
-/

namespace AbilityHooks

/-- A description of a stretch of text. -/
inductive Pattern where
  /-- The empty stretch. -/
  | nothing
  /-- One character of a class. -/
  | one (holds : Char → Bool)
  /-- As many characters of a class as there are, or fewer. -/
  | many (holds : Char → Bool)
  /-- A stretch of the first pattern, then one of the second. -/
  | both (first second : Pattern)
  /-- A stretch of the first pattern, or else one of the second. -/
  | either (first second : Pattern)
  /-- A stretch whose text is kept. -/
  | captured (inner : Pattern)
  /-- The empty stretch between a word character and a character that is none, an end of the
  text counting as none. -/
  | wordEdge

/-- A place in a text: the character before it, if any, and the text after it. -/
structure Place where
  before : Option Char
  rest : List Char
  deriving Repr, DecidableEq

/-- A kept stretch: the text from its start on and the text from its end on. -/
structure Capture where
  start : List Char
  stop : List Char
  deriving Repr, DecidableEq

/-- The characters of a kept stretch. -/
def Capture.chars (kept : Capture) : List Char :=
  kept.start.take (kept.start.length - kept.stop.length)

/-- The text of a kept stretch. -/
def Capture.text (kept : Capture) : String := String.ofList kept.chars

/-- The start of a text. -/
def Place.ofText (text : String) : Place := ⟨none, text.toList⟩

/-- Whether a word begins or ends here. -/
def Place.atWordEdge (place : Place) : Bool :=
  place.before.any Text.isWord != place.rest.head?.any Text.isWord

namespace Pattern

instance : Append Pattern := ⟨both⟩

instance : OrElse Pattern := ⟨fun first second => either first (second ())⟩

/-- The stretch that spells a word. -/
def lit (word : String) : Pattern :=
  word.toList.foldr (fun c rest => both (one (· == c)) rest) nothing

/-- Whether a character is the given lower-case letter when case is ignored. Besides the two
ASCII cases, the long s counts as an s and the kelvin sign as a k. -/
def foldsTo (letter c : Char) : Bool :=
  c.toLower == letter || (letter == 's' && c.toNat == 0x17f) || (letter == 'k' && c.toNat == 0x212a)

/-- The stretch that spells a word in lower-case letters when case is ignored. -/
def litFolded (word : String) : Pattern :=
  word.toList.foldr (fun c rest => both (one (foldsTo c)) rest) nothing

/-- One of several patterns, the earlier ones preferred. -/
def anyOf : List Pattern → Pattern
  | [] => one fun _ => false
  | [last] => last
  | first :: rest => either first (anyOf rest)

/-- Any amount of white space. -/
def blanks : Pattern := many Text.isBlank

/-- At least one character of a class. -/
def oneOrMore (holds : Char → Bool) : Pattern := one holds ++ many holds

/-- At least one blank. -/
def gap : Pattern := oneOrMore Text.isBlank

/-- A pattern or the empty stretch, the pattern preferred. -/
def maybe (inner : Pattern) : Pattern := either inner nothing

/-- One of several words, the earlier ones preferred. -/
def words (choices : List String) : Pattern := anyOf (choices.map lit)

/-- One of several words in lower-case letters when case is ignored. -/
def wordsFolded (choices : List String) : Pattern := anyOf (choices.map litFolded)

/-- The pieces in order, with any amount of white space between neighbours. -/
def spaced : List Pattern → Pattern
  | [] => nothing
  | [last] => last
  | first :: rest => first ++ blanks ++ spaced rest

/-- One quote character of any of the three kinds. -/
def quote : Pattern := one fun c => c == '\x27' || c == '\x22' || c == '\x60'

/-- A quote character of one of the two kinds that do not open a template. -/
def plainQuote : Pattern := one fun c => c == '\x27' || c == '\x22'

/-- An identifier that begins with an ASCII letter or an underscore. -/
def identifier : Pattern := one (fun c => c.isAlpha || c == '_') ++ many Text.isWord

/-- The places that repeated characters of a class lead to, the farthest first. -/
def spread (holds : Char → Bool) : Place → List Place
  | ⟨before, []⟩ => [⟨before, []⟩]
  | ⟨before, c :: rest⟩ =>
    if holds c then spread holds ⟨some c, rest⟩ ++ [⟨before, c :: rest⟩]
    else [⟨before, c :: rest⟩]
termination_by place => place.rest.length

/-- Every run of a pattern from a place, the preferred ones first: what it keeps, and where
it ends. -/
def runs : Pattern → Place → List (List Capture × Place)
  | nothing, place => [([], place)]
  | one _, ⟨_, []⟩ => []
  | one holds, ⟨_, c :: rest⟩ => if holds c then [([], ⟨some c, rest⟩)] else []
  | many holds, place => (spread holds place).map ([], ·)
  | both first second, place =>
    (first.runs place).flatMap fun (kept, middle) =>
      (second.runs middle).map fun (more, last) => (kept ++ more, last)
  | either first second, place => first.runs place ++ second.runs place
  | captured inner, place =>
    (inner.runs place).map fun (kept, last) => (⟨place.rest, last.rest⟩ :: kept, last)
  | wordEdge, place => if place.atWordEdge then [([], place)] else []

/-- Try the places that repeated characters lead to, the farthest first. -/
def attemptSpread {α : Type} (holds : Char → Bool) (next : Place → Option α) : Place → Option α
  | ⟨before, []⟩ => next ⟨before, []⟩
  | ⟨before, c :: rest⟩ =>
    if holds c then
      attemptSpread holds next ⟨some c, rest⟩ <|> next ⟨before, c :: rest⟩
    else next ⟨before, c :: rest⟩
termination_by place => place.rest.length

/-- Try the runs of a pattern in order of preference until `next` accepts one. -/
def attempt {α : Type} : Pattern → Place → (List Capture → Place → Option α) → Option α
  | nothing, place, next => next [] place
  | one _, ⟨_, []⟩, _ => none
  | one holds, ⟨_, c :: rest⟩, next =>
    if holds c then next [] ⟨some c, rest⟩ else none
  | many holds, place, next => attemptSpread holds (next []) place
  | both first second, place, next =>
    first.attempt place fun kept middle =>
      second.attempt middle fun more last => next (kept ++ more) last
  | either first second, place, next => first.attempt place next <|> second.attempt place next
  | captured inner, place, next =>
    inner.attempt place fun kept last => next (⟨place.rest, last.rest⟩ :: kept) last
  | wordEdge, place, next => if place.atWordEdge then next [] place else none

/-- Trying the places a repetition leads to finds the first one accepted. -/
theorem attemptSpread_eq_findSome?_spread {α : Type} (holds : Char → Bool)
    (next : Place → Option α) (place : Place) :
    attemptSpread holds next place = (spread holds place).findSome? next := by
  fun_induction spread holds place with
  | case1 before => simp [attemptSpread]
  | case2 before c rest held ih =>
    rw [attemptSpread, if_pos held, ih, List.findSome?_append]
    cases (spread holds ⟨some c, rest⟩).findSome? next <;> simp
  | case3 before c rest held => simp [attemptSpread, held]

/-- Trying a pattern finds the first of its runs that is accepted. -/
theorem attempt_eq_findSome?_runs {α : Type} (p : Pattern) (place : Place)
    (next : List Capture → Place → Option α) :
    p.attempt place next = (p.runs place).findSome? fun (kept, last) => next kept last := by
  induction p generalizing place next with
  | nothing => simp [attempt, runs]
  | one holds =>
    obtain ⟨before, _ | ⟨c, rest⟩⟩ := place
    · simp [attempt, runs]
    · by_cases held : holds c <;> simp [attempt, runs, held]
  | many holds =>
    simp [attempt, runs, attemptSpread_eq_findSome?_spread, List.findSome?_map, Function.comp_def]
  | both first second ihFirst ihSecond =>
    simp only [attempt, runs, ihFirst, ihSecond]
    induction first.runs place with
    | nil => rfl
    | cons run others ih =>
      simp only [List.flatMap_cons, List.findSome?_append, List.findSome?_cons, ih,
        List.findSome?_map, Function.comp_def]
      cases (second.runs run.2).findSome? _ <;> rfl
  | either first second ihFirst ihSecond =>
    simp only [attempt, runs, ihFirst, ihSecond, List.findSome?_append]
    cases (first.runs place).findSome? _ <;> rfl
  | captured inner ih =>
    simp [attempt, runs, ih, List.findSome?_map, Function.comp_def]
  | wordEdge => by_cases edge : place.atWordEdge <;> simp [attempt, runs, edge]

end Pattern

end AbilityHooks
