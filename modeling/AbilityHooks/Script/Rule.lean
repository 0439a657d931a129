import AbilityHooks.Script.Cursor

/-!
# Rules of a grammar

A rule says what can stand at a place of a text and which tree it makes. Rules are data, and
the rules of a grammar refer to one another by symbols; `Grammar.read` follows them. Of two
alternatives the first that can be read is taken and a repetition takes all it can, so reading
is determined, and neither is taken back later.

A rule that reads nothing new may still follow symbols. The bound on the symbols followed
inside one another ends such a run; between two lexemes no grammar follows more symbols than
it has.
-/

namespace AbilityHooks.Script

/-- A rule over symbols of some type. -/
inductive Rule (σ : Type) where
  /-- Read nothing. -/
  | nothing
  /-- Read a lexeme and the filler after it. -/
  | lexeme (spelled : Lexeme)
  /-- Read a lexeme and leave what follows it as it is. -/
  | tight (spelled : Lexeme)
  /-- Read by the first rule, then by the second. -/
  | both (first second : Rule σ)
  /-- Read by the first rule if it can be, and otherwise by the second. -/
  | either (first second : Rule σ)
  /-- Read by a rule as often as it can be. -/
  | many (item : Rule σ)
  /-- Read nothing where the rule can be read. -/
  | ahead (rule : Rule σ)
  /-- Read nothing where the rule cannot be read. -/
  | absent (rule : Rule σ)
  /-- Read nothing where a lexeme is in the same line as the one before it, or lines do not
  matter. -/
  | sameLine
  /-- Read nothing where a statement may end without a sign. -/
  | lineEnds
  /-- Read by the rule of a symbol. -/
  | symbol (name : σ)
  /-- Make a part of a kind of what a rule reads. -/
  | part (kind : Kind) (inner : Rule σ)
  /-- Give what a rule reads a role. -/
  | role (role : Role) (inner : Rule σ)
  /-- Read by a rule in which lines end statements, or do not. -/
  | lines (matter : Bool) (inner : Rule σ)
  /-- Read a part, and then extend it as often as possible. -/
  | chain (base extension : Rule σ)
  /-- Extend the part before this place as often as possible. -/
  | extensions (extension : Rule σ)
  /-- Make a part of a kind of the part before this place, in a role, and of what a rule
  reads. -/
  | extend (kind : Kind) (role : Option Role) (more : Rule σ)

namespace Rule

variable {σ : Type}

instance : Append (Rule σ) := ⟨both⟩

instance : OrElse (Rule σ) := ⟨fun first second => either first (second ())⟩

/-- No rule has size zero. -/
theorem sizeOf_pos (rule : Rule σ) : 0 < sizeOf rule := by cases rule <;> simp +arith

end Rule

/-- What reading knows besides the place: the part being extended and whether lines end
statements. -/
structure Context where
  base : List Node := []
  linesMatter : Bool := true

/-- A grammar: a rule for each symbol. -/
abbrev Grammar (σ : Type) := σ → Rule σ

namespace Cursor

/-- Whether a statement may end here without a sign. -/
def atLineEnd (cursor : Cursor) (context : Context) : Bool :=
  context.linesMatter
    && (cursor.lineBreak || cursor.rest.head?.all (· == '\x7d'))

/-- What a lexeme gives at a cursor: the comments before it, and the place after it. -/
def read? (cursor : Cursor) (spelled : Lexeme) (tight : Bool) : Option (List Node × Cursor) :=
  (spelled.length? cursor.rest).map fun length =>
    (cursor.comments, if tight then cursor.passTight length else cursor.pass length)

end Cursor

/-- The part of a kind that begins at one cursor and ends where another one's last lexeme
did. -/
def Node.between (kind : Kind) (start stop : Cursor) (children : List Node) : Node :=
  .node kind none ⟨start.offset, stop.ended⟩ children

/-- The part of a kind made of the part before a place and what comes after it. -/
def Node.extended (kind : Kind) (role : Option Role) (base more : List Node) (stop : Cursor) :
    List Node :=
  match base with
  | [] => more
  | first :: _ =>
    let tagged := match role with
      | some role => base.map (·.withRole role)
      | none => base
    [.node kind none ⟨first.span.start, stop.ended⟩ (tagged ++ more)]

/-- Read by a rule at a cursor. The answer is the parts read and the place after them. -/
def Grammar.read {σ : Type} (grammar : Grammar σ) (depth : Nat) (rule : Rule σ)
    (context : Context) (cursor : Cursor) : Option (List Node × Cursor) :=
  match rule with
  | .nothing => some ([], cursor)
  | .lexeme spelled => cursor.read? spelled false
  | .tight spelled => cursor.read? spelled true
  | .both first second =>
    match grammar.read depth first context cursor with
    | none => none
    | some (parts, middle) =>
      match grammar.read depth second { context with base := [] } middle with
      | none => none
      | some (more, last) => some (parts ++ more, last)
  | .either first second =>
    match grammar.read depth first context cursor with
    | some found => some found
    | none => grammar.read depth second context cursor
  | .many item =>
    match grammar.read depth item context cursor with
    | none => some ([], cursor)
    | some (parts, middle) =>
      if middle.remaining < cursor.remaining then
        match grammar.read depth (.many item) context middle with
        | none => some (parts, middle)
        | some (more, last) => some (parts ++ more, last)
      else some (parts, middle)
  | .ahead inner =>
    match grammar.read depth inner context cursor with
    | some _ => some ([], cursor)
    | none => none
  | .absent inner =>
    match grammar.read depth inner context cursor with
    | some _ => none
    | none => some ([], cursor)
  | .sameLine => if context.linesMatter && cursor.lineBreak then none else some ([], cursor)
  | .lineEnds => if cursor.atLineEnd context then some ([], cursor) else none
  | .symbol name =>
    match depth with
    | 0 => none
    | depth + 1 => grammar.read depth (grammar name) context cursor
  | .part kind inner =>
    match grammar.read depth inner { context with base := [] } { cursor with comments := [] } with
    | none => none
    | some (parts, last) => some (cursor.comments ++ [.between kind cursor last parts], last)
  | .role role inner =>
    match grammar.read depth inner context cursor with
    | none => none
    | some (parts, last) =>
      some (parts.map fun part => if part.kind == .comment then part else part.withRole role, last)
  | .lines matter inner => grammar.read depth inner { context with linesMatter := matter } cursor
  | .chain base extension =>
    match grammar.read depth base { context with base := [] } { cursor with comments := [] } with
    | none => none
    | some (parts, middle) =>
      have := Rule.sizeOf_pos base
      match grammar.read depth (.extensions extension) { context with base := parts } middle with
      | none => none
      | some (parts, last) => some (cursor.comments ++ parts, last)
  | .extensions extension =>
    match grammar.read depth extension context cursor with
    | none => some (context.base, cursor)
    | some (parts, middle) =>
      if middle.remaining < cursor.remaining then
        grammar.read depth (.extensions extension) { context with base := parts } middle
      else some (parts, middle)
  | .extend kind role more =>
    match grammar.read depth more { context with base := [] } cursor with
    | none => none
    | some (parts, last) => some (Node.extended kind role context.base parts last, last)
termination_by (depth, sizeOf rule, cursor.remaining)

end AbilityHooks.Script
