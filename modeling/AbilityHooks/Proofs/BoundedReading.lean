import AbilityHooks.Script.Module

/-!
# Reading within a bound

Reading follows a rule into its parts, and it ends since the symbols, the rule or the text get less.
With a bound on the rules inside one another it ends for a simpler reason, so a proof can run it on a
text. Within the bound it either gives up or answers as reading does.
-/

namespace AbilityHooks.Script

namespace Grammar

variable {σ : Type}

/-- Read by a rule at a cursor, with less than so many rules inside one another. There is no answer
beyond the bound. -/
def readWithin (grammar : Grammar σ) : (bound depth : Nat) → (rule : Rule σ) →
    (context : Context) → (cursor : Cursor) → Option (Option (List Node × Cursor))
  | 0, _, _, _, _ => none
  | bound + 1, depth, rule, context, cursor =>
    match rule with
    | .nothing => some (some ([], cursor))
    | .lexeme spelled => some (cursor.read? spelled false)
    | .tight spelled => some (cursor.read? spelled true)
    | .both first second => do
      let some (parts, middle) ← grammar.readWithin bound depth first context cursor | some none
      let some (more, last) ←
        grammar.readWithin bound depth second { context with base := [] } middle | some none
      some (some (parts ++ more, last))
    | .either first second => do
      match ← grammar.readWithin bound depth first context cursor with
      | some found => some (some found)
      | none => grammar.readWithin bound depth second context cursor
    | .many item => do
      let some (parts, middle) ← grammar.readWithin bound depth item context cursor
        | some (some ([], cursor))
      if middle.remaining < cursor.remaining then
        let some (more, last) ← grammar.readWithin bound depth (.many item) context middle
          | some (some (parts, middle))
        some (some (parts ++ more, last))
      else some (some (parts, middle))
    | .ahead inner => do
      match ← grammar.readWithin bound depth inner context cursor with
      | some _ => some (some ([], cursor))
      | none => some none
    | .absent inner => do
      match ← grammar.readWithin bound depth inner context cursor with
      | some _ => some none
      | none => some (some ([], cursor))
    | .sameLine =>
      some (if context.linesMatter && cursor.lineBreak then none else some ([], cursor))
    | .lineEnds => some (if cursor.atLineEnd context then some ([], cursor) else none)
    | .symbol name =>
      match depth with
      | 0 => some none
      | depth + 1 => grammar.readWithin bound depth (grammar name) context cursor
    | .part kind inner => do
      let some (parts, last) ← grammar.readWithin bound depth inner
        { context with base := [] } { cursor with comments := [] } | some none
      some (some (cursor.comments ++ [.between kind cursor last parts], last))
    | .role role inner => do
      let some (parts, last) ← grammar.readWithin bound depth inner context cursor | some none
      some (some (parts.map fun part =>
        if part.kind == .comment then part else part.withRole role, last))
    | .lines matter inner =>
      grammar.readWithin bound depth inner { context with linesMatter := matter } cursor
    | .chain base extension => do
      let some (parts, middle) ← grammar.readWithin bound depth base
        { context with base := [] } { cursor with comments := [] } | some none
      let some (parts, last) ← grammar.readWithin bound depth (.extensions extension)
        { context with base := parts } middle | some none
      some (some (cursor.comments ++ parts, last))
    | .extensions extension => do
      let some (parts, middle) ← grammar.readWithin bound depth extension context cursor
        | some (some (context.base, cursor))
      if middle.remaining < cursor.remaining then
        grammar.readWithin bound depth (.extensions extension) { context with base := parts } middle
      else some (some (parts, middle))
    | .extend kind role more => do
      let some (parts, last) ←
        grammar.readWithin bound depth more { context with base := [] } cursor | some none
      some (some (Node.extended kind role context.base parts last, last))

variable {grammar : Grammar σ} {bound depth : Nat} {rule : Rule σ} {context : Context}
variable {cursor : Cursor} {answer : Option (List Node × Cursor)}

/-- An answer within a bound is the answer of reading. -/
theorem read_of_readWithin
    (answers : grammar.readWithin bound depth rule context cursor = some answer) :
    grammar.read depth rule context cursor = answer := by
  induction bound generalizing depth rule context cursor answer with
  | zero => cases answers
  | succ bound ih =>
    cases rule with
    | nothing | lexeme | tight | sameLine | lineEnds =>
      rw [read]
      exact Option.some.inj answers
    | symbol name =>
      cases depth with
      | zero =>
        rw [read]
        exact Option.some.inj answers
      | succ depth =>
        rw [read]
        exact ih answers
    | lines matter inner =>
      rw [read]
      exact ih answers
    | both first second =>
      obtain ⟨before, found, answers⟩ := Option.bind_eq_some_iff.mp answers
      rw [read, ih found]
      cases before with
      | none => exact Option.some.inj answers
      | some reached =>
        obtain ⟨after, next, answers⟩ := Option.bind_eq_some_iff.mp answers
        simp only [ih next]
        cases after <;> exact Option.some.inj answers
    | either first second =>
      obtain ⟨before, found, answers⟩ := Option.bind_eq_some_iff.mp answers
      rw [read, ih found]
      cases before with
      | none => exact ih answers
      | some reached => exact Option.some.inj answers
    | many item =>
      obtain ⟨before, found, answers⟩ := Option.bind_eq_some_iff.mp answers
      rw [read, ih found]
      cases before with
      | none => exact Option.some.inj answers
      | some reached =>
        dsimp only at answers ⊢
        by_cases farther : reached.2.remaining < cursor.remaining
        · rw [if_pos farther] at answers ⊢
          obtain ⟨after, next, answers⟩ := Option.bind_eq_some_iff.mp answers
          rw [ih next]
          cases after <;> exact Option.some.inj answers
        · rw [if_neg farther] at answers ⊢
          exact Option.some.inj answers
    | ahead inner | absent inner | part kind inner | role role inner | extend kind role inner =>
      obtain ⟨inside, found, answers⟩ := Option.bind_eq_some_iff.mp answers
      rw [read, ih found]
      cases inside <;> exact Option.some.inj answers
    | chain base extension =>
      obtain ⟨before, found, answers⟩ := Option.bind_eq_some_iff.mp answers
      rw [read, ih found]
      cases before with
      | none => exact Option.some.inj answers
      | some reached =>
        obtain ⟨after, next, answers⟩ := Option.bind_eq_some_iff.mp answers
        simp only [ih next]
        cases after <;> exact Option.some.inj answers
    | extensions extension =>
      obtain ⟨before, found, answers⟩ := Option.bind_eq_some_iff.mp answers
      rw [read, ih found]
      cases before with
      | none => exact Option.some.inj answers
      | some reached =>
        dsimp only at answers ⊢
        by_cases farther : reached.2.remaining < cursor.remaining
        · rw [if_pos farther] at answers ⊢
          exact ih answers
        · rw [if_neg farther] at answers ⊢
          exact Option.some.inj answers

end Grammar

/-- The tree of a text, if less than so many rules stand inside one another. -/
def treeWithin (bound : Nat) (source : List Char) : Option Node := do
  let answer ← typeScript.readWithin bound (16 * (source.length + 1)) Syntactic.wholeModule {}
    (Cursor.ofChars source)
  some (.node .program none ⟨0, source.length⟩ ((answer.map (·.1)).getD []))

/-- A tree within a bound is the tree of the text. -/
theorem treeOf_of_treeWithin {bound : Nat} {source : List Char} {tree : Node}
    (found : treeWithin bound source = some tree) : treeOf source = tree := by
  obtain ⟨answer, answers, same⟩ := Option.bind_eq_some_iff.mp found
  rw [treeOf, Grammar.read_of_readWithin answers, ← Option.some.inj same]
  cases answer <;> rfl

end AbilityHooks.Script
