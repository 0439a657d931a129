import AbilityHooks.Proofs.TreeOrder
import AbilityHooks.Roster.Basic

/-!
# Where the table of abilities is found

A declarator binds the table by its name and by an object in its value. A table is found exactly if
some declarator inside the tree binds one. Declarators at the top of the module go first, in the
order of the text; only where none of them binds a table is the first declarator in pre-order taken,
so that a nested one never goes before one at the top.
-/

namespace AbilityHooks.Roster

open Script

variable {source : List Char} {root statement declaration declarator object : Node}

/-- A declarator binds the table to an object: it gives the name of the table to the object, which
may be wrapped. -/
structure Binds (source : List Char) (declarator object : Node) : Prop where
  declares : declarator.kind = .variableDeclarator
  named : ∃ name, declarator.part? .name = some name ∧ name.kind = .identifier ∧
    name.textIn source = "Abilities"
  valued : ∃ value, declarator.part? .value = some value ∧ object.WrappedIn value

/-- A declarator qualifies if it binds the table to some object. -/
def Qualifies (source : List Char) (declarator : Node) : Prop :=
  ∃ object, Binds source declarator object

/-- A statement exposes a declaration of constants or variables if it is the declaration or exports
it. -/
def Exposes (statement declaration : Node) : Prop :=
  (declaration.kind = .lexicalDeclaration ∨ declaration.kind = .variableDeclaration) ∧
    (declaration = statement ∨
      statement.kind = .exportStatement ∧ statement.part? .declaration = some declaration)

/-- A part is declared at the top of a tree if it stands in a declaration that a statement there
exposes. -/
def AtTop (root part : Node) : Prop :=
  ∃ statement ∈ root.children, ∃ declaration, Exposes statement declaration ∧
    part ∈ declaration.children

/-- The first qualifying declarator at the top of a tree binds the table to an object: none
qualifies in an earlier statement, or earlier in the same one. -/
def FirstAtTop (source : List Char) (root object : Node) : Prop :=
  ∃ before statement after declaration earlier declarator later,
    root.children = before ++ statement :: after ∧ Exposes statement declaration ∧
    declaration.children = earlier ++ declarator :: later ∧ Binds source declarator object ∧
    (∀ sibling ∈ before, ∀ exposed, Exposes sibling exposed →
      ∀ other ∈ exposed.children, ¬ Qualifies source other) ∧
    ∀ other ∈ earlier, ¬ Qualifies source other

/-- The first qualifying declarator inside a tree in pre-order binds the table to an object. -/
def FirstInside (source : List Char) (root object : Node) : Prop :=
  ∃ earlier declarator later, root.preorder = root :: (earlier ++ declarator :: later) ∧
    Binds source declarator object ∧ ∀ other ∈ earlier, ¬ Qualifies source other

/-! ## One declarator -/

/-- The object to which a part binds the table, if it is a declarator that does. -/
def bound? (source : List Char) (part : Node) : Option Node :=
  if part.kind == .variableDeclarator then objectOf? part source else none

/-- A part gives an object exactly if it is a declarator that binds the table to it. -/
theorem bound?_eq_some_iff : bound? source declarator = some object ↔
    Binds source declarator object := by
  rw [bound?, Option.ite_none_right_eq_some, beq_iff_eq]
  constructor
  · rintro ⟨declares, found⟩
    obtain ⟨name, isName, value, isValue, kept⟩ : ∃ name, declarator.part? .name = some name ∧
        ∃ value, declarator.part? .value = some value ∧ _ := by
      simpa only [objectOf?, bind, Option.bind_eq_some_iff] using found
    simp only [Option.ite_none_right_eq_some, Bool.and_eq_true, beq_iff_eq, Option.some.injEq]
      at kept
    obtain ⟨⟨⟨identifier, spelled⟩, isObject⟩, rfl⟩ := kept
    exact ⟨declares, ⟨name, isName, identifier, spelled⟩, value, isValue,
      Node.wrappedIn_iff.mpr ⟨isObject, rfl⟩⟩
  · rintro ⟨declares, ⟨name, isName, identifier, spelled⟩, value, isValue, wrapped⟩
    obtain ⟨isObject, rfl⟩ := Node.wrappedIn_iff.mp wrapped
    refine ⟨declares, ?_⟩
    simp [objectOf?, isName, isValue, identifier, spelled, isObject, binding]

/-- A part gives no object exactly if it is no declarator that qualifies. -/
theorem bound?_eq_none_iff : bound? source declarator = none ↔ ¬ Qualifies source declarator := by
  rw [Option.eq_none_iff_forall_ne_some]
  simp only [ne_eq, bound?_eq_some_iff, Qualifies, not_exists]

/-! ## Searching lists of parts -/

/-- A search among some of the items sees nothing in the others. -/
theorem findSome?_filter {α β : Type} (f : α → Option β) (p : α → Bool) (items : List α) :
    (items.filter p).findSome? f = items.findSome? fun item => if p item then f item else none := by
  induction items with
  | nil => rfl
  | cons item rest ih =>
    by_cases kept : p item = true
    · rw [List.filter_cons_of_pos kept, List.findSome?_cons, List.findSome?_cons, if_pos kept, ih]
    · rw [List.filter_cons_of_neg kept, List.findSome?_cons, if_neg kept, ih]

/-- A search in lists that stand one after another searches each of them. -/
theorem findSome?_flatMap {α β γ : Type} (f : β → Option γ) (g : α → List β) (items : List α) :
    (items.flatMap g).findSome? f = items.findSome? fun item => (g item).findSome? f := by
  induction items with
  | nil => rfl
  | cons item rest ih =>
    rw [List.flatMap_cons, List.findSome?_append, ih, List.findSome?_cons]
    cases (g item).findSome? f <;> rfl

/-- Two searches agree that agree on every item. -/
theorem findSome?_congr {α β : Type} {f g : α → Option β} {items : List α}
    (same : ∀ item ∈ items, f item = g item) : items.findSome? f = items.findSome? g := by
  induction items with
  | nil => rfl
  | cons item rest ih =>
    obtain ⟨here, others⟩ := List.forall_mem_cons.mp same
    rw [List.findSome?_cons, List.findSome?_cons, here, ih others]

/-! ## Statements at the top -/

/-- A declaration of constants or variables is a proper part. -/
theorem Exposes.proper (exposes : Exposes statement declaration) : statement.isProper = true := by
  obtain ⟨kinds, rfl | ⟨exports, -⟩⟩ := exposes
  · rcases kinds with same | same <;> simp [Node.isProper, same, Kind.isKeyword]
  · simp [Node.isProper, exports, Kind.isKeyword]

/-- What a statement exposes is the declaration that it is or exports. -/
theorem exposes_iff : Exposes statement declaration ↔
    declarationOf? statement = some declaration ∧ declaresVariables declaration = true := by
  have kinds : declaresVariables declaration = true ↔
      declaration.kind = .lexicalDeclaration ∨ declaration.kind = .variableDeclaration := by
    simp only [declaresVariables, Bool.or_eq_true, beq_iff_eq]
  rw [Exposes, kinds, declarationOf?]
  by_cases exports : statement.kind = .exportStatement
  · rw [if_pos (beq_iff_eq.mpr exports)]
    constructor
    · rintro ⟨declaring, rfl | ⟨-, exported⟩⟩
      · rw [exports] at declaring
        simp at declaring
      · exact ⟨exported, declaring⟩
    · rintro ⟨exported, declaring⟩
      exact ⟨declaring, .inr ⟨exports, exported⟩⟩
  · rw [if_neg (by simpa using exports), Option.some.injEq]
    constructor
    · rintro ⟨declaring, rfl | ⟨exported, -⟩⟩
      · exact ⟨rfl, declaring⟩
      · exact absurd exported exports
    · rintro ⟨rfl, declaring⟩
      exact ⟨declaring, .inl rfl⟩

/-- The object of the first declarator of a statement at the top that binds the table. -/
def topBound? (source : List Char) (statement : Node) : Option Node :=
  (topDeclarators statement).findSome? (objectOf? · source)

/-- In a statement that exposes a declaration the parts of the declaration are searched. -/
theorem topBound?_of_exposes (exposes : Exposes statement declaration) :
    topBound? source statement = declaration.children.findSome? (bound? source) := by
  obtain ⟨present, declaring⟩ := exposes_iff.mp exposes
  have proper : ∀ part : Node, (part.isProper && part.kind == .variableDeclarator) =
      (part.kind == .variableDeclarator) := by
    intro part
    by_cases declares : part.kind = .variableDeclarator
    · simp [declares, Node.isProper, Kind.isKeyword]
    · simp [declares]
  have declarators : topDeclarators statement =
      declaration.children.filter (·.kind == .variableDeclarator) := by
    simp only [topDeclarators, present, declaring, if_true, Node.parts, List.filter_filter]
    exact List.filter_congr fun part _ => by rw [Bool.and_comm, proper]
  rw [topBound?, declarators, findSome?_filter]
  rfl

/-- In a statement that exposes nothing there is nothing to search. -/
theorem topBound?_of_hidden (hidden : ∀ declaration, ¬ Exposes statement declaration) :
    topBound? source statement = none := by
  have none : topDeclarators statement = [] := by
    unfold topDeclarators
    cases present : declarationOf? statement with
    | none => rfl
    | some declaration =>
      have other : ¬ declaresVariables declaration = true :=
        fun declaring => hidden declaration (exposes_iff.mpr ⟨present, declaring⟩)
      simp only [other]
      rfl
  rw [topBound?, none, List.findSome?_nil]

/-- A statement binds the table to the object of its first qualifying declarator. -/
theorem topBound?_eq_some_iff : topBound? source statement = some object ↔
    ∃ declaration earlier declarator later, Exposes statement declaration ∧
      declaration.children = earlier ++ declarator :: later ∧ Binds source declarator object ∧
      ∀ other ∈ earlier, ¬ Qualifies source other := by
  constructor
  · intro found
    by_cases exposing : ∃ declaration, Exposes statement declaration
    · obtain ⟨declaration, exposes⟩ := exposing
      rw [topBound?_of_exposes exposes, List.findSome?_eq_some_iff] at found
      obtain ⟨earlier, declarator, later, split, binds, none⟩ := found
      exact ⟨declaration, earlier, declarator, later, exposes, split, bound?_eq_some_iff.mp binds,
        fun other inside => bound?_eq_none_iff.mp (none other inside)⟩
    · rw [topBound?_of_hidden (not_exists.mp exposing)] at found
      cases found
  · rintro ⟨declaration, earlier, declarator, later, exposes, split, binds, none⟩
    rw [topBound?_of_exposes exposes, List.findSome?_eq_some_iff]
    exact ⟨earlier, declarator, later, split, bound?_eq_some_iff.mpr binds,
      fun other inside => bound?_eq_none_iff.mpr (none other inside)⟩

/-- A statement does not bind the table if no declarator that it exposes qualifies. -/
theorem topBound?_eq_none_iff : topBound? source statement = none ↔
    ∀ declaration, Exposes statement declaration →
      ∀ declarator ∈ declaration.children, ¬ Qualifies source declarator := by
  constructor
  · intro nothing declaration exposes declarator inside
    rw [topBound?_of_exposes exposes, List.findSome?_eq_none_iff] at nothing
    exact bound?_eq_none_iff.mp (nothing declarator inside)
  · intro none
    by_cases exposing : ∃ declaration, Exposes statement declaration
    · obtain ⟨declaration, exposes⟩ := exposing
      rw [topBound?_of_exposes exposes, List.findSome?_eq_none_iff]
      exact fun declarator inside =>
        bound?_eq_none_iff.mpr (none declaration exposes declarator inside)
    · exact topBound?_of_hidden (not_exists.mp exposing)

/-! ## The two searches -/

/-- The search at the top goes through the statements in their order. -/
theorem findTop?_eq : findTop? root source = root.children.findSome? (topBound? source) := by
  rw [findTop?, findSome?_flatMap, Node.parts, findSome?_filter]
  refine findSome?_congr fun statement _ => ?_
  by_cases proper : statement.isProper = true
  · exact if_pos proper
  · rw [if_neg proper]
    exact (topBound?_of_hidden fun _ exposes => proper exposes.proper).symm

/-- The search at the top finds the object of the first qualifying declarator there. -/
theorem findTop?_eq_some_iff : findTop? root source = some object ↔
    FirstAtTop source root object := by
  rw [findTop?_eq, List.findSome?_eq_some_iff]
  simp only [topBound?_eq_some_iff, topBound?_eq_none_iff]
  constructor
  · rintro ⟨before, statement, after, split, ⟨declaration, earlier, declarator, later, exposes,
      parts, binds, none⟩, nothing⟩
    exact ⟨before, statement, after, declaration, earlier, declarator, later, split, exposes, parts,
      binds, nothing, none⟩
  · rintro ⟨before, statement, after, declaration, earlier, declarator, later, split, exposes,
      parts, binds, nothing, none⟩
    exact ⟨before, statement, after, split, ⟨declaration, earlier, declarator, later, exposes,
      parts, binds, none⟩, nothing⟩

/-- The search at the top finds nothing exactly if no declarator there qualifies. -/
theorem findTop?_eq_none_iff : findTop? root source = none ↔
    ∀ declarator, AtTop root declarator → ¬ Qualifies source declarator := by
  rw [findTop?_eq, List.findSome?_eq_none_iff]
  simp only [topBound?_eq_none_iff]
  constructor
  · rintro none declarator ⟨statement, listed, declaration, exposes, inside⟩
    exact none statement listed declaration exposes declarator inside
  · intro none statement listed declaration exposes declarator inside
    exact none declarator ⟨statement, listed, declaration, exposes, inside⟩

/-- The search everywhere goes through all parts in pre-order. -/
theorem findAnywhere?_eq : findAnywhere? root source =
    (root.children.flatMap Node.preorder).findSome? (bound? source) := by
  rw [findAnywhere?, Node.descendantsOfKind, findSome?_filter, Node.descendants,
    Node.walk_eq_flatMap]
  rfl

/-- The search everywhere finds the object of the first qualifying declarator in pre-order. -/
theorem findAnywhere?_eq_some_iff : findAnywhere? root source = some object ↔
    FirstInside source root object := by
  have same : ∀ parts : List Node, root.preorder = root :: parts ↔
      root.children.flatMap Node.preorder = parts := by
    intro parts
    rw [Node.preorder_eq, List.cons_inj_right]
  rw [findAnywhere?_eq, List.findSome?_eq_some_iff]
  simp only [FirstInside, same, bound?_eq_some_iff, bound?_eq_none_iff]

/-- The search everywhere finds nothing exactly if no declarator inside the tree qualifies. -/
theorem findAnywhere?_eq_none_iff : findAnywhere? root source = none ↔
    ∀ declarator : Node, declarator.Inside root → ¬ Qualifies source declarator := by
  rw [findAnywhere?_eq, List.findSome?_eq_none_iff, ← Node.walk_eq_flatMap]
  change (∀ part ∈ root.descendants, _) ↔ _
  simp only [Node.mem_descendants, bound?_eq_none_iff]

/-- What stands at the top of a tree stands inside it. -/
theorem AtTop.inside {part : Node} (top : AtTop root part) : part.Inside root := by
  obtain ⟨statement, listed, declaration, ⟨-, rfl | ⟨-, exported⟩⟩, inside⟩ := top
  · exact .deeper listed (.child inside)
  · exact .deeper listed (.deeper (List.mem_of_find?_eq_some exported) (.child inside))

/-- The table is found exactly if a declarator inside the tree binds one. It is found at the top
exactly if one does there, and then it is that of the first one there in the order of the text,
whatever is nested elsewhere. Otherwise it is that of the first one in pre-order. -/
theorem locate?_finds (root : Node) (source : List Char) :
    (locate? root source = none ↔
      ∀ declarator : Node, declarator.Inside root → ¬ Qualifies source declarator) ∧
    ((∃ object, locate? root source = some ⟨object, .topLevel⟩) ↔
      ∃ declarator, AtTop root declarator ∧ Qualifies source declarator) ∧
    (∀ object, locate? root source = some ⟨object, .topLevel⟩ ↔ FirstAtTop source root object) ∧
    ∀ object, locate? root source = some ⟨object, .exhaustiveScan⟩ ↔
      (∀ declarator, AtTop root declarator → ¬ Qualifies source declarator) ∧
        FirstInside source root object := by
  have top : ∀ object, locate? root source = some ⟨object, .topLevel⟩ ↔
      findTop? root source = some object := by
    intro object
    unfold locate?
    cases findTop? root source <;> simp
  refine ⟨?_, ?_, fun object => (top object).trans findTop?_eq_some_iff, fun object => ?_⟩
  · rw [← findAnywhere?_eq_none_iff]
    unfold locate?
    cases first : findTop? root source with
    | none => simp
    | some object =>
      simp only [reduceCtorEq, false_iff]
      intro nothing
      have none := findAnywhere?_eq_none_iff.mp nothing
      rw [findTop?_eq_none_iff.mpr fun declarator inside => none declarator inside.inside] at first
      cases first
  · simp only [top, ← Option.isSome_iff_exists]
    rw [Option.isSome_iff_ne_none, ne_eq, findTop?_eq_none_iff]
    push Not
    rfl
  · rw [← findTop?_eq_none_iff, ← findAnywhere?_eq_some_iff]
    unfold locate?
    cases findTop? root source <;> simp

end AbilityHooks.Roster
