import AbilityHooks.Proofs.TreeWalk
import AbilityHooks.Roster.Lowering
import Mathlib.Data.List.Forall2

/-!
# What an ability shows of its object

An ability is made from an object literal and keeps texts in place of parts. In a tree whose parts lie
within each other these texts fit together: what a handler or a call keeps stands in the text of the
ability, and a body stands in the text of its own handler. Nothing is lost on the way and nothing is
added: there is a handler for each property that has a name, and a call for each call expression that
says what is called, both in the order of the text.
-/

namespace AbilityHooks

namespace Script

/-- A stretch lies within another one. -/
@[mk_iff]
structure Span.Within (inner outer : Span) : Prop where
  start : outer.start ≤ inner.start
  stop : inner.stop ≤ outer.stop

namespace Span.Within

variable {inner middle outer : Span} {source : List Char}

/-- What lies within a stretch lies within any stretch around it. -/
theorem trans (within : inner.Within middle) (around : middle.Within outer) : inner.Within outer where
  start := Nat.le_trans around.start within.start
  stop := Nat.le_trans within.stop around.stop

/-- The text of a stretch stands in the text of any stretch around it. -/
theorem infix_textIn (within : inner.Within outer) :
    (inner.textIn source).toList <:+: (outer.textIn source).toList := by
  obtain ⟨start, stop⟩ := within
  have ahead : outer.start + (inner.start - outer.start) = inner.start := by omega
  have shorter : inner.stop - inner.start ≤
      outer.stop - outer.start - (inner.start - outer.start) := by omega
  have cut : ((source.drop outer.start).take (outer.stop - outer.start)).drop
      (inner.start - outer.start) = (source.drop inner.start).take
        (outer.stop - outer.start - (inner.start - outer.start)) := by
    rw [List.drop_take, List.drop_drop, ahead]
  simp only [textIn, String.toList_ofList]
  apply List.IsInfix.trans (List.take_prefix_take_left shorter).isInfix
  rw [← cut]
  exact (List.drop_suffix _ _).isInfix

end Span.Within

namespace Node

variable {whole object part child block : Node} {source : List Char}

/-- Each part of a tree lies within the part around it. -/
def Nested (whole : Node) : Prop :=
  ∀ part ∈ whole.preorder, ∀ child ∈ part.children, child.span.Within part.span

/-- What is inside a part is inside whatever is around that part. -/
theorem Inside.trans (inside : part.Inside object) (around : object.Inside whole) :
    part.Inside whole := by
  induction around with
  | child listed => exact .deeper listed inside
  | deeper listed _ ih => exact .deeper listed ih

namespace Nested

/-- The parts of a tree whose parts lie within each other are such trees. -/
theorem of_mem (nested : whole.Nested) (listed : object ∈ whole.preorder) : object.Nested := by
  intro part among
  apply nested part
  rw [mem_preorder] at listed among ⊢
  rcases listed with rfl | around
  · exact among
  · rcases among with rfl | inside
    · exact .inr around
    · exact .inr (inside.trans around)

/-- The parts listed by a part lie within it. -/
theorem within_child (nested : whole.Nested) (listed : child ∈ whole.children) :
    child.span.Within whole.span :=
  nested whole (mem_preorder.mpr (.inl rfl)) child listed

/-- Whatever is inside a part lies within it. -/
theorem within (nested : whole.Nested) (inside : part.Inside whole) :
    part.span.Within whole.span := by
  induction inside with
  | child listed => exact nested.within_child listed
  | @deeper child whole listed inside ih =>
    have among : child ∈ whole.preorder := mem_preorder.mpr (.inr (.child listed))
    exact (ih (nested.of_mem among)).trans (nested.within_child listed)

/-- The text of whatever is inside a part stands in the text of the part. -/
theorem infix_textIn (nested : whole.Nested) (inside : part.Inside whole) :
    (part.textIn source).toList <:+: (whole.textIn source).toList :=
  (nested.within inside).infix_textIn

end Nested

/-- The part in a role is one of the parts inside. -/
theorem inside_of_part? {role : Role} (found : whole.part? role = some part) : part.Inside whole :=
  .child (List.mem_of_find?_eq_some found)

/-- A part is the first block of statements inside another one in pre-order. -/
def FirstBlock (part block : Node) : Prop :=
  block.kind = .statementBlock ∧ ∃ earlier later,
    part.children.flatMap preorder = earlier ++ block :: later ∧
      ∀ other ∈ earlier, other.kind ≠ .statementBlock

/-- The walk to a block of statements ends at the first one inside. -/
theorem firstOfKind?_eq_some_iff :
    part.firstOfKind? .statementBlock = some block ↔ part.FirstBlock block := by
  rw [firstOfKind?, walkTo?_eq_find?, walk_eq_flatMap, List.find?_eq_some_iff_append]
  simp only [beq_iff_eq, Bool.not_eq_true', beq_eq_false_iff_ne]
  rfl

/-- The walk to a block of statements finds nothing exactly if there is none inside. -/
theorem firstOfKind?_eq_none_iff : part.firstOfKind? .statementBlock = none ↔
    ∀ inner : Node, inner.Inside part → inner.kind ≠ .statementBlock := by
  rw [firstOfKind?, walkTo?_eq_find?, List.find?_eq_none]
  change (∀ inner ∈ part.descendants, _) ↔ _
  simp only [mem_descendants, beq_iff_eq, ne_eq]

/-- The first block of statements inside a part is inside it. -/
theorem FirstBlock.inside (first : part.FirstBlock block) : block.Inside part := by
  obtain ⟨-, earlier, later, split, -⟩ := first
  rw [← mem_descendants, descendants, walk_eq_flatMap, split]
  exact List.mem_append_right _ List.mem_cons_self

/-- Whether a part is a property that has a name: a pair with a key, a method with a name, or a
shorthand. -/
def isProperty (part : Node) : Bool :=
  part.kind == .pair && (part.part? .key).isSome ||
    part.kind == .methodDefinition && (part.part? .name).isSome || part.kind == .shorthandProperty

/-- Whether a part is a call expression that says what is called. -/
def isCall (part : Node) : Bool := part.kind == .call && (part.part? .callee).isSome

end Node

end Script

open Script

/-! ## What is shown -/

/-- A property has a name: that of its key, its own one, or its whole text. -/
inductive PropertyName (source : List Char) (property : Node) : String → Prop where
  | pair {key : Node} (isPair : property.kind = .pair) (found : property.part? .key = some key) :
    PropertyName source property (stripQuotes (key.textIn source))
  | method {name : Node} (isMethod : property.kind = .methodDefinition)
    (found : property.part? .name = some name) :
    PropertyName source property (stripQuotes (name.textIn source))
  | shorthand (isShorthand : property.kind = .shorthandProperty) :
    PropertyName source property (property.textIn source)

/-- A handler shows a property of an object with a text: its name, its whole text, and the text of the
first block of statements inside it. -/
structure Handler.Shows (source : List Char) (text : String) (property : Node) (handler : Handler) :
    Prop where
  name : PropertyName source property handler.name
  whole : handler.text = property.textIn source
  within : handler.text.toList <:+: text.toList
  body : ∀ body, handler.body = some body ↔
    ∃ block, property.FirstBlock block ∧ body = block.textIn source
  bodyWithin : ∀ body, handler.body = some body → body.toList <:+: handler.text.toList
  bodiless : handler.body = none ↔
    ∀ part : Node, part.Inside property → part.kind ≠ .statementBlock

/-- A call shows a call expression in an object with a text: what is called, and the first argument
if there is one, by its value if it is a string literal and else by its text. -/
structure Call.Shows (source : List Char) (text : String) (expression : Node) (call : Call) :
    Prop where
  callee : ∃ callee, expression.part? .callee = some callee ∧ call.callee = callee.textIn source
  calleeWithin : call.callee.toList <:+: text.toList
  argument : ∀ argument, call.argument = some argument ↔ ∃ arguments first,
    expression.part? .arguments = some arguments ∧ arguments.parts.head? = some first ∧
      argument = Argument.ofNode first source
  otherWithin : ∀ other, call.argument = some (.other other) → other.toList <:+: text.toList

variable {source : List Char} {tree object : Node}

/-- What a filter that maps makes of some items goes with those that it takes. -/
theorem forall₂_filterMap {α β : Type} {related : α → β → Prop} {taken : α → Bool}
    {made : α → Option β} {items : List α} (told : ∀ item ∈ items, (made item).isSome = taken item)
    (relates : ∀ item ∈ items, ∀ result, made item = some result → related item result) :
    List.Forall₂ related (items.filter taken) (items.filterMap made) := by
  induction items with
  | nil => exact .nil
  | cons item rest ih =>
    obtain ⟨here, others⟩ := List.forall_mem_cons.mp told
    obtain ⟨goes, go⟩ := List.forall_mem_cons.mp relates
    cases result : made item with
    | none =>
      rw [result] at here
      rw [List.filter_cons_of_neg (by simp [← here]), List.filterMap_cons_none result]
      exact ih others go
    | some value =>
      rw [result] at here
      rw [List.filter_cons_of_pos here.symm, List.filterMap_cons_some result]
      exact .cons (goes value result) (ih others go)

/-! ## Handlers -/

/-- A handler is made of exactly the properties that have a name. -/
theorem isSome_ofNode? (property : Node) (source : List Char) :
    (Handler.ofNode? property source).isSome = property.isProperty := by
  rw [Handler.ofNode?, Node.isProperty]
  cases kind : property.kind with
  | pair => cases property.part? .key <;> rfl
  | methodDefinition => cases property.part? .name <;> rfl
  | _ => rfl

/-- A handler has the name of its property, and keeps its text and that of the first block of
statements inside. -/
theorem kept_of_ofNode? {property : Node} {handler : Handler}
    (made : Handler.ofNode? property source = some handler) :
    PropertyName source property handler.name ∧
      handler.text = property.textIn source ∧
      handler.body = (property.firstOfKind? .statementBlock).map (·.textIn source) := by
  rw [Handler.ofNode?] at made
  cases kind : property.kind with
  | pair =>
    cases found : property.part? .key with
    | none => simp [kind, found] at made
    | some key =>
      simp only [kind, found] at made
      obtain rfl := Option.some.inj made
      exact ⟨.pair kind found, rfl, rfl⟩
  | methodDefinition =>
    cases found : property.part? .name with
    | none => simp [kind, found] at made
    | some name =>
      simp only [kind, found] at made
      obtain rfl := Option.some.inj made
      exact ⟨.method kind found, rfl, rfl⟩
  | shorthandProperty =>
    simp only [kind] at made
    obtain rfl := Option.some.inj made
    exact ⟨.shorthand kind, rfl, rfl⟩
  | _ => simp [kind] at made

/-- The handler of a property inside an object shows it. -/
theorem shows_of_handler {property : Node} {handler : Handler} (nested : object.Nested)
    (listed : property ∈ object.children) (made : Handler.ofNode? property source = some handler) :
    handler.Shows source (object.textIn source) property := by
  obtain ⟨name, whole, kept⟩ := kept_of_ofNode? made
  have body : ∀ body, handler.body = some body ↔
      ∃ block, property.FirstBlock block ∧ body = block.textIn source := by
    intro body
    simp only [kept, Option.map_eq_some_iff, Node.firstOfKind?_eq_some_iff, @eq_comm _ body]
  have inner : property.Nested :=
    nested.of_mem (Node.mem_preorder.mpr (.inr (.child listed)))
  refine ⟨name, whole, ?_, body, ?_, ?_⟩
  · rw [whole]
    exact nested.infix_textIn (.child listed)
  · intro text shown
    obtain ⟨block, first, rfl⟩ := (body text).mp shown
    rw [whole]
    exact inner.infix_textIn first.inside
  · rw [kept, Option.map_eq_none_iff, Node.firstOfKind?_eq_none_iff]

/-! ## Calls -/

/-- A call is made of exactly the call expressions that say what is called. -/
theorem isSome_ofCall? (expression : Node) (source : List Char) :
    (Call.ofNode? expression source).isSome = (expression.part? .callee).isSome := by
  rw [Call.ofNode?]
  cases expression.part? .callee <;> rfl

/-- A call keeps the text of what is called and the first argument. -/
theorem kept_of_ofCall? {expression : Node} {call : Call}
    (made : Call.ofNode? expression source = some call) :
    (∃ callee, expression.part? .callee = some callee ∧ call.callee = callee.textIn source) ∧
      ∀ argument, call.argument = some argument ↔ ∃ arguments first,
        expression.part? .arguments = some arguments ∧ arguments.parts.head? = some first ∧
          argument = Argument.ofNode first source := by
  simp only [Call.ofNode?, bind, Option.bind_eq_some_iff, Option.some.injEq] at made
  obtain ⟨callee, found, rfl⟩ := made
  refine ⟨⟨callee, found, rfl⟩, fun argument => ?_⟩
  simp only [Option.bind_eq_some_iff, Option.some.injEq]
  constructor
  · rintro ⟨arguments, present, first, begins, rfl⟩
    exact ⟨arguments, first, present, begins, rfl⟩
  · rintro ⟨arguments, first, present, begins, rfl⟩
    exact ⟨arguments, present, first, begins, rfl⟩

/-- The call of a call expression inside an object shows it. -/
theorem shows_of_call {expression : Node} {call : Call} (nested : object.Nested)
    (inside : expression.Inside object) (made : Call.ofNode? expression source = some call) :
    call.Shows source (object.textIn source) expression := by
  obtain ⟨⟨callee, found, named⟩, argument⟩ := kept_of_ofCall? made
  refine ⟨⟨callee, found, named⟩, ?_, argument, ?_⟩
  · rw [named]
    exact nested.infix_textIn ((Node.inside_of_part? found).trans inside)
  · intro other shown
    obtain ⟨arguments, first, present, begins, same⟩ := (argument _).mp shown
    have within : first.Inside object :=
      (Node.Inside.child (List.mem_filter.mp (List.mem_of_mem_head? begins)).1).trans
        ((Node.inside_of_part? present).trans inside)
    rw [Argument.ofNode] at same
    cases literal : first.literal? source with
    | some read => simp [literal] at same
    | none =>
      rw [literal] at same
      obtain rfl := Argument.other.inj same
      exact nested.infix_textIn within

/-! ## The ability -/

/-- Properties that have a name are proper parts. -/
theorem filter_isProperty (object : Node) :
    object.parts.filter Node.isProperty = object.children.filter Node.isProperty := by
  rw [Node.parts, List.filter_filter]
  refine List.filter_congr fun part _ => ?_
  have proper : part.isProperty = true → part.isProper = true := by
    rw [Node.isProperty, Node.isProper]
    cases part.kind <;> simp [Kind.isKeyword]
  cases property : part.isProperty with
  | false => rfl
  | true => rw [proper property]; rfl

/-- In a tree whose parts lie within each other, the ability of an object has the text of the object,
one handler for each of its properties that has a name, and one call for each call expression inside
it that says what is called, each in the order of the text. What they keep stands in the text of the
ability, and the body of a handler, which is missing exactly if the property has no block of
statements at any depth, stands in the text of the handler. -/
theorem Ability.ofObject_shows (nested : tree.Nested) (listed : object ∈ tree.preorder)
    (id : String) (source : List Char) :
    (ofObject id object source).id = id ∧
      (ofObject id object source).text = object.textIn source ∧
      List.Forall₂ (Handler.Shows source (object.textIn source))
        (object.children.filter Node.isProperty) (ofObject id object source).handlers ∧
      List.Forall₂ (Call.Shows source (object.textIn source))
        ((object.children.flatMap Node.preorder).filter Node.isCall)
        (ofObject id object source).calls := by
  have inner := nested.of_mem listed
  refine ⟨rfl, rfl, ?_, ?_⟩
  · rw [← filter_isProperty]
    apply forall₂_filterMap
    · exact fun property _ => isSome_ofNode? property source
    · intro property among handler made
      exact shows_of_handler inner (List.mem_filter.mp among).1 made
  · have calls : (object.children.flatMap Node.preorder).filter Node.isCall =
        (object.descendantsOfKind .call).filter fun part => (part.part? .callee).isSome := by
      rw [Node.descendantsOfKind, Node.descendants, Node.walk_eq_flatMap, List.filter_filter]
      exact List.filter_congr fun part _ => Bool.and_comm _ _
    rw [calls]
    apply forall₂_filterMap
    · exact fun expression _ => isSome_ofCall? expression source
    · intro expression among call made
      have inside := Node.mem_descendants.mp (List.mem_filter.mp among).1
      exact shows_of_call inner inside made

/-- The source of an ability with one handler, a function in a pair behind a comment. -/
def rainSource : List Char := "\x7b /**/ 'on': () => \x7bset('rain', 5)\x7d \x7d".toList

/-- The call in that handler. -/
def rainCall : Node :=
  .node .call none ⟨20, 34⟩ [.node .identifier (some .callee) ⟨20, 23⟩ [],
    .node .other (some .arguments) ⟨23, 34⟩
      [.node .string none ⟨24, 30⟩ [], .node .other none ⟨32, 33⟩ []]]

/-- The pair of that handler. -/
def rainPair : Node :=
  .node .pair none ⟨7, 35⟩ [.node .string (some .key) ⟨7, 11⟩ [],
    .node .other (some .value) ⟨13, 35⟩ [.node .statementBlock none ⟨19, 35⟩ [rainCall]]]

/-- The object of that source. -/
def rainObject : Node :=
  .node .object none ⟨0, 37⟩ [.node .comment none ⟨2, 6⟩ [], rainPair]

/-- The ability of that source has one handler, which shows the pair, and one call, which shows the
call in the block of the function. -/
theorem Ability.ofObject_shows_rain :
    rainObject.Nested ∧ rainObject ∈ rainObject.preorder ∧
      List.Forall₂ (Handler.Shows rainSource (rainObject.textIn rainSource)) [rainPair]
        (ofObject "drizzle" rainObject rainSource).handlers ∧
      List.Forall₂ (Call.Shows rainSource (rainObject.textIn rainSource)) [rainCall]
        (ofObject "drizzle" rainObject rainSource).calls := by
  have nested : rainObject.Nested := by
    simp [Node.Nested, rainObject, rainPair, rainCall, Node.preorder, Node.children, Node.span,
      Span.within_iff]
  have listed : rainObject ∈ rainObject.preorder := Node.mem_preorder.mpr (.inl rfl)
  have calls : (rainObject.children.flatMap Node.preorder).filter Node.isCall = [rainCall] := by
    simp [rainObject, rainPair, rainCall, Node.preorder, Node.children, Node.isCall, Node.kind,
      Node.part?, Node.role]
  obtain ⟨-, -, handlers, called⟩ := ofObject_shows nested listed "drizzle" rainSource
  rw [calls] at called
  exact ⟨nested, listed, handlers, called⟩

end AbilityHooks
