import AbilityHooks.Script.Literal
import Mathlib.Tactic.Common

/-!
# The order of the parts of a tree

A walk with a stack lists the parts of trees in pre-order, and it reaches every part, however deep.
Taking wrappers away ends at the expression that they wrap, however many there are.
-/

namespace AbilityHooks.Script.Node

/-- A part stands inside another one, at any depth. -/
inductive Inside (part : Node) : Node → Prop where
  | child {whole : Node} (listed : part ∈ whole.children) : Inside part whole
  | deeper {child whole : Node} (listed : child ∈ whole.children) (inside : Inside part child) :
    Inside part whole

/-- A part and all that is inside it, each part before those inside it and these from left to
right. -/
def preorder : Node → List Node
  | node kind role span children => node kind role span children :: children.flatMap preorder

/-- A part comes before those inside it. -/
theorem preorder_eq (whole : Node) : whole.preorder = whole :: whole.children.flatMap preorder := by
  obtain ⟨kind, role, span, children⟩ := whole
  rw [preorder]
  rfl

/-- A walk lists its trees in pre-order, one after another. -/
theorem walk_eq_flatMap (trees : List Node) : walk trees = trees.flatMap preorder := by
  fun_induction walk trees with
  | case1 => rfl
  | case2 kind role span children rest ih =>
    rw [ih, List.flatMap_append, List.flatMap_cons, preorder_eq, List.cons_append]
    rfl

/-- The pre-order of a tree has the tree and what is inside it. -/
theorem mem_preorder {part whole : Node} :
    part ∈ whole.preorder ↔ part = whole ∨ part.Inside whole := by
  constructor
  · intro listed
    induction whole using preorder.induct with
    | case1 kind role span children ih =>
      rw [preorder_eq, List.mem_cons, List.mem_flatMap] at listed
      rcases listed with same | ⟨child, direct, listed⟩
      · exact .inl same
      · rcases ih child direct listed with rfl | inside
        · exact .inr (.child direct)
        · exact .inr (.deeper direct inside)
  · rintro (rfl | inside)
    · rw [preorder_eq]
      exact List.mem_cons_self
    · induction inside with
      | child direct =>
        rw [preorder_eq]
        refine List.mem_cons_of_mem _ (List.mem_flatMap.mpr ⟨part, direct, ?_⟩)
        rw [preorder_eq]
        exact List.mem_cons_self
      | deeper direct _ listed =>
        rw [preorder_eq]
        exact List.mem_cons_of_mem _ (List.mem_flatMap.mpr ⟨_, direct, listed⟩)

/-- The parts of a tree in the order of the text are those inside it. -/
theorem mem_descendants {part whole : Node} : part ∈ whole.descendants ↔ part.Inside whole := by
  rw [descendants, walk_eq_flatMap, List.mem_flatMap]
  constructor
  · rintro ⟨child, direct, listed⟩
    rcases mem_preorder.mp listed with rfl | inside
    · exact .child direct
    · exact .deeper direct inside
  · rintro (direct | ⟨direct, inside⟩)
    · exact ⟨part, direct, mem_preorder.mpr (.inl rfl)⟩
    · exact ⟨_, direct, mem_preorder.mpr (.inr inside)⟩

/-- An object is wrapped in an expression by any number of parentheses and assertions. What such a
wrapper wraps is the first part inside it that is neither a comment nor a keyword. -/
inductive WrappedIn (object : Node) : Node → Prop where
  | bare (isObject : object.kind = .object) : WrappedIn object object
  | wrapped {outer inner : Node} (wrapper : outer.isWrapper = true)
    (first : outer.parts.head? = some inner) (inside : WrappedIn object inner) :
    WrappedIn object outer

/-- What is no wrapper stays as it is. -/
theorem unwrapped_of_plain {part : Node} (plain : ¬ part.isWrapper = true) :
    part.unwrapped = part := by
  rw [unwrapped, if_neg plain]

/-- A wrapper is taken away together with those inside it. -/
theorem unwrapped_of_wrapper {outer inner : Node} (wrapper : outer.isWrapper = true)
    (first : outer.parts.head? = some inner) : outer.unwrapped = inner.unwrapped := by
  rw [unwrapped, if_pos wrapper]
  split <;> simp_all

/-- A wrapper of nothing stays as it is. -/
theorem unwrapped_of_empty {outer : Node} (empty : outer.parts.head? = none) :
    outer.unwrapped = outer := by
  rw [unwrapped]
  split
  · split <;> simp_all
  · rfl

/-- Taking wrappers away leads to an object exactly if the object is wrapped in the expression. -/
theorem wrappedIn_iff {object value : Node} :
    object.WrappedIn value ↔ object.kind = .object ∧ value.unwrapped = object := by
  constructor
  · intro wrapped
    induction wrapped with
    | bare isObject => exact ⟨isObject, unwrapped_of_plain (by simp [isWrapper, isObject])⟩
    | wrapped wrapper first _ ih => exact ⟨ih.1, (unwrapped_of_wrapper wrapper first).trans ih.2⟩
  · rintro ⟨isObject, ends⟩
    induction value using unwrapped.induct with
    | case1 outer wrapper inner first ih =>
      rw [unwrapped_of_wrapper wrapper first] at ends
      exact .wrapped wrapper first (ih ends)
    | case2 outer wrapper empty =>
      rw [unwrapped_of_empty empty] at ends
      exact ends ▸ .bare (ends ▸ isObject)
    | case3 value plain =>
      rw [unwrapped_of_plain plain] at ends
      exact ends ▸ .bare (ends ▸ isObject)

end AbilityHooks.Script.Node
