import AbilityHooks.Proofs.TreeOrder
import Mathlib.Data.List.Basic

/-!
# Walks through trees

Each part inside a tree has an address, which says for every depth how many parts stand to the left of
the one to enter. In the order of words an address comes before those that go on from it, and before
those that turn to the right of it. The walk with a stack lists the parts in this order of their
addresses, each of them once, and the walk to the first part of a kind ends where the whole walk has
it.
-/

namespace AbilityHooks.Script.Node

variable {whole part : Node} {trees : List Node} {first place : Nat} {address deeper : List Nat}

/-- The part at an address. The empty address is that of the whole. -/
def at? : Node → List Nat → Option Node
  | whole, [] => some whole
  | whole, place :: deeper => (whole.children[place]?).bind (·.at? deeper)

mutual

/-- The addresses of everything strictly inside a part. -/
def addresses : Node → List (List Nat)
  | node _ _ _ children => addressesFrom children 0

/-- The addresses of some trees that stand side by side and of everything inside them, from the place
of the first one on. -/
def addressesFrom : List Node → Nat → List (List Nat)
  | [], _ => []
  | part :: rest, first =>
    [first] :: (part.addresses.map (first :: ·) ++ addressesFrom rest (first + 1))

end

/-- The parts inside begin at the first place. -/
theorem addresses_eq (whole : Node) : whole.addresses = addressesFrom whole.children 0 := by
  obtain ⟨kind, role, span, parts⟩ := whole
  rw [addresses]
  rfl

/-- A part is entered first, and then what is inside it. -/
theorem at?_cons (found : whole.children[place]? = some part) :
    whole.at? (place :: deeper) = part.at? deeper := by
  rw [at?, found, Option.bind_some]

/-! ## What stands at the addresses -/

/-- Trees that are the last parts inside another are listed by a walk in the order of their
addresses. -/
theorem map_at?_addressesFrom (last : whole.children.drop first = trees)
    (each : ∀ part ∈ trees, part.addresses.map part.at? = part.descendants.map some) :
    (addressesFrom trees first).map whole.at? = (walk trees).map some := by
  induction trees generalizing first with
  | nil => rw [addressesFrom, walk, List.map_nil, List.map_nil]
  | cons part rest ih =>
    have found : whole.children[first]? = some part := by
      rw [← List.head?_drop, last, List.head?_cons]
    have later : whole.children.drop (first + 1) = rest := by
      rw [← List.tail_drop, last, List.tail_cons]
    obtain ⟨here, others⟩ := List.forall_mem_cons.mp each
    have inside : (part.addresses.map (first :: ·)).map whole.at? = part.descendants.map some := by
      rw [List.map_map, ← here]
      exact List.map_congr_left fun deeper _ => at?_cons found
    rw [addressesFrom, walk_cons, List.map_cons, List.map_cons, at?_cons found, at?, List.map_append,
      List.map_append, inside, ih later others, descendants]

/-- The walk lists what stands at the addresses, in their order. -/
theorem map_at?_addresses (whole : Node) :
    whole.addresses.map whole.at? = whole.descendants.map some := by
  induction whole using preorder.induct with
  | case1 kind role span children ih =>
    rw [addresses_eq, descendants]
    exact map_at?_addressesFrom List.drop_zero ih

/-- An address among trees is the place of one of them, or it goes on inside it. -/
theorem mem_addressesFrom : address ∈ addressesFrom trees first ↔
    ∃ place deeper part, address = place :: deeper ∧ first ≤ place ∧
      trees[place - first]? = some part ∧ (deeper = [] ∨ deeper ∈ part.addresses) := by
  induction trees generalizing first with
  | nil =>
    rw [addressesFrom]
    constructor
    · exact fun listed => absurd listed List.not_mem_nil
    · rintro ⟨place, deeper, part, -, -, found, -⟩
      cases found
  | cons tree rest ih =>
    rw [addressesFrom, List.mem_cons, List.mem_append, List.mem_map, ih]
    constructor
    · rintro (rfl | ⟨deeper, listed, rfl⟩ | ⟨place, deeper, part, rfl, later, found, ends⟩)
      · exact ⟨first, [], tree, rfl, Nat.le_refl _, by simp, .inl rfl⟩
      · exact ⟨first, deeper, tree, rfl, Nat.le_refl _, by simp, .inr listed⟩
      · have shifted : place - first = place - (first + 1) + 1 := by omega
        refine ⟨place, deeper, part, rfl, by omega, ?_, ends⟩
        rw [shifted, List.getElem?_cons_succ]
        exact found
    · rintro ⟨place, deeper, part, rfl, above, found, ends⟩
      by_cases here : place = first
      · subst here
        rw [Nat.sub_self, List.getElem?_cons_zero] at found
        obtain rfl := Option.some.inj found
        rcases ends with rfl | listed
        · exact .inl rfl
        · exact .inr (.inl ⟨deeper, listed, rfl⟩)
      · have shifted : place - first = place - (first + 1) + 1 := by omega
        rw [shifted, List.getElem?_cons_succ] at found
        exact .inr (.inr ⟨place, deeper, part, rfl, by omega, found, ends⟩)

/-- The addresses are those at which a part inside stands. -/
theorem mem_addresses :
    address ∈ whole.addresses ↔ address ≠ [] ∧ (whole.at? address).isSome = true := by
  induction address generalizing whole with
  | nil =>
    rw [addresses_eq, mem_addressesFrom]
    constructor
    · rintro ⟨place, deeper, part, empty, -⟩
      cases empty
    · exact fun ⟨filled, _⟩ => absurd rfl filled
  | cons place deeper ih =>
    rw [addresses_eq, mem_addressesFrom]
    constructor
    · rintro ⟨_, _, part, same, -, found, ends⟩
      obtain ⟨rfl, rfl⟩ := List.cons.inj same
      rw [Nat.sub_zero] at found
      rw [at?_cons found]
      refine ⟨List.cons_ne_nil _ _, ?_⟩
      rcases ends with rfl | listed
      · rfl
      · exact (ih.mp listed).2
    · rintro ⟨-, stands⟩
      cases found : whole.children[place]? with
      | none =>
        rw [at?, found] at stands
        cases stands
      | some part =>
        rw [at?_cons found] at stands
        refine ⟨place, deeper, part, rfl, Nat.zero_le _, found, ?_⟩
        by_cases ends : deeper = []
        · exact .inl ends
        · exact .inr (ih.mpr ⟨ends, stands⟩)

/-! ## The order of the addresses -/

/-- Addresses among trees are in order if those inside each tree are. -/
theorem addressesFrom_pairwise (each : ∀ part ∈ trees, part.addresses.Pairwise (· < ·)) :
    (addressesFrom trees first).Pairwise (· < ·) := by
  induction trees generalizing first with
  | nil =>
    rw [addressesFrom]
    exact .nil
  | cons tree rest ih =>
    obtain ⟨here, others⟩ := List.forall_mem_cons.mp each
    have right : ∀ address ∈ addressesFrom rest (first + 1), ∀ deeper, first :: deeper < address := by
      intro address listed deeper
      obtain ⟨place, further, part, rfl, above, -⟩ := mem_addressesFrom.mp listed
      exact List.cons_lt_cons_iff.mpr (.inl above)
    rw [addressesFrom, List.pairwise_cons]
    constructor
    · intro address listed
      rcases List.mem_append.mp listed with inside | later
      · obtain ⟨deeper, entered, rfl⟩ := List.mem_map.mp inside
        obtain ⟨place, further, rfl⟩ := List.exists_cons_of_ne_nil (mem_addresses.mp entered).1
        exact List.cons_lt_cons_iff.mpr (.inr ⟨rfl, List.nil_lt_cons _ _⟩)
      · exact right address later []
    · rw [List.pairwise_append]
      refine ⟨?_, ih others, ?_⟩
      · rw [List.pairwise_map]
        exact here.imp fun before => List.cons_lt_cons_iff.mpr (.inr ⟨rfl, before⟩)
      · intro address inside other later
        obtain ⟨deeper, -, rfl⟩ := List.mem_map.mp inside
        exact right other later deeper

/-- The addresses are in the order of words. -/
theorem addresses_pairwise (whole : Node) : whole.addresses.Pairwise (· < ·) := by
  induction whole using preorder.induct with
  | case1 kind role span children ih =>
    rw [addresses_eq]
    exact addressesFrom_pairwise ih

/-! ## The walk to a kind -/

/-- The walk to a kind ends at the first part of the kind that the whole walk lists. -/
theorem walkTo?_eq_find? (kind : Kind) (trees : List Node) :
    walkTo? kind trees = (walk trees).find? (·.kind == kind) := by
  fun_induction walkTo? kind trees with
  | case1 => rw [walk, List.find?_nil]
  | case2 found role span children rest same =>
    rw [walk, List.find?_cons_of_pos]
    exact same
  | case3 found role span children rest other ih =>
    rw [walk, ih, List.find?_cons_of_neg]
    exact other

/-- The walk with a stack lists what is inside a part in pre-order. The addresses of the listed parts
are all those at which a part inside stands, in increasing order: each part is listed once, before
what is inside it and before what is to the right of it. The walk to a kind finds the first listed
part of the kind, and nothing exactly if none is listed. -/
theorem descendants_in_order (whole : Node) :
    whole.descendants = whole.children.flatMap preorder ∧
      (whole.addresses.map whole.at? = whole.descendants.map some ∧
        (∀ address, address ∈ whole.addresses ↔
          address ≠ [] ∧ (whole.at? address).isSome = true) ∧
        whole.addresses.Pairwise (· < ·)) ∧
      ∀ kind, whole.firstOfKind? kind = (whole.descendantsOfKind kind).head? ∧
        (whole.firstOfKind? kind = none ↔ whole.descendantsOfKind kind = []) := by
  have first : ∀ kind, whole.firstOfKind? kind = (whole.descendantsOfKind kind).head? := by
    intro kind
    rw [firstOfKind?, walkTo?_eq_find?, descendantsOfKind, List.head?_filter, descendants]
  refine ⟨walk_eq_flatMap _, ?_, fun kind => ⟨first kind, ?_⟩⟩
  · exact ⟨map_at?_addresses whole, fun _ => mem_addresses, addresses_pairwise whole⟩
  · rw [first kind, List.head?_eq_none_iff]

end AbilityHooks.Script.Node
