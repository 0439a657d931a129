import AbilityHooks.Pattern.Search
import Mathlib.Data.List.Basic

/-!
# The runs of a pattern

A run of a pattern takes some characters from its place and ends at the place behind them. For each
kind of pattern two laws are stated: which runs there are, told by the characters they take, and
which of them is preferred. A search then finds the preferred run from the leftmost place that has
one.
-/

namespace AbilityHooks

/-- A place leads to another over the characters between them. -/
structure Place.Leads (start : Place) (taken : List Char) (stop : Place) : Prop where
  rest : start.rest = taken ++ stop.rest
  before : stop.before = taken.getLast?.or start.before

namespace Place.Leads

variable {start middle stop : Place} {taken more : List Char} {c : Char}

/-- Over no characters a place leads to itself. -/
theorem nil_iff : start.Leads [] stop ↔ stop = start := by
  obtain ⟨before, rest⟩ := start
  obtain ⟨_, _⟩ := stop
  constructor
  · rintro ⟨same, last⟩
    simp_all
  · rintro ⟨⟩
    exact ⟨rfl, rfl⟩

/-- Over a character and more a place leads first to the place behind the character. -/
theorem cons_iff : start.Leads (c :: taken) stop ↔
    ∃ rest, start.rest = c :: rest ∧ (Place.mk (some c) rest).Leads taken stop := by
  have last : (c :: taken).getLast?.or start.before = taken.getLast?.or (some c) := by
    rw [List.getLast?_cons]
    cases taken.getLast? <;> rfl
  constructor
  · rintro ⟨same, before⟩
    exact ⟨taken ++ stop.rest, same, rfl, before.trans last⟩
  · rintro ⟨rest, same, inside, before⟩
    exact ⟨same.trans (congrArg (c :: ·) inside), before.trans last.symm⟩

/-- Over characters in two parts a place leads to the other end through the place between. -/
theorem append_iff : start.Leads (taken ++ more) stop ↔
    ∃ middle, start.Leads taken middle ∧ middle.Leads more stop := by
  constructor
  · rintro ⟨same, before⟩
    refine ⟨⟨taken.getLast?.or start.before, more ++ stop.rest⟩, ⟨?_, rfl⟩, rfl, ?_⟩
    · rw [same, List.append_assoc]
    · rw [before, List.getLast?_append, Option.or_assoc]
  · rintro ⟨middle, ⟨same, before⟩, again, last⟩
    refine ⟨?_, ?_⟩
    · rw [same, again, List.append_assoc]
    · rw [last, before, List.getLast?_append, Option.or_assoc]

/-- A place leads on over any characters that its text begins with. -/
theorem of_rest {rest : List Char} (split : start.rest = taken ++ rest) :
    start.Leads taken ⟨taken.getLast?.or start.before, rest⟩ :=
  ⟨split, rfl⟩

/-- What is kept between two places is the characters between them. -/
theorem chars_capture (leads : start.Leads taken stop) :
    Capture.chars ⟨start.rest, stop.rest⟩ = taken := by
  simp [Capture.chars, leads.rest]

/-- A place that leads on over characters begins with the first of them. -/
theorem head?_rest (leads : start.Leads taken stop) (filled : taken ≠ []) :
    start.rest.head? = taken.head? := by
  rw [leads.rest, List.head?_append_of_ne_nil _ filled]

/-- A class that does not have the first character ends at the place. -/
theorem ends {holds : Char → Bool} (leads : start.Leads taken stop) (first : taken.head? = some c)
    (other : holds c = false) : ∀ d ∈ start.rest.head?, holds d = false := by
  have filled : taken ≠ [] := by
    rintro rfl
    cases first
  rw [leads.head?_rest filled, first]
  rintro d ⟨⟩
  exact other

/-- The character before a place is the last one taken, unless a class has neither it nor the one
before. -/
theorem before_any {holds : Char → Bool} (leads : start.Leads taken stop)
    (apart : start.before.any holds = false) :
    stop.before.any holds = taken.getLast?.any holds := by
  rw [leads.before]
  cases taken.getLast? with
  | none => exact apart
  | some c => rfl

/-- In front of a word there is an edge unless a word character is before it. -/
theorem atWordEdge_start (leads : start.Leads taken stop)
    (word : taken.head?.any Text.isWord = true) :
    start.atWordEdge = true ↔ start.before.any Text.isWord = false := by
  have filled : taken ≠ [] := by
    rintro rfl
    cases word
  rw [Place.atWordEdge, leads.head?_rest filled, word]
  cases start.before.any Text.isWord <;> decide

/-- Behind a word there is an edge unless a word character comes next. -/
theorem atWordEdge_stop (leads : start.Leads taken stop)
    (word : taken.getLast?.any Text.isWord = true) :
    stop.atWordEdge = true ↔ stop.rest.head?.any Text.isWord = false := by
  have last : stop.before.any Text.isWord = true := by
    rw [leads.before]
    cases ends : taken.getLast? with
    | none => simp [ends] at word
    | some c => simpa [ends] using word
  rw [Place.atWordEdge, last]
  cases stop.rest.head?.any Text.isWord <;> decide

end Place.Leads

namespace Pattern

variable {p q : Pattern} {holds : Char → Bool} {place middle stop : Place} {taken : List Char}
variable {kept more : List Capture}

/-! ## Which runs there are -/

/-- A run of one character takes a character of the class. -/
theorem mem_runs_one : (kept, stop) ∈ (one holds).runs place ↔
    kept = [] ∧ ∃ c, holds c = true ∧ place.Leads [c] stop := by
  obtain ⟨before, _ | ⟨c, rest⟩⟩ := place
  · simp [runs, Place.Leads.cons_iff]
  · by_cases held : holds c = true
    · simp [runs, held, Place.Leads.cons_iff, Place.Leads.nil_iff]
    · simp only [runs, held, Bool.false_eq_true, if_false, List.not_mem_nil, false_iff]
      rintro ⟨-, other, holding, leads⟩
      obtain ⟨_, same, -⟩ := Place.Leads.cons_iff.mp leads
      exact held ((List.cons.inj same).1 ▸ holding)

/-- A repeated class may lead nowhere. -/
theorem self_mem_spread : place ∈ spread holds place := by
  fun_cases spread holds place <;> simp

/-- A repeated class leads over any of its characters. -/
theorem mem_spread : stop ∈ spread holds place ↔
    ∃ taken, (∀ c ∈ taken, holds c = true) ∧ place.Leads taken stop := by
  constructor
  · intro reached
    fun_induction spread holds place with
    | case1 before => exact ⟨[], by simp, Place.Leads.nil_iff.mpr (List.mem_singleton.mp reached)⟩
    | case2 before c rest held ih =>
      rcases List.mem_append.mp reached with farther | here
      · obtain ⟨taken, holding, leads⟩ := ih farther
        refine ⟨c :: taken, ?_, Place.Leads.cons_iff.mpr ⟨rest, rfl, leads⟩⟩
        exact List.forall_mem_cons.mpr ⟨held, holding⟩
      · exact ⟨[], by simp, Place.Leads.nil_iff.mpr (List.mem_singleton.mp here)⟩
    | case3 before c rest held =>
      exact ⟨[], by simp, Place.Leads.nil_iff.mpr (List.mem_singleton.mp reached)⟩
  · rintro ⟨taken, holding, leads⟩
    induction taken generalizing place with
    | nil => exact Place.Leads.nil_iff.mp leads ▸ self_mem_spread
    | cons c taken ih =>
      obtain ⟨rest, begins, further⟩ := Place.Leads.cons_iff.mp leads
      obtain ⟨held, holding⟩ := List.forall_mem_cons.mp holding
      obtain ⟨before, _⟩ := place
      subst begins
      rw [spread, if_pos held]
      exact List.mem_append_left _ (ih holding further)

/-- A run of repeated characters takes any of the class. -/
theorem mem_runs_many : (kept, stop) ∈ (many holds).runs place ↔
    kept = [] ∧ ∃ taken, (∀ c ∈ taken, holds c = true) ∧ place.Leads taken stop := by
  simp only [runs, List.mem_map, Prod.mk.injEq, ← mem_spread]
  constructor
  · rintro ⟨_, inside, rfl, rfl⟩
    exact ⟨rfl, inside⟩
  · rintro ⟨rfl, inside⟩
    exact ⟨stop, inside, rfl, rfl⟩

/-- A run of two patterns goes through a place between. -/
theorem mem_runs_append : (kept, stop) ∈ (p ++ q).runs place ↔
    ∃ first middle later, (first, middle) ∈ p.runs place ∧ (later, stop) ∈ q.runs middle ∧
      kept = first ++ later := by
  change (kept, stop) ∈ (both p q).runs place ↔ _
  simp only [runs, List.mem_flatMap, List.mem_map, Prod.mk.injEq, Prod.exists]
  constructor
  · rintro ⟨first, middle, begins, later, _, ends, rfl, rfl⟩
    exact ⟨first, middle, later, begins, ends, rfl⟩
  · rintro ⟨first, middle, later, begins, ends, rfl⟩
    exact ⟨first, middle, begins, later, stop, ends, rfl, rfl⟩

/-- A run of one of two patterns is a run of either. -/
theorem mem_runs_either : (kept, stop) ∈ (either p q).runs place ↔
    (kept, stop) ∈ p.runs place ∨ (kept, stop) ∈ q.runs place := by
  rw [runs, List.mem_append]

/-- A run that is kept is kept in front of what it keeps inside. -/
theorem mem_runs_captured : (kept, stop) ∈ (captured p).runs place ↔
    ∃ inner, (inner, stop) ∈ p.runs place ∧ kept = ⟨place.rest, stop.rest⟩ :: inner := by
  simp only [runs, List.mem_map, Prod.mk.injEq, Prod.exists]
  constructor
  · rintro ⟨inner, _, inside, rfl, rfl⟩
    exact ⟨inner, inside, rfl⟩
  · rintro ⟨inner, inside, rfl⟩
    exact ⟨inner, stop, inside, rfl, rfl⟩

/-- A run of a word takes the word. -/
theorem mem_runs_lit {word : String} : (kept, stop) ∈ (lit word).runs place ↔
    kept = [] ∧ place.Leads word.toList stop := by
  unfold lit
  induction word.toList generalizing place kept with
  | nil => simp [runs, Place.Leads.nil_iff]
  | cons c rest ih =>
    change (kept, stop) ∈ (one (· == c) ++ _).runs place ↔ _
    rw [mem_runs_append]
    simp only [mem_runs_one, ih]
    constructor
    · rintro ⟨_, middle, _, ⟨rfl, d, same, leads⟩, ⟨rfl, further⟩, rfl⟩
      rw [beq_iff_eq] at same
      exact ⟨rfl, Place.Leads.append_iff.mpr ⟨middle, same ▸ leads, further⟩⟩
    · rintro ⟨rfl, leads⟩
      have parts : place.Leads ([c] ++ rest) stop := leads
      obtain ⟨middle, begins, ends⟩ := Place.Leads.append_iff.mp parts
      exact ⟨[], middle, [], ⟨rfl, c, beq_self_eq_true c, begins⟩, ⟨rfl, ends⟩, rfl⟩

/-- A word edge has the empty run where a word begins or ends. -/
theorem mem_runs_wordEdge :
    (kept, stop) ∈ wordEdge.runs place ↔ kept = [] ∧ stop = place ∧ place.atWordEdge = true := by
  rw [runs, List.mem_ite_nil_right, List.mem_singleton, Prod.mk.injEq]
  constructor
  · rintro ⟨edge, rfl, rfl⟩
    exact ⟨rfl, rfl, edge⟩
  · rintro ⟨rfl, rfl, edge⟩
    exact ⟨edge, rfl, rfl⟩

/-- A run of a class that repeats at least once takes at least one character of it. -/
theorem mem_runs_oneOrMore : (kept, stop) ∈ (oneOrMore holds).runs place ↔
    kept = [] ∧ ∃ taken, taken ≠ [] ∧ (∀ c ∈ taken, holds c = true) ∧
      place.Leads taken stop := by
  rw [oneOrMore, mem_runs_append]
  simp only [mem_runs_one, mem_runs_many]
  constructor
  · rintro ⟨_, middle, _, ⟨rfl, c, held, begins⟩, ⟨rfl, taken, holding, further⟩, rfl⟩
    refine ⟨rfl, [c] ++ taken, by simp, ?_, Place.Leads.append_iff.mpr ⟨middle, begins, further⟩⟩
    exact List.forall_mem_cons.mpr ⟨held, holding⟩
  · rintro ⟨rfl, _ | ⟨c, taken⟩, filled, holding, leads⟩
    · exact absurd rfl filled
    · obtain ⟨held, holding⟩ := List.forall_mem_cons.mp holding
      have parts : place.Leads ([c] ++ taken) stop := leads
      obtain ⟨middle, begins, further⟩ := Place.Leads.append_iff.mp parts
      exact ⟨[], middle, [], ⟨rfl, c, held, begins⟩, ⟨rfl, taken, holding, further⟩, rfl⟩

/-- A run of a pattern that may be left out is one of its runs or stays. -/
theorem mem_runs_maybe : (kept, stop) ∈ (maybe p).runs place ↔
    (kept, stop) ∈ p.runs place ∨ kept = [] ∧ stop = place := by
  rw [maybe, mem_runs_either]
  simp [runs]

/-! ## Which run is preferred -/

/-- A pattern prefers one of its runs from a place: the first one. -/
def Prefers (p : Pattern) (place : Place) (kept : List Capture) (stop : Place) : Prop :=
  (p.runs place).head? = some (kept, stop)

namespace Prefers

/-- The preferred run is a run. -/
theorem mem_runs (prefers : p.Prefers place kept stop) : (kept, stop) ∈ p.runs place :=
  List.mem_of_head? prefers

/-- The empty pattern stays. -/
theorem nothing : Pattern.nothing.Prefers place [] place := rfl

/-- One character of the class is taken. -/
theorem one {c : Char} (held : holds c = true) (leads : place.Leads [c] stop) :
    (Pattern.one holds).Prefers place [] stop := by
  obtain ⟨rest, begins, further⟩ := Place.Leads.cons_iff.mp leads
  obtain ⟨before, _⟩ := place
  subst begins
  rw [Place.Leads.nil_iff.mp further, Prefers, runs, if_pos held]
  rfl

/-- As many characters of the class as there are are taken. -/
theorem many (holding : ∀ c ∈ taken, holds c = true) (leads : place.Leads taken stop)
    (ends : ∀ c ∈ stop.rest.head?, holds c = false) :
    (Pattern.many holds).Prefers place [] stop := by
  have farthest : (spread holds place).head? = some stop := by
    induction taken generalizing place with
    | nil =>
      rw [Place.Leads.nil_iff.mp leads] at ends ⊢
      fun_cases spread holds place with
      | case1 before => rfl
      | case2 before c rest held => simp [held] at ends
      | case3 before c rest held => rfl
    | cons c taken ih =>
      obtain ⟨rest, begins, further⟩ := Place.Leads.cons_iff.mp leads
      obtain ⟨held, holding⟩ := List.forall_mem_cons.mp holding
      obtain ⟨before, _⟩ := place
      subst begins
      rw [spread, if_pos held, List.head?_append, ih holding further]
      rfl
  rw [Prefers, runs, List.head?_map, farthest]
  rfl

/-- Of two patterns in order each takes its preferred run. -/
theorem append (first : p.Prefers place kept middle) (second : q.Prefers middle more stop) :
    (p ++ q).Prefers place (kept ++ more) stop := by
  change ((both p q).runs place).head? = _
  unfold Prefers at first second
  rw [runs]
  cases begins : p.runs place with
  | nil => simp [begins] at first
  | cons run others =>
    rw [begins] at first
    obtain rfl : run = (kept, middle) := Option.some.inj first
    rw [List.flatMap_cons, List.head?_append, List.head?_map, second]
    rfl

/-- The first of two alternatives is preferred. -/
theorem left (first : p.Prefers place kept stop) : (either p q).Prefers place kept stop := by
  unfold Prefers at first ⊢
  rw [runs, List.head?_append, first]
  rfl

/-- The second of two alternatives is taken where the first has no run. -/
theorem right (blocked : p.runs place = []) (second : q.Prefers place kept stop) :
    (either p q).Prefers place kept stop := by
  unfold Prefers at second ⊢
  rw [runs, blocked, List.nil_append, second]

/-- A run is kept in front of what it keeps inside. -/
theorem captured (inner : p.Prefers place kept stop) :
    (Pattern.captured p).Prefers place (⟨place.rest, stop.rest⟩ :: kept) stop := by
  unfold Prefers at inner ⊢
  rw [runs, List.head?_map, inner]
  rfl

/-- A word takes itself. -/
theorem lit {word : String} (leads : place.Leads word.toList stop) :
    (Pattern.lit word).Prefers place [] stop := by
  unfold Pattern.lit
  generalize word.toList = letters at leads
  induction letters generalizing place with
  | nil => exact Place.Leads.nil_iff.mp leads ▸ nothing
  | cons c letters ih =>
    have parts : place.Leads ([c] ++ letters) stop := leads
    obtain ⟨middle, begins, ends⟩ := Place.Leads.append_iff.mp parts
    have first : (Pattern.one (· == c)).Prefers place [] middle :=
      one (beq_self_eq_true c) begins
    exact first.append (ih ends)

/-- A class that repeats at least once takes as many of its characters as there are. -/
theorem oneOrMore (filled : taken ≠ []) (holding : ∀ c ∈ taken, holds c = true)
    (leads : place.Leads taken stop) (ends : ∀ c ∈ stop.rest.head?, holds c = false) :
    (Pattern.oneOrMore holds).Prefers place [] stop := by
  obtain ⟨c, others, rfl⟩ := List.exists_cons_of_ne_nil filled
  obtain ⟨held, holding⟩ := List.forall_mem_cons.mp holding
  have parts : place.Leads ([c] ++ others) stop := leads
  obtain ⟨middle, begins, further⟩ := Place.Leads.append_iff.mp parts
  exact (one held begins).append (many holding further ends)

end Prefers

/-! ## Searching -/

/-- Trying a pattern finds the run it prefers. -/
theorem at?_eq_some_iff {found : Found} :
    p.at? place = some found ↔ p.Prefers place found.captures found.after := by
  obtain ⟨captures, after⟩ := found
  rw [at?, attempt_eq_findSome?_runs, Prefers]
  cases p.runs place with
  | nil => simp
  | cons run others => simp [Prod.ext_iff]

/-- Trying a pattern finds nothing where the pattern has no run. -/
theorem at?_eq_none_iff : p.at? place = none ↔ p.runs place = [] := by
  rw [at?, attempt_eq_findSome?_runs]
  cases p.runs place with
  | nil => simp
  | cons run others => simp

/-- From a place on, the first place with a run is where a find begins, and the find is the run that
the pattern prefers there. -/
def FirstFind (p : Pattern) (place : Place) (found : Found) : Prop :=
  ∃ skipped start, place.Leads skipped start ∧ p.Prefers start found.captures found.after ∧
    ∀ shorter earlier, place.Leads shorter earlier → shorter.length < skipped.length →
      p.runs earlier = []

namespace FirstFind

variable {found : Found} {before : Option Char} {c : Char} {rest : List Char}

/-- The run that is preferred here is found first. -/
theorem of_prefers (prefers : p.Prefers place found.captures found.after) :
    p.FirstFind place found :=
  ⟨[], place, Place.Leads.nil_iff.mpr rfl, prefers, by simp⟩

/-- Where there is a run, it is found first. -/
theorem here_iff (run : p.runs place ≠ []) :
    p.FirstFind place found ↔ p.Prefers place found.captures found.after := by
  refine ⟨?_, of_prefers⟩
  rintro ⟨_ | ⟨d, skipped⟩, start, leads, prefers, none⟩
  · exact Place.Leads.nil_iff.mp leads ▸ prefers
  · exact absurd (none [] _ (Place.Leads.nil_iff.mpr rfl) (Nat.succ_pos _)) run

/-- Where there is no run, the search goes on behind the character. -/
theorem beyond_iff (none : p.runs ⟨before, c :: rest⟩ = []) :
    p.FirstFind ⟨before, c :: rest⟩ found ↔ p.FirstFind ⟨some c, rest⟩ found := by
  constructor
  · rintro ⟨_ | ⟨d, skipped⟩, start, leads, prefers, others⟩
    · have run := prefers.mem_runs
      rw [Place.Leads.nil_iff.mp leads, none] at run
      cases run
    · obtain ⟨_, same, leads⟩ := Place.Leads.cons_iff.mp leads
      obtain ⟨rfl, rfl⟩ := List.cons.inj same
      refine ⟨skipped, start, leads, prefers, fun shorter earlier reached less => ?_⟩
      exact others (c :: shorter) earlier (Place.Leads.cons_iff.mpr ⟨rest, rfl, reached⟩)
        (Nat.succ_lt_succ less)
  · rintro ⟨skipped, start, leads, prefers, others⟩
    refine ⟨c :: skipped, start, Place.Leads.cons_iff.mpr ⟨rest, rfl, leads⟩, prefers, ?_⟩
    rintro (_ | ⟨d, shorter⟩) earlier reached less
    · exact Place.Leads.nil_iff.mp reached ▸ none
    · obtain ⟨_, same, reached⟩ := Place.Leads.cons_iff.mp reached
      obtain ⟨rfl, rfl⟩ := List.cons.inj same
      exact others shorter earlier reached (Nat.lt_of_succ_lt_succ less)

/-- At the end of the text only a run from there is found. -/
theorem end_iff : p.FirstFind ⟨before, []⟩ found ↔
    p.Prefers ⟨before, []⟩ found.captures found.after := by
  refine ⟨?_, of_prefers⟩
  rintro ⟨skipped, start, leads, prefers, -⟩
  obtain ⟨rfl, -⟩ := List.append_eq_nil_iff.mp leads.rest.symm
  exact Place.Leads.nil_iff.mp leads ▸ prefers

end FirstFind

/-- A search finds the run that the pattern prefers at the first place that has one. -/
theorem find?_eq_some_iff {found : Found} :
    p.find? place = some found ↔ p.FirstFind place found := by
  obtain ⟨before, rest⟩ := place
  induction rest generalizing before with
  | nil => rw [find?, at?_eq_some_iff, FirstFind.end_iff]
  | cons c rest ih =>
    rw [find?]
    cases tried : p.at? ⟨before, c :: rest⟩ with
    | none =>
      rw [FirstFind.beyond_iff (at?_eq_none_iff.mp tried), ← ih]
      rfl
    | some first =>
      have run : p.runs ⟨before, c :: rest⟩ ≠ [] := by
        rw [ne_eq, ← at?_eq_none_iff, tried]
        simp
      rw [FirstFind.here_iff run, ← at?_eq_some_iff, tried]
      rfl

end Pattern

end AbilityHooks
