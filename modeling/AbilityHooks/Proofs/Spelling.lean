import AbilityHooks.Proofs.PatternRuns

/-!
# The texts that a pattern spells

A pattern that asks for no word edge does not look around: whether it has a run over some characters
is told by these characters alone, and so is what the run keeps of them. So it occurs in a text
exactly if a stretch of the text is one of those that it spells. The laws for words with white space
between them say what such a stretch is without a pattern.
-/

namespace AbilityHooks

/-- Words in their order, with any amount of white space between neighbours. -/
def Spaced : List String → List Char → Prop
  | [], taken => taken = []
  | [last], taken => taken = last.toList
  | word :: next :: rest, taken => ∃ gap others, (∀ c ∈ gap, Text.isBlank c = true) ∧
      Spaced (next :: rest) others ∧ taken = word.toList ++ (gap ++ others)

namespace Pattern

variable {p q : Pattern} {holds : Char → Bool} {start stop place : Place} {taken : List Char}
variable {kept : List Capture} {texts : List (List Char)}

/-- Whether a pattern asks for no word edge. -/
def edgeless : Pattern → Bool
  | nothing => true
  | one _ => true
  | many _ => true
  | both first second => first.edgeless && second.edgeless
  | either first second => first.edgeless && second.edgeless
  | captured inner => inner.edgeless
  | wordEdge => false

/-- The stretches of characters that a pattern takes, wherever they stand. -/
def Spells : Pattern → List Char → Prop
  | nothing, taken => taken = []
  | one holds, taken => ∃ c, holds c = true ∧ taken = [c]
  | many holds, taken => ∀ c ∈ taken, holds c = true
  | both first second, taken => ∃ before after, first.Spells before ∧ second.Spells after ∧
      taken = before ++ after
  | either first second, taken => first.Spells taken ∨ second.Spells taken
  | captured inner, taken => inner.Spells taken
  | wordEdge, taken => taken = []

/-- The stretches that a pattern takes, each with the stretches that it keeps of it. -/
def SpellsKeeping : Pattern → List Char → List (List Char) → Prop
  | nothing, taken, texts => taken = [] ∧ texts = []
  | one holds, taken, texts => (∃ c, holds c = true ∧ taken = [c]) ∧ texts = []
  | many holds, taken, texts => (∀ c ∈ taken, holds c = true) ∧ texts = []
  | both first second, taken, texts => ∃ before after early late,
      first.SpellsKeeping before early ∧ second.SpellsKeeping after late ∧
        taken = before ++ after ∧ texts = early ++ late
  | either first second, taken, texts =>
      first.SpellsKeeping taken texts ∨ second.SpellsKeeping taken texts
  | captured inner, taken, texts => ∃ deeper, inner.SpellsKeeping taken deeper ∧
      texts = taken :: deeper
  | wordEdge, taken, texts => taken = [] ∧ texts = []

/-- A run takes a stretch that the pattern spells, and keeps of it what the pattern keeps. -/
theorem spellsKeeping_of_run (run : (kept, stop) ∈ p.runs start) :
    ∃ taken, p.SpellsKeeping taken (kept.map Capture.chars) ∧ start.Leads taken stop := by
  induction p generalizing start stop kept with
  | nothing =>
    obtain ⟨rfl, rfl⟩ := Prod.mk.inj (List.mem_singleton.mp run)
    exact ⟨[], ⟨rfl, rfl⟩, Place.Leads.nil_iff.mpr rfl⟩
  | one holds =>
    obtain ⟨rfl, c, held, leads⟩ := mem_runs_one.mp run
    exact ⟨[c], ⟨⟨c, held, rfl⟩, rfl⟩, leads⟩
  | many holds =>
    obtain ⟨rfl, taken, holding, leads⟩ := mem_runs_many.mp run
    exact ⟨taken, ⟨holding, rfl⟩, leads⟩
  | both first second ihFirst ihSecond =>
    obtain ⟨early, middle, late, begins, ends, rfl⟩ := mem_runs_append.mp run
    obtain ⟨before, spellsBefore, leads⟩ := ihFirst begins
    obtain ⟨after, spellsAfter, further⟩ := ihSecond ends
    exact ⟨before ++ after,
      ⟨before, after, _, _, spellsBefore, spellsAfter, rfl, List.map_append⟩,
      Place.Leads.append_iff.mpr ⟨middle, leads, further⟩⟩
  | either first second ihFirst ihSecond =>
    rcases mem_runs_either.mp run with begins | begins
    · obtain ⟨taken, spells, leads⟩ := ihFirst begins
      exact ⟨taken, .inl spells, leads⟩
    · obtain ⟨taken, spells, leads⟩ := ihSecond begins
      exact ⟨taken, .inr spells, leads⟩
  | captured inner ih =>
    obtain ⟨deeper, inside, rfl⟩ := mem_runs_captured.mp run
    obtain ⟨taken, spells, leads⟩ := ih inside
    refine ⟨taken, ⟨_, spells, ?_⟩, leads⟩
    rw [List.map_cons, leads.chars_capture]
  | wordEdge =>
    rw [runs, List.mem_ite_nil_right] at run
    obtain ⟨rfl, rfl⟩ := Prod.mk.inj (List.mem_singleton.mp run.2)
    exact ⟨[], ⟨rfl, rfl⟩, Place.Leads.nil_iff.mpr rfl⟩

/-- A pattern without word edges has a run over every stretch that it spells, which keeps what the
pattern keeps of it. -/
theorem run_of_spellsKeeping (blind : p.edgeless = true) (spells : p.SpellsKeeping taken texts)
    (leads : start.Leads taken stop) :
    ∃ kept, (kept, stop) ∈ p.runs start ∧ kept.map Capture.chars = texts := by
  induction p generalizing start stop taken texts with
  | nothing =>
    obtain ⟨rfl, rfl⟩ := spells
    obtain rfl := Place.Leads.nil_iff.mp leads
    exact ⟨[], List.mem_singleton_self _, rfl⟩
  | one holds =>
    obtain ⟨⟨c, held, rfl⟩, rfl⟩ := spells
    exact ⟨[], mem_runs_one.mpr ⟨rfl, c, held, leads⟩, rfl⟩
  | many holds =>
    obtain ⟨holding, rfl⟩ := spells
    exact ⟨[], mem_runs_many.mpr ⟨rfl, taken, holding, leads⟩, rfl⟩
  | both first second ihFirst ihSecond =>
    obtain ⟨blindFirst, blindSecond⟩ := Bool.and_eq_true_iff.mp blind
    obtain ⟨before, after, early, late, spellsBefore, spellsAfter, rfl, rfl⟩ := spells
    obtain ⟨middle, begins, ends⟩ := Place.Leads.append_iff.mp leads
    obtain ⟨kept, run, rfl⟩ := ihFirst blindFirst spellsBefore begins
    obtain ⟨more, further, rfl⟩ := ihSecond blindSecond spellsAfter ends
    exact ⟨kept ++ more, mem_runs_append.mpr ⟨kept, middle, more, run, further, rfl⟩,
      List.map_append⟩
  | either first second ihFirst ihSecond =>
    obtain ⟨blindFirst, blindSecond⟩ := Bool.and_eq_true_iff.mp blind
    rcases spells with spells | spells
    · obtain ⟨kept, run, same⟩ := ihFirst blindFirst spells leads
      exact ⟨kept, mem_runs_either.mpr (.inl run), same⟩
    · obtain ⟨kept, run, same⟩ := ihSecond blindSecond spells leads
      exact ⟨kept, mem_runs_either.mpr (.inr run), same⟩
  | captured inner ih =>
    obtain ⟨deeper, inside, rfl⟩ := spells
    obtain ⟨kept, run, rfl⟩ := ih blind inside leads
    refine ⟨_, mem_runs_captured.mpr ⟨kept, run, rfl⟩, ?_⟩
    rw [List.map_cons, leads.chars_capture]
  | wordEdge => cases blind

/-- A pattern spells a stretch whatever it keeps of it. -/
theorem spells_iff_keeping : p.Spells taken ↔ ∃ texts, p.SpellsKeeping taken texts := by
  induction p generalizing taken with
  | both first second ihFirst ihSecond =>
    simp only [Spells, SpellsKeeping, ihFirst, ihSecond]
    constructor
    · rintro ⟨before, after, ⟨early, begins⟩, ⟨late, ends⟩, rfl⟩
      exact ⟨early ++ late, before, after, early, late, begins, ends, rfl, rfl⟩
    · rintro ⟨_, before, after, early, late, begins, ends, rfl, -⟩
      exact ⟨before, after, ⟨early, begins⟩, ⟨late, ends⟩, rfl⟩
  | either first second ihFirst ihSecond =>
    rw [Spells, ihFirst, ihSecond, ← exists_or]
    rfl
  | captured inner ih => simp [Spells, SpellsKeeping, ih]
  | _ => simp [Spells, SpellsKeeping]

/-- A run takes a stretch that the pattern spells. -/
theorem spells_of_run (run : (kept, stop) ∈ p.runs start) :
    ∃ taken, p.Spells taken ∧ start.Leads taken stop := by
  obtain ⟨taken, spells, leads⟩ := spellsKeeping_of_run run
  exact ⟨taken, spells_iff_keeping.mpr ⟨_, spells⟩, leads⟩

/-- A pattern without word edges has a run over every stretch that it spells. -/
theorem run_of_spells (blind : p.edgeless = true) (spells : p.Spells taken)
    (leads : start.Leads taken stop) : ∃ kept, (kept, stop) ∈ p.runs start := by
  obtain ⟨texts, keeping⟩ := spells_iff_keeping.mp spells
  obtain ⟨kept, run, -⟩ := run_of_spellsKeeping blind keeping leads
  exact ⟨kept, run⟩

/-! ## Between two places -/

/-- A pattern has a run from one place to another, whatever it keeps. -/
def Reaches (p : Pattern) (start stop : Place) : Prop := ∃ kept, (kept, stop) ∈ p.runs start

/-- Two patterns lead through a place between. -/
theorem reaches_append : (p ++ q).Reaches start stop ↔
    ∃ middle, p.Reaches start middle ∧ q.Reaches middle stop := by
  constructor
  · rintro ⟨_, run⟩
    obtain ⟨kept, middle, more, first, second, -⟩ := mem_runs_append.mp run
    exact ⟨middle, ⟨kept, first⟩, more, second⟩
  · rintro ⟨middle, ⟨kept, first⟩, more, second⟩
    exact ⟨_, mem_runs_append.mpr ⟨kept, middle, more, first, second, rfl⟩⟩

/-- A word edge leads nowhere else. -/
theorem reaches_wordEdge :
    wordEdge.Reaches start stop ↔ stop = start ∧ start.atWordEdge = true := by
  simp only [Reaches, mem_runs_wordEdge, exists_eq_left]

/-- A pattern without word edges leads over what it spells. -/
theorem reaches_iff_spells (blind : p.edgeless = true) :
    p.Reaches start stop ↔ ∃ taken, p.Spells taken ∧ start.Leads taken stop :=
  ⟨fun ⟨_, run⟩ => spells_of_run run, fun ⟨_, spells, leads⟩ => run_of_spells blind spells leads⟩

/-- A word leads over itself. -/
theorem reaches_lit {word : String} :
    (lit word).Reaches start stop ↔ start.Leads word.toList stop := by
  simp only [Reaches, mem_runs_lit, exists_eq_left]

/-- A class leads over its characters. -/
theorem reaches_many : (many holds).Reaches start stop ↔
    ∃ taken, (∀ c ∈ taken, holds c = true) ∧ start.Leads taken stop := by
  simp only [Reaches, mem_runs_many, exists_eq_left]

/-- A class that repeats at least once leads over one character of it or more. -/
theorem reaches_oneOrMore : (oneOrMore holds).Reaches start stop ↔
    ∃ taken, taken ≠ [] ∧ (∀ c ∈ taken, holds c = true) ∧ start.Leads taken stop := by
  simp only [Reaches, mem_runs_oneOrMore, exists_eq_left]

/-! ## Where a pattern occurs -/

/-- A search from a place on finds something exactly if the pattern has a run from somewhere. -/
theorem find?_isSome_iff : (p.find? place).isSome = true ↔
    ∃ skipped start, place.Leads skipped start ∧ p.runs start ≠ [] := by
  constructor
  · intro found
    obtain ⟨_, search⟩ := Option.isSome_iff_exists.mp found
    obtain ⟨skipped, start, leads, prefers, -⟩ := find?_eq_some_iff.mp search
    exact ⟨skipped, start, leads, List.ne_nil_of_mem prefers.mem_runs⟩
  · rintro ⟨skipped, start, leads, run⟩
    obtain ⟨before, rest⟩ := place
    -- Along the text: the run is from here, or from behind the first character.
    induction rest generalizing before skipped with
    | nil =>
      obtain ⟨rfl, -⟩ := List.append_eq_nil_iff.mp leads.rest.symm
      obtain rfl := Place.Leads.nil_iff.mp leads
      rw [find?, Option.isSome_iff_ne_none, ne_eq, at?_eq_none_iff]
      exact run
    | cons c rest ih =>
      rw [find?]
      cases tried : p.at? ⟨before, c :: rest⟩ with
      | some found => rfl
      | none =>
        cases skipped with
        | nil =>
          obtain rfl := Place.Leads.nil_iff.mp leads
          exact absurd (at?_eq_none_iff.mp tried) run
        | cons d skipped =>
          obtain ⟨_, same, further⟩ := Place.Leads.cons_iff.mp leads
          obtain ⟨rfl, rfl⟩ := List.cons.inj same
          exact ih skipped (some c) further

/-- A pattern occurs in a text exactly if it leads from some place of the text to another. -/
theorem occursIn_iff_reaches {text : String} : p.occursIn text = true ↔
    ∃ before start stop, (Place.ofText text).Leads before start ∧ p.Reaches start stop := by
  rw [occursIn, find?_isSome_iff]
  constructor
  · rintro ⟨before, start, leads, run⟩
    obtain ⟨⟨kept, stop⟩, inside⟩ := List.exists_mem_of_ne_nil _ run
    exact ⟨before, start, stop, leads, kept, inside⟩
  · rintro ⟨before, start, stop, leads, kept, inside⟩
    exact ⟨before, start, leads, List.ne_nil_of_mem inside⟩

/-- A pattern without word edges occurs in a text exactly if it spells a stretch of the text. -/
theorem occursIn_iff_spells {text : String} (blind : p.edgeless = true) :
    p.occursIn text = true ↔
      ∃ before taken after, p.Spells taken ∧ text.toList = before ++ (taken ++ after) := by
  simp only [occursIn_iff_reaches, reaches_iff_spells blind]
  constructor
  · rintro ⟨before, start, stop, leads, taken, spells, further⟩
    exact ⟨before, taken, stop.rest, spells, leads.rest.trans (congrArg _ further.rest)⟩
  · rintro ⟨before, taken, after, spells, split⟩
    exact ⟨before, ⟨before.getLast?.or none, taken ++ after⟩, _, .of_rest split, taken, spells,
      .of_rest rfl⟩

/-! ## Words -/

/-- A word spells itself. -/
@[simp]
theorem spells_lit {word : String} : (lit word).Spells taken ↔ taken = word.toList := by
  unfold lit
  induction word.toList generalizing taken with
  | nil => exact Iff.rfl
  | cons c letters ih =>
    rw [List.foldr_cons]
    simp only [Spells, ih]
    constructor
    · rintro ⟨_, _, ⟨d, same, rfl⟩, rfl, rfl⟩
      rw [beq_iff_eq] at same
      rw [same]
      rfl
    · rintro rfl
      exact ⟨[c], letters, ⟨c, beq_self_eq_true c, rfl⟩, rfl, rfl⟩

/-- A word does not look around. -/
@[simp]
theorem edgeless_lit (word : String) : (lit word).edgeless = true := by
  unfold lit
  induction word.toList with
  | nil => rfl
  | cons c letters ih => exact ih

/-- A choice of words spells exactly these words. -/
theorem spells_words {choices : List String} :
    (words choices).Spells taken ↔ ∃ word ∈ choices, taken = word.toList := by
  induction choices with
  | nil => exact iff_of_false (fun ⟨_, never, _⟩ => nomatch never) (by simp)
  | cons word others ih =>
    cases others with
    | nil => exact spells_lit.trans (by simp)
    | cons next others =>
      rw [List.exists_mem_cons_iff, ← ih]
      exact or_congr_left spells_lit

/-- A choice of words does not look around. -/
theorem edgeless_words (choices : List String) : (words choices).edgeless = true := by
  induction choices with
  | nil => rfl
  | cons word others ih =>
    cases others with
    | nil => exact edgeless_lit word
    | cons next others => exact Bool.and_eq_true_iff.mpr ⟨edgeless_lit word, ih⟩

/-- Two patterns spell a stretch of the first and then one of the second. -/
theorem spells_append : (p ++ q).Spells taken ↔
    ∃ before after, p.Spells before ∧ q.Spells after ∧ taken = before ++ after := Iff.rfl

/-- A class that repeats at least once spells characters of it. -/
theorem spells_oneOrMore : (oneOrMore holds).Spells taken ↔
    taken ≠ [] ∧ ∀ c ∈ taken, holds c = true := by
  rw [oneOrMore, spells_append]
  constructor
  · rintro ⟨_, others, ⟨c, held, rfl⟩, holding, rfl⟩
    exact ⟨List.cons_ne_nil _ _, List.forall_mem_cons.mpr ⟨held, holding⟩⟩
  · rintro ⟨filled, holding⟩
    obtain ⟨c, others, rfl⟩ := List.exists_cons_of_ne_nil filled
    obtain ⟨held, holding⟩ := List.forall_mem_cons.mp holding
    exact ⟨[c], others, ⟨c, held, rfl⟩, holding, rfl⟩

/-- A pattern that may be left out spells its stretches and the empty one. -/
theorem spells_maybe : (maybe p).Spells taken ↔ p.Spells taken ∨ taken = [] := Iff.rfl

/-- One piece alone spells what it spells. -/
theorem spells_spaced_last : (spaced [p]).Spells taken ↔ p.Spells taken := Iff.rfl

/-- Pieces with white space between them spell a stretch of the first piece, blanks, and a stretch
of the others. -/
theorem spells_spaced_cons {others : List Pattern} :
    (spaced (p :: q :: others)).Spells taken ↔
      ∃ first gap rest, p.Spells first ∧ (∀ c ∈ gap, Text.isBlank c = true) ∧
        (spaced (q :: others)).Spells rest ∧ taken = first ++ (gap ++ rest) := by
  change (p ++ blanks ++ spaced (q :: others)).Spells taken ↔ _
  constructor
  · rintro ⟨_, rest, ⟨first, gap, spells, blank, rfl⟩, spellsRest, rfl⟩
    exact ⟨first, gap, rest, spells, blank, spellsRest, List.append_assoc _ _ _⟩
  · rintro ⟨first, gap, rest, spells, blank, spellsRest, rfl⟩
    exact ⟨first ++ gap, rest, ⟨first, gap, spells, blank, rfl⟩, spellsRest,
      (List.append_assoc _ _ _).symm⟩

/-- Pieces that ask for no word edge ask for none with white space between them. -/
theorem edgeless_spaced {pieces : List Pattern} (blind : ∀ piece ∈ pieces, piece.edgeless = true) :
    (spaced pieces).edgeless = true := by
  induction pieces with
  | nil => rfl
  | cons piece others ih =>
    obtain ⟨here, later⟩ := List.forall_mem_cons.mp blind
    cases others with
    | nil => exact here
    | cons next others =>
      have first : (piece ++ blanks).edgeless = true := Bool.and_eq_true_iff.mpr ⟨here, rfl⟩
      exact Bool.and_eq_true_iff.mpr ⟨first, ih later⟩

/-- Words with white space between them do not look around. -/
theorem edgeless_spaced_words (words : List String) :
    (spaced (words.map lit)).edgeless = true := by
  refine edgeless_spaced fun piece listed => ?_
  obtain ⟨word, -, rfl⟩ := List.mem_map.mp listed
  exact edgeless_lit word

/-- Words with white space between them spell exactly these words so spaced. -/
theorem spells_spaced_words (words : List String) :
    (spaced (words.map lit)).Spells taken ↔ Spaced words taken := by
  induction words generalizing taken with
  | nil => exact Iff.rfl
  | cons word rest ih =>
    cases rest with
    | nil => exact spells_lit
    | cons next rest =>
      rw [List.map_cons, List.map_cons, spells_spaced_cons, Spaced]
      simp only [spells_lit, ← List.map_cons, ih]
      constructor
      · rintro ⟨_, gap, others, rfl, blank, spaced, rfl⟩
        exact ⟨gap, others, blank, spaced, rfl⟩
      · rintro ⟨gap, others, blank, spaced, rfl⟩
        exact ⟨_, gap, others, rfl, blank, spaced, rfl⟩

end Pattern

end AbilityHooks
