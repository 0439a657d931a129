import AbilityHooks.Proofs.Spelling
import Mathlib.Data.List.Forall2

/-!
# What a pattern keeps of a stretch

A pattern of pieces with white space between them takes words so spaced and keeps parts of them.
Nothing is open between such words: where two stretches begin the same text, they have the same
blanks, and their words agree as far as the characters of one kind go. A search passes over whatever
begins no stretch.
-/

namespace AbilityHooks

/-- Characters of one kind in front of one of another kind are told by the text. -/
theorem span_unique {holds : Char → Bool} {front front' back back' : List Char}
    (inside : ∀ c ∈ front, holds c = true) (inside' : ∀ c ∈ front', holds c = true)
    (ends : ∀ c ∈ back.head?, holds c = false) (ends' : ∀ c ∈ back'.head?, holds c = false)
    (same : front ++ back = front' ++ back') : front = front' ∧ back = back' := by
  have told {front back : List Char} (inside : ∀ c ∈ front, holds c = true)
      (ends : ∀ c ∈ back.head?, holds c = false) : (front ++ back).takeWhile holds = front := by
    rw [List.takeWhile_append_of_pos inside]
    cases back with
    | nil => simp
    | cons c rest => simp [ends c rfl]
  have fronts : front = front' := by rw [← told inside ends, same, told inside' ends']
  subst fronts
  exact ⟨rfl, List.append_cancel_left same⟩

/-! ## Words with white space between them -/

/-- Whether a word begins with a character that is not blank. -/
def StartsSolid (word : String) : Prop := ∃ c rest, word.toList = c :: rest ∧ Text.isBlank c = false

namespace Spaced

variable {word next next' : String} {words words' : List String}
variable {taken taken' rest rest' : List Char}

/-- Words so spaced begin with the first of them. -/
theorem prefix_first (spaced : Spaced (word :: words) taken) : word.toList <+: taken := by
  cases words with
  | nil => exact (show taken = word.toList from spaced) ▸ List.prefix_refl _
  | cons next words =>
    obtain ⟨gap, others, -, -, rfl⟩ := spaced
    exact List.prefix_append _ _

/-- Words so spaced have the characters of the words, and blanks. -/
theorem mem (spaced : Spaced words taken) {c : Char} (inside : c ∈ taken) :
    Text.isBlank c = true ∨ ∃ word ∈ words, c ∈ word.toList := by
  induction words generalizing taken with
  | nil =>
    obtain rfl : taken = [] := spaced
    cases inside
  | cons word words ih =>
    cases words with
    | nil =>
      obtain rfl : taken = word.toList := spaced
      exact .inr ⟨word, List.mem_singleton_self _, inside⟩
    | cons next words =>
      obtain ⟨gap, others, blank, later, rfl⟩ := spaced
      rcases List.mem_append.mp inside with here | beyond
      · exact .inr ⟨word, List.mem_cons_self, here⟩
      rcases List.mem_append.mp beyond with white | further
      · exact .inl (blank c white)
      · refine (ih later further).imp_right ?_
        rintro ⟨other, listed, here⟩
        exact ⟨other, List.mem_cons_of_mem _ listed, here⟩

/-- Words so spaced whose first one is solid begin with no blank. -/
theorem head_solid (spaced : Spaced (word :: words) taken) (solid : StartsSolid word) :
    ∀ c ∈ (taken ++ rest).head?, Text.isBlank c = false := by
  obtain ⟨first, letters, spelled, plain⟩ := solid
  obtain ⟨more, rfl⟩ := spaced.prefix_first
  rw [spelled]
  rintro c ⟨⟩
  exact plain

/-- Where two stretches begin with the same word and are followed by the same text, they are told
apart by what comes after that word. -/
theorem peel (spaced : Spaced (word :: next :: words) taken)
    (spaced' : Spaced (word :: next' :: words') taken') (solid : StartsSolid next)
    (solid' : StartsSolid next') (same : taken ++ rest = taken' ++ rest') :
    ∃ later later', Spaced (next :: words) later ∧ Spaced (next' :: words') later' ∧
      later ++ rest = later' ++ rest' := by
  obtain ⟨gap, later, blank, here, rfl⟩ := spaced
  obtain ⟨gap', later', blank', here', rfl⟩ := spaced'
  refine ⟨later, later', here, here', ?_⟩
  simp only [List.append_assoc] at same
  exact (span_unique blank blank' (here.head_solid solid) (here'.head_solid solid')
    (List.append_cancel_left same)).2

/-- Words of characters of one kind, each in front of something else, are the same where they begin
the same text. -/
theorem same_word {holds : Char → Bool} {other : String}
    (spaced : Spaced (word :: next :: words) taken)
    (spaced' : Spaced (other :: next' :: words') taken')
    (inside : ∀ c ∈ word.toList, holds c = true) (inside' : ∀ c ∈ other.toList, holds c = true)
    (blanks : ∀ c, Text.isBlank c = true → holds c = false)
    (ends : ∃ c letters, next.toList = c :: letters ∧ holds c = false)
    (ends' : ∃ c letters, next'.toList = c :: letters ∧ holds c = false)
    (same : taken ++ rest = taken' ++ rest') : word = other := by
  have behind {gap later : List Char} {next : String} {words : List String} (rest : List Char)
      (blank : ∀ c ∈ gap, Text.isBlank c = true) (here : Spaced (next :: words) later)
      (ends : ∃ c letters, next.toList = c :: letters ∧ holds c = false) :
      ∀ c ∈ (gap ++ (later ++ rest)).head?, holds c = false := by
    obtain ⟨first, letters, spelled, plain⟩ := ends
    cases gap with
    | nil =>
      obtain ⟨more, rfl⟩ := here.prefix_first
      rw [spelled]
      rintro c ⟨⟩
      exact plain
    | cons white gap =>
      rintro c ⟨⟩
      exact blanks white (blank white List.mem_cons_self)
  obtain ⟨gap, later, blank, here, rfl⟩ := spaced
  obtain ⟨gap', later', blank', here', rfl⟩ := spaced'
  simp only [List.append_assoc] at same
  exact String.toList_inj.mp
    (span_unique inside inside' (behind rest blank here ends) (behind rest' blank' here' ends')
      same).1

end Spaced

namespace Pattern

variable {p q : Pattern} {start stop place : Place} {taken : List Char} {kept : List Capture}
variable {texts : List (List Char)}

/-! ## Stretches and what is kept of them -/

/-- Whether a pattern keeps nothing. -/
def captureless : Pattern → Bool
  | nothing => true
  | one _ => true
  | many _ => true
  | both first second => first.captureless && second.captureless
  | either first second => first.captureless && second.captureless
  | captured _ => false
  | wordEdge => true

/-- Of a pattern that keeps nothing, nothing is kept. -/
theorem eq_nil_of_captureless (keepless : p.captureless = true)
    (spells : p.SpellsKeeping taken texts) : texts = [] := by
  induction p generalizing taken texts with
  | both first second ihFirst ihSecond =>
    obtain ⟨keeplessFirst, keeplessSecond⟩ := Bool.and_eq_true_iff.mp keepless
    obtain ⟨before, after, early, late, begins, ends, -, rfl⟩ := spells
    rw [ihFirst keeplessFirst begins, ihSecond keeplessSecond ends, List.append_nil]
  | either first second ihFirst ihSecond =>
    obtain ⟨keeplessFirst, keeplessSecond⟩ := Bool.and_eq_true_iff.mp keepless
    exact spells.elim (ihFirst keeplessFirst) (ihSecond keeplessSecond)
  | captured inner => cases keepless
  | _ => exact spells.2

/-- A pattern that keeps nothing is told by the stretches that it takes. -/
theorem spellsKeeping_of_captureless (keepless : p.captureless = true) :
    p.SpellsKeeping taken texts ↔ p.Spells taken ∧ texts = [] := by
  rw [spells_iff_keeping]
  constructor
  · intro spells
    exact ⟨⟨texts, spells⟩, eq_nil_of_captureless keepless spells⟩
  · rintro ⟨⟨others, spells⟩, rfl⟩
    exact eq_nil_of_captureless keepless spells ▸ spells

/-- A word keeps nothing. -/
@[simp]
theorem captureless_lit (word : String) : (lit word).captureless = true := by
  unfold lit
  induction word.toList with
  | nil => rfl
  | cons c letters ih => exact ih

/-- A word spells itself and keeps nothing. -/
theorem spellsKeeping_lit {word : String} :
    (lit word).SpellsKeeping taken texts ↔ taken = word.toList ∧ texts = [] := by
  rw [spellsKeeping_of_captureless (captureless_lit word), spells_lit]

/-- A stretch that is kept is the only one, where nothing is kept inside it. -/
theorem spellsKeeping_captured (keepless : p.captureless = true) :
    (captured p).SpellsKeeping taken texts ↔ p.Spells taken ∧ texts = [taken] := by
  rw [SpellsKeeping]
  simp only [spellsKeeping_of_captureless keepless]
  constructor
  · rintro ⟨_, ⟨spells, rfl⟩, rfl⟩
    exact ⟨spells, rfl⟩
  · rintro ⟨spells, rfl⟩
    exact ⟨[], ⟨spells, rfl⟩, rfl⟩

/-- Pieces with white space between them spell a stretch of the first piece, blanks, and a stretch
of the others, and keep what the pieces keep. -/
theorem spellsKeeping_spaced_cons {others : List Pattern} :
    (spaced (p :: q :: others)).SpellsKeeping taken texts ↔
      ∃ first gap rest early late, p.SpellsKeeping first early ∧
        (∀ c ∈ gap, Text.isBlank c = true) ∧ (spaced (q :: others)).SpellsKeeping rest late ∧
          taken = first ++ (gap ++ rest) ∧ texts = early ++ late := by
  change (p ++ blanks ++ spaced (q :: others)).SpellsKeeping taken texts ↔ _
  constructor
  · rintro ⟨_, rest, _, late, ⟨first, gap, early, _, here, ⟨blank, rfl⟩, rfl, rfl⟩, later, rfl, rfl⟩
    refine ⟨first, gap, rest, early, late, here, blank, later, List.append_assoc _ _ _, ?_⟩
    rw [List.append_nil]
  · rintro ⟨first, gap, rest, early, late, here, blank, later, rfl, rfl⟩
    refine ⟨first ++ gap, rest, early, late, ⟨first, gap, early, [], here, ⟨blank, rfl⟩, rfl, ?_⟩,
      later, (List.append_assoc _ _ _).symm, rfl⟩
    rw [List.append_nil]

/-- Pieces with white space between them spell words so spaced, and keep what they keep of them. -/
theorem spellsKeeping_spaced {pieces : List Pattern} :
    (spaced pieces).SpellsKeeping taken texts ↔ ∃ parts : List (String × List (List Char)),
      List.Forall₂ (fun piece part => piece.SpellsKeeping part.1.toList part.2) pieces parts ∧
        Spaced (parts.map (·.1)) taken ∧ texts = parts.flatMap (·.2) := by
  induction pieces generalizing taken texts with
  | nil =>
    constructor
    · rintro ⟨rfl, rfl⟩
      exact ⟨[], .nil, rfl, rfl⟩
    · rintro ⟨_, ⟨⟩, rfl, rfl⟩
      exact ⟨rfl, rfl⟩
  | cons piece pieces ih =>
    cases pieces with
    | nil =>
      constructor
      · intro spells
        refine ⟨[(String.ofList taken, texts)], .cons ?_ .nil, ?_, ?_⟩
        · rw [String.toList_ofList]
          exact spells
        · exact String.toList_ofList.symm
        · simp
      · rintro ⟨_, spells, spaced, rfl⟩
        obtain ⟨⟨word, kept⟩, _, here, none, rfl⟩ := List.forall₂_cons_left_iff.mp spells
        obtain rfl := List.forall₂_nil_left_iff.mp none
        obtain rfl : taken = word.toList := spaced
        rw [List.flatMap_cons, List.flatMap_nil, List.append_nil]
        exact here
    | cons next pieces =>
      rw [spellsKeeping_spaced_cons]
      constructor
      · rintro ⟨first, gap, rest, early, late, here, blank, later, rfl, rfl⟩
        obtain ⟨parts, spells, spaced, rfl⟩ := ih.mp later
        obtain ⟨part, parts, second, others, rfl⟩ := List.forall₂_cons_left_iff.mp spells
        refine ⟨(String.ofList first, early) :: part :: parts, .cons ?_ (.cons second others),
          ⟨gap, rest, blank, spaced, ?_⟩, ?_⟩
        · rw [String.toList_ofList]
          exact here
        · rw [String.toList_ofList]
        · simp
      · rintro ⟨_, spells, spaced, rfl⟩
        obtain ⟨⟨word, early⟩, _, here, later, rfl⟩ := List.forall₂_cons_left_iff.mp spells
        obtain ⟨part, parts, second, others, rfl⟩ := List.forall₂_cons_left_iff.mp later
        obtain ⟨gap, rest, blank, others, rfl⟩ := spaced
        exact ⟨word.toList, gap, rest, early, _, here, blank,
          ih.mpr ⟨part :: parts, later, others, rfl⟩, rfl, by simp⟩

/-! ## Searching -/

/-- A search passes over characters where nothing begins. -/
theorem find?_append {skipped rest : List Char} (before : Option Char)
    (silent : ∀ early late before, skipped = early ++ late → late ≠ [] →
      p.runs ⟨before, late ++ rest⟩ = []) :
    p.find? ⟨before, skipped ++ rest⟩ = p.find? ⟨skipped.getLast?.or before, rest⟩ := by
  induction skipped generalizing before with
  | nil => rfl
  | cons c skipped ih =>
    have here : p.at? ⟨before, c :: (skipped ++ rest)⟩ = none :=
      at?_eq_none_iff.mpr (silent [] (c :: skipped) before rfl (List.cons_ne_nil _ _))
    have later := ih (some c) fun early late before split filled =>
      silent (c :: early) late before (congrArg (c :: ·) split) filled
    rw [List.cons_append, find?, here, List.getLast?_cons]
    refine later.trans ?_
    cases skipped.getLast? <;> rfl

/-- Where all runs keep the same, a search keeps this. -/
theorem find?_of_runs (run : p.runs place ≠ [])
    (alike : ∀ run ∈ p.runs place, run.1.map Capture.chars = texts) :
    (p.find? place).map (·.captures.map Capture.chars) = some texts := by
  obtain ⟨found, here⟩ : ∃ found, p.at? place = some found :=
    Option.ne_none_iff_exists'.mp (mt at?_eq_none_iff.mp run)
  have first : p.find? place = some found :=
    find?_eq_some_iff.mpr (.of_prefers (at?_eq_some_iff.mp here))
  rw [first, Option.map_some, alike _ (at?_eq_some_iff.mp here).mem_runs]

end Pattern

end AbilityHooks
