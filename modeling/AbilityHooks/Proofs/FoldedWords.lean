import AbilityHooks.Proofs.Spelling
import AbilityHooks.Signal.Check

/-!
# Words that are kept without regard to case

A search keeps a stretch that the pattern spells inside one of its kept parts, and the stretch stands
in the text. If that part is a choice of words without regard to case, the lower case of the stretch
is almost the word: case folding lets the long s stand for an s, and lower-casing leaves the long s as
it is, while the kelvin sign becomes a k by both.
-/

namespace AbilityHooks

namespace Text

/-- The long s, which counts as an s when case is ignored and is its own lower case. -/
def longS : Char := '\u017f'

/-- The kelvin sign, which counts as a k when case is ignored and has it as its lower case. -/
def kelvin : Char := '\u212a'

/-- A letter of a word in lower case, or what is left of it where it was matched without regard to
case. -/
def Softened (letter c : Char) : Prop := c = letter ∨ letter = 's' ∧ c = longS

variable {c letter : Char} {text : String}

/-! ## Lower case, one character at a time -/

/-- A character of ASCII whose lower case is a letter becomes that letter. -/
theorem lowerChar_of_toLower (small : letter.isLower = true) (lower : c.toLower = letter) :
    lowerChar c = [letter] ∧ c.toNat ≠ 0x3a3 := by
  have ascii : c.toNat < 0x80 := by
    by_cases upper : c.val ≥ 'A'.val ∧ c.val ≤ 'Z'.val
    · exact Nat.lt_of_le_of_lt (UInt32.le_iff_toNat_le.mp upper.2) (by decide)
    · have unchanged : c.toLower = c := dif_neg upper
      have bounds : (decide (letter.val ≥ 'a'.val) && decide (letter.val ≤ 'z'.val)) = true := small
      rw [← lower, unchanged, Bool.and_eq_true, decide_eq_true_eq, decide_eq_true_eq] at bounds
      exact Nat.lt_of_le_of_lt (UInt32.le_iff_toNat_le.mp bounds.2) (by decide)
  constructor
  · rw [lowerChar, if_pos ascii, lower]
  · omega

/-- A character that counts as a letter becomes the letter, or it is the long s. -/
theorem lowerChar_of_foldsTo (small : letter.isLower = true)
    (folds : Pattern.foldsTo letter c = true) :
    c.toNat ≠ 0x3a3 ∧ ∃ lowered, lowerChar c = [lowered] ∧ Softened letter lowered := by
  rw [Pattern.foldsTo, Bool.or_eq_true, Bool.or_eq_true] at folds
  rcases folds with (ascii | long) | sign
  · obtain ⟨lowered, plain⟩ := lowerChar_of_toLower small (beq_iff_eq.mp ascii)
    exact ⟨plain, letter, lowered, .inl rfl⟩
  · obtain ⟨isS, code⟩ := Bool.and_eq_true_iff.mp long
    obtain rfl : c = longS := Char.toNat_inj.mp (beq_iff_eq.mp code)
    exact ⟨by decide, longS, by decide, .inr ⟨beq_iff_eq.mp isS, rfl⟩⟩
  · obtain ⟨isK, code⟩ := Bool.and_eq_true_iff.mp sign
    obtain rfl : c = kelvin := Char.toNat_inj.mp (beq_iff_eq.mp code)
    exact ⟨by decide, 'k', by decide, .inl (beq_iff_eq.mp isK).symm⟩

/-- Characters that count as letters become the letters, the long s apart. -/
theorem lowerAfter_of_folds {letters chars : List Char} (before : List Char)
    (small : ∀ letter ∈ letters, letter.isLower = true)
    (folds : List.Forall₂ (fun letter c => Pattern.foldsTo letter c = true) letters chars) :
    List.Forall₂ Softened letters (lowerAfter before chars) := by
  induction folds generalizing before with
  | nil => exact .nil
  | @cons letter c letters chars first rest ih =>
    obtain ⟨smallFirst, smallRest⟩ := List.forall_mem_cons.mp small
    obtain ⟨plain, lowered, becomes, softened⟩ := lowerChar_of_foldsTo smallFirst first
    rw [lowerAfter, if_neg plain, becomes]
    exact .cons softened (ih (c :: before) smallRest)

/-- The long s has its code alone. -/
theorem toNat_of_ofNat_longS {code : Nat} (same : Char.ofNat code = longS) : code = 0x17f := by
  by_cases valid : code.isValidChar
  · have made : Char.ofNat code = Char.ofNatAux code valid := dif_pos valid
    exact congrArg Char.toNat (made.symm.trans same)
  · have made : Char.ofNat code = '\x00' := dif_neg valid
    exact absurd (made.symm.trans same) (by decide)

/-- Letters without an s stay as they are. -/
theorem eq_of_softened {letters chars : List Char} (free : 's' ∉ letters)
    (softened : List.Forall₂ Softened letters chars) : chars = letters := by
  induction softened with
  | nil => rfl
  | cons first rest ih =>
    obtain ⟨other, freeRest⟩ := not_or.mp (mt List.mem_cons.mpr free)
    rcases first with rfl | ⟨isS, -⟩
    · rw [ih freeRest]
    · exact absurd isS.symm other

/-- Only the long s becomes the long s. -/
theorem eq_longS_of_lowerChar (inside : longS ∈ lowerChar c) : c = longS := by
  have plain : ∀ code < 0x80, (Char.ofNat code).toLower ≠ longS := by decide
  have missed : ∀ run ∈ lowerRuns, run.holds (0x17f - run.shift).toNat = false := by decide +kernel
  rw [lowerChar] at inside
  split at inside
  case isTrue ascii =>
    have same := List.mem_singleton.mp inside
    rw [← Char.ofNat_toNat c] at same
    exact absurd same.symm (plain _ ascii)
  case isFalse =>
    split at inside
    · exact absurd inside (by decide)
    · split at inside
      case h_1 run found =>
        have code : (c.toNat + run.shift).toNat = 0x17f := toNat_of_ofNat_longS
          (List.mem_singleton.mp inside).symm
        have origin : c.toNat = (0x17f - run.shift).toNat := by omega
        have held := List.find?_some found
        rw [origin, missed run (List.mem_of_find?_eq_some found)] at held
        cases held
      case h_2 => exact (List.mem_singleton.mp inside).symm

/-- A long s in lower case was there before. -/
theorem longS_of_lowerCase (inside : longS ∈ (lowerCase text).toList) : longS ∈ text.toList := by
  have along : ∀ (chars before : List Char), longS ∈ lowerAfter before chars → longS ∈ chars := by
    intro chars
    induction chars with
    | nil => exact fun _ inside => inside
    | cons c rest ih =>
      intro before inside
      rw [lowerAfter] at inside
      rcases List.mem_append.mp inside with here | later
      · split at here
        · split at here <;> exact absurd here (by decide)
        · exact eq_longS_of_lowerChar here ▸ List.mem_cons_self
      · exact List.mem_cons_of_mem _ (ih _ later)
  rw [lowerCase, String.toList_ofList] at inside
  exact along _ _ inside

end Text

namespace Pattern

variable {p inner : Pattern} {start stop : Place} {kept : List Capture} {chars : List Char}
variable {text found : String}

/-! ## What is kept -/

/-- The stretches that a pattern may keep. -/
def Keeps : Pattern → List Char → Prop
  | both first second, chars => first.Keeps chars ∨ second.Keeps chars
  | either first second, chars => first.Keeps chars ∨ second.Keeps chars
  | captured inner, chars => inner.Spells chars ∨ inner.Keeps chars
  | _, _ => False

/-- What is kept of a stretch is kept by the pattern and stands in the stretch. -/
theorem keeps_of_spellsKeeping {taken : List Char} {texts : List (List Char)}
    (spells : p.SpellsKeeping taken texts) : ∀ text ∈ texts, p.Keeps text ∧ text <:+: taken := by
  induction p generalizing taken texts with
  | both first second ihFirst ihSecond =>
    obtain ⟨before, after, early, late, begins, ends, rfl, rfl⟩ := spells
    intro text among
    rcases List.mem_append.mp among with here | later
    · obtain ⟨keeps, stands⟩ := ihFirst begins text here
      exact ⟨.inl keeps, stands.trans (List.prefix_append _ _).isInfix⟩
    · obtain ⟨keeps, stands⟩ := ihSecond ends text later
      exact ⟨.inr keeps, stands.trans (List.suffix_append _ _).isInfix⟩
  | either first second ihFirst ihSecond =>
    intro text among
    rcases spells with spells | spells
    · exact (ihFirst spells text among).imp_left .inl
    · exact (ihSecond spells text among).imp_left .inr
  | captured inner ih =>
    obtain ⟨deeper, inside, rfl⟩ := spells
    intro text among
    rcases List.mem_cons.mp among with rfl | later
    · exact ⟨.inl (spells_iff_keeping.mpr ⟨deeper, inside⟩), List.infix_refl _⟩
    · exact (ih inside text later).imp_left .inr
  | _ =>
    obtain rfl : texts = [] := spells.2
    simp

/-- What a run keeps is kept by the pattern and stands in the text. -/
theorem keeps_of_run (run : (kept, stop) ∈ p.runs start) :
    ∀ capture ∈ kept, p.Keeps capture.chars ∧ capture.chars <:+: start.rest := by
  obtain ⟨taken, spells, leads⟩ := spellsKeeping_of_run run
  intro capture among
  obtain ⟨keeps, stands⟩ := keeps_of_spellsKeeping spells _ (List.mem_map_of_mem among)
  exact ⟨keeps, leads.rest ▸ stands.trans (List.prefix_append _ _).isInfix⟩

/-- What a search keeps first is kept by the pattern and stands in the text. -/
theorem keeps_of_captureIn (search : p.captureIn text = some found) :
    p.Keeps found.toList ∧ found.toList <:+: text.toList := by
  obtain ⟨texts, captures, first⟩ := Option.bind_eq_some_iff.mp search
  obtain ⟨result, finds, rfl⟩ := Option.map_eq_some_iff.mp captures
  obtain ⟨skipped, start, leads, prefers, -⟩ := find?_eq_some_iff.mp finds
  obtain ⟨capture, among, rfl⟩ := List.mem_map.mp (List.mem_of_head? first)
  obtain ⟨keeps, stands⟩ := keeps_of_run prefers.mem_runs capture among
  rw [Capture.text, String.toList_ofList]
  have rest : text.toList = skipped ++ start.rest := leads.rest
  exact ⟨keeps, stands.trans ⟨skipped, [], by simp [rest]⟩⟩

/-- A stretch of single characters keeps nothing. -/
theorem not_keeps_letters (holds : Char → Char → Bool) (letters : List Char) :
    ¬ (letters.foldr (fun c rest => both (one (holds c)) rest) nothing).Keeps chars := by
  induction letters with
  | nil => exact id
  | cons c letters ih => exact fun keeps => keeps.elim id ih

/-- A word keeps nothing. -/
theorem not_keeps_lit (word : String) : ¬ (lit word).Keeps chars :=
  not_keeps_letters (fun c d => d == c) word.toList

/-- A word without regard to case keeps nothing. -/
theorem not_keeps_litFolded (word : String) : ¬ (litFolded word).Keeps chars :=
  not_keeps_letters foldsTo word.toList

/-- What is so of one of several patterns is so of one that is among them. -/
theorem exists_of_anyOf (such : Pattern → Prop) {choices : List Pattern}
    (never : ¬ such (one fun _ => false))
    (splits : ∀ p q, such (either p q) → such p ∨ such q) (holds : such (anyOf choices)) :
    ∃ p ∈ choices, such p := by
  induction choices with
  | nil => exact absurd holds never
  | cons first rest ih =>
    cases rest with
    | nil => exact ⟨first, List.mem_cons_self, holds⟩
    | cons second rest =>
      rcases splits _ _ holds with here | later
      · exact ⟨first, List.mem_cons_self, here⟩
      · obtain ⟨p, listed, holds⟩ := ih later
        exact ⟨p, List.mem_cons_of_mem _ listed, holds⟩

/-- A word without regard to case spells as many characters that count as its letters. -/
theorem spells_litFolded {word : String} (spells : (litFolded word).Spells chars) :
    List.Forall₂ (fun letter c => foldsTo letter c = true) word.toList chars := by
  unfold litFolded at spells
  generalize word.toList = letters at spells ⊢
  induction letters generalizing chars with
  | nil =>
    obtain rfl : chars = [] := spells
    exact .nil
  | cons letter letters ih =>
    obtain ⟨_, after, ⟨c, folds, rfl⟩, rest, rfl⟩ := spells
    exact .cons folds (ih rest)

/-- A comparison that begins with two plain pieces keeps what stands between its quotes. -/
theorem keeps_comparison {left sign : Pattern} (keepsLeft : ¬ left.Keeps chars)
    (keepsSign : ¬ sign.Keeps chars) (keepsInner : ¬ inner.Keeps chars)
    (keeps : (spaced [left, sign, quote ++ captured inner ++ quote]).Keeps chars) :
    inner.Spells chars := by
  rcases keeps with (here | blank) | (here | blank) | (quoted | here | deeper) | quoted
  · exact absurd here keepsLeft
  · exact blank.elim
  · exact absurd here keepsSign
  · exact blank.elim
  · exact quoted.elim
  · exact here
  · exact absurd deeper keepsInner
  · exact quoted.elim

end Pattern

namespace Signal

open Pattern Text

variable {left sign : Pattern} {choices : List String} {text found : String}

/-- A choice of words keeps what one of them spells, and it stands in the text. -/
theorem captureIn_choice {spelled : String → Pattern}
    (keepsLeft : ∀ chars, ¬ left.Keeps chars) (keepsSign : ∀ chars, ¬ sign.Keeps chars)
    (plain : ∀ word chars, ¬ (spelled word).Keeps chars)
    (search : (spaced [left, sign, quote ++ captured (anyOf (choices.map spelled)) ++ quote]).captureIn
      text = some found) :
    ∃ word ∈ choices, (spelled word).Spells found.toList ∧ found.toList <:+: text.toList := by
  obtain ⟨keeps, stands⟩ := keeps_of_captureIn search
  have nothingInside : ¬ (anyOf (choices.map spelled)).Keeps found.toList := by
    intro keeps
    obtain ⟨_, listed, keeps⟩ := exists_of_anyOf (Keeps · found.toList) id (fun _ _ => id) keeps
    obtain ⟨word, -, rfl⟩ := List.mem_map.mp listed
    exact plain word _ keeps
  have none : ¬ (one fun _ => false).Spells found.toList := fun ⟨_, never, _⟩ => nomatch never
  obtain ⟨_, listed, spells⟩ := exists_of_anyOf (Spells · found.toList) none
    (fun _ _ => id) (keeps_comparison (keepsLeft _) (keepsSign _) nothingInside keeps)
  obtain ⟨word, among, rfl⟩ := List.mem_map.mp listed
  exact ⟨word, among, spells, stands⟩

/-- A choice of words keeps one of them, and it is told in lower case. -/
theorem capturedLower_words (keepsLeft : ∀ chars, ¬ left.Keeps chars)
    (keepsSign : ∀ chars, ¬ sign.Keeps chars)
    (search : capturedLower (spaced [left, sign, quote ++ captured (words choices) ++ quote]) text =
      some found) : ∃ word ∈ choices, found = lowerCase word := by
  obtain ⟨kept, captures, rfl⟩ := Option.map_eq_some_iff.mp search
  obtain ⟨word, among, spells, -⟩ :=
    captureIn_choice keepsLeft keepsSign (fun word _ => not_keeps_lit word) captures
  exact ⟨word, among, congrArg lowerCase (String.toList_inj.mp (spells_lit.mp spells))⟩

/-- A choice of words without regard to case keeps one of them, and in lower case it is the word but
for each long s, which stands in the text. -/
theorem capturedLower_wordsFolded (keepsLeft : ∀ chars, ¬ left.Keeps chars)
    (keepsSign : ∀ chars, ¬ sign.Keeps chars)
    (small : ∀ word ∈ choices, word.toList.all Char.isLower = true)
    (search : capturedLower
      (spaced [left, sign, quote ++ captured (wordsFolded choices) ++ quote]) text = some found) :
    ∃ word ∈ choices, List.Forall₂ Softened word.toList found.toList ∧
      (longS ∈ found.toList → longS ∈ text.toList) := by
  obtain ⟨kept, captures, rfl⟩ := Option.map_eq_some_iff.mp search
  obtain ⟨word, among, spells, stands⟩ :=
    captureIn_choice keepsLeft keepsSign (fun word _ => not_keeps_litFolded word) captures
  refine ⟨word, among, ?_, fun long => stands.subset (longS_of_lowerCase long)⟩
  rw [lowerCase, String.toList_ofList]
  exact lowerAfter_of_folds [] (List.all_eq_true.mp (small word among)) (spells_litFolded spells)

end Signal

end AbilityHooks
