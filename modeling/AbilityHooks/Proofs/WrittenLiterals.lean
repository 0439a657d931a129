import AbilityHooks.Script.Literal

/-!
# String literals and what they stand for

A string can be written between quotes in many ways: the backslash and the quote stand behind a
backslash, a newline and a tabulator may be written by a letter behind one, and most other characters
may stand behind one for no reason. Whatever way is chosen, the literal is read as the string.
-/

namespace AbilityHooks.Script

/-- The characters that open and close string literals. -/
def quotes : List Char := ['\x27', '\x22', '\x60']

/-- Characters are written between two quotes as other characters. -/
inductive Written (quote : Char) : List Char → List Char → Prop where
  /-- No character is written as none. -/
  | nil : Written quote [] []
  /-- A character that is neither a backslash nor the quote stands for itself. -/
  | plain {c : Char} {value body : List Char} (unmarked : c ≠ '\\') (inner : c ≠ quote)
    (rest : Written quote value body) : Written quote (c :: value) (c :: body)
  /-- Behind a backslash a character stands for itself, the letters for newlines and tabulators
  apart. -/
  | escaped {c : Char} {value body : List Char} (notN : c ≠ 'n') (notT : c ≠ 't')
    (rest : Written quote value body) : Written quote (c :: value) ('\\' :: c :: body)
  /-- A newline may be written by its letter. -/
  | newline {value body : List Char} (rest : Written quote value body) :
    Written quote ('\n' :: value) ('\\' :: 'n' :: body)
  /-- A tabulator may be written by its letter. -/
  | tab {value body : List Char} (rest : Written quote value body) :
    Written quote ('\t' :: value) ('\\' :: 't' :: body)

variable {quote c : Char} {value body rest : List Char}

/-- A character that is no backslash is read as it is. -/
theorem resolveEscapes_plain (unmarked : c ≠ '\\') :
    resolveEscapes (c :: rest) = c :: resolveEscapes rest := by
  rw [resolveEscapes] <;> simp [unmarked]

/-- A backslash is dropped in front of a character other than the two letters. -/
theorem resolveEscapes_escaped (notN : c ≠ 'n') (notT : c ≠ 't') :
    resolveEscapes ('\\' :: c :: rest) = c :: resolveEscapes rest := by
  rw [resolveEscapes] <;> simp [notN, notT]

namespace Written

/-- What is written is read back. -/
theorem resolveEscapes (written : Written quote value body) : resolveEscapes body = value := by
  induction written with
  | nil => rfl
  | plain unmarked inner rest ih => rw [resolveEscapes_plain unmarked, ih]
  | escaped notN notT rest ih => rw [resolveEscapes_escaped notN notT, ih]
  | newline rest ih => rw [Script.resolveEscapes, ih]
  | tab rest ih => rw [Script.resolveEscapes, ih]

/-- Every string can be written between two quotes. -/
theorem exists_body (listed : quote ∈ quotes) (value : List Char) :
    ∃ body, Written quote value body := by
  have letters : 'n' ∉ quotes ∧ 't' ∉ quotes := by decide
  induction value with
  | nil => exact ⟨[], .nil⟩
  | cons c value ih =>
    obtain ⟨body, rest⟩ := ih
    by_cases mark : c = '\\'
    · subst mark
      exact ⟨_, .escaped (by decide) (by decide) rest⟩
    by_cases closing : c = quote
    · subst closing
      have notN : c ≠ 'n' := ne_of_mem_of_not_mem listed letters.1
      have notT : c ≠ 't' := ne_of_mem_of_not_mem listed letters.2
      exact ⟨_, .escaped notN notT rest⟩
    · exact ⟨_, .plain mark closing rest⟩

end Written

/-- A quote has one byte. -/
theorem utf8Size_of_mem_quotes (listed : quote ∈ quotes) : quote.utf8Size = 1 := by
  simp only [quotes, List.mem_cons, List.not_mem_nil, or_false] at listed
  rcases listed with rfl | rfl | rfl <;> rfl

/-- The quotes around a literal are no part of its value. -/
theorem literalValue_quoted (listed : quote ∈ quotes) (body : List Char) :
    literalValue (String.ofList (quote :: (body ++ [quote]))) =
      String.ofList (resolveEscapes body) := by
  have last : (quote :: (body ++ [quote])).getLast? = some quote := by
    rw [← List.cons_append, List.getLast?_concat]
  have inner : betweenEnds (quote :: (body ++ [quote])) = body := by
    simp [betweenEnds, last, utf8Size_of_mem_quotes listed]
  rw [literalValue, String.toList_ofList, inner]

/-- The value of a string literal is that of its text. -/
theorem Node.literal?_of_string {part : Node} {source : List Char} (literal : part.kind = .string) :
    part.literal? source = some (literalValue (part.textIn source)) := by
  rw [Node.literal?, literal]
  exact if_pos (beq_self_eq_true _)

/-- Every string can be written between two quotes of a kind, and a string literal that is a way to
write it is read as that string, whatever way it is. -/
theorem Node.literal?_written {quote : Char} (listed : quote ∈ quotes) (value : String) :
    (∃ body, Written quote value.toList body) ∧
      ∀ body, Written quote value.toList body → ∀ (part : Node) (source : List Char),
        part.kind = .string → part.textIn source = String.ofList (quote :: (body ++ [quote])) →
          part.literal? source = some value := by
  refine ⟨Written.exists_body listed value.toList, fun body written part source literal text => ?_⟩
  rw [Node.literal?_of_string literal, text, literalValue_quoted listed, written.resolveEscapes,
    String.ofList_toList]

/-- A quote, a backslash in front of a t, a newline and a tabulator, of which all but the tabulator
and the t are written with a backslash, and so is a letter that needs none. -/
theorem Node.literal?_written_mixed :
    let value := "a'\\t\n\t"
    let body := "\\a\\'\\\\t\\n\t"
    let part : Node := .node .string none ⟨2, 14⟩ []
    '\x27' ∈ quotes ∧ Written '\x27' value.toList body.toList ∧ part.kind = .string ∧
      part.textIn ("f('" ++ body ++ "')").toList =
        String.ofList ('\x27' :: (body.toList ++ ['\x27'])) ∧
      part.literal? ("f('" ++ body ++ "')").toList = some value := by
  intro value body part
  have listed : '\x27' ∈ quotes := by decide
  have written : Written '\x27' value.toList body.toList := by
    have letters : value.toList = ['a', '\x27', '\\', 't', '\n', '\t'] := by decide
    have marks : body.toList =
        ['\\', 'a', '\\', '\x27', '\\', '\\', 't', '\\', 'n', '\t'] := by decide
    rw [letters, marks]
    refine .escaped (by decide) (by decide) (.escaped (by decide) (by decide) ?_)
    refine .escaped (by decide) (by decide) (.plain (by decide) (by decide) ?_)
    exact .newline (.plain (by decide) (by decide) .nil)
  have text : part.textIn ("f('" ++ body ++ "')").toList =
      String.ofList ('\x27' :: (body.toList ++ ['\x27'])) := by decide
  exact ⟨listed, written, rfl, text,
    (Node.literal?_written listed value).2 _ written part _ rfl text⟩

end AbilityHooks.Script
