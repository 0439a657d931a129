import AbilityHooks.Script.Lexeme
import AbilityHooks.Script.Tree

/-!
# A place between two lexemes

A cursor stands in front of the next lexeme. The blanks and the comments before that lexeme
are behind the cursor already; the cursor keeps the comments, which belong to whatever part of
the program reads on, and whether a line ended.
-/

namespace AbilityHooks.Script

/-- A place in front of a lexeme. -/
structure Cursor where
  /-- The text from the next lexeme on. -/
  rest : List Char
  /-- The number of characters in `rest`. -/
  remaining : Nat
  /-- Where the next lexeme begins. -/
  offset : Nat
  /-- Where the last lexeme ended. -/
  ended : Nat
  /-- Whether a line ends between the two. -/
  lineBreak : Bool
  /-- The comments between the two. -/
  comments : List Node
  deriving Repr

namespace Cursor

/-- The cursor some characters further on. -/
def drop (cursor : Cursor) (count : Nat) : Cursor :=
  { cursor with
    rest := cursor.rest.drop count
    remaining := cursor.remaining - count
    offset := cursor.offset + count }

/-- Pass blanks and comments, at most a given number of stretches. -/
def skip : Nat → Cursor → Cursor
  | 0, cursor => cursor
  | stretches + 1, cursor =>
    match commentLength? cursor.rest with
    | some (length, breaks) =>
      let comment := Node.node .comment none ⟨cursor.offset, cursor.offset + length⟩ []
      skip stretches { cursor.drop length with
        lineBreak := cursor.lineBreak || breaks
        comments := cursor.comments ++ [comment] }
    | none =>
      let blanks := cursor.rest.takeWhile isFiller
      if blanks.isEmpty then cursor
      else skip stretches { cursor.drop blanks.length with
        lineBreak := cursor.lineBreak || blanks.any isLineEnd }

/-- Pass the blanks and comments in front. -/
def skipFiller (cursor : Cursor) : Cursor := cursor.skip cursor.remaining

/-- The cursor at the start of a text. -/
def ofChars (chars : List Char) : Cursor :=
  skipFiller ⟨chars, chars.length, 0, 0, false, []⟩

/-- The cursor after a lexeme of the given length, in front of whatever comes next. -/
def passTight (cursor : Cursor) (length : Nat) : Cursor :=
  let next := cursor.drop length
  { next with ended := next.offset, lineBreak := false, comments := [] }

/-- The cursor after a lexeme of the given length, in front of the next lexeme. -/
def pass (cursor : Cursor) (length : Nat) : Cursor := (cursor.passTight length).skipFiller

end Cursor

end AbilityHooks.Script
