import AbilityHooks.Text.CharRange

/-!
# Blanks

The Unicode property White_Space. It holds the no-break spaces and the line separators; the
byte order mark and the zero width space are outside.
-/

namespace AbilityHooks.Text

/-- The code points with the property White_Space. -/
def blankRanges : List CharRange :=
  [(0x9, 0xd), (0x20, 0x20), (0x85, 0x85), (0xa0, 0xa0), (0x1680, 0x1680), (0x2000, 0x200a),
    (0x2028, 0x2029), (0x202f, 0x202f), (0x205f, 0x205f), (0x3000, 0x3000)]

/-- White space in the sense of Unicode. -/
def isBlank (c : Char) : Bool := inRanges blankRanges c

end AbilityHooks.Text
