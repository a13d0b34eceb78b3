import Lexis.Text.Categories
import Lexis.Text.Properties

/-!
# Characters that need an escape

A quoted text shows a character as it is, unless it has no picture of its own (controls, format
characters, unassigned and private code points, every separator but the space) or would be drawn
upon its neighbour (the marks that extend a grapheme).
-/

namespace Lexis.Text

/-- The code points that a quoted text escapes, and the space. -/
def hiddenRanges : List (Nat × Nat) :=
  categoryRanges ["Cc", "Cf", "Cs", "Co", "Cn", "Zl", "Zp", "Zs", "Mn", "Me"] ++ otherGraphemeExtend

/-- Whether a quoted text writes the character by its code point. -/
def isHidden (c : Char) : Bool :=
  c.toNat < 0x20 || (0x7F ≤ c.toNat && inRanges hiddenRanges c.toNat)

end Lexis.Text
