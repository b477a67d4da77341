/-!
# Blank text

A text is blank when nothing but white space is in it, in the sense of the Unicode property
White_Space.
-/

namespace Rekindle.Text

/-- Whether a character has the property White_Space. -/
def isWhiteSpace (c : Char) : Bool :=
  let point := c.toNat
  (0x9 ≤ point && point ≤ 0xd) || point == 0x20 || point == 0x85 || point == 0xa0 ||
    point == 0x1680 || (0x2000 ≤ point && point ≤ 0x200a) || point == 0x2028 ||
    point == 0x2029 || point == 0x202f || point == 0x205f || point == 0x3000

def isBlank (text : String) : Bool :=
  text.toList.all isWhiteSpace

@[simp]
theorem isBlank_empty : isBlank "" = true := by
  simp [isBlank]

theorem isWhiteSpace_of_isWhitespace {c : Char} (ascii : c.isWhitespace = true) :
    isWhiteSpace c = true := by
  simp only [Char.isWhitespace, Bool.or_eq_true, decide_eq_true_eq] at ascii
  rcases ascii with ((rfl | rfl) | rfl) | rfl <;> decide

end Rekindle.Text
