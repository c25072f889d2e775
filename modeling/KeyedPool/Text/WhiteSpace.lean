import KeyedPool.Text.CodeRanges

/-!
# White space

The Unicode property White_Space, which decides what a blank name is and what may stand between the
parts of a timestamp.

* `KeyedPool.Text.isWhiteSpace`: whether a character has the property.
-/

namespace KeyedPool.Text

/-- The characters with the property White_Space. -/
def whiteSpace : CodeRanges :=
  [(0x0009, 0x000d), (0x0020, 0x0020), (0x0085, 0x0085), (0x00a0, 0x00a0), (0x1680, 0x1680),
   (0x2000, 0x200a), (0x2028, 0x2029), (0x202f, 0x202f), (0x205f, 0x205f), (0x3000, 0x3000)]

/-- Whether a character is white space. -/
def isWhiteSpace (c : Char) : Bool := whiteSpace.contains c

end KeyedPool.Text
