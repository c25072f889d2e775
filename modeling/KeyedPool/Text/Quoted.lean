import KeyedPool.Text.Digits
import KeyedPool.Text.GraphemeExtend
import KeyedPool.Text.Unprintable

/-!
# Quoted text

Text between double quotes, with an escape for every character that a reader could not tell apart.

* `KeyedPool.Text.escaped`: how one character is written.
* `KeyedPool.Text.quoted`: a whole text between quotes.
-/

namespace KeyedPool.Text

/-- The escape that names a character by its code point. -/
def codePointEscape (c : Char) : String := "\\u\x7b" ++ hexDigits c.toNat ++ "\x7d"

/-- The sound marks of half width. They have the property Grapheme_Extend, but stand in a place of
their own. -/
def soundMarks : CodeRanges := [(0xff9e, 0xff9f)]

/-- Whether a character is drawn over or under the one before it. -/
def joinsPrevious (c : Char) : Bool := isGraphemeExtend c && !soundMarks.contains c

/-- **How one character is written between quotes**: six characters have a short escape, what joins
the character before it or has no glyph is named by its code point, and all else stands for
itself. -/
def escaped (c : Char) : String :=
  if c = '\x00' then "\\0"
  else if c = '\t' then "\\t"
  else if c = '\r' then "\\r"
  else if c = '\n' then "\\n"
  else if c = '\\' then "\\\\"
  else if c = '"' then "\\\""
  else if joinsPrevious c || isUnprintable c then codePointEscape c
  else c.toString

/-- A text between double quotes. -/
def quoted (s : String) : String := "\"" ++ String.join (s.toList.map escaped) ++ "\""

end KeyedPool.Text
