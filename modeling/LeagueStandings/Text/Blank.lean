/-!
# White space

The white space of Unicode (the property `White_Space`) and the removal of it from both ends of a
text. The twenty-five characters are few enough to be listed by their ranges.
-/

namespace LeagueStandings

/-- The character has the Unicode property `White_Space`. -/
def isBlank (c : Char) : Bool :=
  c == ' ' || (0x09 ≤ c.val && c.val ≤ 0x0D) || c.val == 0x85 || c.val == 0xA0 ||
    c.val == 0x1680 || (0x2000 ≤ c.val && c.val ≤ 0x200A) || c.val == 0x2028 ||
    c.val == 0x2029 || c.val == 0x202F || c.val == 0x205F || c.val == 0x3000

namespace Text

/-- The characters after the leading blanks. -/
def trimStart (cs : List Char) : List Char := cs.dropWhile isBlank

/-- The characters before the trailing blanks. -/
def trimEnd (cs : List Char) : List Char := (cs.reverse.dropWhile isBlank).reverse

/-- The text without the white space at its two ends. -/
def trim (text : String) : String := String.ofList (trimEnd (trimStart text.toList))

/-- The text holds nothing but white space. -/
def isBlankText (text : String) : Bool := text.toList.all isBlank

end Text

end LeagueStandings
