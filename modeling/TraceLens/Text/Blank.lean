/-!
# Blank characters

The characters of Unicode that count as white space when the ends of a text are trimmed: the
`White_Space` property together with the four information separators U+001C to U+001F.

Main statement: `toList_trimEnd` gives the characters that trimming keeps.
-/

namespace TraceLens.Blank

def isBlank (c : Char) : Bool :=
  let n := c.toNat
  (0x09 ≤ n && n ≤ 0x0D) || (0x1C ≤ n && n ≤ 0x20) || n == 0x85 || n == 0xA0 || n == 0x1680 ||
    (0x2000 ≤ n && n ≤ 0x200A) || n == 0x2028 || n == 0x2029 || n == 0x202F || n == 0x205F ||
    n == 0x3000

/-- Drop the last items of a list as long as they satisfy a test. -/
def dropEndWhile (p : Char → Bool) (cs : List Char) : List Char :=
  (cs.reverse.dropWhile p).reverse

/-- A text without the blanks at its end. -/
def trimEnd (text : String) : String := String.ofList (dropEndWhile isBlank text.toList)

/-- A text without the blanks at both ends. -/
def trim (text : String) : String :=
  String.ofList (dropEndWhile isBlank (text.toList.dropWhile isBlank))

@[simp] theorem toList_trimEnd (text : String) :
    (trimEnd text).toList = dropEndWhile isBlank text.toList := by
  simp [trimEnd]

end TraceLens.Blank
