import TraceLens.Text.CharacterName.Aliases
import TraceLens.Text.CharacterName.Row000
import TraceLens.Text.CharacterName.Row007
import TraceLens.Text.CharacterName.Row011
import TraceLens.Text.CharacterName.Row020
import TraceLens.Text.CharacterName.Row02C
import TraceLens.Text.CharacterName.Row034
import TraceLens.Text.CharacterName.Row0AC
import TraceLens.Text.CharacterName.Row100
import TraceLens.Text.CharacterName.Row110
import TraceLens.Text.CharacterName.Row120
import TraceLens.Text.CharacterName.Row160
import TraceLens.Text.CharacterName.Row1D0
import TraceLens.Text.CharacterName.Row1E0

/-!
# Names of characters

The character that a name stands for, as of Unicode 14. The names of ideographs and of Hangul
syllables follow a rule. All others are listed in runs of successive code points, with low lines
for their blanks: each entry says how many characters its name shares with the one before, as a
number in base 26 whose digits are the small letters, and then spells the rest.
-/

namespace TraceLens.CharacterName

def number (letters : List Char) : Nat :=
  letters.foldl (fun n c => n * 26 + (c.toNat - 'a'.toNat)) 0

/-- The name that an entry spells after another name. -/
def spell (previous entry : List Char) : List Char :=
  previous.take (number (entry.takeWhile Char.isLower)) ++ entry.dropWhile Char.isLower

/-- The names that some entries spell, one after the other. -/
def expand (previous : List Char) : List (List Char) → List (List Char)
  | [] => []
  | entry :: entries => spell previous entry :: expand (spell previous entry) entries

/-- The code point of a name in a run. -/
def findIn (name : List Char) (run : Nat × List String) : Option Nat :=
  let entries := run.2.flatMap fun line => line.toList.splitOn ' '
  ((expand [] entries).findIdx? (· == name)).map (run.1 + ·)

def rows : List (List (Nat × List String)) :=
  [row000, row007, row011, row020, row02C, row034, row0AC, row100, row110, row120, row160, row1D0,
    row1E0]

/-- The code point of a listed name. Upper and lower case are not told apart. -/
def listed? (name : List Char) : Option Nat :=
  let name := name.map Char.toUpper
  if name.contains '_' then none
  else (aliases.lookup (String.ofList name)).or
    (rows.findSome? fun row =>
      row.findSome? (findIn (name.map fun c => if c = ' ' then '_' else c)))

/-! ## Names that follow a rule -/

/-- What comes after the given start of a text. -/
def after? (start : String) (text : List Char) : Option (List Char) :=
  if start.toList.isPrefixOf text then some (text.drop start.length) else none

def hexDigit? (c : Char) : Option Nat :=
  if '0' ≤ c ∧ c ≤ '9' then some (c.toNat - '0'.toNat)
  else if 'A' ≤ c ∧ c ≤ 'F' then some (c.toNat - 'A'.toNat + 10)
  else none

/-- The first and the last code point of each block of unified ideographs. -/
def ideographs : List (Nat × Nat) :=
  [(0x3400, 0x4DBF), (0x4E00, 0x9FFF), (0x20000, 0x2A6DF), (0x2A700, 0x2B738), (0x2B740, 0x2B81D),
    (0x2B820, 0x2CEA1), (0x2CEB0, 0x2EBE0), (0x30000, 0x3134A)]

/-- The ideograph of a code point in four or five digits. -/
def ideograph? (digits : List Char) : Option Nat := do
  let values ← digits.mapM hexDigit?
  let n := values.foldl (fun n d => n * 16 + d) 0
  if (values.length = 4 ∨ values.length = 5) ∧ ideographs.any fun (first, last) =>
      first ≤ n && n ≤ last then
    some n
  else none

/-- The consonants that a syllable may start with; a syllable may have none. -/
def leads : List String :=
  ["G", "GG", "N", "D", "DD", "R", "M", "B", "BB", "S", "SS", "", "J", "JJ", "C", "K", "T", "P",
    "H"]

def vowels : List String :=
  ["A", "AE", "YA", "YAE", "EO", "E", "YEO", "YE", "O", "WA", "WAE", "OE", "YO", "U", "WEO", "WE",
    "WI", "YU", "EU", "YI", "I"]

/-- The consonants that a syllable may end with. -/
def tails : List String :=
  ["", "G", "GG", "GS", "N", "NJ", "NH", "D", "L", "LG", "LM", "LB", "LS", "LT", "LP", "LH", "M",
    "B", "BS", "S", "SS", "NG", "J", "C", "K", "T", "P", "H"]

/-- The longest of some spellings that a text starts with: its place among them, and the rest. -/
def longest? (spellings : List String) (text : List Char) : Option (Nat × List Char) :=
  let fitting := spellings.filter fun s => s.toList.isPrefixOf text
  let length := (fitting.map String.length).foldl max 0
  (spellings.findIdx? fun s => s.toList == text.take length).map fun n => (n, text.drop length)

/-- The syllable of a spelling. -/
def syllable? (text : List Char) : Option Nat := do
  let (lead, text) ← longest? leads text
  let (vowel, text) ← longest? vowels text
  let (tail, text) ← longest? tails text
  if text.isEmpty then some (0xAC00 + (lead * vowels.length + vowel) * tails.length + tail)
  else none

/-- The character that a name stands for. -/
def find? (name : List Char) : Option Char :=
  let code := match after? "HANGUL SYLLABLE " name, after? "CJK UNIFIED IDEOGRAPH-" name with
    | some spelling, _ => syllable? spelling
    | none, some digits => ideograph? digits
    | none, none => listed? name
  code.map Char.ofNat

end TraceLens.CharacterName
