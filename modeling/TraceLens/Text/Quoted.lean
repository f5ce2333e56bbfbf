import TraceLens.Text.Printable

/-!
# Quoted text

The literal that denotes a text or a string of bytes: single quotes, or double quotes when the
content has a single quote and no double one. The quote in use and the backslash are escaped,
line feed, carriage return and tab have short escapes, and what is not printable is written by
its number in hexadecimal.

Main statement: `toList_quote` gives the characters of a literal.
-/

namespace TraceLens.Quoted

/-- The quote that encloses a content with these characters. -/
def delimiter (cs : List Char) : Char :=
  if '\'' ∈ cs ∧ '"' ∉ cs then '"' else '\''

/-- A number in hexadecimal with at least `width` digits. -/
def hex (width n : Nat) : List Char :=
  let digits := Nat.toDigits 16 n
  List.replicate (width - digits.length) '0' ++ digits

/-- The escape of a character that is not shown as it is. -/
def escapeNumber (n : Nat) : List Char :=
  if n ≤ 0xFF then '\\' :: 'x' :: hex 2 n
  else if n ≤ 0xFFFF then '\\' :: 'u' :: hex 4 n
  else '\\' :: 'U' :: hex 8 n

/-- One character inside a literal, given which characters are shown as they are. -/
def escapeChar (shown : Char → Bool) (delim c : Char) : List Char :=
  if c = delim ∨ c = '\\' then ['\\', c]
  else if c = '\n' then ['\\', 'n']
  else if c = '\r' then ['\\', 'r']
  else if c = '\t' then ['\\', 't']
  else if shown c then [c]
  else escapeNumber c.toNat

/-- The characters of a literal with the given content. -/
def enclose (shown : Char → Bool) (cs : List Char) : List Char :=
  let delim := delimiter cs
  delim :: cs.flatMap (escapeChar shown delim) ++ [delim]

/-- The literal of a text. -/
def quote (text : String) : String :=
  String.ofList (enclose Printable.isPrintable text.toList)

/-- The literal of bytes: a `b` before the quotes, and only ASCII is shown as it is. -/
def quoteBytes (bytes : List UInt8) : String :=
  String.ofList ('b' :: enclose (fun c => 0x20 ≤ c.toNat && c.toNat ≤ 0x7E)
    (bytes.map fun b => Char.ofNat b.toNat))

/-- Texts in brackets, each as a literal. -/
def quoteList (texts : List String) : String :=
  "[" ++ ", ".intercalate (texts.map quote) ++ "]"

@[simp] theorem toList_quote (text : String) :
    (quote text).toList = enclose Printable.isPrintable text.toList := by
  simp [quote]

end TraceLens.Quoted
