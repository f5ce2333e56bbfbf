import TraceLens.Signed

/-!
# Lines of a text

Two ways to number the places of a text. A `LineTable` cuts it after each line end, where CR LF
counts once and a lone CR or LF counts too, and turns a line number with a UTF-8 column into a
character offset. `lineColumn` goes the other way and counts line feeds alone.

Main statements: `flatten_physicalLines` says that the lines make up the text, and
`charsWithin_le` that a column never leaves its line.
-/

namespace TraceLens

/-- The pieces of a text that end after each LF, CR or CR LF, and the piece after the last one. -/
def physicalLines : List Char → List (List Char)
  | [] => [[]]
  | '\r' :: '\n' :: rest => ['\r', '\n'] :: physicalLines rest
  | c :: rest =>
    if c = '\n' ∨ c = '\r' then [c] :: physicalLines rest
    else match physicalLines rest with
      | [] => [[c]]
      | line :: more => (c :: line) :: more

theorem flatten_physicalLines (cs : List Char) : (physicalLines cs).flatten = cs := by
  fun_induction physicalLines cs <;> simp_all

theorem physicalLines_ne_nil (cs : List Char) : physicalLines cs ≠ [] := by
  fun_induction physicalLines cs <;> simp_all

/-- A line of a text and the offset at which it starts. -/
structure TextLine where
  start : Nat
  chars : List Char
  deriving Repr

/-- The number of whole characters that the first `bytes` bytes of some text hold. -/
def charsWithin : List Char → Nat → Nat
  | [], _ => 0
  | c :: cs, bytes => if c.utf8Size ≤ bytes then charsWithin cs (bytes - c.utf8Size) + 1 else 0

theorem charsWithin_le (cs : List Char) (bytes : Nat) : charsWithin cs bytes ≤ cs.length := by
  fun_induction charsWithin cs bytes <;> simp_all

def utf8Length : List Char → Nat
  | [] => 0
  | c :: cs => c.utf8Size + utf8Length cs

/-- The length of a line without the CR and LF at its end. -/
def TextLine.visibleLength (line : TextLine) : Nat :=
  (line.chars.reverse.dropWhile fun c => c = '\r' ∨ c = '\n').length

/-- The lines of a text in order. -/
abbrev LineTable := List TextLine

namespace LineTable

/-- Give each line the offset at which it starts, the first one starting at `start`. -/
def place (start : Nat) : List (List Char) → LineTable
  | [] => []
  | line :: rest => ⟨start, line⟩ :: place (start + line.length) rest

def ofText (text : String) : LineTable := place 0 (physicalLines text.toList)

/-- A line number that can name a line: zero and a missing number name none, and so does one
beyond the last line. -/
def number? (table : LineTable) : Option Int → Option Int
  | none => none
  | some n => if n = 0 ∨ n > table.length then none else some n

/-- The line of a number; a negative number counts from the end, and fails before the start. -/
def line? (table : LineTable) (n : Int) : Option TextLine := Signed.get? table (n - 1)

end LineTable

/-- The offset of a UTF-8 column in a line: a column inside a character goes to its start, one
past the line to its end, and a negative one counts from the end. -/
def TextLine.offset (line : TextLine) : Option Int → Nat
  | none => line.start
  | some column =>
    line.start + charsWithin line.chars (Signed.cut (utf8Length line.chars) column)

/-- The line and column of an offset, both counted from one, where only LF ends a line. The line
counts the line feeds before the offset; a negative offset counts from the end there. -/
def lineColumn (text : String) (offset : Int) : Int × Int :=
  let before := text.toList.take (Signed.cut text.length offset)
  let lineStart : Int := before.length - (before.reverse.takeWhile (· != '\n')).length
  (before.count '\n' + 1, offset - lineStart + 1)

end TraceLens
