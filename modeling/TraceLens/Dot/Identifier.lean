/-!
# Identifiers of the DOT language

A name or label stands in a DOT text as it is when it is an HTML string, a plain identifier or a
numeral, and otherwise in double quotes.

Main statement: `toList_quoted` gives the characters of a quoted identifier.
-/

namespace TraceLens.Dot

def isLetter (c : Char) : Bool := ('a' ≤ c && c ≤ 'z') || ('A' ≤ c && c ≤ 'Z') || c == '_'

def isDigit (c : Char) : Bool := '0' ≤ c && c ≤ '9'

/-- A text without one line feed at its end. -/
def dropFinalNewline (cs : List Char) : List Char :=
  if cs.getLast? = some '\n' then cs.dropLast else cs

/-- An HTML string begins with `<` and ends with another `>`, but for a final line feed. -/
def isHtml : List Char → Bool
  | '<' :: rest => rest.getLast? == some '>' || (dropFinalNewline rest).getLast? == some '>'
  | _ => false

/-- A letter or underscore, and then letters, underscores and digits. -/
def isWord : List Char → Bool
  | [] => false
  | c :: cs => isLetter c && cs.all fun d => isLetter d || isDigit d

/-- Digits with at most one point among them and at least one digit; before a leading point
there is none. -/
def isUnsigned : List Char → Bool
  | '.' :: fraction => !fraction.isEmpty && fraction.all isDigit
  | cs =>
    !(cs.takeWhile isDigit).isEmpty &&
      match cs.dropWhile isDigit with
      | [] => true
      | c :: fraction => c == '.' && fraction.all isDigit

def isNumeral : List Char → Bool
  | '-' :: cs => isUnsigned cs
  | cs => isUnsigned cs

def keywords : List String := ["node", "edge", "graph", "digraph", "subgraph", "strict"]

/-- A word or numeral that is no keyword; a final line feed does not count. -/
def isPlain (cs : List Char) : Bool :=
  let core := dropFinalNewline cs
  (isWord core || isNumeral core) && !keywords.contains (String.ofList (cs.map Char.toLower))

/-- The content of a quoted identifier, after `n` backslashes. Each quote is written with one
backslash; of the backslashes before it whole pairs are kept. -/
def escapeQuotes : Nat → List Char → List Char
  | n, [] => List.replicate n '\\'
  | n, '\\' :: cs => escapeQuotes (n + 1) cs
  | n, '"' :: cs => List.replicate (n - n % 2) '\\' ++ '\\' :: '"' :: escapeQuotes 0 cs
  | n, c :: cs => List.replicate n '\\' ++ c :: escapeQuotes 0 cs

/-- The characters of an identifier as it is written. -/
def quotedChars (cs : List Char) : List Char :=
  if isHtml cs || isPlain cs then cs else '"' :: escapeQuotes 0 cs ++ ['"']

/-- An identifier as it is written. -/
def quoted (name : String) : String := String.ofList (quotedChars name.toList)

@[simp] theorem toList_quoted (name : String) : (quoted name).toList = quotedChars name.toList := by
  simp [quoted]

end TraceLens.Dot
