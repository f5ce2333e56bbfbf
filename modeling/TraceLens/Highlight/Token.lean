/-!
# Tokens

A token is a stretch of a text with a kind. A scanner cuts a text into tokens; blanks between
tokens belong to none. `Token.scanScript` is the scanner for script text.
-/

namespace TraceLens

structure Token where
  start : Int
  kind : String
  length : Nat
  deriving DecidableEq, Repr

/-- What cuts a text into tokens. -/
abbrev Scanner := String → List Token

namespace Token

def scriptKeywords : List String :=
  ["def", "return", "if", "else", "for", "while", "in", "try", "except", "pass", "import", "class",
    "raise"]

def isWordStart (c : Char) : Bool := ('a' ≤ c && c ≤ 'z') || ('A' ≤ c && c ≤ 'Z') || c == '_'

def isDigit (c : Char) : Bool := '0' ≤ c && c ≤ '9'

def isWordChar (c : Char) : Bool := isWordStart c || isDigit c

def isSpace (c : Char) : Bool := c == ' ' || c == '\t' || c == '\r' || c == '\n'

def operators : List Char := "+-*/%=<>!&|^~".toList

/-- The length of a text through the next triple of quotes, or all of it. -/
def throughTriple (quote : Char) : List Char → Nat
  | [] => 0
  | c :: cs =>
    if [quote, quote, quote].isPrefixOf (c :: cs) then 3 else throughTriple quote cs + 1

/-- The length of a text through the next quote, stopping before a line feed. -/
def throughQuote (quote : Char) : List Char → Nat
  | [] => 0
  | c :: cs => if c = quote then 1 else if c = '\n' then 0 else throughQuote quote cs + 1

/-- What a text starts with: the number of characters after the first one, and the kind, which a
space does not have. -/
def lexeme (c : Char) (cs : List Char) : Nat × Option String :=
  if isSpace c then (0, none)
  else if c = '#' then ((cs.takeWhile (· != '\n')).length, some "Comment.Single")
  else if c = '"' ∨ c = '\'' then
    if [c, c].isPrefixOf cs then (throughTriple c (cs.drop 2) + 2, some "Literal.String.Doc")
    else (throughQuote c cs, some "Literal.String")
  else if isWordStart c then
    let more := cs.takeWhile isWordChar
    (more.length,
      some (if scriptKeywords.contains (String.ofList (c :: more)) then "Keyword" else "Name"))
  else if isDigit c then ((cs.takeWhile isDigit).length, some "Literal.Number")
  else if operators.contains c then (0, some "Operator")
  else if c.toNat < 0x80 then (0, some "Punctuation")
  else (0, some "Error")

/-- The tokens of a text that starts at the given offset. -/
def scanFrom (start : Nat) : List Char → List Token
  | [] => []
  | c :: cs =>
    let (more, kind) := lexeme c cs
    (kind.toList.map fun kind => ⟨start, kind, more + 1⟩) ++
      scanFrom (start + more + 1) (cs.drop more)
termination_by cs => cs.length
decreasing_by simp only [List.length_drop, List.length_cons]; omega

/-- The scanner of script text. -/
def scanScript : Scanner := fun text => scanFrom 0 text.toList

/-- The scanner that takes a whole text for one token. -/
def scanPlain : Scanner := fun text => [⟨0, "Text", text.length⟩]

end Token

end TraceLens
