import TraceLens.Charset.Registry
import TraceLens.Text.Blank

/-!
# The encoding of a script file

A script file is UTF-8 unless a comment on one of its first two lines names another encoding. A
byte order mark at its start is dropped, and allows no other name than that of UTF-8. Line ends
are read as line feeds.
-/

namespace TraceLens.Encoding

/-- Every CR LF and every lone CR as a line feed. -/
def normalizeNewlines : List Char → List Char
  | [] => []
  | '\r' :: '\n' :: cs => '\n' :: normalizeNewlines cs
  | c :: cs => (if c = '\r' then '\n' else c) :: normalizeNewlines cs

/-- The canonical spelling of the common names: their first twelve characters decide. -/
def canonical (name : String) : String :=
  let short := ((name.toList.take 12).map Char.toLower).map fun c => if c = '_' then '-' else c
  let isName (known : String) : Bool :=
    short = known.toList || (known.toList ++ ['-']).isPrefixOf short
  if isName "utf-8" then "utf-8"
  else if ["latin-1", "iso-8859-1", "iso-latin-1"].any isName then "iso-8859-1"
  else name

def isIndent (c : Char) : Bool := c == ' ' || c == '\t' || c == '\x0c'

def isNameChar (c : Char) : Bool := c.isAlphanum || c == '_' || c == '-' || c == '.'

/-- The name in the first declaration of an encoding in the text of a comment. -/
def declaredIn : List Char → Option String
  | [] => none
  | c :: cs =>
    let here : Option String :=
      if "coding".toList.isPrefixOf (c :: cs) then
        match cs.drop 5 with
        | [] => none
        | sign :: rest =>
          let name := (rest.dropWhile fun c => c == ' ' || c == '\t').takeWhile isNameChar
          if (sign == ':' || sign == '=') && !name.isEmpty then some (String.ofList name) else none
      else none
    here.or (declaredIn cs)

/-- The encoding that a line declares in a comment of its own. -/
def declared (line : List Char) : Option String :=
  match line.dropWhile isIndent with
  | '#' :: comment => declaredIn comment
  | _ => none

/-- Whether a line holds nothing but a comment. -/
def isBlankLine (line : List UInt8) : Bool :=
  match line.dropWhile fun b => b = 32 || b = 9 || b = 12 with
  | [] => true
  | b :: _ => b = 35 || b = 13 || b = 10

/-- The bytes up to and including the first line feed, and the rest. -/
def splitLine : List UInt8 → List UInt8 × List UInt8
  | [] => ([], [])
  | b :: bs => if b = 10 then ([b], bs) else ((b :: (splitLine bs).1), (splitLine bs).2)

def byteOrderMark : List UInt8 := [0xEF, 0xBB, 0xBF]

/-- What a line says about the encoding: `none` if it does not say anything. A name that is not
known, or that a byte order mark speaks against, makes the file undecodable. -/
def lineCharset (marked : Bool) (line : List UInt8) : Except Charset.Fault (Option Charset) := do
  let text ← Charset.decodeUtf8 line
  match declared text with
  | none => return none
  | some name =>
    match Charset.ofName? (canonical name) with
    | none => .error .undecodable
    | some charset =>
      if marked && canonical name ≠ "utf-8" then .error .undecodable else return some charset

/-- The encoding of a file after its byte order mark. -/
def fileCharset (marked : Bool) (content : List UInt8) : Except Charset.Fault Charset := do
  let (first, rest) := splitLine content
  match ← lineCharset marked first with
  | some charset => return charset
  | none =>
    if isBlankLine first then
      return (← lineCharset marked (splitLine rest).1).getD Charset.utf8
    else return Charset.utf8

/-- The text of a script file. -/
def scriptText (content : List UInt8) : Except Charset.Fault String := do
  let marked := byteOrderMark.isPrefixOf content
  let content := if marked then content.drop 3 else content
  let chars ← (← fileCharset marked content).decode content
  return String.ofList (normalizeNewlines chars)

end TraceLens.Encoding
