/-!
# Markup characters

Text that goes into markup has its five markup characters written as entities.

Main statement: `toList_escape` gives the characters of an escaped text, one character at a time.
-/

namespace TraceLens.Html

/-- The characters that stand for one character of text. -/
def escapeChar : Char → List Char
  | '&' => ['&', 'a', 'm', 'p', ';']
  | '<' => ['&', 'l', 't', ';']
  | '>' => ['&', 'g', 't', ';']
  | '"' => ['&', 'q', 'u', 'o', 't', ';']
  | '\'' => ['&', '#', 'x', '2', '7', ';']
  | c => [c]

/-- A text as it is written between tags or inside a quoted attribute. -/
def escape (text : String) : String := String.ofList (text.toList.flatMap escapeChar)

@[simp] theorem toList_escape (text : String) :
    (escape text).toList = text.toList.flatMap escapeChar := by
  simp [escape]

/-- What one entity stands for, with the characters after it. -/
def entity? : List Char → Option (Char × List Char)
  | '&' :: 'a' :: 'm' :: 'p' :: ';' :: rest => some ('&', rest)
  | '&' :: 'l' :: 't' :: ';' :: rest => some ('<', rest)
  | '&' :: 'g' :: 't' :: ';' :: rest => some ('>', rest)
  | '&' :: 'q' :: 'u' :: 'o' :: 't' :: ';' :: rest => some ('"', rest)
  | '&' :: '#' :: 'x' :: '2' :: '7' :: ';' :: rest => some ('\'', rest)
  | _ => none

theorem entity?_length {cs rest : List Char} {c : Char} (h : entity? cs = some (c, rest)) :
    rest.length < cs.length := by
  unfold entity? at h
  split at h <;> simp_all <;> omega

/-- Read the five entities back; any other character stands for itself. -/
def unescape (cs : List Char) : List Char :=
  match h : entity? cs with
  | some (c, rest) =>
    have : rest.length < cs.length := entity?_length h
    c :: unescape rest
  | none =>
    match cs with
    | [] => []
    | c :: rest => c :: unescape rest
termination_by cs.length

/-- Drop every tag: a `<`, the characters up to the next `>`, and that `>`. -/
def withoutTags (cs : List Char) : List Char :=
  go false cs
where
  /-- The flag tells whether the characters read are inside a tag. -/
  go : Bool → List Char → List Char
    | _, [] => []
    | true, c :: rest => go (c != '>') rest
    | false, c :: rest => if c = '<' then go true rest else c :: go false rest

/-- The text that markup shows. -/
def shownText (cs : List Char) : List Char := unescape (withoutTags cs)

end TraceLens.Html
