import TraceLens.Charset.Basic
import TraceLens.Text.CharacterName

/-!
# Latin 1 with escapes

Bytes are Latin 1, and a backslash may begin an escape. The plain set knows code points in four or
eight hexadecimal digits only, and keeps every other backslash with what follows it. The full set
knows the escapes of string literals too: control characters, quotes, octal numbers, two
hexadecimal digits, a line end that is dropped, and characters by their names. An escape may name
a surrogate.
-/

namespace TraceLens.Charset.Escaped

def hexDigit? (b : UInt8) : Option Nat :=
  let n := b.toNat
  if 0x30 ≤ n ∧ n ≤ 0x39 then some (n - 0x30)
  else if 0x41 ≤ n ∧ n ≤ 0x46 then some (n - 0x41 + 10)
  else if 0x61 ≤ n ∧ n ≤ 0x66 then some (n - 0x61 + 10)
  else none

/-- The value of exactly so many hexadecimal digits. -/
def hexNumber? (count : Nat) (bytes : List UInt8) : Option Nat := do
  let digits ← (bytes.take count).mapM hexDigit?
  if digits.length = count then some (digits.foldl (fun n d => n * 16 + d) 0) else none

/-- The character of an escape with so many digits, and the number of bytes after its letter. -/
def hexChar? (count : Nat) (bytes : List UInt8) : Option (Char × Nat) := do
  return (← codePoint? (← hexNumber? count bytes), count)

def isOctalDigit (b : UInt8) : Bool := 0x30 ≤ b && b < 0x38

def latin1 (b : UInt8) : Char := Char.ofNat b.toNat

/-- The character that a letter after a backslash stands for. -/
def control? (b : UInt8) : Option Char :=
  match latin1 b with
  | '\\' => some '\\'
  | '\'' => some '\''
  | '"' => some '"'
  | 'a' => some '\x07'
  | 'b' => some '\x08'
  | 't' => some '\t'
  | 'n' => some '\n'
  | 'v' => some '\x0b'
  | 'f' => some '\x0c'
  | 'r' => some '\r'
  | _ => none

/-- The number of digits after a letter that begins a code point. -/
def codePointWidth? (b : UInt8) : Option Nat :=
  match latin1 b with
  | 'u' => some 4
  | 'U' => some 8
  | _ => none

/-- Read the plain set: a backslash at the very end is itself. -/
def plainStep (b : UInt8) (rest : List UInt8) : Option (List Char × Nat) :=
  if latin1 b ≠ '\\' then some ([latin1 b], 0)
  else match rest with
  | [] => some (['\\'], 0)
  | c :: rest =>
    match codePointWidth? c with
    | some width => (hexChar? width rest).map fun (char, more) => ([char], more + 1)
    | none => some (['\\', latin1 c], 1)

/-- The character whose name stands in braces, and the number of bytes with the braces. -/
def namedChar? (bytes : List UInt8) : Option (Char × Nat) :=
  match bytes.map latin1 with
  | '\x7b' :: more =>
    let name := more.takeWhile (· != '\x7d')
    if name.length < more.length then
      (CharacterName.find? name).map fun c => (c, name.length + 2)
    else none
  | _ => none

/-- Read the full set: after the backslash, octal digits count as far as the third. -/
def fullStep (b : UInt8) (rest : List UInt8) : Option (List Char × Nat) :=
  if latin1 b ≠ '\\' then some ([latin1 b], 0)
  else match rest with
  | [] => none
  | c :: rest =>
    let after (found : Option (Char × Nat)) : Option (List Char × Nat) :=
      found.map fun (char, more) => ([char], more + 1)
    if latin1 c = '\n' then some ([], 1)
    else if isOctalDigit c then
      let digits := (c :: rest.take 2).takeWhile isOctalDigit
      let n := digits.foldl (fun n d => n * 8 + (d.toNat - 0x30)) 0
      some ([Char.ofNat n], digits.length)
    else if latin1 c = 'x' then after (hexChar? 2 rest)
    else if latin1 c = 'N' then after (namedChar? rest)
    else match codePointWidth? c, control? c with
    | some width, _ => after (hexChar? width rest)
    | none, some char => some ([char], 1)
    | none, none => some (['\\', latin1 c], 1)

def charsets : List Charset := [
  ⟨"raw_unicode_escape", [], decodeBy plainStep⟩,
  ⟨"unicode_escape", [], decodeBy fullStep⟩]

end TraceLens.Charset.Escaped
