import TraceLens.Text.Blank
import TraceLens.Text.Quoted

/-!
# Decimal digits and integers

The decimal digits of Unicode come in runs of ten, from zero to nine. An integer is written as
digits with single underscores between them, after an optional sign, and with blanks around it.
-/

namespace TraceLens.Digit

/-- The zeros of the runs of decimal digits, in ascending order, as of Unicode 14. -/
def zeros : List Nat := [
  0x30, 0x660, 0x6F0, 0x7C0, 0x966, 0x9E6, 0xA66, 0xAE6, 0xB66, 0xBE6, 0xC66, 0xCE6, 0xD66, 0xDE6,
  0xE50, 0xED0, 0xF20, 0x1040, 0x1090, 0x17E0, 0x1810, 0x1946, 0x19D0, 0x1A80, 0x1A90, 0x1B50,
  0x1BB0, 0x1C40, 0x1C50, 0xA620, 0xA8D0, 0xA900, 0xA9D0, 0xA9F0, 0xAA50, 0xABF0, 0xFF10, 0x104A0,
  0x10D30, 0x11066, 0x110F0, 0x11136, 0x111D0, 0x112F0, 0x11450, 0x114D0, 0x11650, 0x116C0,
  0x11730, 0x118E0, 0x11950, 0x11C50, 0x11D50, 0x11DA0, 0x16A60, 0x16AC0, 0x16B50, 0x1D7CE,
  0x1D7D8, 0x1D7E2, 0x1D7EC, 0x1D7F6, 0x1E140, 0x1E2F0, 0x1E950, 0x1FBF0]

/-- The value of a decimal digit. -/
def digit? (c : Char) : Option Nat :=
  (zeros.find? fun z => z ≤ c.toNat && c.toNat < z + 10).map fun z => c.toNat - z

def isDigit (c : Char) : Bool := (digit? c).isSome

/-- The value of some decimal digits. -/
def ofDigits (cs : List Char) : Nat := cs.foldl (fun n c => n * 10 + (digit? c).getD 0) 0

/-- Blanks around an integer; the information separators are not among them. -/
def isPadding (c : Char) : Bool := Blank.isBlank c && !(0x1C ≤ c.toNat && c.toNat ≤ 0x1F)

/-- The largest number of digits that are read. -/
def digitLimit : Nat := 4300

/-- Why a text is not read as an integer. -/
inductive IntegerFault where
  | malformed (text : String)
  /-- There are more digits than are read, counted without their underscores. -/
  | tooLong (count : Nat)
  deriving DecidableEq, Repr

/-- The wording of a fault; of a malformed text only the beginning is shown. -/
def IntegerFault.message : IntegerFault → String
  | .malformed text =>
    "invalid literal for int() with base 10: " ++
      String.ofList ((Quoted.quote text).toList.take 200)
  | .tooLong count =>
    "Exceeds the limit (" ++ toString digitLimit ++ " digits) for integer string conversion: " ++
      "value has " ++ toString count ++
      " digits; use sys.set_int_max_str_digits() to increase the limit"

/-- Read the digits of a text, with single underscores between them. The limit is looked at before
what comes after the digits. -/
def readDigits (text : String) (cs : List Char) : Except IntegerFault Nat :=
  let digits := cs.takeWhile fun c => isDigit c || c == '_'
  let runs := digits.splitOn '_'
  let count := runs.flatten.length
  if runs.any List.isEmpty then .error (.malformed text)
  else if digitLimit < count then .error (.tooLong count)
  else if digits.length < cs.length then .error (.malformed text)
  else .ok (ofDigits runs.flatten)

/-- Some characters without the padding around them. -/
def dropPadding (cs : List Char) : List Char :=
  Blank.dropEndWhile isPadding (cs.dropWhile isPadding)

/-- Read an integer. -/
def readInt (text : String) : Except IntegerFault Int :=
  match dropPadding text.toList with
  | '-' :: cs => (readDigits text cs).map fun n => -(n : Int)
  | '+' :: cs => (readDigits text cs).map Int.ofNat
  | cs => (readDigits text cs).map Int.ofNat

/-- Whether a word is written like a negative number: a minus sign and digits, with at most one
point that has digits after it. A final line feed does not count. -/
def looksNegative (word : String) : Bool :=
  match word.toList with
  | '-' :: cs =>
    let cs := if cs.getLast? = some '\n' then cs.dropLast else cs
    let fraction := cs.dropWhile isDigit
    match fraction with
    | [] => !cs.isEmpty
    | '.' :: digits => !digits.isEmpty && digits.all isDigit
    | _ => false
  | _ => false

end TraceLens.Digit
