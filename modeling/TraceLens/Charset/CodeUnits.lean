import TraceLens.Charset.Basic

/-!
# UTF-16 and UTF-32

Characters as numbers of two or four bytes, the least or the greatest byte first. In two bytes a
character above U+FFFF is a pair of surrogates. A set that leaves the order of bytes open asks for
a byte order mark at the start.
-/

namespace TraceLens.Charset

inductive ByteOrder where
  | leastFirst
  | greatestFirst
  deriving DecidableEq, Repr

def ByteOrder.number (order : ByteOrder) (bytes : List UInt8) : Nat :=
  let greatestFirst := match order with
    | .leastFirst => bytes.reverse
    | .greatestFirst => bytes
  greatestFirst.foldl (fun n b => n * 256 + b.toNat) 0

def isHighSurrogate (n : Nat) : Bool := 0xD800 ≤ n && n < 0xDC00

def isLowSurrogate (n : Nat) : Bool := 0xDC00 ≤ n && n < 0xE000

/-- The character of a pair of surrogates. -/
def pairChar (high low : Nat) : Char :=
  Char.ofNat (0x10000 + (high - 0xD800) * 0x400 + (low - 0xDC00))

def utf16Step (order : ByteOrder) (a : UInt8) : List UInt8 → Option (List Char × Nat)
  | b :: rest =>
    let unit := order.number [a, b]
    if isHighSurrogate unit then
      match rest with
      | c :: d :: _ =>
        let low := order.number [c, d]
        if isLowSurrogate low then some ([pairChar unit low], 3) else none
      | _ => none
    else (scalar? unit).map fun c => ([c], 1)
  | [] => none

def utf32Step (order : ByteOrder) (a : UInt8) : List UInt8 → Option (List Char × Nat)
  | b :: c :: d :: _ => (scalar? (order.number [a, b, c, d])).map fun c => ([c], 3)
  | _ => none

/-- The bytes of a text that goes on: a rest that begins a character of two bytes, or the first
half of a pair of surrogates, is left for later. -/
def wholeUtf16 (order : ByteOrder) (bytes : List UInt8) : List UInt8 :=
  let units := bytes.take (bytes.length / 2 * 2)
  if isHighSurrogate (order.number (units.drop (units.length - 2))) then
    units.take (units.length - 2)
  else units

def wholeUtf32 (bytes : List UInt8) : List UInt8 := bytes.take (bytes.length / 4 * 4)

/-- Bytes that lack their byte order mark are refused, and as undecodable if they are no text. -/
def refuseUnmarked (step : UInt8 → List UInt8 → Option (List Char × Nat)) (bytes : List UInt8) :
    Except Fault (List Char) := do
  let _ ← decodeBy step bytes
  .error .unsuited

def decodeUtf16 : List UInt8 → Except Fault (List Char)
  | 0xFF :: 0xFE :: rest => decodeBy (utf16Step .leastFirst) rest
  | 0xFE :: 0xFF :: rest => decodeBy (utf16Step .greatestFirst) rest
  | bytes => refuseUnmarked (utf16Step .leastFirst) (wholeUtf16 .leastFirst bytes)

def decodeUtf32 : List UInt8 → Except Fault (List Char)
  | 0xFF :: 0xFE :: 0 :: 0 :: rest => decodeBy (utf32Step .leastFirst) rest
  | 0 :: 0 :: 0xFE :: 0xFF :: rest => decodeBy (utf32Step .greatestFirst) rest
  | bytes => refuseUnmarked (utf32Step .leastFirst) (wholeUtf32 bytes)

def codeUnits : List Charset := [
  ⟨"utf_16", ["u16", "utf16"], decodeUtf16⟩,
  ⟨"utf_16_be", ["unicodebigunmarked", "utf_16be"], decodeBy (utf16Step .greatestFirst)⟩,
  ⟨"utf_16_le", ["unicodelittleunmarked", "utf_16le"], decodeBy (utf16Step .leastFirst)⟩,
  ⟨"utf_32", ["u32", "utf32"], decodeUtf32⟩,
  ⟨"utf_32_be", ["utf_32be"], decodeBy (utf32Step .greatestFirst)⟩,
  ⟨"utf_32_le", ["utf_32le"], decodeBy (utf32Step .leastFirst)⟩]

end TraceLens.Charset
