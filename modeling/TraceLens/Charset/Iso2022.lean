import TraceLens.Charset.CodePage.Iso8859
import TraceLens.Charset.Japanese
import TraceLens.Charset.Table.Gb2312
import TraceLens.Charset.Table.KsX1001

/-!
# ISO 2022

Bytes of seven bits, read in a set that escape sequences call up: at first ASCII. Up to three sets
are called up at a time. The first is in use; the second is in use after a shift, up to the next
one or the end of the line; of the third a single character is read after an escape of its own.
An escape that calls up nothing is kept, and so are the bytes after it up to a capital letter.
-/

namespace TraceLens.Charset.Iso2022

/-- A set that can be called up. -/
structure CodedSet where
  /-- The byte that ends its escape sequence. -/
  final : Char
  /-- Whether a character takes two bytes. -/
  isDouble : Bool
  /-- Whether it can only be the third set. -/
  isUpper : Bool
  chars? : Nat → Option (List Char)

def asciiSet : CodedSet :=
  ⟨'B', false, false, fun n => if n < 0x80 then some [Char.ofNat n] else none⟩

/-- A set of two bytes by rows and cells. -/
def doubleSet (final : Char) (chars? : Nat → Option (List Char)) : CodedSet :=
  ⟨final, true, false, chars?⟩

def jisX0208Set : CodedSet := doubleSet 'B' fun n => single (jisX0208.char? n)

/-- The first edition of JIS X 0208. -/
def jisC6226Set : CodedSet := { jisX0208Set with final := '@' }

def jisX0212Set : CodedSet := doubleSet 'D' fun n => single (jisX0212.char? n)

def firstPlaneSet (final : Char) (edition : Japanese.Edition) : CodedSet :=
  doubleSet final (Japanese.firstPlane? edition)

def secondPlaneSet (edition : Japanese.Edition) : CodedSet :=
  doubleSet 'P' fun n => single (Japanese.secondPlane? edition n)

def ksX1001Set : CodedSet := doubleSet 'C' fun n => single (ksX1001.char? n)

def gb2312Set : CodedSet := doubleSet 'A' fun n => single (gb2312.char? n)

def romanSet : CodedSet :=
  ⟨'J', false, false, fun n => if n < 0x80 then some [Japanese.roman n.toUInt8] else none⟩

def kanaSet : CodedSet :=
  ⟨'I', false, false, fun n => single (Japanese.halfKana? (n + 0x80).toUInt8)⟩

/-- The upper half of Latin 1. -/
def latinSet : CodedSet :=
  ⟨'A', false, true, fun n => if n < 0x80 then some [Char.ofNat (n + 0x80)] else none⟩

/-- The upper half of the first edition of the Greek part of ISO 8859, which lacks three signs;
higher bytes give the lower half. -/
def greekSet : CodedSet :=
  let table := CodePage.isoGreek.amend [(0xA4, "\ufffd\ufffd"), (0xAA, "\ufffd")]
  ⟨'F', false, true, fun n => single (table.byteChar? (n.toUInt8 ^^^ 0x80))⟩

/-- Which sets and means of calling them up a variant has. -/
structure Variant where
  sets : List CodedSet
  /-- Whether bytes shift between the first set and the second. -/
  hasShifts : Bool
  hasThird : Bool

/-- What is in use. -/
structure Use where
  first : CodedSet := asciiSet
  second : CodedSet := asciiSet
  third : CodedSet := asciiSet
  isShifted : Bool := false
  /-- Whether bytes are kept because of an escape. -/
  isKept : Bool := false

/-- Whether a character ends an escape sequence. -/
def isFinal (c : Char) : Bool := c.isUpper || c == '@'

/-- Whether an escape sequence, from its second byte on, announces the double-byte set whose own
escape sequence makes up its end: `&@` does, and so does any other pair of bytes whose second is
not final. -/
def isAnnounced : List Char → Bool
  | sign :: mark :: rest =>
    (!isFinal mark || [sign, mark] == ['&', '@']) && ['\x1b', '$', 'B'].isPrefixOf rest
  | _ => false

/-- The set that an escape sequence names. -/
def Variant.called? (v : Variant) (isDouble : Bool) (final : Char) : Option CodedSet :=
  if !isDouble && final == 'B' then some asciiSet
  else v.sets.find? fun set => set.isDouble == isDouble && set.final == final

/-- Read an escape sequence from its second byte on: what is in use after it, and its bytes after
the first. -/
def Variant.call? (v : Variant) (use : Use) (bytes : List Char) : Option (Use × Nat) :=
  if !v.hasShifts && isAnnounced bytes then
    (v.called? true 'B').map fun set => ({ use with first := set }, 5)
  else match bytes with
  | '$' :: '(' :: final :: _ =>
    (v.called? true final).map fun set => ({ use with first := set }, 3)
  | '$' :: ')' :: final :: _ =>
    (v.called? true final).map fun set => ({ use with second := set }, 3)
  | '$' :: final :: _ => (v.called? true final).map fun set => ({ use with first := set }, 2)
  | '(' :: final :: _ => (v.called? false final).map fun set => ({ use with first := set }, 2)
  | ')' :: final :: _ => (v.called? false final).map fun set => ({ use with second := set }, 2)
  | '.' :: final :: _ =>
    if v.hasThird then
      (v.called? false final).map fun set => ({ use with third := set }, 2)
    else none
  | _ => none

/-- Read a character of the third set. -/
def Use.thirdChars? (use : Use) (n : Nat) : Option (List Char) :=
  let isAscii := use.third.final = 'B' ∧ !use.third.isDouble
  if use.third.isUpper ∨ isAscii then use.third.chars? n else none

/-- Read a character of the set in use. -/
def Use.chars? (use : Use) (a : UInt8) (rest : List UInt8) : Option (Reading Use) := do
  let set := if use.isShifted then use.second else use.first
  if set.isUpper then none
  else if set.isDouble then
    return ⟨← set.chars? (code a (← rest.head?)), use, 1⟩
  else return ⟨← set.chars? a.toNat, use, 0⟩

def Variant.step (v : Variant) (use : Use) (a : UInt8) (rest : List UInt8) :
    Option (Reading Use) :=
  let c := Char.ofNat a.toNat
  if use.isKept then
    some ⟨[c], { use with isKept := !isFinal c }, 0⟩
  else if c = '\x1b' then
    let next := rest.map fun b => Char.ofNat b.toNat
    match next with
    | [] => none
    | 'N' :: more =>
      if v.hasThird then do
        return ⟨← use.thirdChars? (← more.head?).toNat, use, 2⟩
      else some ⟨[c], { use with isKept := true }, 0⟩
    | sign :: _ =>
      if "()$.&".toList.contains sign then
        (v.call? use next).map fun (use, more) => ⟨[], use, more⟩
      else some ⟨[c], { use with isKept := true }, 0⟩
  else if c = '\n' then some ⟨[c], { use with isShifted := false }, 0⟩
  else if v.hasShifts && (c == '\x0e' || c == '\x0f') then
    some ⟨[], { use with isShifted := c == '\x0e' }, 0⟩
  else if a < 0x20 then some ⟨[c], use, 0⟩
  else use.chars? a rest

def Variant.decode (v : Variant) : List UInt8 → Except Fault (List Char) :=
  decodeFrom {} v.step

/-- A Japanese variant: it has no shifts. -/
def japanese (hasThird : Bool) (sets : List CodedSet) : List UInt8 → Except Fault (List Char) :=
  Variant.decode ⟨sets, false, hasThird⟩

def charsets : List Charset := [
  ⟨"iso2022_jp", ["csiso2022jp", "iso2022jp", "iso_2022_jp"],
    japanese false [jisX0208Set, romanSet, jisC6226Set]⟩,
  ⟨"iso2022_jp_1", ["iso2022jp_1", "iso_2022_jp_1"],
    japanese false [jisX0208Set, jisX0212Set, romanSet, jisC6226Set]⟩,
  ⟨"iso2022_jp_2", ["iso2022jp_2", "iso_2022_jp_2"],
    japanese true [jisX0208Set, jisX0212Set, ksX1001Set, gb2312Set, romanSet, jisC6226Set,
      latinSet, greekSet]⟩,
  ⟨"iso2022_jp_2004", ["iso2022jp_2004", "iso_2022_jp_2004"],
    japanese false [jisX0208Set, firstPlaneSet 'Q' .second, secondPlaneSet .second]⟩,
  ⟨"iso2022_jp_3", ["iso2022jp_3", "iso_2022_jp_3"],
    japanese false [jisX0208Set, firstPlaneSet 'O' .first, secondPlaneSet .first]⟩,
  ⟨"iso2022_jp_ext", ["iso2022jp_ext", "iso_2022_jp_ext"],
    japanese false [jisX0208Set, jisX0212Set, romanSet, kanaSet, jisC6226Set]⟩,
  ⟨"iso2022_kr", ["csiso2022kr", "iso2022kr", "iso_2022_kr"],
    Variant.decode ⟨[ksX1001Set], true, false⟩⟩]

end TraceLens.Charset.Iso2022
