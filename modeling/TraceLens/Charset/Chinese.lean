import TraceLens.Charset.DoubleByte
import TraceLens.Charset.Table.Big5
import TraceLens.Charset.Table.Gb2312
import TraceLens.Charset.Table.Gbk
import TraceLens.Charset.Table.Hkscs

/-!
# Chinese character sets

GB 2312 with its extensions GBK and GB 18030, its form of seven bits, and Big5 with its
extensions. GBK gives the ideographs that GB 2312 lacks, in the order of their code points, to the
codes around those of GB 2312. GB 18030 gives what is left to four bytes, in the same order.
-/

namespace TraceLens.Charset.Chinese

def gb2312Char? (a b : UInt8) : Option Char := gb2312.char? (upperCode a b)

/-- The ideographs that GB 2312 lacks. -/
def rareIdeographs : Array Char := gb2312.lacking 0x4E00 20902

/-- The cell of a second byte, from 0x40 on without 0x7F. -/
def cell? (b : UInt8) : Option Nat :=
  if b < 0x40 ∨ b = 0x7F ∨ b = 0xFF then none
  else if b < 0x7F then some (b.toNat - 0x40)
  else some (b.toNat - 0x41)

/-- The place of a code among those for rare ideographs: the rows before those of GB 2312, and the
first 96 cells of the rows from 0xAA on. -/
def rarePlace? (a b : UInt8) : Option Nat := do
  let cell ← cell? b
  if 0x81 ≤ a ∧ a ≤ 0xA0 then return (a.toNat - 0x81) * 190 + cell
  else if 0xAA ≤ a ∧ a ≤ 0xFE ∧ cell < 96 then return 32 * 190 + (a.toNat - 0xAA) * 96 + cell
  else none

def gbkChar? (a b : UInt8) : Option Char :=
  (gbkSigns.char? (code a b)).or <| (gb2312Char? a b).or <| do rareIdeographs[← rarePlace? a b]?

/-- The codes for characters of the user, in three areas. -/
def userChar? (a b : UInt8) : Option Char := do
  let cell ← cell? b
  let inUpper (row : Nat) : Option Char := scalar? (0xE000 + row * 94 + (cell - 96))
  if 96 ≤ cell ∧ 0xAA ≤ a ∧ a ≤ 0xAF then inUpper (a.toNat - 0xAA)
  else if 96 ≤ cell ∧ 0xF8 ≤ a ∧ a ≤ 0xFE then inUpper (a.toNat - 0xF8 + 6)
  else if cell < 96 ∧ 0xA1 ≤ a ∧ a ≤ 0xA7 then scalar? (0xE4C6 + (a.toNat - 0xA1) * 96 + cell)
  else none

/-- The codes left over by the standards. -/
def privateChar? (code : Nat) : Option Char := do
  let (first, codePoint, _) ← gb18030Private.find? fun (first, _, count) =>
    first ≤ code && code < first + count
  scalar? (codePoint + (code - first))

/-- A code of four bytes counts places: of the first code points, or of those above U+FFFF. -/
def fourByteChar? (a b c d : UInt8) : Option Char :=
  if a < 0x81 ∨ 0xFE < a ∨ c < 0x81 ∨ 0xFE < c ∨ d < 0x30 ∨ 0x39 < d then none
  else
    let below := (b.toNat - 0x30) * 1260 + (c.toNat - 0x81) * 10 + (d.toNat - 0x30)
    if a < 0x85 then do
      let place := (a.toNat - 0x81) * 12600 + below
      let (first, codePoint) ← (gb18030Runs.takeWhile fun run => run.1 ≤ place).getLast?
      if place < 39420 then scalar? (codePoint + (place - first)) else none
    else if 0x90 ≤ a then scalar? (0x10000 + (a.toNat - 0x90) * 12600 + below)
    else none

def gb18030Step (a : UInt8) : List UInt8 → Option (List Char × Nat)
  | b :: rest =>
    if a < 0x80 then some ([Char.ofNat a.toNat], 0)
    else if 0x30 ≤ b ∧ b ≤ 0x39 then
      match rest with
      | c :: d :: _ => (fourByteChar? a b c d).map fun char => ([char], 3)
      | _ => none
    else
      ((gbkChar? a b).or <| (gb18030Changes.char? (code a b)).or <| (userChar? a b).or <|
        privateChar? (code a b)).map fun char => ([char], 1)
  | [] => if a < 0x80 then some ([Char.ofNat a.toNat], 0) else none

/-- The form of seven bits: between two signs of a tilde and a brace all bytes are codes, and
outside of them a tilde before a line end joins two lines. -/
def hzStep (isCoded : Bool) (a : UInt8) (rest : List UInt8) : Option (Reading Bool) :=
  match Char.ofNat a.toNat, rest.map fun b => Char.ofNat b.toNat with
  | '~', next :: _ =>
    match next, isCoded with
    | '~', false => some ⟨['~'], false, 1⟩
    | '\x7b', false => some ⟨[], true, 1⟩
    | '\n', false => some ⟨[], false, 1⟩
    | '\x7d', true => some ⟨[], false, 1⟩
    | _, _ => none
  | '~', [] => none
  | c, _ =>
    if 0x80 ≤ a then none
    else if isCoded then
      match rest with
      | b :: _ => (gb2312.char? (code a b)).map fun char => ⟨[char], true, 1⟩
      | [] => none
    else some ⟨[c], false, 0⟩

def hkscsChars? (a b : UInt8) : Option (List Char) :=
  ((hkscsPairs.lookup (code a b)).map String.toList).or (single (hkscs.char? (code a b)))

def charsets : List Charset := [
  ⟨"gb2312", ["chinese", "csiso58gb231280", "euc_cn", "euccn", "eucgb2312_cn", "gb2312_1980",
    "gb2312_80", "iso_ir_58", "x_mac_simp_chinese"],
    decodeBy (doubleStep fun a b => single (gb2312Char? a b))⟩,
  ⟨"gbk", ["936", "cp936", "ms936"], decodeBy (doubleStep fun a b => single (gbkChar? a b))⟩,
  ⟨"gb18030", ["gb18030_2000"], decodeBy gb18030Step⟩,
  ⟨"hz", ["hz_gb", "hz_gb_2312", "hzgb"], decodeFrom false hzStep⟩,
  ⟨"big5", ["big5_tw", "csbig5", "x_mac_trad_chinese"],
    decodeBy (doubleStep fun a b => single (big5.char? (code a b)))⟩,
  ⟨"cp950", ["950", "ms950"], decodeBy (doubleStep fun a b => single (cp950.char? (code a b)))⟩,
  ⟨"big5hkscs", ["big5_hkscs", "hkscs"], decodeBy (doubleStep hkscsChars?)⟩]

end TraceLens.Charset.Chinese
