import TraceLens.Charset.DoubleByte
import TraceLens.Charset.Table.Cp932
import TraceLens.Charset.Table.JisX0208
import TraceLens.Charset.Table.JisX0212
import TraceLens.Charset.Table.JisX0213

/-!
# Japanese character sets

The extended codes add 128 to rows and cells, and announce half-width kana and the supplementary
sets by a byte of their own. Shift JIS folds two rows into one lead byte, so that the half-width
kana keep single bytes.
-/

namespace TraceLens.Charset.Japanese

/-- The half-width kana, from 0xA1 on. -/
def halfKana? (b : UInt8) : Option Char :=
  if 0xA1 ≤ b ∧ b ≤ 0xDF then some (Char.ofNat (0xFF61 + (b.toNat - 0xA1))) else none

/-- The Japanese form of ASCII, with the signs of the yen and of an overline. -/
def roman (b : UInt8) : Char :=
  if b = 0x5C then '¥' else if b = 0x7E then '‾' else Char.ofNat b.toNat

inductive Edition where
  | first
  | second
  deriving DecidableEq, Repr

/-- The first plane of JIS X 0213, which holds JIS X 0208. -/
def firstPlane? (edition : Edition) (code : Nat) : Option (List Char) :=
  if edition = .first ∧ jisX0213Late.contains code then none
  else ((jisX0213Pairs.lookup code).map String.toList).or (single (jisX0213First.char? code))

def secondPlane? (edition : Edition) (code : Nat) : Option Char :=
  if edition = .first ∧ code = 0x7D3B then some '鬝' else jisX0213Second.char? code

/-- Extended codes: `double?` reads rows and cells, `triple?` those after the byte 0x8F. -/
def eucStep (double? : Nat → Option (List Char)) (triple? : Nat → Option Char) (a : UInt8)
    (rest : List UInt8) : Option (List Char × Nat) :=
  if a = 0x8E then
    match rest with
    | b :: _ => (halfKana? b).map fun c => ([c], 1)
    | [] => none
  else if a = 0x8F then
    match rest with
    | b :: c :: _ => (triple? (upperCode b c)).map fun c => ([c], 2)
    | _ => none
  else doubleStep (fun a b => double? (upperCode a b)) a rest

/-- The row, from zero, and the cell, from 33, that a code of Shift JIS folds. -/
def rowCell? (a b : UInt8) : Option (Nat × Nat) :=
  if (0x81 ≤ a ∧ a ≤ 0x9F ∨ 0xE0 ≤ a ∧ a ≤ 0xFC) ∧ (0x40 ≤ b ∧ b ≤ 0xFC ∧ b ≠ 0x7F) then
    let pair := if a < 0xE0 then a.toNat - 0x81 else a.toNat - 0xC1
    let cell := if b < 0x7F then b.toNat - 0x40 else b.toNat - 0x41
    some (pair * 2 + cell / 94, cell % 94 + 0x21)
  else none

/-- The code in rows and cells of a code of Shift JIS. -/
def rowCellCode? (a b : UInt8) : Option Nat :=
  (rowCell? a b).map fun (row, cell) => (row + 0x21) * 256 + cell

def shiftJisStep (a : UInt8) (rest : List UInt8) : Option (List Char × Nat) :=
  match halfKana? a with
  | some c => some ([c], 0)
  | none => doubleStep (fun a b => do single (jisX0208.char? (← rowCellCode? a b))) a rest

/-- The characters of the user on code page 932. -/
def userChar? (a b : UInt8) : Option Char := do
  if a < 0xF0 ∨ 0xF9 < a then none
  else
    let (row, cell) ← rowCell? a b
    scalar? (0xE000 + (row - 94) * 94 + (cell - 0x21))

def cp932Step (a : UInt8) (rest : List UInt8) : Option (List Char × Nat) :=
  match halfKana? a with
  | some c => some ([c], 0)
  | none =>
    if a = 0x80 then some (['\u0080'], 0)
    else if a = 0xA0 then some (['\uf8f0'], 0)
    else if 0xFD ≤ a then some ([Char.ofNat (0xF8F1 + (a.toNat - 0xFD))], 0)
    else doubleStep (fun a b => single <| (cp932Signs.char? (code a b)).or <|
      (userChar? a b).or <| do jisX0208.char? (← rowCellCode? a b)) a rest

/-- The rows of the second plane in the order in which Shift JIS folds them. -/
def secondPlaneRows : List Nat :=
  [0x21, 0x28, 0x23, 0x24, 0x25, 0x2C, 0x2D, 0x2E, 0x2F] ++ (List.range 17).map (· + 0x6E)

def shiftJis2004Step (edition : Edition) (a : UInt8) (rest : List UInt8) :
    Option (List Char × Nat) :=
  if a < 0x80 then some ([roman a], 0)
  else match halfKana? a with
  | some c => some ([c], 0)
  | none => doubleStep (fun a b => do
      if code a b = 0x815F then return ['\\']
      else if code a b = 0x81B0 then return ['~']
      else if a < 0xF0 then firstPlane? edition (← rowCellCode? a b)
      else
        let (row, cell) ← rowCell? a b
        single (secondPlane? edition ((← secondPlaneRows[row - 94]?) * 256 + cell))) a rest

def euc2004Step (edition : Edition) : UInt8 → List UInt8 → Option (List Char × Nat) :=
  eucStep (firstPlane? edition) fun code =>
    (secondPlane? edition code).or (jisX0212.char? code)

def charsets : List Charset := [
  ⟨"euc_jp", ["eucjp", "u_jis", "ujis"],
    decodeBy (eucStep (fun code => single (jisX0208.char? code)) jisX0212.char?)⟩,
  ⟨"euc_jis_2004", ["euc_jis2004", "eucjis2004", "jisx0213"], decodeBy (euc2004Step .second)⟩,
  ⟨"euc_jisx0213", ["eucjisx0213"], decodeBy (euc2004Step .first)⟩,
  ⟨"shift_jis", ["csshiftjis", "s_jis", "shiftjis", "sjis", "x_mac_japanese"],
    decodeBy shiftJisStep⟩,
  ⟨"cp932", ["932", "ms932", "ms_kanji", "mskanji"], decodeBy cp932Step⟩,
  ⟨"shift_jis_2004", ["s_jis_2004", "shiftjis2004", "sjis_2004"],
    decodeBy (shiftJis2004Step .second)⟩,
  ⟨"shift_jisx0213", ["s_jisx0213", "shiftjisx0213", "sjisx0213"],
    decodeBy (shiftJis2004Step .first)⟩]

end TraceLens.Charset.Japanese
