import TraceLens.Charset.DoubleByte
import TraceLens.Charset.Table.KsX1001

/-!
# Korean character sets

KS X 1001 holds the usual syllables. The extended code spells any other one by its letters, code
page 949 gives the others codes of their own, in the order of their code points, and Johab writes
every syllable as three letters of five bits.
-/

namespace TraceLens.Charset.Korean

def initials : List Char := "ㄱㄲㄴㄷㄸㄹㅁㅂㅃㅅㅆㅇㅈㅉㅊㅋㅌㅍㅎ".toList

def medials : List Char := "ㅏㅐㅑㅒㅓㅔㅕㅖㅗㅘㅙㅚㅛㅜㅝㅞㅟㅠㅡㅢㅣ".toList

def finals : List Char := "ㄱㄲㄳㄴㄵㄶㄷㄹㄺㄻㄼㄽㄾㄿㅀㅁㅂㅄㅅㅆㅇㅈㅊㅋㅌㅍㅎ".toList

/-- The syllable of an initial, a medial and a final, which is zero if there is none. -/
def syllable (initial medial final : Nat) : Char :=
  Char.ofNat (0xAC00 + (initial * 21 + medial) * 28 + final)

def filler : Char := '\u3164'

/-- A syllable spelt by the letters after a filler. -/
def spelt? : List Char → Option Char
  | [first, second, third] => do
    let initial ← initials.idxOf? first
    let medial ← medials.idxOf? second
    if third = filler then return syllable initial medial 0
    else return syllable initial medial ((← finals.idxOf? third) + 1)
  | _ => none

/-- The letters at the front of some bytes, each of two. -/
def letters? : Nat → List UInt8 → Option (List Char)
  | 0, _ => some []
  | n + 1, 0xA4 :: b :: rest => do
    let c ← ksX1001.char? (upperCode 0xA4 b)
    return c :: (← letters? n rest)
  | _, _ => none

def eucStep (a : UInt8) (rest : List UInt8) : Option (List Char × Nat) :=
  match a, rest with
  | 0xA4, 0xD4 :: rest => do return ([← spelt? (← letters? 3 rest)], 7)
  | a, rest => doubleStep (fun a b => single (ksX1001.char? (upperCode a b))) a rest

/-- The syllables that KS X 1001 lacks. -/
def rareSyllables : Array Char := ksX1001.lacking 0xAC00 11172

/-- The cell of a second byte: letters first, then the bytes from 0x81 on. -/
def cell? (b : UInt8) : Option Nat :=
  if 0x41 ≤ b ∧ b ≤ 0x5A then some (b.toNat - 0x41)
  else if 0x61 ≤ b ∧ b ≤ 0x7A then some (b.toNat - 0x61 + 26)
  else if 0x81 ≤ b ∧ b ≤ 0xFE then some (b.toNat - 0x81 + 52)
  else none

/-- The place of a code among those for rare syllables: whole rows first, then the 84 cells of a
row before those of KS X 1001. -/
def rarePlace? (a b : UInt8) : Option Nat := do
  let cell ← cell? b
  if a < 0x81 then none
  else if a ≤ 0xA0 then return (a.toNat - 0x81) * 178 + cell
  else if cell < 84 then return 32 * 178 + (a.toNat - 0xA1) * 84 + cell
  else none

def cp949Chars? (a b : UInt8) : Option (List Char) :=
  single <| (ksX1001.char? (upperCode a b)).or <| do rareSyllables[← rarePlace? a b]?

/-- A letter of five bits. -/
inductive Letter where
  | filler
  | letter (place : Nat)
  deriving DecidableEq, Repr

def initial? (n : Nat) : Option Letter :=
  if n = 1 then some .filler
  else if 2 ≤ n ∧ n ≤ 20 then some (.letter (n - 2))
  else none

/-- Medials stand in groups of six, from the second or third number of eight on. -/
def medial? (n : Nat) : Option Letter :=
  if n = 2 then some .filler
  else if 3 ≤ n ∧ n ≤ 29 ∧ 2 ≤ n % 8 then some (.letter (n / 8 * 6 + n % 8 - 3))
  else none

/-- Finals skip the number 18. -/
def final? (n : Nat) : Option Letter :=
  if n = 1 then some .filler
  else if 2 ≤ n ∧ n ≤ 17 then some (.letter (n - 2))
  else if 19 ≤ n ∧ n ≤ 29 then some (.letter (n - 3))
  else none

/-- A whole syllable, or a letter that stands alone. -/
def joined? : Letter → Letter → Letter → Option Char
  | .letter i, .letter m, .letter f => some (syllable i m (f + 1))
  | .letter i, .letter m, .filler => some (syllable i m 0)
  | .letter i, .filler, .filler => initials[i]?
  | .filler, .letter m, .filler => medials[m]?
  | .filler, .filler, .letter f => finals[f]?
  | .filler, .filler, .filler => some '\u3000'
  | _, _, _ => none

/-- Johab folds two rows of signs and ideographs into one lead byte. -/
def johabRow? (a : UInt8) : Option Nat :=
  if 0xD9 ≤ a ∧ a ≤ 0xDE then some (2 * (a.toNat - 0xD9) + 0x21)
  else if 0xE0 ≤ a ∧ a ≤ 0xF9 then some (2 * (a.toNat - 0xE0) + 0x4A)
  else none

def johabCell? (b : UInt8) : Option Nat :=
  if 0x31 ≤ b ∧ b ≤ 0x7E then some (b.toNat - 0x31)
  else if 0x91 ≤ b ∧ b ≤ 0xFE then some (b.toNat - 0x43)
  else none

def johabChar? (a b : UInt8) : Option Char := do
  if a < 0xD8 then
    let n := code a b
    joined? (← initial? (n / 1024 % 32)) (← medial? (n / 32 % 32)) (← final? (n % 32))
  else if a = 0xDA ∧ 0xA1 ≤ b ∧ b ≤ 0xD3 then none
  else
    let cell ← johabCell? b
    ksX1001.char? (((← johabRow? a) + cell / 94) * 256 + (cell % 94 + 0x21))

def charsets : List Charset := [
  ⟨"euc_kr", ["euckr", "korean", "ks_c_5601", "ks_c_5601_1987", "ks_x_1001", "ksc5601",
    "ksx1001", "x_mac_korean"], decodeBy eucStep⟩,
  ⟨"cp949", ["949", "ms949", "uhc"], decodeBy (doubleStep cp949Chars?)⟩,
  ⟨"johab", ["cp1361", "ms1361"], decodeBy (doubleStep fun a b => single (johabChar? a b))⟩]

end TraceLens.Charset.Korean
