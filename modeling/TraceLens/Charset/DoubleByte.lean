import TraceLens.Charset.CodeTable

/-!
# Codes of two bytes

Sets in which ASCII bytes stand for themselves and a higher byte begins a code of two bytes or
more. A standard set numbers its rows and cells from 33 to 126; the codes that show it add 128 to
both bytes, or fold two rows into one lead byte.
-/

namespace TraceLens.Charset

/-- The number of a code of two bytes. -/
def code (a b : UInt8) : Nat := a.toNat * 256 + b.toNat

/-- The row and cell of a code that has 128 added to both. -/
def upperCode (a b : UInt8) : Nat := (a.toNat - 0x80) * 256 + (b.toNat - 0x80)

/-- ASCII, and codes of two bytes. -/
def doubleStep (chars? : UInt8 → UInt8 → Option (List Char)) (a : UInt8) (rest : List UInt8) :
    Option (List Char × Nat) :=
  if a < 0x80 then some ([Char.ofNat a.toNat], 0)
  else match rest with
  | [] => none
  | b :: _ => (chars? a b).map fun chars => (chars, 1)

/-- A character as the whole of what a code stands for. -/
def single (char? : Option Char) : Option (List Char) := char?.map fun c => [c]

end TraceLens.Charset
