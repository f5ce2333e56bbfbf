import TraceLens.Charset.CodeUnits

/-!
# UTF-7

ASCII stands for itself, and a plus sign begins a shift: base 64 digits whose bits, sixteen at a
time, are the units of UTF-16. The shift ends before the first byte that is no digit; a minus sign
there is dropped. `+-` is a plus sign. A surrogate without its other half is let through, but for
one that waits for it at the end of the bytes.
-/

namespace TraceLens.Charset.Utf7

/-- The value of a base 64 digit. -/
def digit? (b : UInt8) : Option Nat :=
  let n := b.toNat
  if 0x41 ≤ n ∧ n ≤ 0x5A then some (n - 0x41)
  else if 0x61 ≤ n ∧ n ≤ 0x7A then some (n - 0x61 + 26)
  else if 0x30 ≤ n ∧ n ≤ 0x39 then some (n - 0x30 + 52)
  else if n = 0x2B then some 62
  else if n = 0x2F then some 63
  else none

/-- What a shift has read and not yet used. -/
structure Shift where
  bits : Nat
  width : Nat
  /-- The first half of a pair of surrogates. -/
  high : Option Nat
  deriving DecidableEq, Repr

/-- The bits that are left at the end of a shift are fewer than a digit's, and zero. -/
def Shift.isClosed (s : Shift) : Bool := s.width < 6 && s.bits == 0

/-- The half of a pair of surrogates that waits for the other half. -/
def Shift.waiting (s : Shift) : List Char := s.high.toList.filterMap codePoint?

/-- Take a unit of UTF-16 into a shift in which none waits. -/
def Shift.takeFresh (s : Shift) (unit : Nat) : Option (List Char × Shift) :=
  if isHighSurrogate unit then some ([], { s with high := some unit })
  else (codePoint? unit).map fun c => ([c], s)

/-- Take a unit of UTF-16 into a shift. -/
def Shift.takeUnit (s : Shift) (unit : Nat) : Option (List Char × Shift) :=
  match s.high with
  | none => s.takeFresh unit
  | some high =>
    if isLowSurrogate unit then some ([pairChar high unit], { s with high := none })
    else
      (Shift.takeFresh { s with high := none } unit).map fun (cs, next) => (s.waiting ++ cs, next)

/-- Take a digit into a shift: with sixteen bits a unit is complete. -/
def Shift.takeDigit (s : Shift) (digit : Nat) : Option (List Char × Shift) :=
  let bits := s.bits * 64 + digit
  let width := s.width + 6
  if width < 16 then some ([], { s with bits, width })
  else
    let rest := 1 <<< (width - 16)
    Shift.takeUnit { s with bits := bits % rest, width := width - 16 } (bits / rest)

/-- Read bytes; a shift is given while one is open. -/
def decodeIn : Option Shift → List UInt8 → Option (List Char)
  | shift, [] => if shift.all fun s => s.isClosed && s.high.isNone then some [] else none
  | some s, b :: rest =>
    match digit? b with
    | some digit => do
      let (cs, s) ← s.takeDigit digit
      return cs ++ (← decodeIn (some s) rest)
    | none =>
      if !s.isClosed || 0x80 ≤ b then none
      else do
        let cs ← decodeIn none rest
        return s.waiting ++ if b = 0x2D then cs else Char.ofNat b.toNat :: cs
  | none, 0x2B :: 0x2D :: rest => do return '+' :: (← decodeIn none rest)
  | none, [0x2B] => some []
  | none, 0x2B :: next :: rest =>
    if (digit? next).isSome then decodeIn (some ⟨0, 0, none⟩) (next :: rest) else none
  | none, b :: rest =>
    if b < 0x80 then do return Char.ofNat b.toNat :: (← decodeIn none rest) else none
termination_by _ bytes => bytes.length

def decode (bytes : List UInt8) : Except Fault (List Char) :=
  match decodeIn none bytes with
  | some chars => .ok chars
  | none => .error .undecodable

end TraceLens.Charset.Utf7
