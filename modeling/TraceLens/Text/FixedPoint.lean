/-!
# Decimals with one place

A binary floating-point number is written with one decimal place, rounded from its exact value;
a value half-way between two decimals goes to the even one. A number without a fraction is also
read as an integer.
-/

namespace TraceLens.FixedPoint

/-- The quotient `num / den` rounded to the nearest natural number, ties to even. -/
def roundDiv (num den : Nat) : Nat :=
  let q := num / den
  let r := num % den
  if 2 * r < den then q
  else if den < 2 * r then q + 1
  else if q % 2 = 0 then q else q + 1

/-- The magnitude of a finite number as `mantissa * 2 ^ exponent`. -/
def magnitude (bits : UInt64) : Nat × Int :=
  let fraction : Nat := bits.toNat % (1 <<< 52)
  let exponent : Nat := (bits.toNat >>> 52) % (1 <<< 11)
  if exponent = 0 then (fraction, -1074) else ((1 <<< 52) + fraction, (exponent : Int) - 1075)

/-- The integer that a finite number equals, if there is one. -/
def toInt? (x : Float) : Option Int :=
  let (m, e) := magnitude x.toBits
  let sign : Int := if x.toBits.toNat >>> 63 = 1 then -1 else 1
  if 0 ≤ e then some (sign * (m <<< e.toNat : Nat))
  else if m % (1 <<< (-e).toNat) = 0 then some (sign * (m >>> (-e).toNat : Nat))
  else none

/-- A finite number without its fraction. -/
def truncate (x : Float) : Int :=
  let (m, e) := magnitude x.toBits
  let whole := if 0 ≤ e then m <<< e.toNat else m >>> (-e).toNat
  if x.toBits.toNat >>> 63 = 1 then -(whole : Int) else whole

/-- Ten times a finite magnitude, rounded to the nearest natural number. -/
def tenths (bits : UInt64) : Nat :=
  match magnitude bits with
  | (m, e) => if 0 ≤ e then (m <<< e.toNat) * 10 else roundDiv (m * 10) (1 <<< (-e).toNat)

/-- A number with one decimal place. -/
def oneDecimal (x : Float) : String :=
  let bits := x.toBits
  let sign := if bits.toNat >>> 63 = 1 then "-" else ""
  if (bits.toNat >>> 52) % (1 <<< 11) = 2047 then
    if bits.toNat % (1 <<< 52) = 0 then sign ++ "inf" else "nan"
  else
    let n := tenths bits
    sign ++ toString (n / 10) ++ "." ++ toString (n % 10)

end TraceLens.FixedPoint
