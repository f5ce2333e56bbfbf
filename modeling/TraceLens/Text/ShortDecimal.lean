import TraceLens.Text.FixedPoint

/-!
# Shortest decimals

A binary floating-point number is written with as few digits as read back as the same number; of
the decimals with that many digits, the nearest is taken. What reads back as a number are the
numbers that are nearer to it than to its neighbours, an interval about it.
-/

namespace TraceLens

/-- The numbers that round to one binary number, `value`: they reach from `low` to `high`. All of
them are counted in parts, of which `unit` make a whole. -/
structure Rounding where
  low : Nat
  value : Nat
  high : Nat
  unit : Nat
  /-- Whether the ends round to the number, too. -/
  closed : Bool

namespace Rounding

/-- What rounds to `mantissa * 2 ^ exponent`. Below the least mantissa the neighbour is only half
as far away as above. -/
def ofMagnitude (mantissa : Nat) (exponent : Int) : Rounding :=
  let below := if mantissa = 1 <<< 52 ∧ -1074 < exponent then 1 else 2
  let up := (exponent - 2).toNat
  { low := (4 * mantissa - below) <<< up
    value := (4 * mantissa) <<< up
    high := (4 * mantissa + 2) <<< up
    unit := 1 <<< (2 - exponent).toNat
    closed := mantissa % 2 = 0 }

/-- The same numbers, with the decimal point moved to the right. -/
def shift (r : Rounding) (places : Int) : Rounding :=
  let factor := Nat.pow 10 places.toNat
  { r with
    low := r.low * factor
    value := r.value * factor
    high := r.high * factor
    unit := r.unit * Nat.pow 10 (-places).toNat }

/-- Whether a whole number is among the numbers. -/
def holds (r : Rounding) (n : Nat) : Bool :=
  if r.closed then r.low ≤ n * r.unit && n * r.unit ≤ r.high
  else r.low < n * r.unit && n * r.unit < r.high

/-- The whole number among the numbers that is nearest to their value. -/
def whole? (r : Rounding) : Option Nat :=
  let below := r.value / r.unit
  [FixedPoint.roundDiv r.value r.unit, below, below + 1].find? r.holds

/-- The number of digits before the decimal point; zeros behind it count as less than none. -/
def size (r : Rounding) : Int :=
  (Nat.toDigits 10 (r.value * Nat.pow 10 400 / r.unit)).length - 400

/-- The shortest decimal that rounds to the number: its digits, and how many are behind the
point. Seventeen digits always do. -/
def decimal? (r : Rounding) : Option (Nat × Int) :=
  (List.range 17).findSome? fun (more : Nat) =>
    let places := (1 + more : Int) - r.size
    (r.shift places).whole?.map fun digits => (digits, places)

end Rounding

namespace ShortDecimal

/-- Digits with a decimal point; `point` is the number of digits before it, which may be too many
or less than none. Very large and very small numbers are written with a power of ten. -/
def write (digits : List Char) (point : Int) : List Char :=
  let before := digits.take point.toNat
  let behind := digits.drop point.toNat
  if -4 < point ∧ point ≤ 0 then
    '0' :: '.' :: List.replicate (-point).toNat '0' ++ digits
  else if 0 < point ∧ point ≤ 16 then
    before ++ List.replicate (point.toNat - digits.length) '0' ++
      '.' :: (if behind.isEmpty then ['0'] else behind)
  else
    let power := (point - 1).natAbs
    digits.take 1 ++ (if digits.length ≤ 1 then [] else '.' :: digits.drop 1) ++
      ['e', if point ≤ 0 then '-' else '+'] ++
      (if power < 10 then ['0'] else []) ++ Nat.toDigits 10 power

/-- A finite magnitude. -/
def ofMagnitude (mantissa : Nat) (exponent : Int) : List Char :=
  match if mantissa = 0 then none else (Rounding.ofMagnitude mantissa exponent).decimal? with
  | none => ['0', '.', '0']
  | some (digits, places) =>
    let shown := Nat.toDigits 10 digits
    write (shown.reverse.dropWhile (· == '0')).reverse (shown.length - places)

def ofBits (bits : UInt64) : String :=
  let sign := if bits.toNat >>> 63 = 1 then "-" else ""
  if (bits.toNat >>> 52) % (1 <<< 11) = 2047 then
    if bits.toNat % (1 <<< 52) = 0 then sign ++ "inf" else "nan"
  else
    let (mantissa, exponent) := FixedPoint.magnitude bits
    sign ++ String.ofList (ofMagnitude mantissa exponent)

def ofFloat (x : Float) : String := ofBits x.toBits

end ShortDecimal

end TraceLens
