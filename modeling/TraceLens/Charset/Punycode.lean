import TraceLens.Charset.Basic

/-!
# Punycode

ASCII characters come first, up to the last hyphen. After it, numbers in base 36 say where the
other characters go among them: a number counts places, in the order of code points and then of
positions. The first digits of a number weigh more or less as a bias says, which follows the
numbers read so far.
-/

namespace TraceLens.Charset.Punycode

def digit? (b : UInt8) : Option Nat :=
  let n := b.toNat
  if 0x41 ≤ n ∧ n ≤ 0x5A then some (n - 0x41)
  else if 0x61 ≤ n ∧ n ≤ 0x7A then some (n - 0x61)
  else if 0x30 ≤ n ∧ n ≤ 0x39 then some (n - 0x30 + 26)
  else none

/-- A digit below its threshold is the last of its number. -/
def threshold (place bias : Nat) : Nat :=
  max 1 (min 26 (36 * (place + 1) - bias))

/-- Read a number from its digits, the least weight first. -/
def number? (bias : Nat) (place weight sum : Nat) : List UInt8 → Option (Nat × List UInt8)
  | [] => none
  | b :: rest => do
    let digit ← digit? b
    let sum := sum + digit * weight
    let t := threshold place bias
    if digit < t then return (sum, rest)
    else number? bias (place + 1) (weight * (36 - t)) sum rest

theorem length_of_number? {bias place weight sum : Nat} {bytes rest : List UInt8} {n : Nat}
    (h : number? bias place weight sum bytes = some (n, rest)) : rest.length < bytes.length := by
  induction bytes generalizing place weight sum with
  | nil => simp [number?] at h
  | cons b bytes ih =>
    rw [number?] at h
    cases hd : digit? b with
    | none => simp [hd] at h
    | some digit =>
      simp only [hd, Option.bind_eq_bind, Option.bind_some] at h
      split at h
      · obtain ⟨-, rfl⟩ := Prod.mk.inj (Option.some.inj h)
        simp
      · exact Nat.lt_succ_of_lt (ih h)

/-- Divide a number by 35 until it is small, and count the divisions. -/
def reduce (delta divisions : Nat) : Nat × Nat :=
  if 455 < delta then reduce (delta / 35) (divisions + 1) else (delta, divisions)
termination_by delta

/-- The bias after a number, for so many characters. -/
def adapt (delta : Nat) (isFirst : Bool) (count : Nat) : Nat :=
  let delta := if isFirst then delta / 700 else delta / 2
  let (delta, divisions) := reduce (delta + delta / count) 0
  divisions * 36 + 36 * delta / (delta + 38)

/-- What is read so far: the next place for a character is `position` among `chars`. -/
structure Progress where
  chars : List Char
  codePoint : Nat := 0x80
  position : Nat := 0
  bias : Nat := 72
  isFirst : Bool := true

/-- Put the character in that a number of skipped places leads to. -/
def Progress.insert? (p : Progress) (delta : Nat) : Option Progress := do
  let count := p.chars.length + 1
  let place := p.position + delta
  let codePoint := p.codePoint + place / count
  let c ← codePoint? codePoint
  let position := place % count
  return ⟨p.chars.take position ++ c :: p.chars.drop position, codePoint, position + 1,
    adapt delta p.isFirst count, false⟩

def Progress.insertAll? (p : Progress) (bytes : List UInt8) : Option (List Char) :=
  match bytes with
  | [] => some p.chars
  | b :: rest =>
    match _h : number? p.bias 0 1 0 (b :: rest) with
    | none => none
    | some (delta, rest) => do (← p.insert? delta).insertAll? rest
termination_by bytes.length
decreasing_by exact length_of_number? _h

/-- The bytes before the last hyphen and those after it; all are after it if there is none. -/
def splitBasic (bytes : List UInt8) : List UInt8 × List UInt8 :=
  let after := (bytes.reverse.takeWhile (· != 0x2D)).reverse
  (bytes.take (bytes.length - after.length - 1), after)

def ascii? (bytes : List UInt8) : Except Fault (List Char) :=
  if bytes.all (· < 0x80) then .ok (bytes.map fun b => Char.ofNat b.toNat)
  else .error .undecodable

/-- Bytes that are no ASCII are undecodable; digits that do not fit make the whole unsuited. -/
def decode (bytes : List UInt8) : Except Fault (List Char) := do
  let (basic, extended) := splitBasic bytes
  let chars ← ascii? basic
  let _ ← ascii? extended
  match Progress.insertAll? { chars } extended with
  | some chars => return chars
  | none => .error .unsuited

def charset : Charset := ⟨"punycode", [], decode⟩

end TraceLens.Charset.Punycode
