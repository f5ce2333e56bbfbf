import TraceLens.Text.CombiningClass
import TraceLens.Text.Composite

/-!
# The normal form of a text

Texts that look the same can differ in their characters: a letter with a mark may be one character
or two, and marks can follow their letter in more than one order. In normal form the marks after a
letter stand in the order of their combining classes, and whatever can be composed is composed.

`length_absorb_le` is why composing comes to an end.
-/

namespace TraceLens.NormalForm

/-- The parts of a character after so many steps; four are enough for every composite. -/
def decompose : Nat → Char → List Char
  | 0, c => [c]
  | steps + 1, c =>
    match Composite.parts? c with
    | none => [c]
    | some (first, second) => decompose steps first ++ [second]

/-- Put a character before others, and a mark behind the marks of lower classes among them. -/
def insertMark (c : Char) : List Char → List Char
  | [] => [c]
  | d :: ds =>
    if 0 < combiningClass d ∧ combiningClass d < combiningClass c then d :: insertMark c ds
    else c :: d :: ds

/-- The characters with the marks after each letter in the order of their classes. -/
def order (cs : List Char) : List Char := cs.foldr insertMark []

/-- Compose a character with what follows it, as far as nothing stands between them: a mark that
stays keeps those of its own class and of lower classes behind it away, and so does a letter. The
class is that of the last mark that stayed. -/
def absorb (first : Char) (kept : Nat) : List Char → Char × List Char
  | [] => (first, [])
  | c :: cs =>
    let value := combiningClass c
    if 0 < kept ∧ value = 0 then (first, c :: cs)
    else if 0 < kept ∧ value ≤ kept then
      let (whole, rest) := absorb first kept cs
      (whole, c :: rest)
    else match Composite.ofParts? first c with
      | some whole => absorb whole kept cs
      | none =>
        if value = 0 then (first, c :: cs)
        else
          let (whole, rest) := absorb first value cs
          (whole, c :: rest)

theorem length_absorb_le (first : Char) (kept : Nat) (cs : List Char) :
    (absorb first kept cs).2.length ≤ cs.length := by
  induction cs generalizing first kept with
  | nil => exact Nat.le_refl _
  | cons c cs ih =>
    simp only [absorb]
    split
    · exact Nat.le_refl _
    · split
      · exact Nat.succ_le_succ (ih first kept)
      · split
        · exact Nat.le_succ_of_le (ih _ kept)
        · split
          · exact Nat.le_refl _
          · exact Nat.succ_le_succ (ih first _)

/-- Compose all that can be composed. -/
def compose : List Char → List Char
  | [] => []
  | c :: cs => (absorb c 0 cs).1 :: compose (absorb c 0 cs).2
termination_by cs => cs.length
decreasing_by exact Nat.lt_succ_of_le (length_absorb_le c 0 cs)

/-- The normal form of a text. -/
def normalize (cs : List Char) : List Char := compose (order (cs.flatMap (decompose 4)))

end TraceLens.NormalForm
