import TraceLens.Charset.Basic

/-!
# Code tables

The characters of a coded set as runs: each has the code of its first character, and the codes of
the others follow on. Of two runs that hold a code the first decides, so that a set which differs
from another in a few places is a list of changes before the other's runs. U+FFFD in a run says
that a code stands for no character.

Main statement: `find?_amend` says that a table laid over another one decides where it speaks.
-/

namespace TraceLens

/-- Runs of at most 256 characters. -/
structure CodeTable where
  runs : List (Nat × String)

namespace CodeTable

def runFind? (code : Nat) (run : Nat × String) : Option Char :=
  if run.1 ≤ code ∧ code < run.1 + 256 then run.2.toList[code - run.1]? else none

/-- What the table says about a code, U+FFFD included. -/
def find? (t : CodeTable) (code : Nat) : Option Char :=
  t.runs.findSome? (runFind? code)

/-- The character that a code stands for. -/
def char? (t : CodeTable) (code : Nat) : Option Char :=
  (t.find? code).filter (· != '\ufffd')

/-- Changes laid over a table. -/
def amend (changes : List (Nat × String)) (t : CodeTable) : CodeTable :=
  ⟨changes ++ t.runs⟩

theorem find?_amend (changes : List (Nat × String)) (t : CodeTable) (code : Nat) :
    (t.amend changes).find? code = ((CodeTable.mk changes).find? code).or (t.find? code) := by
  simp [amend, find?, List.findSome?_append]

/-- Bytes of which each is a character: the table's, or else that of Latin 1. -/
def byteChar? (t : CodeTable) (b : UInt8) : Option Char :=
  ((t.find? b.toNat).or (some (Char.ofNat b.toNat))).filter (· != '\ufffd')

def decodeBytes (t : CodeTable) (bytes : List UInt8) : Except Charset.Fault (List Char) :=
  match bytes.mapM t.byteChar? with
  | some chars => .ok chars
  | none => .error .undecodable

/-- The characters of a range of code points that the table has no code for, in order. -/
def lacking (t : CodeTable) (first count : Nat) : Array Char :=
  let marked := t.runs.foldl (fun marked run =>
    run.2.foldl (fun marked c =>
      if first ≤ c.toNat then marked.setIfInBounds (c.toNat - first) true else marked) marked)
    (Array.replicate count false)
  ((List.range count).filter fun i => !marked.getD i false).toArray.map fun i =>
    Char.ofNat (first + i)

end CodeTable

end TraceLens
