/-!
# Character sets

A character set reads bytes as characters. Bytes that it cannot read are refused as a whole, for
one of three reasons. Most sets read their bytes from the left: a step reads what stands at the
front of the bytes and says what comes next.
-/

namespace TraceLens

/-- Why bytes are not read as text. -/
inductive Charset.Fault where
  /-- Some bytes stand for no character. -/
  | undecodable
  /-- The bytes as a whole do not have the form that the set asks for. -/
  | unsuited
  /-- The set gives bytes for bytes, or text for text. -/
  | notText
  deriving DecidableEq, Repr

structure Charset where
  name : String
  /-- Further names, each of which may also be written with points for its underscores. -/
  aliases : List String
  decode : List UInt8 → Except Charset.Fault (List Char)

namespace Charset

/-- What stands at the front of some bytes, and the state in which the rest is read. -/
structure Reading (σ : Type) where
  chars : List Char
  state : σ
  /-- The number of bytes read after the first one. -/
  more : Nat

/-- Read all bytes from the left, step by step. -/
def readAll {σ : Type} (step : σ → UInt8 → List UInt8 → Option (Reading σ)) (state : σ) :
    List UInt8 → Option (List Char)
  | [] => some []
  | b :: rest => do
    let reading ← step state b rest
    let chars ← readAll step reading.state (rest.drop reading.more)
    return reading.chars ++ chars
termination_by bytes => bytes.length
decreasing_by simp only [List.length_drop, List.length_cons]; omega

/-- A decoder from a step with a state. -/
def decodeFrom {σ : Type} (state : σ)
    (step : σ → UInt8 → List UInt8 → Option (Reading σ)) (bytes : List UInt8) :
    Except Fault (List Char) :=
  match readAll step state bytes with
  | some chars => .ok chars
  | none => .error .undecodable

/-- A decoder from a step that needs no state. -/
def decodeBy (step : UInt8 → List UInt8 → Option (List Char × Nat)) :
    List UInt8 → Except Fault (List Char) :=
  decodeFrom () fun _ b rest => (step b rest).map fun (chars, more) => ⟨chars, (), more⟩

/-- The character of a code point, if it is one. -/
def scalar? (n : Nat) : Option Char :=
  if n < 0xD800 ∨ (0xDFFF < n ∧ n < 0x110000) then some (Char.ofNat n) else none

def isSurrogate (n : Nat) : Bool := 0xD800 ≤ n && n < 0xE000

/-- The character of a code point that may be a surrogate. A surrogate is no character by itself;
the private-use character 0x100000 above it stands for it. -/
def codePoint? (n : Nat) : Option Char :=
  if isSurrogate n then some (Char.ofNat (n + 0x100000)) else scalar? n

end Charset

end TraceLens
