/-!
# UTF-8

Bytes are read as characters, and the first place where they are no UTF-8 is reported: where it
starts, how many bytes it spans, and why. A code point above U+10FFFF, a surrogate and a form
longer than needed are refused at the byte that makes them one.
-/

namespace TraceLens.Utf8

inductive Reason where
  | invalidStart
  | invalidContinuation
  | unexpectedEnd
  deriving DecidableEq, Repr

def Reason.text : Reason → String
  | .invalidStart => "invalid start byte"
  | .invalidContinuation => "invalid continuation byte"
  | .unexpectedEnd => "unexpected end of data"

/-- The first bytes of an input that are no UTF-8. -/
structure Fault where
  first : UInt8
  start : Nat
  width : Nat
  reason : Reason
  deriving DecidableEq, Repr

private def hexByte (b : UInt8) : String :=
  String.ofList [Nat.digitChar (b.toNat / 16), Nat.digitChar (b.toNat % 16)]

def Fault.message (f : Fault) : String :=
  let place :=
    if f.width = 1 then "byte 0x" ++ hexByte f.first ++ " in position " ++ toString f.start
    else "bytes in position " ++ toString f.start ++ "-" ++ toString (f.start + f.width - 1)
  "'utf-8' codec can't decode " ++ place ++ ": " ++ f.reason.text

/-- What stands at the start of some bytes. -/
inductive Scan where
  /-- A character and the number of bytes after its first one. -/
  | char (c : Char) (more : Nat)
  /-- The width of the bytes that are refused. -/
  | fault (width : Nat) (reason : Reason)
  deriving Repr

def isContinuation (b : UInt8) : Bool := 0x80 ≤ b && b < 0xC0

/-- The second bytes that may follow a lead byte of a longer form. -/
def followsLead (lead second : UInt8) : Bool :=
  isContinuation second &&
    (lead != 0xE0 || 0xA0 ≤ second) && (lead != 0xED || second < 0xA0) &&
    (lead != 0xF0 || 0x90 ≤ second) && (lead != 0xF4 || second < 0x90)

def payload (b : UInt8) : Nat := b.toNat % 64

/-- Read one character whose first byte is `b`. -/
def scan (b : UInt8) (rest : List UInt8) : Scan :=
  if b < 0x80 then .char (Char.ofNat b.toNat) 0
  else if b < 0xC2 then .fault 1 .invalidStart
  else if b < 0xE0 then
    match rest with
    | [] => .fault 1 .unexpectedEnd
    | b₂ :: _ =>
      if isContinuation b₂ then .char (Char.ofNat (b.toNat % 32 * 64 + payload b₂)) 1
      else .fault 1 .invalidContinuation
  else if b < 0xF0 then
    match rest with
    | [] => .fault 1 .unexpectedEnd
    | b₂ :: rest =>
      if !followsLead b b₂ then .fault 1 .invalidContinuation
      else match rest with
      | [] => .fault 2 .unexpectedEnd
      | b₃ :: _ =>
        if isContinuation b₃ then
          .char (Char.ofNat ((b.toNat % 16 * 64 + payload b₂) * 64 + payload b₃)) 2
        else .fault 2 .invalidContinuation
  else if b < 0xF5 then
    match rest with
    | [] => .fault 1 .unexpectedEnd
    | b₂ :: rest =>
      if !followsLead b b₂ then .fault 1 .invalidContinuation
      else match rest with
      | [] => .fault 2 .unexpectedEnd
      | b₃ :: rest =>
        if !isContinuation b₃ then .fault 2 .invalidContinuation
        else match rest with
        | [] => .fault 3 .unexpectedEnd
        | b₄ :: _ =>
          if isContinuation b₄ then
            .char (Char.ofNat
              (((b.toNat % 8 * 64 + payload b₂) * 64 + payload b₃) * 64 + payload b₄)) 3
          else .fault 3 .invalidContinuation
  else .fault 1 .invalidStart

/-- Read bytes that start at position `start` of the whole input. -/
def decodeFrom (start : Nat) : List UInt8 → Except Fault (List Char)
  | [] => .ok []
  | b :: rest =>
    match scan b rest with
    | .fault width reason => .error ⟨b, start, width, reason⟩
    | .char c more => do
      let cs ← decodeFrom (start + more + 1) (rest.drop more)
      return c :: cs
termination_by bytes => bytes.length
decreasing_by simp only [List.length_drop, List.length_cons]; omega

def decode (bytes : List UInt8) : Except Fault String :=
  String.ofList <$> decodeFrom 0 bytes

def encode (text : String) : List UInt8 := text.toList.flatMap String.utf8EncodeChar

end TraceLens.Utf8
