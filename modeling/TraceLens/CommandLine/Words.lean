import TraceLens.Text.Digit
import TraceLens.Text.Quoted

/-!
# Words of a command line

A grammar has options and one positional argument. Words are first told apart: an option by its
name, by a beginning of its long name that no other option shares, or by its one-letter name with
the value attached; the rest are arguments. A word `--` makes arguments of all words after it.
Then options and arguments are taken in order; what nobody takes is left over.
-/

namespace TraceLens.CommandLine

/-- Why reading a command line ends early: what is printed, and the status. -/
structure Stop where
  status : Nat
  output : String := ""
  errors : String := ""
  deriving DecidableEq, Repr

/-- An option of a grammar, told by a tag of type `ω`. -/
structure OptionSpec (ω : Type) where
  tag : ω
  names : List String
  takesValue : Bool
  deriving Repr

/-- The name of an option in error messages. -/
def OptionSpec.title {ω : Type} (o : OptionSpec ω) : String := "/".intercalate o.names

/-- A value that stands in the same word as its option. -/
inductive Attached where
  | nothing
  /-- After a long name and an equals sign. -/
  | toName (value : String)
  /-- After the letter of the option, where an equals sign may stand between. -/
  | toLetter (value : String)
  deriving DecidableEq, Repr

/-- What a word is. An option that the grammar does not know has no `spec`. -/
inductive WordRole (ω : Type) where
  | argument
  | separator
  | option (spec : Option (OptionSpec ω)) (attached : Attached)

/-- The options in one word: those that are complete, and one that may still take the next word as
its value. -/
structure Bundle (ω : Type) where
  taken : List (OptionSpec ω × Option String) := []
  last : Option (OptionSpec ω) := none

/-- What reading a command line needs to know, where `σ` is what has been read so far. -/
structure Grammar (ω σ : Type) where
  options : List (OptionSpec ω)
  /-- Whether the positional argument takes all words from itself on. -/
  takesRest : Bool
  /-- Take an option with its value, which may be missing even if the option takes one. -/
  takeOption : OptionSpec ω → Option String → σ → Except Stop σ
  /-- Take the words of the positional argument. -/
  takeArgument : List String → σ → Except Stop σ
  /-- The end of the program on a misused command line. -/
  misuse : String → Stop

namespace Grammar

variable {ω σ : Type} (g : Grammar ω σ)

/-- The options with each of their names. -/
def named : List (String × OptionSpec ω) :=
  g.options.flatMap fun o => o.names.map fun name => (name, o)

def find? (name : String) : Option (OptionSpec ω) :=
  (g.named.find? fun entry => entry.1 = name).map Prod.snd

/-- A word cut at its first equals sign. -/
def cutAtEquals (word : String) : String × Option String :=
  let cs := word.toList
  let name := cs.takeWhile (· != '=')
  (String.ofList name,
    if name.length < cs.length then some (String.ofList (cs.drop (name.length + 1))) else none)

/-- The options that a word which is no full name may stand for. -/
def candidates (word : String) : List (String × OptionSpec ω × Attached) :=
  match word.toList with
  | '-' :: '-' :: _ =>
    let (start, value) := cutAtEquals word
    let attached := (value.map Attached.toName).getD .nothing
    (g.named.filter fun entry => start.toList.isPrefixOf entry.1.toList).map fun (name, o) =>
      (name, o, attached)
  | '-' :: letter :: value =>
    g.named.filterMap fun (name, o) =>
      if name = String.ofList ['-', letter] then some (name, o, .toLetter (String.ofList value))
      else if word.toList.isPrefixOf name.toList then some (name, o, .nothing)
      else none
  | _ => []

/-- What a word is that does not stand after `--`. -/
def roleOf (word : String) : Except Stop (WordRole ω) :=
  match word.toList with
  | '-' :: _ :: _ =>
    match g.find? word with
    | some o => .ok (.option (some o) .nothing)
    | none =>
      let (start, value) := cutAtEquals word
      match value, g.find? start with
      | some value, some o =>
        .ok (.option (some o) (if start.length = 2 then .toLetter value else .toName value))
      | _, _ =>
        match g.candidates word with
        | [] =>
          if Digit.looksNegative word || word.toList.contains ' ' then .ok .argument
          else .ok (.option none .nothing)
        | [(_, o, attached)] => .ok (.option (some o) attached)
        | several =>
          .error (g.misuse ("ambiguous option: " ++ word ++ " could match " ++
            ", ".intercalate (several.map fun c => c.1)))
  | _ => .ok .argument

/-- Tell what each word is. -/
def classify : List String → Except Stop (List (String × WordRole ω))
  | [] => .ok []
  | word :: rest =>
    if word = "--" then .ok ((word, .separator) :: rest.map fun w => (w, .argument))
    else do return (word, ← g.roleOf word) :: (← classify rest)

/-- The end of the program when an option that takes no value has one attached. -/
def refuse (o : OptionSpec ω) (value : String) : Stop :=
  g.misuse ("argument " ++ o.title ++ ": ignored explicit argument " ++ Quoted.quote value)

/-- The options in the letters that are attached to the letter of an option `o`. Options without
a value can share a word. -/
def unbundle (o : OptionSpec ω) : List Char → Except Stop (Bundle ω)
  | [] => if o.takesValue then .ok { taken := [(o, some "")] } else .error (g.refuse o "")
  | letter :: more =>
    let value := String.ofList (letter :: more)
    if o.takesValue then .ok { taken := [(o, some value)] }
    else
      match g.find? (String.ofList ['-', letter]), more with
      | none, _ => .error (g.refuse o value)
      | some o', [] => .ok { taken := [(o, none)], last := some o' }
      | some o', next :: more => do
        let bundle ← unbundle o' (next :: more)
        return { bundle with taken := (o, none) :: bundle.taken }

/-- The options in one word. -/
def bundle (o : OptionSpec ω) : Attached → Except Stop (Bundle ω)
  | .nothing => .ok { last := some o }
  | .toName value =>
    if o.takesValue then .ok { taken := [(o, some value)] } else .error (g.refuse o value)
  | .toLetter value => g.unbundle o value.toList

/-- Take the options of one word, where `next` is the following argument. The result tells
whether that argument has been taken too. A value `--` counts as none. -/
def takeWord (o : OptionSpec ω) (attached : Attached) (next : Option String) (state : σ) :
    Except Stop (σ × Bool) := do
  let bundle ← g.bundle o attached
  let (last, used) ← match bundle.last with
    | none => pure ([], false)
    | some o =>
      if o.takesValue then
        match next with
        | some value => pure ([(o, some value)], true)
        | none => throw (g.misuse ("argument " ++ o.title ++ ": expected one argument"))
      else pure ([(o, none)], false)
  let state ← (bundle.taken ++ last).foldlM
    (fun state (o, value) => g.takeOption o (value.filter (· ≠ "--")) state) state
  return (state, used)

/-- The next word if it is an argument. -/
def argument? : List (String × WordRole ω) → Option String
  | (word, .argument) :: _ => some word
  | _ => none

/-- The words that the positional argument takes from the front, and the rest: leading
separators, the argument, and a separator after it. -/
def positional? (takesRest : Bool) :
    List (String × WordRole ω) → Option (List String × List (String × WordRole ω))
  | (word, .argument) :: (word', role) :: rest =>
    if takesRest then some (word :: word' :: rest.map Prod.fst, [])
    else match role with
      | .separator => some ([word], rest)
      | _ => some ([word], (word', role) :: rest)
  | [(word, .argument)] => some ([word], [])
  | (_, .separator) :: (word, .argument) :: rest =>
    if takesRest then some ("--" :: word :: rest.map Prod.fst, []) else some ([word], rest)
  | _ => none

/-- Take words from the front until none is left. The flag tells whether the positional argument
is still to come; the result tells whether it has come, and which words are left over. -/
def takeAll (waiting : Bool) (state : σ) :
    List (String × WordRole ω) → Nat → Except Stop (σ × Bool × List String)
  | [], _ | _ :: _, 0 => .ok (state, waiting, [])
  | (word, .option none _) :: rest, fuel + 1 => do
    let (state, waiting, left) ← takeAll waiting state rest fuel
    return (state, waiting, word :: left)
  | (_, .option (some o) attached) :: rest, fuel + 1 => do
    let (state, used) ← g.takeWord o attached (argument? rest) state
    takeAll waiting state (if used then rest.drop 1 else rest) fuel
  | (word, role) :: rest, fuel + 1 =>
    match if waiting then positional? g.takesRest ((word, role) :: rest) else none with
    | some (words, rest) => do
      let state ← g.takeArgument words state
      takeAll false state rest fuel
    | none => do
      let (state, waiting, left) ← takeAll waiting state rest fuel
      return (state, waiting, word :: left)

/-- Read the words of a command line. The positional argument, called `name`, must be there. -/
def read (name : String) (start : σ) (words : List String) : Except Stop (σ × List String) := do
  let roles ← g.classify words
  let (state, waiting, left) ← g.takeAll true start roles roles.length
  if waiting then throw (g.misuse ("the following arguments are required: " ++ name))
  return (state, left)

end Grammar

end TraceLens.CommandLine
