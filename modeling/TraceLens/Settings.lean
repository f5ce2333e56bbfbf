import TraceLens.Style.Theme
import TraceLens.Table
import TraceLens.Text.Digit
import TraceLens.Text.FixedPoint

/-!
# Settings

What the user can set about rendering and recording, how raw values are checked, and what follows
from the settings: the style of the marker and the aliases of well-known directories.
-/

namespace TraceLens

structure Settings where
  theme : Theme := .solarizedDark
  language : String := "python"
  layoutEngine : String := "dot"
  font : String := "monospace"
  markerColor : String := "lightcoral"
  currentRowColor : String := "red"
  /-- Beginnings of paths with what stands for them in labels. -/
  pathAliases : Table String String := {}
  maxSteps : Int := 10000

/-- A key of a table in a configuration. -/
inductive SettingKey where
  | text (value : String)
  /-- A key that is no text, by how it is printed. -/
  | other (shown : String)
  deriving DecidableEq, Inhabited

def SettingKey.shown : SettingKey → String
  | .text value => value
  | .other shown => shown

/-- A value as it comes from a configuration or a control, before it is checked. -/
inductive SettingValue where
  | null
  | flag (value : Bool)
  | integer (value : Int)
  /-- A number with a point. -/
  | decimal (value : Float)
  | text (value : String)
  | items
  | table (entries : List (SettingKey × SettingValue))
  deriving Inhabited

namespace Settings

/-- A checked value, or what is wrong with it. -/
abbrev Checked (α : Type) := Except (List SettingFault) α

def fault {α : Type} (path : List String) (cause : SettingCause) : Checked α :=
  .error [⟨path, cause⟩]

/-- Check a value if it is given. -/
def check {α : Type} (values : List (String × SettingValue)) (name : String) (default : α)
    (read : List String → SettingValue → Checked α) : Checked α :=
  match values.lookup name with
  | none => .ok default
  | some value => read [name] value

def readText (path : List String) : SettingValue → Checked String
  | .text value => .ok value
  | _ => fault path .notText

def readTheme (path : List String) : SettingValue → Checked Theme
  | .text value => ((Theme.ofValue? value).map Except.ok).getD (fault path .notListed)
  | _ => fault path .notListed

/-- A text that starts with a zero, without the zeros in front of the first other digit or minus
sign, and without the underscores among them; where neither follows, the last of them stays. -/
def dropZeros (cs : List Char) : List Char :=
  let (zeros, rest) := cs.span fun c => c == '0' || c == '_'
  if cs.head? != some '0' then cs
  else if rest.head?.any fun c => c.isDigit || c == '-' then rest
  else zeros.getLast?.toList ++ rest

/-- A text without a fraction that consists of zeros. -/
def dropFraction (cs : List Char) : List Char :=
  match cs.span (· != '.') with
  | (whole, _ :: zeros) => if !zeros.isEmpty && zeros.all (· == '0') then whole else cs
  | (_, []) => cs

/-- A text without underscores, if each of them stands alone between other characters. -/
def dropUnderscores (cs : List Char) : List Char :=
  if (cs.splitOn '_').all fun run => !run.isEmpty then cs.filter (· != '_') else cs

/-- The digits of an integer after its sign. Zero is the only integer that starts with a zero. The
limit on its size counts the sign. -/
def readDigits (signs : Nat) (cs : List Char) : Except SettingCause Nat :=
  let digits := cs.takeWhile Char.isDigit
  match digits with
  | [] => .error .unreadableInteger
  | first :: more =>
    if first = '0' then if cs.length = 1 then .ok 0 else .error .unreadableInteger
    else if Digit.digitLimit < signs + digits.length then .error .tooLong
    else if digits.length < cs.length then .error .unreadableInteger
    else .ok (Digit.ofDigits (first :: more))

/-- An integer in plain decimal: an optional minus sign and digits. -/
def readPlain : List Char → Except SettingCause Int
  | '-' :: cs => (readDigits 1 cs).map fun n => -(n : Int)
  | cs => (readDigits 0 cs).map Int.ofNat

/-- A text in plain decimal, if it is an integer with blanks around it, a sign, zeros in front,
underscores between its digits, or a fraction of zeros. A digit must follow the sign. -/
def tidy (cs : List Char) : List Char :=
  let (sign, cs) := match Digit.dropPadding cs with
    | '-' :: rest => (['-'], rest)
    | '+' :: rest => ([], rest)
    | cs => ([], cs)
  if cs.head?.any Char.isDigit then sign ++ dropUnderscores (dropFraction (dropZeros cs)) else []

/-- An integer in decimal. Only one that is plain as it stands can be too long; one that has to be
tidied first is unreadable then. -/
def parseInteger (text : String) : Except SettingCause Int :=
  match readPlain text.toList with
  | .error .unreadableInteger =>
    (readPlain (tidy text.toList)).mapError fun _ => .unreadableInteger
  | result => result

/-- The bound on numbers with a point that are taken for integers. -/
def decimalLimit : Int := 1 <<< 63

/-- The integer that a number with a point stands for. -/
def ofDecimal (x : Float) : Except SettingCause Int :=
  if x.isFinite then
    match FixedPoint.toInt? x with
    | none => .error .fractional
    | some n => if -decimalLimit < n ∧ n < decimalLimit then .ok n else .error .tooLong
  else .error .infinite

def readInteger (path : List String) (value : SettingValue) : Checked Int :=
  let result : Except SettingCause Int := match value with
    | .integer value => .ok value
    | .flag value => .ok (if value then 1 else 0)
    | .decimal value => ofDecimal value
    | .text value => parseInteger value
    | _ => .error SettingCause.notInteger
  result.mapError fun cause => [⟨path, cause⟩]

def readLimit (path : List String) (value : SettingValue) : Checked Int := do
  let n ← readInteger path value
  if 0 < n then return n else fault path .tooSmall

/-- Two checked values; the faults of both count. -/
def both {α β γ : Type} (f : α → β → γ) : Checked α → Checked β → Checked γ
  | .ok a, .ok b => .ok (f a b)
  | .error e, .ok _ => .error e
  | .ok _, .error e => .error e
  | .error e, .error e' => .error (e ++ e')

/-- Check a key of a table; the fault of one that is no text is marked as the key's. -/
def readKey (path : List String) : SettingKey → Checked String
  | .text value => .ok value
  | .other shown => fault (path ++ [shown, "[key]"]) .notText

def readAliases (path : List String) : SettingValue → Checked (Table String String)
  | .table entries =>
    (entries.foldl (fun done (key, value) =>
      both (fun pairs pair => pairs ++ [pair]) done
        (both Prod.mk (readKey path key) (readText (path ++ [key.shown]) value)))
      (.ok [])).map Table.ofList
  | _ => fault path .notTable

/-- Check the values of a configuration; names that are no setting are passed over. -/
def ofValues (values : List (String × SettingValue)) : Except Failure Settings :=
  let start : Settings := {}
  let text (name : String) (default : String) := check values name default readText
  let named := both (fun (theme : Theme) language => { start with theme, language })
    (check values "theme" start.theme readTheme) (text "language" start.language)
  let drawn := both (fun (s : Settings) layoutEngine => { s with layoutEngine }) named
    (text "layout_engine" start.layoutEngine)
  let written := both (fun (s : Settings) font => { s with font }) drawn (text "font" start.font)
  let marked := both (fun (s : Settings) markerColor => { s with markerColor }) written
    (text "marker_color" start.markerColor)
  let colored := both (fun (s : Settings) currentRowColor => { s with currentRowColor }) marked
    (text "current_row_color" start.currentRowColor)
  let aliased := both (fun (s : Settings) pathAliases => { s with pathAliases }) colored
    (check values "path_aliases" start.pathAliases readAliases)
  let limited := both (fun (s : Settings) maxSteps => { s with maxSteps }) aliased
    (check values "max_steps" start.maxSteps readLimit)
  limited.mapError .invalidSettings

/-- The style of the marked span. -/
def markerStyle (s : Settings) : String :=
  "background-color: " ++ s.markerColor ++ "; border-radius: 5px; padding: 1px;"

/-- The directories of the system that have an alias, in the order in which they are looked at. -/
def systemDirectories : List (String × String) :=
  [("stdlib", "<python>/"), ("purelib", "<site-packages>/"), ("platlib", "<site-packages>/")]

/-- A directory with exactly one slash at its end. -/
def directoryStart (path : String) : String :=
  String.ofList (Blank.dropEndWhile (· == '/') path.toList) ++ "/"

/-- The aliases of the system's directories; one that has no path has no alias. -/
def systemAliases (paths : Table String (Option String)) : List (String × String) :=
  systemDirectories.filterMap fun (key, short) =>
    match (paths.find? key).join with
    | none => none
    | some path => if path = "" then none else some (directoryStart path, short)

/-- All aliases. A path that is given twice keeps its first place and takes its last alias. -/
def aliases (s : Settings) (paths : Table String (Option String)) : Table String String :=
  (Table.ofList (systemAliases paths)).insertAll s.pathAliases.entries

end Settings

end TraceLens
