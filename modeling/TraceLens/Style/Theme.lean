import TraceLens.Failure
import TraceLens.Style.Palette

/-!
# Themes

The themes that text can be shown in, and the style table of each.

Main statement: `ofValue?_value` reads a theme's value back.
-/

namespace TraceLens

inductive Theme where
  | solarizedDark
  | solarizedLight
  | monokai
  | friendly
  | plain
  deriving DecidableEq, Repr

/-- The styles of a theme, one per kind of token, and the style of text without a kind. -/
structure StyleTable where
  background : Option String
  default : TextStyle
  style? : String → Option TextStyle

namespace Theme

def all : List Theme := [solarizedDark, solarizedLight, monokai, friendly, plain]

/-- The name that settings use. -/
def value : Theme → String
  | solarizedDark => "solarized-dark"
  | solarizedLight => "solarized-light"
  | monokai => "monokai"
  | friendly => "friendly"
  | plain => "default"

/-- The name that menus use. -/
def label : Theme → String
  | solarizedDark => "SOLARIZED_DARK"
  | solarizedLight => "SOLARIZED_LIGHT"
  | monokai => "MONOKAI"
  | friendly => "FRIENDLY"
  | plain => "DEFAULT"

/-- The name that the command line uses. -/
def option (t : Theme) : String := t.label.map Char.toLower

def ofValue? (value : String) : Option Theme := all.find? fun t => t.value = value

def ofLabel? (label : String) : Option Theme := all.find? fun t => t.label = label

def ofOption? (option : String) : Option Theme := all.find? fun t => t.option = option

theorem ofValue?_value (t : Theme) : ofValue? t.value = some t := by
  cases t <;> decide

def ofValue (value : String) : Except Failure Theme :=
  match ofValue? value with
  | some theme => .ok theme
  | none => .error (.unknownTheme value)

def background : Theme → String
  | solarizedDark => "#002b36"
  | solarizedLight => "#fdf6e3"
  | monokai => "#272822"
  | friendly => "#f0f0f0"
  | plain => "#f8f8f8"

def palette : Theme → List Swatch
  | solarizedDark => Palette.solarizedDark
  | solarizedLight => Palette.solarizedLight
  | monokai => Palette.monokai
  | friendly => Palette.friendly
  | plain => Palette.plain

/-- The full path of a kind of token. `Token` at the front stands for the root of all kinds; right
below the root, `String` and `Number` are short for two kinds of literal. -/
def fullPath : List (List Char) → List (List Char)
  | [] => []
  | part :: rest =>
    if part = "Token".toList then fullPath rest
    else if part = "String".toList ∨ part = "Number".toList then "Literal".toList :: part :: rest
    else part :: rest

def fullKind (kind : String) : String :=
  String.ofList (['.'].intercalate (fullPath (kind.toList.splitOn '.')))

def style? (t : Theme) (kind : String) : Option TextStyle :=
  Palette.style? t.palette (fullKind kind)

/-- The styles of a theme; text without a kind is shown as plain text. -/
def styleTable (t : Theme) : StyleTable where
  background := some t.background
  default := (Palette.style? t.palette "Text").getD {}
  style? := t.style?

end Theme

end TraceLens
