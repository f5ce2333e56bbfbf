import TraceLens.Table

/-!
# Elements of the workbench

What a workbench shows, and where: on the page itself or inside a container. Containers of one
kind come in groups, and both the groups and the containers of a group are numbered.
-/

namespace TraceLens.Workbench

inductive Container where
  | sidebar
  | column (group number : Nat)
  | tab (group number : Nat)
  deriving DecidableEq, Repr

def Container.name : Container → String
  | sidebar => "sidebar"
  | column group number => "columns" ++ toString group ++ "." ++ toString number
  | tab group number => "tabs" ++ toString group ++ "." ++ toString number

/-- A place: the containers around it, outermost first. -/
abbrev Place := List Container

def Place.path (place : Place) : String := "/".intercalate (place.map Container.name)

/-- The settings of the text editor. -/
structure EditorSettings where
  /-- The text that the editor starts with. -/
  value : String
  language : String := "python"
  theme : String := "tomorrow_night_eighties"
  minLines : Nat := 16
  maxLines : Nat := 32
  autoUpdate : Bool := true
  key : String := "ace_python"
  deriving DecidableEq, Repr

inductive Element where
  | pageSettings (title layout : String)
  | title (text : String)
  | caption (text : String)
  | header (text : String)
  | error (text : String)
  | info (text : String)
  | editor (settings : EditorSettings)
  | selectBox (label : String) (options : List String) (index : Nat)
  | numberInput (label : String) (min max value step : Int)
  | columns (count : Nat)
  | tabs (labels : List String)
  | button (label : String)
  | slider (label : String) (min max value : Int)
  | multiselect (label : String) (options : List Nat)
  /-- A text with markup of its own, which may hold that of the page. -/
  | markdown (text : String) (pageMarkup : Bool)
  | frame (markup : String) (height : Nat) (scrolling : Bool)
  | metric (label value : String)
  | code (text language : String)
  | table (entries : Table String String)
  deriving Repr

end TraceLens.Workbench
