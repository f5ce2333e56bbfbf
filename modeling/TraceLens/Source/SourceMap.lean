import TraceLens.Graph.Span
import TraceLens.Source.Disk
import TraceLens.Source.Encoding

/-!
# The source map

The text of each file that a span can name: a registered text first, and otherwise the file on
the disk. The text of a file ends in a line feed; an empty file counts as not readable.

Main statement: `text_add_self` says that a registered text is the one found.
-/

namespace TraceLens

structure SourceMap where
  texts : Table String String := {}
  disk : Disk := {}

namespace SourceMap

def add (m : SourceMap) (file text : String) : SourceMap :=
  { m with texts := m.texts.insert file text }

/-- Whether a name stands for code that comes from no file. -/
def isGenerated (file : String) : Bool :=
  let chars := file.toList
  chars.head? == some '<' && chars.getLast? == some '>'

/-- The text of a file on the disk. A relative name is looked for in the working directory alone. Of
the contents that are no text, only undecodable bytes make a file unreadable. -/
def diskText (disk : Disk) (file : String) : Except Failure String :=
  let unreadable : Except Failure String := .error (.source (.unreadable file))
  match disk.read file with
  | .error .nulInPath => .error .nulInPath
  | .error _ => unreadable
  | .ok content =>
    match Encoding.scriptText content with
    | .error .undecodable => unreadable
    | .error fault => .error (.charset fault)
    | .ok text =>
      if text = "" then unreadable
      else if text.toList.getLast? = some '\n' then .ok text
      else .ok (text ++ "\n")

def text (m : SourceMap) (file : String) : Except Failure String :=
  match m.texts.find? file with
  | some text => .ok text
  | none =>
    if isGenerated file then .error (.source (.generated file)) else diskText m.disk file

theorem text_add_self (m : SourceMap) (file text : String) :
    (m.add file text).text file = .ok text := by
  simp [SourceMap.text, add]

end SourceMap

end TraceLens
