import TraceLens.CommandLine.Program

/-!
# The command line

Reads the files that a command line names, runs the program on them, prints what it reports and
writes the files that it has changed. No tracer and no layout program are attached: a script is
taken to run without any event, and a layout process cannot be started.
-/

namespace TraceLens.Main

open CommandLine

/-- The directory that a path leads through last. -/
def parent (path : String) : String :=
  match (Disk.rawSteps path).dropLast with
  | [] => "."
  | [""] => "/"
  | steps => "/".intercalate steps

/-- The paths that a command line names. -/
def namedPaths (words : List String) : List String :=
  match Options.ofWords words with
  | .error _ => []
  | .ok options =>
    let output := match options.command with
      | .steps => none
      | .render asked => asked.output
    (options.file :: output.toList).map Path.normal

/-- The files of the directory of a path, without their content. -/
def siblings (path : String) : IO (List (String × List UInt8)) := do
  try
    let entries ← ((← IO.currentDir) / parent path).readDir
    return entries.toList.map fun e => (parent path ++ "/" ++ e.fileName, [])
  catch _ => return []

/-- A file with its content, if it can be read. -/
def readFile (path : String) : IO (List (String × List UInt8)) := do
  try
    return [(path, (← IO.FS.readBinFile path).toList)]
  catch _ => return []

/-- What is known of the disk for a command line. -/
def readDisk (words : List String) : IO Disk := do
  let paths := namedPaths words
  let around ← paths.mapM siblings
  let named ← paths.mapM readFile
  return Disk.ofList (around.flatten ++ named.flatten)

def environment (disk : Disk) : Environment where
  session _ := {}
  disk := disk
  scan := Token.scanScript
  layout request := Layout.render request (.unstarted 2)
  paths := {}

/-- Run the program; the result is its status. -/
def run (words : List String) : IO UInt32 := do
  let disk ← readDisk words
  let report := CommandLine.run (environment disk) words
  IO.print report.output
  IO.eprint report.errors
  for (path, content) in Disk.changes disk report.disk do
    IO.FS.writeBinFile path ⟨content.toArray⟩
  match report.status with
  | .ok status => return status.toUInt32
  | .error failure =>
    IO.eprintln failure.message
    return 1

end TraceLens.Main

def main (words : List String) : IO UInt32 := TraceLens.Main.run words
