import TraceLens.Bytecode.CodeGraph
import TraceLens.Recorder.Value

/-!
# Sessions

What happens while a script runs: it prints, comes to a line, or has an exception pass through a
line; at last it ends in one of several ways. Wherever the script can be looked at it has a
namespace, whose keys are names but for what the script itself has put there.
-/

namespace TraceLens

inductive Key where
  | text (name : String)
  /-- A key that is no text, with what it raises when it is asked how it starts. -/
  | other (error : ScriptError)
  deriving DecidableEq, Repr

structure Variable where
  key : Key
  value : Value
  /-- What going on from this variable to the next one raises, where showing its value has changed
  the namespace. -/
  upset : Option ScriptError := none

def Variable.name? (v : Variable) : Option String :=
  match v.key with
  | .text name => some name
  | .other _ => none

/-- The variables that the script can see, in their order. No two of them have one name. -/
structure Namespace where
  entries : List Variable := []
  nodup : (entries.filterMap Variable.name?).Nodup := by exact List.nodup_nil

namespace Namespace

/-- A namespace into which the pairs of a list are written one after the other. -/
def ofList (pairs : List (Key × Value)) : Namespace where
  entries := (Table.ofList pairs).entries.map fun (key, value) => { key, value }
  nodup := by
    refine List.pairwise_filterMap.2 (List.pairwise_map.2 ?_)
    refine (List.pairwise_map.1 (Table.nodup_keys_ofList pairs)).imp ?_
    rintro ⟨_ | _, _⟩ ⟨_ | _, _⟩ different name hname name' hname' rfl <;>
      simp_all [Variable.name?]

instance : Coe (List (String × Value)) Namespace :=
  ⟨fun pairs => ofList (pairs.map fun (name, value) => (.text name, value))⟩

end Namespace

/-- A moment at which the script can be looked at. -/
structure Moment where
  /-- The number of the code that is running. -/
  code : Nat
  /-- The offset of the last instruction that has started. -/
  offset : Int
  line : Option Int
  locals : Namespace

inductive Event where
  | print (text : String)
  | line (moment : Moment)
  | exception (moment : Moment)

inductive SessionEnd where
  | finished
  | raised (error : ScriptError)

structure Session where
  codes : List Bytecode.Code := []
  events : List Event := []
  ending : SessionEnd := .finished
  /-- Why the script cannot be compiled, if it cannot. -/
  compileError : Option ScriptError := none

end TraceLens
