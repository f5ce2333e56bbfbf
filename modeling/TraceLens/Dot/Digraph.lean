import TraceLens.Dot.Identifier

/-!
# Directed graphs in the DOT language

A graph has a name, a font, nodes drawn by their labels alone, and edges with labels. Its text
lists all nodes before all edges.

Main statement: `toList_text` cuts the text into the lines of its parts.
-/

namespace TraceLens.Dot

structure Node where
  name : String
  label : String
  deriving DecidableEq, Repr

structure Edge where
  source : String
  target : String
  label : String
  deriving DecidableEq, Repr

structure Digraph where
  name : String
  font : String
  nodes : List Node
  edges : List Edge
  deriving DecidableEq, Repr

def Node.text (n : Node) : String :=
  "\t" ++ quoted n.name ++ " [label=" ++ quoted n.label ++ " shape=none]\n"

def Edge.text (e : Edge) : String :=
  "\t" ++ quoted e.source ++ " -> " ++ quoted e.target ++ " [label=" ++ quoted e.label ++ "]\n"

namespace Digraph

/-- The opening line, and the font of the graph, its nodes and its edges. -/
def header (g : Digraph) : String :=
  let fonts := ["graph", "node", "edge"].map fun part =>
    "\t" ++ part ++ " [fontname=" ++ quoted g.font ++ "]\n"
  "digraph " ++ quoted g.name ++ " \x7b\n" ++ String.join fonts

def text (g : Digraph) : String :=
  g.header ++ String.join (g.nodes.map Node.text) ++ String.join (g.edges.map Edge.text) ++ "\x7d\n"

theorem toList_text (g : Digraph) :
    g.text.toList = g.header.toList ++ g.nodes.flatMap (fun n => n.text.toList) ++
      g.edges.flatMap (fun e => e.text.toList) ++ ['\x7d', '\n'] := by
  simp [text, List.flatMap_map]

end Digraph

end TraceLens.Dot
