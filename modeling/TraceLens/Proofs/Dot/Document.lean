import Mathlib.Data.List.Forall2
import TraceLens.Dot.Digraph
import TraceLens.Proofs.Dot.Lexer

/-!
# Reading a directed graph in the DOT language

A graph is read as its name and its statements, which are about the defaults of a part of the graph,
a node or an edge, each with its attributes.

Main statements: `read?_text` says that the text of a graph is read as its defaults, its nodes and
its edges, in this order, if each name and label in it is read as something, and
`Document.getElem?_nodes` in which order the nodes of a graph are met.
-/

namespace TraceLens.Dot

/-- What a statement is about. -/
inductive Subject where
  /-- What the graph, its nodes or its edges have in common. -/
  | defaults (part : String)
  | node (name : Ident)
  | edge (source target : Ident)
  deriving DecidableEq, Repr

structure Statement where
  subject : Subject
  attributes : List (Ident × Ident)
  deriving DecidableEq, Repr

/-- A graph as it is read. -/
structure Document where
  name : Ident
  statements : List Statement
  deriving DecidableEq, Repr

/-- The nodes that a statement mentions. -/
def Subject.nodes : Subject → List Ident
  | .defaults _ => []
  | .node name => [name]
  | .edge source target => [source, target]

/-- The nodes of a graph, in the order in which they are first met. -/
def Document.nodes (d : Document) : List Ident :=
  (d.statements.flatMap (·.subject.nodes)).eraseDups

/-- The statements in some tokens, up to the end of the graph. The first argument is the statement
that has been read up to some of its attributes. -/
def statements? : Option Statement → List Token → Option (List Statement)
  | none, [.mark '\x7d'] => some []
  | none, .keyword part :: .mark '[' :: rest => statements? (some ⟨.defaults part, []⟩) rest
  | none, .ident source :: .arrow :: .ident target :: .mark '[' :: rest =>
    statements? (some ⟨.edge source target, []⟩) rest
  | none, .ident name :: .mark '[' :: rest => statements? (some ⟨.node name, []⟩) rest
  | some s, .ident key :: .mark '=' :: .ident value :: rest =>
    statements? (some ⟨s.subject, s.attributes ++ [(key, value)]⟩) rest
  | some s, .mark ']' :: rest => (s :: ·) <$> statements? none rest
  | _, _ => none

def document? : List Token → Option Document
  | .keyword "digraph" :: .ident name :: .mark '\x7b' :: rest =>
    (⟨name, ·⟩) <$> statements? none rest
  | _ => none

/-- The graph that a text describes. -/
def read? (text : String) : Option Document := tokens? text.toList >>= document?

/-! ## The order of the nodes -/

theorem eraseDups_of_nodup {names : List Ident} (h : names.Nodup) : names.eraseDups = names := by
  induction names with
  | nil => rfl
  | cons name names ih =>
    obtain ⟨hname, hnames⟩ := List.nodup_cons.1 h
    have others : names.filter (fun other => !other == name) = names := by
      refine List.filter_eq_self.2 fun other hother => ?_
      have : other ≠ name := by
        rintro rfl
        exact hname hother
      simp [this]
    rw [List.eraseDups_cons, others, ih hnames]

/-- Nodes that are mentioned first, and each once, are met in this order. -/
theorem Document.getElem?_nodes {d : Document} {names more : List Ident}
    (h : d.statements.flatMap (·.subject.nodes) = names ++ more) (once : names.Nodup) {k : Nat}
    (hk : k < names.length) : d.nodes[k]? = names[k]? := by
  rw [Document.nodes, h, List.eraseDups_append, eraseDups_of_nodup once,
    List.getElem?_append_left hk]

/-! ## Statements -/

def Subject.tokens : Subject → List Token
  | .defaults part => [.keyword part]
  | .node name => [.ident name]
  | .edge source target => [.ident source, .arrow, .ident target]

def attributeTokens (a : Ident × Ident) : List Token := [.ident a.1, .mark '=', .ident a.2]

def Statement.tokens (s : Statement) : List Token :=
  s.subject.tokens ++ .mark '[' :: s.attributes.flatMap attributeTokens ++ [.mark ']']

theorem statements?_attributes (subject : Subject) (done more : List (Ident × Ident))
    (rest : List Token) :
    statements? (some ⟨subject, done⟩) (more.flatMap attributeTokens ++ .mark ']' :: rest) =
      (⟨subject, done ++ more⟩ :: ·) <$> statements? none rest := by
  induction more generalizing done with
  | nil => simp [statements?]
  | cons a more ih =>
    have := ih (done ++ [a])
    rw [List.append_assoc, List.singleton_append] at this
    simpa [attributeTokens, statements?] using this

/-- A statement is read from its tokens. -/
theorem statements?_tokens (s : Statement) (rest : List Token) :
    statements? none (s.tokens ++ rest) = (s :: ·) <$> statements? none rest := by
  obtain ⟨subject, attributes⟩ := s
  have := statements?_attributes subject [] attributes rest
  cases subject <;> simpa [Statement.tokens, Subject.tokens, statements?] using this

theorem statements?_flatMap_tokens (ss : List Statement) :
    statements? none (ss.flatMap Statement.tokens ++ [Token.mark '\x7d']) = some ss := by
  induction ss with
  | nil => rfl
  | cons s ss ih => rw [List.flatMap_cons, List.append_assoc, statements?_tokens, ih]; rfl

/-! ## The text of a graph -/

/-- A name or label is written so that it is read as an identifier. -/
def Writes (text : String) (id : Ident) : Prop :=
  ∀ c tokens, Delimits c tokens →
    Reads .between (quotedChars text.toList ++ [c]) (.ident id :: tokens) .between

theorem Kept.writes {text : String} (h : Kept text.toList) : Writes text (.text text) := by
  intro c tokens hc
  simpa using reads_quotedChars h hc

theorem Balanced.writes {content : String} (h : Balanced content.toList) :
    Writes ("<" ++ content ++ ">") (.html content) := by
  intro c tokens hc
  simpa using h.reads_html hc

/-- The statement that a font is used for a part of the graph. -/
def fontStatement (font : Ident) (part : String) : Statement :=
  ⟨.defaults part, [(.text "fontname", font)]⟩

def nodeStatement (name label : Ident) : Statement :=
  ⟨.node name, [(.text "label", label), (.text "shape", .text "none")]⟩

def edgeStatement (source target label : Ident) : Statement :=
  ⟨.edge source target, [(.text "label", label)]⟩

variable {name font label source target : Ident}

theorem reads_node {n : Node} (hname : Writes n.name name) (hlabel : Writes n.label label) :
    Reads .between n.text.toList (nodeStatement name label).tokens .between := by
  have tab : Reads .between "\t".toList [] .between := rfl
  have key : Reads .between "[label=".toList [.mark '[', .ident (.text "label"), .mark '=']
      .between := rfl
  have shape : Reads .between "shape=none]\n".toList
      [.ident (.text "shape"), .mark '=', .ident (.text "none"), .mark ']'] .between := rfl
  have text : n.text.toList = "\t".toList ++ ((quotedChars n.name.toList ++ [' ']) ++
      ("[label=".toList ++ ((quotedChars n.label.toList ++ [' ']) ++
        "shape=none]\n".toList))) := by
    simp [Node.text]
  rw [text]
  exact tab.append ((hname _ _ delimits_space).append (key.append
    ((hlabel _ _ delimits_space).append shape)))

theorem reads_edge {e : Edge} (hsource : Writes e.source source) (htarget : Writes e.target target)
    (hlabel : Writes e.label label) :
    Reads .between e.text.toList (edgeStatement source target label).tokens .between := by
  have tab : Reads .between "\t".toList [] .between := rfl
  have arrow : Reads .between "-> ".toList [.arrow] .between := rfl
  have key : Reads .between "[label=".toList [.mark '[', .ident (.text "label"), .mark '=']
      .between := rfl
  have newline : Reads .between "\n".toList [] .between := rfl
  have text : e.text.toList = "\t".toList ++ ((quotedChars e.source.toList ++ [' ']) ++
      ("-> ".toList ++ ((quotedChars e.target.toList ++ [' ']) ++
        ("[label=".toList ++ ((quotedChars e.label.toList ++ [']']) ++ "\n".toList))))) := by
    simp [Edge.text]
  rw [text]
  exact tab.append ((hsource _ _ delimits_space).append (arrow.append
    ((htarget _ _ delimits_space).append (key.append
      ((hlabel _ _ delimits_closing).append newline)))))

theorem reads_header {g : Digraph} (hname : Writes g.name name) (hfont : Writes g.font font) :
    Reads .between g.header.toList (.keyword "digraph" :: .ident name :: .mark '\x7b' ::
      (["graph", "node", "edge"].map (fontStatement font)).flatMap Statement.tokens) .between := by
  have opening : Reads .between "digraph ".toList [.keyword "digraph"] .between := rfl
  have brace : Reads .between "\x7b\n".toList [.mark '\x7b'] .between := rfl
  have newline : Reads .between "\n".toList [] .between := rfl
  have graph : Reads .between "\tgraph [fontname=".toList
      [.keyword "graph", .mark '[', .ident (.text "fontname"), .mark '='] .between := rfl
  have node : Reads .between "\tnode [fontname=".toList
      [.keyword "node", .mark '[', .ident (.text "fontname"), .mark '='] .between := rfl
  have edge : Reads .between "\tedge [fontname=".toList
      [.keyword "edge", .mark '[', .ident (.text "fontname"), .mark '='] .between := rfl
  have value := (hfont _ _ delimits_closing).append newline
  have text : g.header.toList = "digraph ".toList ++ ((quotedChars g.name.toList ++ [' ']) ++
      ("\x7b\n".toList ++
        (("\tgraph [fontname=".toList ++ ((quotedChars g.font.toList ++ [']']) ++ "\n".toList)) ++
        (("\tnode [fontname=".toList ++ ((quotedChars g.font.toList ++ [']']) ++ "\n".toList)) ++
        ("\tedge [fontname=".toList ++ ((quotedChars g.font.toList ++ [']']) ++
          "\n".toList)))))) := by
    simp [Digraph.header]
  rw [text]
  exact opening.append ((hname _ _ delimits_space).append (brace.append
    ((graph.append value).append ((node.append value).append (edge.append value)))))

theorem reads_flatMap {α : Type} {write : α → List Char} {xs : List α} {ss : List Statement}
    (h : List.Forall₂ (fun x s => Reads .between (write x) s.tokens .between) xs ss) :
    Reads .between (xs.flatMap write) (ss.flatMap Statement.tokens) .between := by
  induction h with
  | nil => exact .nil
  | cons first _ rest => exact first.append rest

/-- The text of a graph is read as its defaults, its nodes and its edges. -/
theorem read?_text {g : Digraph} {nodes edges : List Statement} (hname : Writes g.name name)
    (hfont : Writes g.font font)
    (hnodes : List.Forall₂ (fun n s => Reads .between n.text.toList s.tokens .between)
      g.nodes nodes)
    (hedges : List.Forall₂ (fun e s => Reads .between e.text.toList s.tokens .between)
      g.edges edges) :
    read? g.text =
      some ⟨name, ["graph", "node", "edge"].map (fontStatement font) ++ nodes ++ edges⟩ := by
  have closing : Reads .between ['\x7d', '\n'] [.mark '\x7d'] .between := rfl
  have whole := (((reads_header hname hfont).append (reads_flatMap hnodes)).append
    (reads_flatMap hedges)).append closing
  rw [← Digraph.toList_text] at whole
  have parsed := statements?_flatMap_tokens
    (["graph", "node", "edge"].map (fontStatement font) ++ nodes ++ edges)
  rw [List.flatMap_append, List.flatMap_append] at parsed
  rw [read?, whole.tokens?_eq]
  exact congrArg (Option.map (Document.mk name)) parsed

end TraceLens.Dot
