import TraceLens.Style.TextStyle

/-!
# Palettes

How each theme shows each kind of token. A kind is named by its path, so that the root kind has
the empty name; a kind that is not listed has no style, not even that of its parent.
-/

namespace TraceLens

/-- Kinds of token that share a style. -/
structure Swatch where
  style : TextStyle
  kinds : List String
  deriving Repr

namespace Palette

def solarizedDark : List Swatch := [
  ⟨⟨some "#839496", false, false, false⟩, [
    "", "Error", "Escape", "Generic", "Generic.Output", "Literal", "Literal.Date", "Name",
    "Name.Attribute", "Name.Other", "Name.Property", "Other", "Punctuation",
    "Punctuation.Marker", "Text", "Text.Whitespace"]⟩,
  ⟨⟨some "#586e75", false, true, false⟩, [
    "Comment", "Comment.Hashbang", "Comment.Multiline", "Comment.Single", "Comment.Special"]⟩,
  ⟨⟨some "#d33682", false, false, false⟩, [
    "Comment.Preproc"]⟩,
  ⟨⟨some "#586e75", false, false, false⟩, [
    "Comment.PreprocFile", "Literal.String.Doc", "Operator"]⟩,
  ⟨⟨some "#dc322f", false, false, false⟩, [
    "Generic.Deleted", "Generic.Error"]⟩,
  ⟨⟨some "#839496", false, true, false⟩, [
    "Generic.Emph"]⟩,
  ⟨⟨some "#839496", true, true, false⟩, [
    "Generic.EmphStrong"]⟩,
  ⟨⟨some "#839496", true, false, false⟩, [
    "Generic.Heading", "Generic.Strong"]⟩,
  ⟨⟨some "#859900", false, false, false⟩, [
    "Generic.Inserted", "Keyword", "Keyword.Pseudo", "Keyword.Reserved", "Operator.Word"]⟩,
  ⟨⟨some "#268bd2", true, false, false⟩, [
    "Generic.Prompt"]⟩,
  ⟨⟨some "#839496", false, false, true⟩, [
    "Generic.Subheading"]⟩,
  ⟨⟨some "#268bd2", false, false, false⟩, [
    "Generic.Traceback", "Name.Builtin", "Name.Builtin.Pseudo", "Name.Class", "Name.Constant",
    "Name.Decorator", "Name.Entity", "Name.Exception", "Name.Function", "Name.Function.Magic",
    "Name.Label", "Name.Namespace", "Name.Tag", "Name.Variable", "Name.Variable.Class",
    "Name.Variable.Global", "Name.Variable.Instance", "Name.Variable.Magic"]⟩,
  ⟨⟨some "#2aa198", false, false, false⟩, [
    "Keyword.Constant", "Keyword.Declaration", "Literal.Number", "Literal.Number.Bin",
    "Literal.Number.Float", "Literal.Number.Hex", "Literal.Number.Integer",
    "Literal.Number.Integer.Long", "Literal.Number.Oct", "Literal.String",
    "Literal.String.Affix", "Literal.String.Backtick", "Literal.String.Char",
    "Literal.String.Delimiter", "Literal.String.Double", "Literal.String.Escape",
    "Literal.String.Heredoc", "Literal.String.Interpol", "Literal.String.Other",
    "Literal.String.Single", "Literal.String.Symbol"]⟩,
  ⟨⟨some "#cb4b16", false, false, false⟩, [
    "Keyword.Namespace", "Literal.String.Regex"]⟩,
  ⟨⟨some "#b58900", false, false, false⟩, [
    "Keyword.Type"]⟩]

def solarizedLight : List Swatch := [
  ⟨⟨some "#657b83", false, false, false⟩, [
    "", "Error", "Escape", "Generic", "Generic.Output", "Literal", "Literal.Date", "Name",
    "Name.Attribute", "Name.Other", "Name.Property", "Other", "Punctuation",
    "Punctuation.Marker", "Text", "Text.Whitespace"]⟩,
  ⟨⟨some "#93a1a1", false, true, false⟩, [
    "Comment", "Comment.Hashbang", "Comment.Multiline", "Comment.Single", "Comment.Special"]⟩,
  ⟨⟨some "#d33682", false, false, false⟩, [
    "Comment.Preproc"]⟩,
  ⟨⟨some "#93a1a1", false, false, false⟩, [
    "Comment.PreprocFile", "Literal.String.Doc", "Operator"]⟩,
  ⟨⟨some "#dc322f", false, false, false⟩, [
    "Generic.Deleted", "Generic.Error"]⟩,
  ⟨⟨some "#657b83", false, true, false⟩, [
    "Generic.Emph"]⟩,
  ⟨⟨some "#657b83", true, true, false⟩, [
    "Generic.EmphStrong"]⟩,
  ⟨⟨some "#657b83", true, false, false⟩, [
    "Generic.Heading", "Generic.Strong"]⟩,
  ⟨⟨some "#859900", false, false, false⟩, [
    "Generic.Inserted", "Keyword", "Keyword.Pseudo", "Keyword.Reserved", "Operator.Word"]⟩,
  ⟨⟨some "#268bd2", true, false, false⟩, [
    "Generic.Prompt"]⟩,
  ⟨⟨some "#657b83", false, false, true⟩, [
    "Generic.Subheading"]⟩,
  ⟨⟨some "#268bd2", false, false, false⟩, [
    "Generic.Traceback", "Name.Builtin", "Name.Builtin.Pseudo", "Name.Class", "Name.Constant",
    "Name.Decorator", "Name.Entity", "Name.Exception", "Name.Function", "Name.Function.Magic",
    "Name.Label", "Name.Namespace", "Name.Tag", "Name.Variable", "Name.Variable.Class",
    "Name.Variable.Global", "Name.Variable.Instance", "Name.Variable.Magic"]⟩,
  ⟨⟨some "#2aa198", false, false, false⟩, [
    "Keyword.Constant", "Keyword.Declaration", "Literal.Number", "Literal.Number.Bin",
    "Literal.Number.Float", "Literal.Number.Hex", "Literal.Number.Integer",
    "Literal.Number.Integer.Long", "Literal.Number.Oct", "Literal.String",
    "Literal.String.Affix", "Literal.String.Backtick", "Literal.String.Char",
    "Literal.String.Delimiter", "Literal.String.Double", "Literal.String.Escape",
    "Literal.String.Heredoc", "Literal.String.Interpol", "Literal.String.Other",
    "Literal.String.Single", "Literal.String.Symbol"]⟩,
  ⟨⟨some "#cb4b16", false, false, false⟩, [
    "Keyword.Namespace", "Literal.String.Regex"]⟩,
  ⟨⟨some "#b58900", false, false, false⟩, [
    "Keyword.Type"]⟩]

def monokai : List Swatch := [
  ⟨⟨some "#f8f8f2", false, false, false⟩, [
    "", "Escape", "Generic", "Generic.Heading", "Name", "Name.Entity", "Name.Label",
    "Name.Namespace", "Name.Property", "Name.Variable", "Name.Variable.Class",
    "Name.Variable.Global", "Name.Variable.Instance", "Name.Variable.Magic", "Other",
    "Punctuation", "Punctuation.Marker", "Text", "Text.Whitespace"]⟩,
  ⟨⟨some "#959077", false, false, false⟩, [
    "Comment", "Comment.Hashbang", "Comment.Multiline", "Comment.Preproc", "Comment.PreprocFile",
    "Comment.Single", "Comment.Special", "Generic.Subheading"]⟩,
  ⟨⟨some "#ed007e", false, false, false⟩, [
    "Error"]⟩,
  ⟨⟨some "#ff4689", false, false, false⟩, [
    "Generic.Deleted", "Generic.Error", "Keyword.Namespace", "Name.Tag", "Operator",
    "Operator.Word"]⟩,
  ⟨⟨some "#f8f8f2", false, true, false⟩, [
    "Generic.Emph"]⟩,
  ⟨⟨some "#f8f8f2", true, true, false⟩, [
    "Generic.EmphStrong"]⟩,
  ⟨⟨some "#a6e22e", false, false, false⟩, [
    "Generic.Inserted", "Name.Attribute", "Name.Builtin", "Name.Builtin.Pseudo", "Name.Class",
    "Name.Decorator", "Name.Exception", "Name.Function", "Name.Function.Magic", "Name.Other"]⟩,
  ⟨⟨some "#66d9ef", false, false, false⟩, [
    "Generic.Output", "Generic.Traceback", "Keyword", "Keyword.Constant", "Keyword.Declaration",
    "Keyword.Pseudo", "Keyword.Reserved", "Keyword.Type", "Name.Constant"]⟩,
  ⟨⟨some "#ff4689", true, false, false⟩, [
    "Generic.Prompt"]⟩,
  ⟨⟨some "#f8f8f2", true, false, false⟩, [
    "Generic.Strong"]⟩,
  ⟨⟨some "#ae81ff", false, false, false⟩, [
    "Literal", "Literal.Number", "Literal.Number.Bin", "Literal.Number.Float",
    "Literal.Number.Hex", "Literal.Number.Integer", "Literal.Number.Integer.Long",
    "Literal.Number.Oct", "Literal.String.Escape"]⟩,
  ⟨⟨some "#e6db74", false, false, false⟩, [
    "Literal.Date", "Literal.String", "Literal.String.Affix", "Literal.String.Backtick",
    "Literal.String.Char", "Literal.String.Delimiter", "Literal.String.Doc",
    "Literal.String.Double", "Literal.String.Heredoc", "Literal.String.Interpol",
    "Literal.String.Other", "Literal.String.Regex", "Literal.String.Single",
    "Literal.String.Symbol"]⟩]

def friendly : List Swatch := [
  ⟨⟨none, false, false, false⟩, [
    "", "Error", "Escape", "Generic", "Literal", "Literal.Date", "Name", "Name.Other",
    "Name.Property", "Other", "Punctuation", "Punctuation.Marker", "Text"]⟩,
  ⟨⟨some "#60a0b0", false, true, false⟩, [
    "Comment", "Comment.Hashbang", "Comment.Multiline", "Comment.PreprocFile", "Comment.Single"]⟩,
  ⟨⟨some "#007020", false, false, false⟩, [
    "Comment.Preproc", "Keyword.Pseudo", "Name.Builtin", "Name.Builtin.Pseudo", "Name.Exception"]⟩,
  ⟨⟨some "#60a0b0", false, false, false⟩, [
    "Comment.Special"]⟩,
  ⟨⟨some "#A00000", false, false, false⟩, [
    "Generic.Deleted"]⟩,
  ⟨⟨none, false, true, false⟩, [
    "Generic.Emph"]⟩,
  ⟨⟨none, true, true, false⟩, [
    "Generic.EmphStrong"]⟩,
  ⟨⟨some "#FF0000", false, false, false⟩, [
    "Generic.Error"]⟩,
  ⟨⟨some "#000080", true, false, false⟩, [
    "Generic.Heading"]⟩,
  ⟨⟨some "#00A000", false, false, false⟩, [
    "Generic.Inserted"]⟩,
  ⟨⟨some "#888888", false, false, false⟩, [
    "Generic.Output"]⟩,
  ⟨⟨some "#c65d09", true, false, false⟩, [
    "Generic.Prompt"]⟩,
  ⟨⟨none, true, false, false⟩, [
    "Generic.Strong"]⟩,
  ⟨⟨some "#800080", true, false, false⟩, [
    "Generic.Subheading"]⟩,
  ⟨⟨some "#0044DD", false, false, false⟩, [
    "Generic.Traceback"]⟩,
  ⟨⟨some "#007020", true, false, false⟩, [
    "Keyword", "Keyword.Constant", "Keyword.Declaration", "Keyword.Namespace",
    "Keyword.Reserved", "Operator.Word"]⟩,
  ⟨⟨some "#902000", false, false, false⟩, [
    "Keyword.Type"]⟩,
  ⟨⟨some "#40a070", false, false, false⟩, [
    "Literal.Number", "Literal.Number.Bin", "Literal.Number.Float", "Literal.Number.Hex",
    "Literal.Number.Integer", "Literal.Number.Integer.Long", "Literal.Number.Oct"]⟩,
  ⟨⟨some "#4070a0", false, false, false⟩, [
    "Literal.String", "Literal.String.Affix", "Literal.String.Backtick", "Literal.String.Char",
    "Literal.String.Delimiter", "Literal.String.Double", "Literal.String.Heredoc",
    "Literal.String.Single", "Name.Attribute"]⟩,
  ⟨⟨some "#4070a0", false, true, false⟩, [
    "Literal.String.Doc"]⟩,
  ⟨⟨some "#4070a0", true, false, false⟩, [
    "Literal.String.Escape"]⟩,
  ⟨⟨some "#70a0d0", false, true, false⟩, [
    "Literal.String.Interpol"]⟩,
  ⟨⟨some "#c65d09", false, false, false⟩, [
    "Literal.String.Other"]⟩,
  ⟨⟨some "#235388", false, false, false⟩, [
    "Literal.String.Regex"]⟩,
  ⟨⟨some "#517918", false, false, false⟩, [
    "Literal.String.Symbol"]⟩,
  ⟨⟨some "#0e84b5", true, false, false⟩, [
    "Name.Class", "Name.Namespace"]⟩,
  ⟨⟨some "#60add5", false, false, false⟩, [
    "Name.Constant"]⟩,
  ⟨⟨some "#555555", true, false, false⟩, [
    "Name.Decorator"]⟩,
  ⟨⟨some "#d55537", true, false, false⟩, [
    "Name.Entity"]⟩,
  ⟨⟨some "#06287e", false, false, false⟩, [
    "Name.Function", "Name.Function.Magic"]⟩,
  ⟨⟨some "#002070", true, false, false⟩, [
    "Name.Label"]⟩,
  ⟨⟨some "#062873", true, false, false⟩, [
    "Name.Tag"]⟩,
  ⟨⟨some "#bb60d5", false, false, false⟩, [
    "Name.Variable", "Name.Variable.Class", "Name.Variable.Global", "Name.Variable.Instance",
    "Name.Variable.Magic"]⟩,
  ⟨⟨some "#666666", false, false, false⟩, [
    "Operator"]⟩,
  ⟨⟨some "#bbbbbb", false, false, false⟩, [
    "Text.Whitespace"]⟩]

def plain : List Swatch := [
  ⟨⟨none, false, false, false⟩, [
    "", "Error", "Escape", "Generic", "Literal", "Literal.Date", "Name", "Name.Other",
    "Name.Property", "Other", "Punctuation", "Punctuation.Marker", "Text"]⟩,
  ⟨⟨some "#3D7B7B", false, true, false⟩, [
    "Comment", "Comment.Hashbang", "Comment.Multiline", "Comment.PreprocFile", "Comment.Single",
    "Comment.Special"]⟩,
  ⟨⟨some "#9C6500", false, false, false⟩, [
    "Comment.Preproc"]⟩,
  ⟨⟨some "#A00000", false, false, false⟩, [
    "Generic.Deleted"]⟩,
  ⟨⟨none, false, true, false⟩, [
    "Generic.Emph"]⟩,
  ⟨⟨none, true, true, false⟩, [
    "Generic.EmphStrong"]⟩,
  ⟨⟨some "#E40000", false, false, false⟩, [
    "Generic.Error"]⟩,
  ⟨⟨some "#000080", true, false, false⟩, [
    "Generic.Heading", "Generic.Prompt"]⟩,
  ⟨⟨some "#008400", false, false, false⟩, [
    "Generic.Inserted"]⟩,
  ⟨⟨some "#717171", false, false, false⟩, [
    "Generic.Output"]⟩,
  ⟨⟨none, true, false, false⟩, [
    "Generic.Strong"]⟩,
  ⟨⟨some "#800080", true, false, false⟩, [
    "Generic.Subheading"]⟩,
  ⟨⟨some "#0044DD", false, false, false⟩, [
    "Generic.Traceback"]⟩,
  ⟨⟨some "#008000", true, false, false⟩, [
    "Keyword", "Keyword.Constant", "Keyword.Declaration", "Keyword.Namespace",
    "Keyword.Reserved", "Name.Tag"]⟩,
  ⟨⟨some "#008000", false, false, false⟩, [
    "Keyword.Pseudo", "Literal.String.Other", "Name.Builtin", "Name.Builtin.Pseudo"]⟩,
  ⟨⟨some "#B00040", false, false, false⟩, [
    "Keyword.Type"]⟩,
  ⟨⟨some "#666666", false, false, false⟩, [
    "Literal.Number", "Literal.Number.Bin", "Literal.Number.Float", "Literal.Number.Hex",
    "Literal.Number.Integer", "Literal.Number.Integer.Long", "Literal.Number.Oct", "Operator"]⟩,
  ⟨⟨some "#BA2121", false, false, false⟩, [
    "Literal.String", "Literal.String.Affix", "Literal.String.Backtick", "Literal.String.Char",
    "Literal.String.Delimiter", "Literal.String.Double", "Literal.String.Heredoc",
    "Literal.String.Single"]⟩,
  ⟨⟨some "#BA2121", false, true, false⟩, [
    "Literal.String.Doc"]⟩,
  ⟨⟨some "#AA5D1F", true, false, false⟩, [
    "Literal.String.Escape"]⟩,
  ⟨⟨some "#A45A77", true, false, false⟩, [
    "Literal.String.Interpol"]⟩,
  ⟨⟨some "#A45A77", false, false, false⟩, [
    "Literal.String.Regex"]⟩,
  ⟨⟨some "#19177C", false, false, false⟩, [
    "Literal.String.Symbol", "Name.Variable", "Name.Variable.Class", "Name.Variable.Global",
    "Name.Variable.Instance", "Name.Variable.Magic"]⟩,
  ⟨⟨some "#687822", false, false, false⟩, [
    "Name.Attribute"]⟩,
  ⟨⟨some "#0000FF", true, false, false⟩, [
    "Name.Class", "Name.Namespace"]⟩,
  ⟨⟨some "#880000", false, false, false⟩, [
    "Name.Constant"]⟩,
  ⟨⟨some "#AA22FF", false, false, false⟩, [
    "Name.Decorator"]⟩,
  ⟨⟨some "#717171", true, false, false⟩, [
    "Name.Entity"]⟩,
  ⟨⟨some "#CB3F38", true, false, false⟩, [
    "Name.Exception"]⟩,
  ⟨⟨some "#0000FF", false, false, false⟩, [
    "Name.Function", "Name.Function.Magic"]⟩,
  ⟨⟨some "#767600", false, false, false⟩, [
    "Name.Label"]⟩,
  ⟨⟨some "#AA22FF", true, false, false⟩, [
    "Operator.Word"]⟩,
  ⟨⟨some "#bbbbbb", false, false, false⟩, [
    "Text.Whitespace"]⟩]

/-- The kinds of token that a palette knows. -/
def kinds (palette : List Swatch) : List String := palette.flatMap Swatch.kinds

/-- The style of a kind of token. -/
def style? (palette : List Swatch) (kind : String) : Option TextStyle :=
  (palette.find? fun s => s.kinds.contains kind).map Swatch.style

end Palette

end TraceLens
