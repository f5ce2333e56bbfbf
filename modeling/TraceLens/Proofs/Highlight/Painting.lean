import Mathlib.Data.List.Basic
import TraceLens.Highlight.Fragment

/-!
# Painting a text

Tokens paint a text: the first one that ends after a character gives the character its style, if
it does not start after it as well. Tokens may overlap, stand out of order and lie outside the text.

Main statements: `exists_styledChars_ofTokens` says that the fragments made from tokens are the text
painted so, and `exists_styledChars_highlightLines` the same of highlighted lines.
-/

namespace TraceLens

/-- The characters of a text, the first one at `start`, each with the style of its position. -/
def painted (style : Int → TextStyle) (start : Int) : List Char → List (TextStyle × Char)
  | [] => []
  | c :: cs => (style start, c) :: painted style (start + 1) cs

section Painted

variable {style other : Int → TextStyle} {start : Int} {cs : List Char}

@[simp] theorem length_painted : (painted style start cs).length = cs.length := by
  induction cs generalizing start with
  | nil => rfl
  | cons c cs ih => simp [painted, ih]

theorem painted_append (cs ds : List Char) :
    painted style start (cs ++ ds) =
      painted style start cs ++ painted style (start + cs.length) ds := by
  induction cs generalizing start with
  | nil => simp [painted]
  | cons c cs ih =>
    have shift : start + 1 + cs.length = start + (c :: cs).length := by
      rw [List.length_cons]
      omega
    rw [List.cons_append, painted, painted, ih, shift, List.cons_append]

theorem painted_congr (h : ∀ p, start ≤ p → p < start + cs.length → style p = other p) :
    painted style start cs = painted other start cs := by
  induction cs generalizing start with
  | nil => rfl
  | cons c cs ih =>
    rw [List.length_cons] at h
    rw [painted, painted, h start (by omega) (by omega),
      ih fun p hp hlt => h p (by omega) (by omega)]

theorem painted_const {s : TextStyle} :
    painted (fun _ => s) start cs = cs.map fun c => (s, c) := by
  induction cs generalizing start with
  | nil => rfl
  | cons c cs ih => simp [painted, ih]

/-- Where a stretch has one style, painting it is one fragment. -/
theorem painted_eq_map {s : TextStyle} (h : ∀ p, start ≤ p → p < start + cs.length → style p = s) :
    painted style start cs = cs.map fun c => (s, c) := by
  rw [← painted_const]
  exact painted_congr h

theorem getElem?_painted {k : Nat} :
    (painted style start cs)[k]? = cs[k]?.map fun c => (style (start + k), c) := by
  induction cs generalizing start k with
  | nil => simp [painted]
  | cons c cs ih =>
    cases k with
    | zero => simp [painted]
    | succ k =>
      have shift : start + 1 + (k : Int) = start + (k + 1 : Nat) := by omega
      rw [painted, List.getElem?_cons_succ, List.getElem?_cons_succ, ih, shift]

theorem map_snd_painted : (painted style start cs).map Prod.snd = cs := by
  induction cs generalizing start with
  | nil => rfl
  | cons c cs ih => simp [painted, ih]

theorem take_painted (n : Nat) :
    (painted style start cs).take n = painted style start (cs.take n) := by
  induction cs generalizing start n with
  | nil => simp [painted]
  | cons c cs ih =>
    cases n with
    | zero => rfl
    | succ n => rw [painted, List.take_succ_cons, List.take_succ_cons, painted, ih]

theorem drop_painted (n : Nat) :
    (painted style start cs).drop n = painted style (start + n) (cs.drop n) := by
  induction cs generalizing start n with
  | nil => simp [painted]
  | cons c cs ih =>
    cases n with
    | zero => simp
    | succ n =>
      have shift : start + 1 + (n : Int) = start + (n + 1 : Nat) := by omega
      rw [painted, List.drop_succ_cons, List.drop_succ_cons, ih, shift]

end Painted

namespace Fragment

@[simp] theorem styledChars_nil : styledChars [] = [] := rfl

@[simp] theorem styledChars_cons (f : Fragment) (fs : List Fragment) :
    styledChars (f :: fs) = (f.text.toList.map fun c => (f.style, c)) ++ styledChars fs := rfl

@[simp] theorem styledChars_append (fs gs : List Fragment) :
    styledChars (fs ++ gs) = styledChars fs ++ styledChars gs := by
  simp [styledChars]

/-! ## Tokens -/

section Tokens

variable {styles : StyleTable} {size : Nat}

/-- The style of a character of a text of `size` characters: that of the first token which ends
after it, but the default if the token starts after it too or if there is none. -/
def styleAt? (styles : StyleTable) (size : Nat) (tokens : List Token) (p : Int) :
    Option TextStyle :=
  match tokens.find? fun t : Token => p < min (t.start + t.length) (size : Int) with
  | some t => if t.start ≤ p then styles.style? t.kind else some styles.default
  | none => some styles.default

/-- As `styleAt?`, where a kind without a style has the default one. -/
def styleAt (styles : StyleTable) (size : Nat) (tokens : List Token) (p : Int) : TextStyle :=
  (styleAt? styles size tokens p).getD styles.default

variable {t : Token} {tokens : List Token} {p : Int}

theorem styleAt?_of_known (known : ∀ t ∈ tokens, (styles.style? t.kind).isSome) (p : Int) :
    styleAt? styles size tokens p = some (styleAt styles size tokens p) := by
  have : (styleAt? styles size tokens p).isSome := by
    unfold styleAt?
    split
    · rename_i t ht
      split
      · exact known t (List.mem_of_find?_eq_some ht)
      · rfl
    · rfl
  obtain ⟨s, hs⟩ := Option.isSome_iff_exists.1 this
  simp [styleAt, hs]

/-- A token has no say about what comes after its end. -/
theorem styleAt_cons_of_le (h : min (t.start + t.length) (size : Int) ≤ p) :
    styleAt styles size (t :: tokens) p = styleAt styles size tokens p := by
  have : ¬p < min (t.start + t.length) (size : Int) := by omega
  simp only [styleAt, styleAt?, List.find?_cons, this, decide_false]

theorem styleAt_cons_of_lt_start (h : p < t.start) (hp : p < size) :
    styleAt styles size (t :: tokens) p = styles.default := by
  have : p < min (t.start + t.length) (size : Int) := by omega
  have hstart : ¬t.start ≤ p := by omega
  simp only [styleAt, styleAt?, List.find?_cons, this, decide_true, if_neg hstart, Option.getD_some]

theorem styleAt_cons_of_mem {s : TextStyle} (hs : styles.style? t.kind = some s)
    (hstart : t.start ≤ p) (h : p < min (t.start + t.length) (size : Int)) :
    styleAt styles size (t :: tokens) p = s := by
  simp only [styleAt, styleAt?, List.find?_cons, h, decide_true, if_pos hstart, hs,
    Option.getD_some]

/-- Two stretches at the front of a list and what comes after them make up the list. -/
theorem take_append_take_drop_append_drop {α : Type} {xs : List α} {a b c : Nat}
    (h : a + b = c ∨ xs.length ≤ a ∧ xs.length ≤ c) :
    xs.take a ++ ((xs.drop a).take b ++ xs.drop c) = xs := by
  rcases h with rfl | ⟨ha, hc⟩
  · rw [← List.drop_drop, List.take_append_drop, List.take_append_drop]
  · rw [List.take_of_length_le ha, List.drop_eq_nil_of_le ha, List.drop_eq_nil_of_le hc]
    simp

/-- A token paints what is left of a text in three stretches: the gap before it, its own part, and
what the tokens after it paint. -/
theorem painted_cons {s : TextStyle} (hs : styles.style? t.kind = some s) {pos : Nat} {stop : Int}
    (hstop : min (t.start + t.length) (size : Int) = stop) (hpos : ¬stop ≤ pos) {rest : List Char}
    (hrest : pos + rest.length = size) :
    painted (styleAt styles size (t :: tokens)) pos rest =
      ((rest.take (t.start - pos).toNat).map fun c => (styles.default, c)) ++
        ((((rest.drop (t.start - pos).toNat).take (stop - max t.start pos).toNat).map
            fun c => (s, c)) ++
          painted (styleAt styles size tokens) stop.toNat (rest.drop (stop - pos).toNat)) := by
  generalize hskipped : (t.start - pos).toNat = skipped
  generalize htaken : (stop - max t.start pos).toNat = taken
  generalize hleft : (stop - pos).toNat = left
  have parts : rest.take skipped ++ ((rest.drop skipped).take taken ++ rest.drop left) = rest :=
    take_append_take_drop_append_drop (by omega)
  have before : painted (styleAt styles size (t :: tokens)) pos (rest.take skipped) =
      (rest.take skipped).map fun c => (styles.default, c) := by
    refine painted_eq_map fun p hp hlt => ?_
    rw [List.length_take] at hlt
    exact styleAt_cons_of_lt_start (by omega) (by omega)
  have inside : painted (styleAt styles size (t :: tokens)) (pos + (rest.take skipped).length)
      ((rest.drop skipped).take taken) =
      ((rest.drop skipped).take taken).map fun c => (s, c) := by
    refine painted_eq_map fun p hp hlt => ?_
    simp only [List.length_take, List.length_drop] at hp hlt
    exact styleAt_cons_of_mem hs (by omega) (by omega)
  have after : painted (styleAt styles size (t :: tokens)) stop.toNat (rest.drop left) =
      painted (styleAt styles size tokens) stop.toNat (rest.drop left) :=
    painted_congr fun p hp _ => styleAt_cons_of_le (by omega)
  have next : (pos : Int) + (rest.take skipped).length +
      ((rest.drop skipped).take taken).length = stop.toNat := by
    simp only [List.length_take, List.length_drop]
    omega
  rw [← before, ← inside, ← after, ← next, ← painted_append, ← painted_append, parts]

/-- The fragments of what is left of a text are that text, painted by the tokens that are left. -/
theorem exists_styledChars_ofTokensFrom (known : ∀ t ∈ tokens, (styles.style? t.kind).isSome)
    {pos : Nat} {rest : List Char} (hrest : pos + rest.length = size) :
    ∃ fs, ofTokensFrom styles size pos rest tokens = .ok fs ∧
      styledChars fs = painted (styleAt styles size tokens) pos rest := by
  induction tokens generalizing pos rest with
  | nil =>
    have all : painted (styleAt styles size []) pos rest = rest.map fun c => (styles.default, c) :=
      painted_eq_map fun p _ _ => rfl
    refine ⟨_, rfl, ?_⟩
    rw [all]
    cases rest <;> simp
  | cons t tokens ih =>
    have ih := @ih fun u hu => known u (List.mem_cons_of_mem _ hu)
    unfold ofTokensFrom
    by_cases hskip : min (t.start + t.length) (size : Int) ≤ pos
    · -- the token ends in what has been painted
      obtain ⟨fs, hfs, hpainted⟩ := ih hrest
      refine ⟨fs, by rw [if_pos hskip, hfs], ?_⟩
      rw [hpainted]
      refine painted_congr fun p hp _ => (styleAt_cons_of_le ?_).symm
      omega
    · obtain ⟨s, hs⟩ := Option.isSome_iff_exists.1 (known t List.mem_cons_self)
      rw [if_neg hskip, hs, painted_cons hs rfl hskip hrest]
      dsimp only
      generalize hstop : min (t.start + t.length) (size : Int) = stop at hskip ⊢
      have hlength : stop.toNat + (rest.drop (stop - pos).toNat).length = size := by
        rw [List.length_drop]
        omega
      obtain ⟨more, hmore, hpainted⟩ := ih hlength
      have gap : styledChars (if (pos : Int) < t.start then
          [⟨styles.default, String.ofList (rest.take (t.start - pos).toNat)⟩] else []) =
          (rest.take (t.start - pos).toNat).map fun c => (styles.default, c) := by
        split
        · simp
        · have : (t.start - pos).toNat = 0 := by omega
          rw [this]
          rfl
      rw [hmore]
      refine ⟨_, rfl, ?_⟩
      rw [styledChars_append, gap, styledChars_cons, hpainted, String.toList_ofList]

/-- The fragments made from tokens are the text, painted by them. -/
theorem exists_styledChars_ofTokens {text : String}
    (known : ∀ t ∈ tokens, (styles.style? t.kind).isSome) :
    ∃ fs, ofTokens styles text tokens = .ok fs ∧
      styledChars fs = painted (styleAt styles text.length tokens) 0 text.toList :=
  exists_styledChars_ofTokensFrom known (by simp [String.length_toList])

end Tokens

/-! ## Lines -/

theorem flatten_cutAfterNewlines (cs : List Char) : (cutAfterNewlines cs).flatten = cs := by
  fun_induction cutAfterNewlines cs <;> simp_all

theorem styledChars_pieces (f : Fragment) : styledChars f.pieces = styledChars [f] := by
  calc styledChars f.pieces
      = (cutAfterNewlines f.text.toList).flatten.map fun c => (f.style, c) := by
        simp [styledChars, pieces, List.map_flatten, List.flatMap_def, Function.comp_def]
    _ = styledChars [f] := by simp [flatten_cutAfterNewlines]

/-- Lines keep every styled character. -/
theorem styledChars_flatten_toLines (fs : List Fragment) :
    styledChars (toLines fs).flatten = styledChars fs := by
  rw [flatten_toLines]
  induction fs with
  | nil => rfl
  | cons f fs ih =>
    rw [List.flatMap_cons, styledChars_append, styledChars_pieces, ih]
    simp

end Fragment

/-- A highlighted text is the text, painted by its tokens. -/
theorem exists_styledChars_highlightLines {scan : Scanner} {styles : StyleTable} {text : String}
    (known : ∀ t ∈ scan text, (styles.style? t.kind).isSome) :
    ∃ lines, highlightLines scan styles text = .ok lines ∧ Fragment.styledChars lines.flatten =
      painted (Fragment.styleAt styles text.length (scan text)) 0 text.toList := by
  obtain ⟨fs, hfs, hpainted⟩ := Fragment.exists_styledChars_ofTokens known
  refine ⟨Fragment.toLines fs, by rw [highlightLines, hfs]; rfl, ?_⟩
  rw [Fragment.styledChars_flatten_toLines, hpainted]

end TraceLens
