import Mathlib.Data.List.Basic
import TraceLens.Dot.Identifier

/-!
# Reading tokens of the DOT language

A text is read one character at a time. An HTML string ends where its brackets are balanced again,
a quoted identifier at its first quote without a backslash, and a word or numeral at the first
character that cannot go on with it.

Main statements: `reads_quotedChars` says that an identifier is read as what was written, and
`Balanced.reads_html` the same of an HTML string. Lost are backslashes in quotes, the brackets of a
text that looks like an HTML string, and the line feed at the end of one that looks like a plain
identifier (`Kept`).
-/

namespace TraceLens.Dot

/-- An identifier as it is read. The content of an HTML string is no ordinary text. -/
inductive Ident where
  | text (value : String)
  | html (content : String)
  deriving DecidableEq, Repr

inductive Token where
  | ident (id : Ident)
  | keyword (word : String)
  | arrow
  | mark (c : Char)
  deriving DecidableEq, Repr

/-- Between two tokens, or inside of one that has begun with some characters. -/
inductive Mode where
  | between
  | word (begun : List Char)
  | numeral (begun : List Char)
  | minus
  | quote (begun : List Char)
  /-- After a backslash in quotes. -/
  | escape (begun : List Char)
  /-- The depth is the number of brackets inside that are open. -/
  | html (depth : Nat) (begun : List Char)
  deriving DecidableEq, Repr

def isBlank (c : Char) : Bool := c == ' ' || c == '\t' || c == '\n' || c == '\r'

/-- Any character beyond ASCII counts as a letter. -/
def isWordStart (c : Char) : Bool := isLetter c || 0x80 ≤ c.toNat

def isWordChar (c : Char) : Bool := isWordStart c || isDigit c

/-- A word is a keyword in capitals and small letters alike. -/
def wordToken (word : List Char) : Token :=
  let lower := String.ofList (word.map Char.toLower)
  if keywords.contains lower then .keyword lower else .ident (.text (String.ofList word))

def numeralToken? (cs : List Char) : Option Token :=
  if cs.any isDigit then some (.ident (.text (String.ofList cs))) else none

/-- What a character between two tokens begins, or the token that it is. -/
def start? (c : Char) : Option (List Token × Mode) :=
  if isBlank c then some ([], .between)
  else if c = '"' then some ([], .quote [])
  else if c = '<' then some ([], .html 0 [])
  else if c = '-' then some ([], .minus)
  else if isWordStart c then some ([], .word [c])
  else if isDigit c || c == '.' then some ([], .numeral [c])
  else if ['\x7b', '\x7d', '[', ']', '=', ';', ','].contains c then some ([.mark c], .between)
  else none

/-- The tokens that end at a character, and how reading goes on after it. -/
def step? : Mode → Char → Option (List Token × Mode)
  | .between, c => start? c
  | .word begun, c =>
    if isWordChar c then some ([], .word (begun ++ [c]))
    else (start? c).map fun next => (wordToken begun :: next.1, next.2)
  | .numeral begun, c =>
    if isDigit c || (c == '.' && !begun.contains '.') then some ([], .numeral (begun ++ [c]))
    else (numeralToken? begun).bind fun token =>
      (start? c).map fun next => (token :: next.1, next.2)
  | .minus, c =>
    if c = '>' then some ([.arrow], .between)
    else if isDigit c || c == '.' then some ([], .numeral ['-', c])
    else none
  | .quote begun, c =>
    if c = '"' then some ([.ident (.text (String.ofList begun))], .between)
    else if c = '\\' then some ([], .escape begun)
    else some ([], .quote (begun ++ [c]))
  | .escape begun, c =>
    some ([], .quote (if c = '"' then begun ++ [c] else if c = '\n' then begun
      else begun ++ ['\\', c]))
  | .html depth begun, c =>
    if c = '>' then
      if depth = 0 then some ([.ident (.html (String.ofList begun))], .between)
      else some ([], .html (depth - 1) (begun ++ [c]))
    else some ([], .html (if c = '<' then depth + 1 else depth) (begun ++ [c]))

/-- The tokens that end inside of a text, and how reading goes on after it. -/
def run? : Mode → List Char → Option (List Token × Mode)
  | m, [] => some ([], m)
  | m, c :: cs =>
    (step? m c).bind fun next => (run? next.2 cs).map fun rest => (next.1 ++ rest.1, rest.2)

/-- The token that ends with the text. -/
def finish? : Mode → Option (List Token)
  | .between => some []
  | .word begun => some [wordToken begun]
  | .numeral begun => (numeralToken? begun).map fun token => [token]
  | _ => none

/-- The tokens of a text. -/
def tokens? (cs : List Char) : Option (List Token) :=
  (run? .between cs).bind fun read => (finish? read.2).map (read.1 ++ ·)

/-- In a mode, a text is read as some tokens and leaves another mode. -/
def Reads (m : Mode) (cs : List Char) (tokens : List Token) (next : Mode) : Prop :=
  run? m cs = some (tokens, next)

section Reads

variable {m m' m'' : Mode} {cs ds : List Char} {tokens tokens' : List Token} {c : Char}

theorem Reads.nil : Reads m [] [] m := rfl

theorem reads_cons_iff : Reads m (c :: cs) tokens m' ↔
    ∃ first mid rest, step? m c = some (first, mid) ∧ Reads mid cs rest m' ∧
      first ++ rest = tokens := by
  simp [Reads, run?, Option.bind_eq_some_iff]

theorem reads_singleton_iff : Reads m [c] tokens m' ↔ step? m c = some (tokens, m') := by
  rw [reads_cons_iff]
  constructor
  · rintro ⟨first, mid, rest, hstep, hrest, rfl⟩
    obtain ⟨rfl, rfl⟩ := Prod.mk.inj (Option.some.inj hrest)
    rw [hstep, List.append_nil]
  · exact fun h => ⟨tokens, m', [], h, .nil, List.append_nil _⟩

/-- Texts are read one after the other. -/
theorem Reads.append (left : Reads m cs tokens m') (right : Reads m' ds tokens' m'') :
    Reads m (cs ++ ds) (tokens ++ tokens') m'' := by
  induction cs generalizing m tokens with
  | nil =>
    obtain ⟨rfl, rfl⟩ := Prod.mk.inj (Option.some.inj left)
    exact right
  | cons c cs ih =>
    obtain ⟨first, mid, rest, hstep, hrest, rfl⟩ := reads_cons_iff.1 left
    exact reads_cons_iff.2 ⟨first, mid, rest ++ tokens', hstep, ih hrest,
      (List.append_assoc _ _ _).symm⟩

theorem Reads.cons (first : step? m c = some ([], m')) (rest : Reads m' cs tokens m'') :
    Reads m (c :: cs) tokens m'' :=
  (reads_singleton_iff.2 first).append rest

theorem Reads.cons_token {token : Token} (first : step? m c = some ([token], m'))
    (rest : Reads m' cs tokens m'') : Reads m (c :: cs) (token :: tokens) m'' :=
  (reads_singleton_iff.2 first).append rest

theorem Reads.tokens?_eq (h : Reads .between cs tokens .between) : tokens? cs = some tokens := by
  rw [Reads] at h
  simp [tokens?, h, finish?]

end Reads

/-! ## Identifiers -/

/-- A text that is read as it was written. -/
structure Kept (cs : List Char) : Prop where
  noBackslash : '\\' ∉ cs
  noHtml : isHtml cs = false
  /-- A line feed at the end of a plain identifier is not a part of it. -/
  noFinalNewline : isPlain cs = true → cs.getLast? ≠ some '\n'

instance (cs : List Char) : Decidable (Kept cs) :=
  decidable_of_iff
    ('\\' ∉ cs ∧ isHtml cs = false ∧ (isPlain cs = true → cs.getLast? ≠ some '\n'))
    ⟨fun ⟨backslash, html, newline⟩ => ⟨backslash, html, newline⟩,
      fun ⟨backslash, html, newline⟩ => ⟨backslash, html, newline⟩⟩

theorem Kept.of_notMem {cs : List Char} (backslash : '\\' ∉ cs) (bracket : '<' ∉ cs)
    (newline : '\n' ∉ cs) : Kept cs where
  noBackslash := backslash
  noHtml := by
    cases cs with
    | nil => rfl
    | cons c cs =>
      have : c ≠ '<' := fun h => bracket (h ▸ List.mem_cons_self)
      unfold isHtml
      split <;> simp_all
  noFinalNewline _ last := newline (List.mem_of_getLast? last)

/-- A character that ends a word or numeral, and begins nothing. -/
structure Delimits (c : Char) (tokens : List Token) : Prop where
  noWordChar : isWordChar c = false
  noPoint : c ≠ '.'
  step_eq : start? c = some (tokens, .between)

theorem delimits_space : Delimits ' ' [] := ⟨rfl, by decide, rfl⟩

theorem delimits_newline : Delimits '\n' [] := ⟨rfl, by decide, rfl⟩

theorem delimits_closing : Delimits ']' [.mark ']'] := ⟨rfl, by decide, rfl⟩

variable {cs : List Char} {c : Char} {tokens : List Token}

/-- A character that is no blank, quote, bracket or minus sign begins a word or numeral if it
can. -/
theorem start?_of_apart {p : Char → Bool} (h : p c = true)
    (apart : [' ', '\t', '\n', '\r', '"', '<', '-'].all (fun d => !p d) = true) :
    start? c =
      if isWordStart c then some ([], .word [c])
      else if isDigit c || c == '.' then some ([], .numeral [c])
      else if ['\x7b', '\x7d', '[', ']', '=', ';', ','].contains c then some ([.mark c], .between)
      else none := by
  have ne {d : Char} (hd : p d = false) : c ≠ d := by
    rintro rfl
    rw [h] at hd
    cases hd
  simp only [List.all_cons, List.all_nil, Bool.and_true, Bool.and_eq_true,
    Bool.not_eq_true'] at apart
  obtain ⟨space, tab, newline, carriage, quote, bracket, minus⟩ := apart
  have blank : isBlank c = false := by simp [isBlank, ne space, ne tab, ne newline, ne carriage]
  rw [start?, blank, if_neg Bool.false_ne_true, if_neg (ne quote), if_neg (ne bracket),
    if_neg (ne minus)]

theorem start?_of_isLetter (h : isLetter c = true) : start? c = some ([], .word [c]) := by
  rw [start?_of_apart h rfl, isWordStart, h, Bool.true_or, if_pos rfl]

theorem not_isWordStart_of_isDigit (h : isDigit c = true) : isWordStart c = false := by
  have ne : c ≠ '_' := by
    rintro rfl
    cases h
  simp only [isDigit, Bool.and_eq_true, decide_eq_true_eq, Char.le_def,
    UInt32.le_iff_toNat_le] at h
  simp [isWordStart, isLetter, Char.le_def, UInt32.le_iff_toNat_le] at h ⊢
  exact ⟨⟨⟨by omega, by omega⟩, ne⟩, by omega⟩

theorem start?_of_isDigit_or (h : (isDigit c || c == '.') = true) :
    start? c = some ([], .numeral [c]) := by
  have noWord : isWordStart c = false := by
    rcases Bool.or_eq_true_iff.1 h with digit | point
    · exact not_isWordStart_of_isDigit digit
    · obtain rfl : c = '.' := by simpa using point
      rfl
  rw [start?_of_apart (p := fun d => isDigit d || d == '.') h rfl, noWord,
    if_neg Bool.false_ne_true, if_pos h]

theorem reads_word {begun : List Char} (h : cs.all isWordChar = true) :
    Reads (.word begun) cs [] (.word (begun ++ cs)) := by
  induction cs generalizing begun with
  | nil => simpa using Reads.nil
  | cons c cs ih =>
    rw [List.all_cons, Bool.and_eq_true] at h
    have first : step? (.word begun) c = some ([], .word (begun ++ [c])) := by simp [step?, h.1]
    simpa using Reads.cons first (@ih (begun ++ [c]) h.2)

theorem reads_numeral {begun : List Char} (digits : cs.all (fun c => isDigit c || c == '.') = true)
    (points : (begun ++ cs).count '.' ≤ 1) :
    Reads (.numeral begun) cs [] (.numeral (begun ++ cs)) := by
  induction cs generalizing begun with
  | nil => simpa using Reads.nil
  | cons c cs ih =>
    rw [List.all_cons, Bool.and_eq_true] at digits
    have first : step? (.numeral begun) c = some ([], .numeral (begun ++ [c])) := by
      have goesOn : (isDigit c || (c == '.' && !begun.contains '.')) = true := by
        rcases Bool.or_eq_true_iff.1 digits.1 with digit | point
        · simp [digit]
        · obtain rfl : c = '.' := by simpa using point
          have : begun.count '.' = 0 := by
            rw [List.count_append, List.count_cons_self] at points
            omega
          simp [List.count_eq_zero.1 this]
      simp only [step?, goesOn, if_true]
    have points' : (begun ++ [c] ++ cs).count '.' ≤ 1 := by simpa using points
    simpa using Reads.cons first (ih digits.2 points')

/-- A numeral without a sign has digits, and at most one point. -/
theorem of_isUnsigned (h : isUnsigned cs = true) :
    cs.all (fun c => isDigit c || c == '.') = true ∧ cs.count '.' ≤ 1 ∧
      cs.any isDigit = true := by
  have ofDigits {ds : List Char} (digits : ds.all isDigit = true) :
      ds.all (fun c => isDigit c || c == '.') = true ∧ ds.count '.' = 0 := by
    rw [List.all_eq_true] at digits
    refine ⟨List.all_eq_true.2 fun c hc => by simp [digits c hc], List.count_eq_zero.2 fun hc => ?_⟩
    exact absurd (digits '.' hc) (by decide)
  have anyDigit {ds : List Char} (digits : ds.all isDigit = true) (hne : ds.isEmpty = false) :
      ds.any isDigit = true := by
    cases ds with
    | nil => cases hne
    | cons d ds =>
      rw [List.all_cons, Bool.and_eq_true] at digits
      rw [List.any_cons, digits.1, Bool.true_or]
  unfold isUnsigned at h
  split at h
  · rename_i fraction
    rw [Bool.and_eq_true, Bool.not_eq_true'] at h
    obtain ⟨all, none⟩ := ofDigits h.2
    exact ⟨by simp [all], by simp [none], by simp [anyDigit h.2 h.1]⟩
  · rename_i noPoint
    rw [Bool.and_eq_true, Bool.not_eq_true'] at h
    have front : (cs.takeWhile isDigit).all isDigit = true := List.all_takeWhile
    obtain ⟨all, none⟩ := ofDigits front
    have some := anyDigit front h.1
    have whole := List.takeWhile_append_dropWhile (p := isDigit) (l := cs)
    rw [← whole, List.all_append, List.count_append, List.any_append, all, none, some]
    have rest := h.2
    split at rest
    · rename_i hnil
      rw [hnil]
      decide
    · rename_i c fraction hcons
      rw [Bool.and_eq_true, beq_iff_eq] at rest
      obtain ⟨rfl, digits⟩ := rest
      obtain ⟨all', none'⟩ := ofDigits digits
      rw [hcons]
      simp [all', none']

/-- A numeral is read as it was written, up to the character that delimits it. -/
theorem reads_isNumeral (h : isNumeral cs = true) (hc : Delimits c tokens) :
    Reads .between (cs ++ [c]) (.ident (.text (String.ofList cs)) :: tokens) .between := by
  have ends {begun : List Char} (digit : begun.any isDigit = true) :
      step? (.numeral begun) c =
        some (.ident (.text (String.ofList begun)) :: tokens, .between) := by
    have noDigit : isDigit c = false := (Bool.or_eq_false_iff.1 hc.noWordChar).2
    simp [step?, noDigit, hc.noPoint, numeralToken?, digit, hc.step_eq]
  unfold isNumeral at h
  split at h
  · rename_i ds
    obtain ⟨all, points, digit⟩ := of_isUnsigned h
    cases ds with
    | nil => cases digit
    | cons d ds =>
      rw [List.all_cons, Bool.and_eq_true] at all
      have second : step? .minus d = some ([], .numeral ['-', d]) := by
        have : d ≠ '>' := by
          rintro rfl
          exact absurd all.1 (by decide)
        simp only [step?, if_neg this, all.1, if_true]
      have rest : Reads (.numeral ['-', d]) ds [] (.numeral ('-' :: d :: ds)) :=
        reads_numeral all.2 (by simpa [List.count_cons] using points)
      have last := @ends ('-' :: d :: ds) (by simpa [isDigit] using digit)
      exact Reads.cons rfl (Reads.cons second
        (rest.append (reads_singleton_iff.2 last)))
  · obtain ⟨all, points, digit⟩ := of_isUnsigned h
    cases cs with
    | nil => cases digit
    | cons d ds =>
      rw [List.all_cons, Bool.and_eq_true] at all
      have first : step? .between d = some ([], .numeral [d]) := start?_of_isDigit_or all.1
      have rest : Reads (.numeral [d]) ds [] (.numeral (d :: ds)) :=
        reads_numeral all.2 (by simpa using points)
      exact Reads.cons first (rest.append (reads_singleton_iff.2 (ends digit)))

/-- A word that is no keyword is read as it was written, up to the character that delimits it. -/
theorem reads_isWord (h : isWord cs = true)
    (free : keywords.contains (String.ofList (cs.map Char.toLower)) = false)
    (hc : Delimits c tokens) :
    Reads .between (cs ++ [c]) (.ident (.text (String.ofList cs)) :: tokens) .between := by
  cases cs with
  | nil => cases h
  | cons d ds =>
    rw [isWord, Bool.and_eq_true, List.all_eq_true] at h
    have first : step? .between d = some ([], .word [d]) := start?_of_isLetter h.1
    have all : ds.all isWordChar = true := by
      refine List.all_eq_true.2 fun e he => ?_
      rcases Bool.or_eq_true_iff.1 (h.2 e he) with letter | digit
      · simp [isWordChar, isWordStart, letter]
      · simp [isWordChar, digit]
    have token : wordToken (d :: ds) = .ident (.text (String.ofList (d :: ds))) := by
      rw [wordToken, free]
      rfl
    have last : step? (.word (d :: ds)) c =
        some (.ident (.text (String.ofList (d :: ds))) :: tokens, .between) := by
      rw [step?, hc.noWordChar, hc.step_eq, token]
      rfl
    exact Reads.cons first ((reads_word all).append (reads_singleton_iff.2 last))

theorem reads_escapeQuotes {begun : List Char} (h : '\\' ∉ cs) :
    Reads (.quote begun) (escapeQuotes 0 cs) [] (.quote (begun ++ cs)) := by
  induction cs generalizing begun with
  | nil => simpa [escapeQuotes] using Reads.nil
  | cons c cs ih =>
    obtain ⟨hc, hcs⟩ := List.ne_and_not_mem_of_not_mem_cons h
    have rest := @ih (begun ++ [c]) hcs
    rw [List.append_assoc, List.singleton_append] at rest
    by_cases quote : c = '"'
    · subst quote
      exact Reads.cons rfl (Reads.cons rfl rest)
    · have first : step? (.quote begun) c = some ([], .quote (begun ++ [c])) := by
        simp [step?, quote, hc.symm]
      have written : escapeQuotes 0 (c :: cs) = c :: escapeQuotes 0 cs := by
        rw [escapeQuotes]
        · rfl
        · exact fun h => hc h.symm
        · exact quote
      rw [written]
      exact Reads.cons first rest

/-- A word or numeral that is no keyword is read as it was written. -/
theorem reads_plain (h : (isWord cs || isNumeral cs) = true)
    (free : keywords.contains (String.ofList (cs.map Char.toLower)) = false)
    (hc : Delimits c tokens) :
    Reads .between (cs ++ [c]) (.ident (.text (String.ofList cs)) :: tokens) .between := by
  rcases Bool.or_eq_true_iff.1 h with word | numeral
  · exact reads_isWord word free hc
  · exact reads_isNumeral numeral hc

/-- What is written for a text is read as the text, up to a character that delimits it. -/
theorem reads_quotedChars (h : Kept cs) (hc : Delimits c tokens) :
    Reads .between (quotedChars cs ++ [c]) (.ident (.text (String.ofList cs)) :: tokens)
      .between := by
  unfold quotedChars
  rw [h.noHtml, Bool.false_or]
  split
  · rename_i plain
    have core : dropFinalNewline cs = cs := if_neg (h.noFinalNewline plain)
    rw [isPlain, core, Bool.and_eq_true, Bool.not_eq_true'] at plain
    exact reads_plain plain.1 plain.2 hc
  · have inside : Reads (.quote []) (escapeQuotes 0 cs) [] (.quote cs) :=
      reads_escapeQuotes h.noBackslash
    have closing : Reads (.quote cs) ['"', c] (.ident (.text (String.ofList cs)) :: tokens)
        .between :=
      Reads.cons_token rfl (reads_singleton_iff.2 hc.step_eq)
    have whole := Reads.cons (m := .between) (c := '"') rfl (inside.append closing)
    simpa using whole

/-- A line feed behind a word or numeral is written without quotes, so it is not read. -/
theorem reads_quotedChars_lineFeed (h : isPlain (cs ++ ['\n']) = true)
    (free : keywords.contains (String.ofList (cs.map Char.toLower)) = false)
    (hc : Delimits c tokens) :
    Reads .between (quotedChars (cs ++ ['\n']) ++ [c]) (.ident (.text (String.ofList cs)) :: tokens)
      .between := by
  have core : dropFinalNewline (cs ++ ['\n']) = cs := by simp [dropFinalNewline]
  rw [quotedChars, h, Bool.or_true, if_pos rfl]
  rw [isPlain, core, Bool.and_eq_true] at h
  exact (reads_plain h.1 free delimits_newline).append (reads_singleton_iff.2 hc.step_eq)

/-! ## HTML strings -/

/-- Each bracket that is opened in a text is closed in it. -/
def Balanced (cs : List Char) : Prop :=
  ∀ depth begun, Reads (.html depth begun) cs [] (.html depth (begun ++ cs))

theorem Balanced.append {ds : List Char} (left : Balanced cs) (right : Balanced ds) :
    Balanced (cs ++ ds) := fun depth begun => by
  have := (left depth begun).append (right depth (begun ++ cs))
  rwa [List.append_assoc] at this

theorem balanced_of_notMem (opening : '<' ∉ cs) (closing : '>' ∉ cs) : Balanced cs := by
  induction cs with
  | nil => exact fun depth begun => by simpa using Reads.nil
  | cons c cs ih =>
    intro depth begun
    obtain ⟨ho, hos⟩ := List.ne_and_not_mem_of_not_mem_cons opening
    obtain ⟨hc, hcs⟩ := List.ne_and_not_mem_of_not_mem_cons closing
    have first : step? (.html depth begun) c = some ([], .html depth (begun ++ [c])) := by
      simp [step?, ho.symm, hc.symm]
    simpa using Reads.cons first (ih hos hcs depth (begun ++ [c]))

/-- A tag is balanced. -/
theorem balanced_tag (h : Balanced cs) : Balanced ('<' :: cs ++ ['>']) := fun depth begun => by
  have opening : step? (.html depth begun) '<' =
      some ([], .html (depth + 1) (begun ++ ['<'])) := rfl
  have closing : step? (.html (depth + 1) (begun ++ ['<'] ++ cs)) '>' =
      some ([], .html depth (begun ++ ['<'] ++ cs ++ ['>'])) := rfl
  simpa using Reads.cons opening ((h (depth + 1) _).append (reads_singleton_iff.2 closing))

/-- An HTML string is read as its content. -/
theorem Balanced.reads_html (h : Balanced cs) (hc : Delimits c tokens) :
    Reads .between (quotedChars ('<' :: cs ++ ['>']) ++ [c])
      (.ident (.html (String.ofList cs)) :: tokens) .between := by
  have html : isHtml ('<' :: cs ++ ['>']) = true := by simp [isHtml]
  rw [quotedChars, html, Bool.true_or, if_pos rfl]
  have closing : Reads (.html 0 cs) ['>', c] (.ident (.html (String.ofList cs)) :: tokens)
      .between :=
    Reads.cons_token rfl (reads_singleton_iff.2 hc.step_eq)
  have inside : Reads (.html 0 []) cs [] (.html 0 cs) := h 0 []
  have whole := Reads.cons (m := .between) (c := '<') rfl (inside.append closing)
  simpa using whole

end TraceLens.Dot
