import Mathlib.Data.List.Perm.Basic
import TraceLens.Distinct
import TraceLens.Proofs.Highlight.Cover

/-!
# Look-ups in the highlight cache

Texts are looked up one after the other, and what highlights a text may differ from one look-up to
the next: it may fail, and its fragments may be too few or too many. The cache holds what the
look-ups have answered so far, and an entry stays as it was made.

Main statements: `Sound.getOrCompute` and `getOrCompute_eq_error_iff` for one look-up, `sound_after`
for any number of them, and `after_keeps`, which says what the cache then holds and what it answers
next.
-/

namespace TraceLens

/-- A highlighted text is the text that it was made for, in ranges that follow one another from its
start to its end. -/
theorem Highlighted.covers_of_ofLines {text : String} {lines : List (List Fragment)}
    {entry : Highlighted} (h : ofLines text lines = .ok entry) :
    entry.text = text ∧ StyledRange.Tile 0 text.length entry.ranges := by
  unfold ofLines at h
  dsimp only at h
  split at h
  · rename_i covered
    obtain rfl := Except.ok.inj h
    have tile := StyledRange.tile_ofFragments 0 lines.flatten
    rw [covered, Nat.zero_add] at tile
    exact ⟨rfl, tile⟩
  · cases h

/-- Lines do not make up a highlighted text just when they have another length. -/
theorem Highlighted.ofLines_eq_error_iff {text : String} {lines : List (List Fragment)}
    {f : Failure} :
    ofLines text lines = .error f ↔
      Fragment.totalLength lines.flatten ≠ text.length ∧
        f = .render (.partlyHighlighted (Fragment.totalLength lines.flatten) text.length) := by
  unfold ofLines
  dsimp only
  split
  · rename_i covered
    simp [covered]
  · rename_i other
    simp [other, eq_comm]

namespace HighlightCache

/-- A text that is looked up, with what highlights it if that has to be done. -/
structure LookUp where
  text : String
  highlight : Highlighter

/-- The cache after some look-ups. -/
def after (c : HighlightCache) : List LookUp → HighlightCache
  | [] => c
  | l :: rest => (c.getOrCompute l.highlight l.text).2.after rest

/-- The texts that some look-ups succeed for, each with its entry. -/
def answers (c : HighlightCache) : List LookUp → List (String × Highlighted)
  | [] => []
  | l :: rest =>
    (c.getOrCompute l.highlight l.text).1.toOption.toList.map (fun entry => (l.text, entry)) ++
      (c.getOrCompute l.highlight l.text).2.answers rest

/-- A cache that holds just what was answered, each text once and covered by its ranges, and that
has counted its entries. -/
structure Sound (c : HighlightCache) (answered : List (String × Highlighted)) : Prop where
  find?_iff : ∀ text entry, c.entries.find? text = some entry ↔ (text, entry) ∈ answered
  covers : ∀ text entry, c.entries.find? text = some entry →
    entry.text = text ∧ StyledRange.Tile 0 text.length entry.ranges
  nodup : c.entries.keys.Nodup
  computed_eq : c.computed = c.size

variable {c : HighlightCache} {answered : List (String × Highlighted)} {text : String}
  {entry : Highlighted}

theorem mem_keys_iff : text ∈ c.entries.keys ↔ ∃ entry, c.entries.find? text = some entry := by
  rw [← Option.isSome_iff_exists, Option.isSome_iff_ne_none, Ne, Table.find?,
    Table.look_eq_none_iff, not_not]
  rfl

/-- There is one entry for each text that was answered. -/
theorem Sound.size_eq (h : c.Sound answered) :
    c.size = (distinct (answered.map Prod.fst)).length := by
  have same (text : String) :
      text ∈ c.entries.keys ↔ text ∈ distinct (answered.map Prod.fst) := by
    rw [mem_distinct, mem_keys_iff, List.mem_map]
    constructor
    · rintro ⟨entry, hentry⟩
      exact ⟨(text, entry), (h.find?_iff text entry).1 hentry, rfl⟩
    · rintro ⟨⟨_, entry⟩, hmem, rfl⟩
      exact ⟨entry, (h.find?_iff _ entry).2 hmem⟩
  calc c.size = c.entries.keys.length := (List.length_map _).symm
    _ = _ := ((List.perm_ext_iff_of_nodup h.nodup (nodup_distinct _)).2 same).length_eq

theorem sound_empty : ({} : HighlightCache).Sound [] where
  find?_iff text entry := by simp [Table.find?, Table.look]
  covers text entry h := by simp [Table.find?, Table.look] at h
  nodup := by simp [Table.keys]
  computed_eq := rfl

/-! ## One look-up -/

/-- A text without an entry is highlighted. -/
theorem getOrCompute_of_none (h : c.entries.find? text = none) (highlight : Highlighter) :
    (c.getOrCompute highlight text).1 = highlight text >>= Highlighted.ofLines text := by
  rw [getOrCompute, h]
  dsimp only
  split <;> rename_i answer <;> exact answer.symm

/-- A look-up of a text without an entry fails just when the text cannot be highlighted, or its
fragments have another length in all. -/
theorem getOrCompute_eq_error_iff (h : c.entries.find? text = none) {highlight : Highlighter}
    {f : Failure} :
    (c.getOrCompute highlight text).1 = .error f ↔
      highlight text = .error f ∨
      ∃ lines, highlight text = .ok lines ∧
        Fragment.totalLength lines.flatten ≠ text.length ∧
        f = .render (.partlyHighlighted (Fragment.totalLength lines.flatten) text.length) := by
  rw [getOrCompute_of_none h]
  cases highlight text with
  | error g => simp [bind, Except.bind]
  | ok lines => simpa [bind, Except.bind] using Highlighted.ofLines_eq_error_iff

/-- An entry stays as it is, whatever is looked up. -/
theorem find?_getOrCompute (h : c.entries.find? text = some entry) (highlight : Highlighter)
    (other : String) :
    (c.getOrCompute highlight other).2.entries.find? text = some entry := by
  unfold getOrCompute
  split
  · exact h
  · rename_i absent
    split
    · exact h
    · have : text ≠ other := by
        rintro rfl
        rw [absent] at h
        cases h
      rw [Table.find?_insert_of_ne _ _ this, h]

/-- A new entry is added to those before. -/
theorem Sound.insert (h : c.Sound answered) (absent : c.entries.find? text = none)
    (covers : entry.text = text ∧ StyledRange.Tile 0 text.length entry.ranges) :
    (⟨c.entries.insert text entry, c.computed + 1⟩ : HighlightCache).Sound
      (answered ++ [(text, entry)]) where
  find?_iff other found := by
    by_cases same : other = text
    · subst same
      have unanswered (e : Highlighted) : (other, e) ∉ answered := by
        rw [← h.find?_iff, absent]
        exact nofun
      simp [unanswered, eq_comm]
    · rw [Table.find?_insert_of_ne _ _ same, h.find?_iff]
      simp [same]
  covers other found hfound := by
    by_cases same : other = text
    · subst same
      obtain rfl := Option.some.inj ((Table.find?_insert_self _ _ _).symm.trans hfound)
      exact covers
    · rw [Table.find?_insert_of_ne _ _ same] at hfound
      exact h.covers other found hfound
  nodup := Table.nodup_keys_insert h.nodup text entry
  computed_eq := by
    have new : text ∉ c.entries.keys := Table.look_eq_none_iff.1 absent
    have keys := Table.keys_insert c.entries text entry
    rw [if_neg new] at keys
    have size := congrArg List.length keys
    rw [List.length_append, Table.keys, Table.keys, List.length_map, List.length_map] at size
    exact (congrArg (· + 1) h.computed_eq).trans size.symm

/-- A look-up adds its answer to those before, if it has one. -/
theorem Sound.getOrCompute (h : c.Sound answered) (l : LookUp) :
    (c.getOrCompute l.highlight l.text).2.Sound (answered ++
      (c.getOrCompute l.highlight l.text).1.toOption.toList.map fun entry => (l.text, entry)) := by
  cases hfound : c.entries.find? l.text with
  | some entry =>
    -- the answer is one of those before
    have old : (l.text, entry) ∈ answered := (h.find?_iff _ _).1 hfound
    rw [getOrCompute_stored hfound]
    refine ⟨fun text e => ?_, h.covers, h.nodup, h.computed_eq⟩
    rw [h.find?_iff]
    simp only [Except.toOption, Option.toList_some, List.map_cons, List.map_nil, List.mem_append,
      List.mem_singleton]
    exact ⟨.inl, fun hmem => hmem.elim id fun same => same ▸ old⟩
  | none =>
    rw [HighlightCache.getOrCompute, hfound]
    dsimp only
    split
    · simpa [Except.toOption] using h
    · rename_i entry made
      obtain ⟨lines, -, hlines⟩ := bind_eq_ok_iff.1 made
      exact h.insert hfound (Highlighted.covers_of_ofLines hlines)

/-! ## Any number of look-ups -/

theorem Sound.after (h : c.Sound answered) (lookUps : List LookUp) :
    (c.after lookUps).Sound (answered ++ c.answers lookUps) := by
  induction lookUps generalizing c answered with
  | nil => simpa [HighlightCache.after, answers] using h
  | cons l rest ih =>
    have next := ih (h.getOrCompute l)
    rwa [List.append_assoc] at next

theorem sound_after (lookUps : List LookUp) :
    (({} : HighlightCache).after lookUps).Sound (({} : HighlightCache).answers lookUps) :=
  sound_empty.after lookUps

theorem find?_after (h : c.entries.find? text = some entry) (lookUps : List LookUp) :
    (c.after lookUps).entries.find? text = some entry := by
  induction lookUps generalizing c with
  | nil => exact h
  | cons l rest ih => exact ih (find?_getOrCompute h l.highlight l.text)

/-- After any look-ups the cache holds what they have answered: each text once, covered by its
ranges, and as many as were counted. From then on a text with an entry is answered by this entry
without being highlighted. The look-up of any other text fails just when its highlighting fails or
does not cover it, and a look-up that fails changes nothing, so that its text is highlighted at the
next look-up as long as none has succeeded. -/
theorem after_keeps (lookUps : List LookUp) :
    let c := ({} : HighlightCache).after lookUps
    let answered := ({} : HighlightCache).answers lookUps
    c.Sound answered ∧ c.size = (distinct (answered.map Prod.fst)).length ∧
      (∀ text entry, c.entries.find? text = some entry → ∀ more highlight,
        (c.after more).getOrCompute highlight text = (.ok entry, c.after more)) ∧
      (∀ text, c.entries.find? text = none → ∀ highlight f,
        (c.getOrCompute highlight text).1 = .error f ↔
          highlight text = .error f ∨
          ∃ lines, highlight text = .ok lines ∧
            Fragment.totalLength lines.flatten ≠ text.length ∧
            f = .render (.partlyHighlighted (Fragment.totalLength lines.flatten) text.length)) ∧
      (∀ text highlight f, (c.getOrCompute highlight text).1 = .error f →
        (c.getOrCompute highlight text).2 = c ∧
        ∀ more, (∀ entry, (text, entry) ∉ c.answers more) → ∀ highlight',
          ((c.after more).getOrCompute highlight' text).1 =
            highlight' text >>= Highlighted.ofLines text) := by
  intro c answered
  have sound : c.Sound answered := sound_after lookUps
  refine ⟨sound, sound.size_eq, fun text entry h more highlight => ?_,
    fun text absent highlight f => getOrCompute_eq_error_iff absent,
    fun text highlight f failed =>
      ⟨getOrCompute_error failed, fun more unanswered highlight' => ?_⟩⟩
  · exact getOrCompute_stored (find?_after h more) highlight
  · -- a text that has an entry cannot fail, so it had none before and has none after
    refine getOrCompute_of_none
      (Option.eq_none_iff_forall_ne_some.2 fun entry found => ?_) highlight'
    rcases List.mem_append.1 (((sound.after more).find?_iff text entry).1 found) with old | new
    · rw [getOrCompute_stored ((sound.find?_iff text entry).2 old)] at failed
      cases failed
    · exact unanswered entry new

/-- A text that has too few fragments at first, an empty one, and the first again when it has an
entry. -/
def retries : List LookUp := [
  ⟨"ab", fun _ => .ok [[⟨{}, "a"⟩]]⟩,
  ⟨"ab", fun _ => .ok [[⟨{}, "a"⟩, ⟨{}, ""⟩], [⟨{}, "b"⟩]]⟩,
  ⟨"", fun _ => .ok []⟩,
  ⟨"ab", fun _ => .error .outOfRange⟩]

theorem after_keeps_retries :
    let c := ({} : HighlightCache).after retries
    c.size = 2 ∧ c.computed = 2 ∧
      (c.getOrCompute (fun _ => .error .outOfRange) "ab").1 =
        .ok ⟨"ab", [⟨{}, 0, 1⟩, ⟨{}, 1, 2⟩]⟩ ∧
      (c.getOrCompute (fun _ => .ok [[⟨{}, "c"⟩]]) "cd").1 =
        .error (.render (.partlyHighlighted 1 2)) ∧
      (c.getOrCompute (fun _ => .ok [[⟨{}, "c"⟩]]) "cd").2 = c := by
  intro c
  obtain ⟨sound, size, stored, fails, failed⟩ := after_keeps retries
  have two : c.size = 2 := size.trans rfl
  have first := stored "ab" ⟨"ab", [⟨{}, 0, 1⟩, ⟨{}, 1, 2⟩]⟩ rfl [] fun _ => .error .outOfRange
  have short := (fails "cd" rfl (fun _ => .ok [[⟨{}, "c"⟩]]) _).2
    (.inr ⟨_, rfl, by decide, rfl⟩)
  have unchanged := (failed "cd" (fun _ => .ok [[⟨{}, "c"⟩]]) _ short).1
  exact ⟨two, sound.computed_eq.trans two, congrArg Prod.fst first, short, unchanged⟩

end HighlightCache

end TraceLens
