import Mathlib.Data.List.Basic
import TraceLens.Settings
import TraceLens.Source.Label

/-!
# Labels of library files

The label of a file in a directory of the system is the alias of the directory with the path of the
file in it. The standard library is looked at first, so a site directory that lies in it does not
have an alias of its own.

Main statements: `find?_aliases` says which alias a path takes, and `label_library` how library
files are labelled.
-/

namespace TraceLens

/-! ## Directories -/

/-- The name of a file, from the name of a directory without a slash at its end and the path of the
file in there. -/
def under (dir path : String) : String := dir ++ "/" ++ path

/-- A directory lies in another one, at any depth. -/
def LiesIn (dir outer : String) : Prop := ∃ path, dir = under outer path

/-- A table of paths names a directory, with any number of slashes after its name. -/
structure NamesDirectory (paths : Table String (Option String)) (key dir : String) : Prop where
  noSlash : dir.toList.getLast? ≠ some '/'
  named : ∃ n, paths.find? key = some (some (dir ++ String.ofList (List.replicate n '/'))) ∧
    dir ++ String.ofList (List.replicate n '/') ≠ ""

section Under

variable {dir outer path inner : String}

theorem toList_under : (under dir path).toList = dir.toList ++ '/' :: path.toList := by
  simp [under]

theorem under_right_inj : under dir path = under dir inner ↔ path = inner := by
  rw [under, under, String.append_right_inj]

theorem under_under : under (under outer inner) path = under outer (under inner path) := by
  simp [under, String.append_assoc]

/-- Two directories with a common file are the same, or one of them lies in the other. -/
theorem eq_or_liesIn_of_under_eq (h : under dir path = under outer inner) :
    dir = outer ∨ LiesIn dir outer ∨ LiesIn outer dir := by
  have longer {dir outer : String} {more : List Char}
      (h : dir.toList = outer.toList ++ '/' :: more) : LiesIn dir outer :=
    ⟨String.ofList more, String.toList_inj.1 (by rw [h, toList_under, String.toList_ofList])⟩
  have h := congrArg String.toList h
  rw [toList_under, toList_under] at h
  rcases List.append_eq_append_iff.1 h with
    ⟨_ | ⟨c, more⟩, heq, hrest⟩ | ⟨_ | ⟨c, more⟩, heq, hrest⟩
  · exact .inl (String.toList_inj.1 (by simpa using heq.symm))
  · obtain ⟨rfl, -⟩ := List.cons_eq_cons.1 hrest
    exact .inr (.inr (longer heq))
  · exact .inl (String.toList_inj.1 (by simpa using heq))
  · obtain ⟨rfl, -⟩ := List.cons_eq_cons.1 hrest
    exact .inr (.inl (longer heq))

theorem not_liesIn_self : ¬LiesIn dir dir := by
  rintro ⟨path, h⟩
  have := congrArg (fun name => name.toList.length) h
  simp [toList_under] at this

/-- A path starts with a directory's name and a slash just if it names a file in there. -/
theorem isPrefixOf_iff {file : String} :
    (dir ++ "/").toList.isPrefixOf file.toList = true ↔ ∃ path, file = under dir path := by
  rw [List.isPrefixOf_iff_prefix]
  constructor
  · rintro ⟨rest, h⟩
    refine ⟨String.ofList rest, String.toList_inj.1 ?_⟩
    rw [← h, toList_under]
    simp
  · rintro ⟨path, rfl⟩
    exact ⟨path.toList, by simp [toList_under]⟩

/-- Slashes at the end of a directory's path do not count. -/
theorem directoryStart_eq (noSlash : dir.toList.getLast? ≠ some '/') (n : Nat) :
    Settings.directoryStart (dir ++ String.ofList (List.replicate n '/')) = dir ++ "/" := by
  have start : (dir.toList.reverse).dropWhile (· == '/') = dir.toList.reverse := by
    rw [← List.head?_reverse] at noSlash
    cases hdir : dir.toList.reverse with
    | nil => rfl
    | cons c cs =>
      have : c ≠ '/' := by simpa [hdir] using noSlash
      rw [List.dropWhile_cons_of_neg (by simpa using this)]
  have turned : (dir ++ String.ofList (List.replicate n '/')).toList.reverse =
      List.replicate n '/' ++ dir.toList.reverse := by simp
  rw [Settings.directoryStart, Blank.dropEndWhile, turned, List.dropWhile_append_of_pos (by simp),
    start, List.reverse_reverse, String.ofList_toList]

/-- The alias of the first beginning that a file's name has stands before its path. -/
theorem shortenPath_under {aliases : Table String String} {short : String}
    (h : aliases.entries.find? (fun e => e.1.toList.isPrefixOf (under dir path).toList) =
      some (dir ++ "/", short)) :
    shortenPath aliases (under dir path) = short ++ path := by
  have rest : (under dir path).toList.drop (dir ++ "/").length = path.toList := by
    have name : (under dir path).toList = (dir ++ "/").toList ++ path.toList := by
      simp [toList_under]
    rw [name, ← String.length_toList, List.drop_left]
  rw [shortenPath, h]
  exact congrArg (short ++ ·) (by rw [rest, String.ofList_toList])

end Under

/-! ## The directories of the system -/

/-- How the files in the directories of the system are labelled. -/
structure LabelsLibrary (aliases : Table String String) (std : String) (sites : List String) :
    Prop where
  /-- A file in a site directory has the alias of these directories, unless it lies in the standard
  library as well and that is not itself one of them. -/
  site : ∀ dir ∈ sites, ∀ r : Region, ∀ path, r.file = under dir path →
    (∀ path', r.file = under std path' → std ∈ sites) →
    r.label none aliases = "<site-packages>/" ++ path
  /-- A file of the standard library that is in no site directory has the alias of the former. -/
  standard : ∀ r : Region, ∀ path, r.file = under std path →
    (∀ dir ∈ sites, ∀ path', r.file ≠ under dir path') →
    r.label none aliases = "<python>/" ++ path
  /-- A site directory in the standard library goes by the alias of the latter. -/
  nested : ∀ dir ∈ sites, ∀ inner, dir = under std inner → ∀ r : Region, ∀ path,
    r.file = under dir path → r.label none aliases = "<python>/" ++ under inner path

section Library

variable {paths : Table String (Option String)} {std pure plat : String}
  (hstd : NamesDirectory paths "stdlib" std) (hpure : NamesDirectory paths "purelib" pure)
  (hplat : NamesDirectory paths "platlib" plat)

include hstd hpure hplat

theorem systemAliases_eq :
    Settings.systemAliases paths =
      [(std ++ "/", "<python>/"), (pure ++ "/", "<site-packages>/"),
        (plat ++ "/", "<site-packages>/")] := by
  obtain ⟨a, hfind, hne⟩ := hstd.named
  obtain ⟨b, hfind', hne'⟩ := hpure.named
  obtain ⟨c, hfind'', hne''⟩ := hplat.named
  simp only [Settings.systemAliases, Settings.systemDirectories, List.filterMap_cons,
    List.filterMap_nil, hfind, hfind', hfind'', Option.join_some, if_neg hne, if_neg hne',
    if_neg hne'', directoryStart_eq hstd.noSlash, directoryStart_eq hpure.noSlash,
    directoryStart_eq hplat.noSlash]

/-- The first entry whose key passes a test: the standard library comes first, with the alias of the
site directories if it is one of them. -/
theorem find?_aliases {s : Settings} (plain : s.pathAliases.entries = []) (p : String → Bool) :
    (s.aliases paths).entries.find? (fun e => p e.1) =
      if p (std ++ "/") then some (std ++ "/",
        if std ∈ [pure, plat] then "<site-packages>/" else "<python>/")
      else if p (pure ++ "/") then some (pure ++ "/", "<site-packages>/")
      else if p (plat ++ "/") then some (plat ++ "/", "<site-packages>/")
      else none := by
  have entries : (s.aliases paths).entries =
      Table.put (Table.put (Table.put [] (std ++ "/") "<python>/") (pure ++ "/")
        "<site-packages>/") (plat ++ "/") "<site-packages>/" := by
    rw [Settings.aliases, plain, systemAliases_eq hstd hpure hplat]
    rfl
  have same {a b : String} : a ++ "/" = b ++ "/" ↔ a = b := String.append_left_inj _
  rw [entries, Table.find?_put, Table.find?_put, Table.find?_put]
  simp only [List.find?_nil, List.mem_cons, List.not_mem_nil, or_false]
  cases hp : p (std ++ "/") with
  | true => by_cases hpure : std = pure <;> by_cases hplat : std = plat <;> simp_all
  | false =>
    cases hp' : p (pure ++ "/") with
    | true => by_cases hplat : pure = plat <;> simp_all
    | false => cases hp'' : p (plat ++ "/") <;> simp

/-- A file of the standard library goes by its alias, or by that of the site directories if it is
one of them. -/
theorem shortenPath_standard {s : Settings} (plain : s.pathAliases.entries = []) (path : String) :
    shortenPath (s.aliases paths) (under std path) =
      (if std ∈ [pure, plat] then "<site-packages>/" else "<python>/") ++ path := by
  have first := find?_aliases hstd hpure hplat plain (·.toList.isPrefixOf (under std path).toList)
  rw [if_pos (isPrefixOf_iff.2 ⟨path, rfl⟩)] at first
  exact shortenPath_under first

/-- A file outside of the standard library goes by the alias of the first site directory that it
lies in. -/
theorem shortenPath_site {s : Settings} (plain : s.pathAliases.entries = []) {dir path : String}
    (hdir : dir ∈ [pure, plat]) (outside : ∀ path', under dir path ≠ under std path') :
    ∃ first ∈ [pure, plat], ∃ path', under dir path = under first path' ∧
      shortenPath (s.aliases paths) (under dir path) = "<site-packages>/" ++ path' := by
  have first := find?_aliases hstd hpure hplat plain (·.toList.isPrefixOf (under dir path).toList)
  have notStd : ¬(std ++ "/").toList.isPrefixOf (under dir path).toList = true := by
    rw [isPrefixOf_iff]
    exact fun ⟨path', h⟩ => outside path' h
  rw [if_neg notStd] at first
  by_cases inPure : (pure ++ "/").toList.isPrefixOf (under dir path).toList = true
  · obtain ⟨path', h⟩ := isPrefixOf_iff.1 inPure
    rw [if_pos inPure, h] at first
    exact ⟨pure, by simp, path', h, h ▸ shortenPath_under first⟩
  · obtain rfl | rfl : dir = pure ∨ dir = plat := by simpa using hdir
    · exact absurd (isPrefixOf_iff.2 ⟨path, rfl⟩) inPure
    · rw [if_neg inPure, if_pos (isPrefixOf_iff.2 ⟨path, rfl⟩)] at first
      exact ⟨dir, hdir, path, rfl, shortenPath_under first⟩

/-- Library files are labelled by the directory that they lie in, in whatever way the directories
lie to each other, but the standard library comes before site directories inside it. -/
theorem label_library (apart : pure = plat ∨ ¬LiesIn pure plat ∧ ¬LiesIn plat pure) {s : Settings}
    (plain : s.pathAliases.entries = []) :
    LabelsLibrary (s.aliases paths) std [pure, plat] := by
  -- a file lies in the site directories at one path only
  have alone {a b : String} (ha : a ∈ [pure, plat]) (hb : b ∈ [pure, plat]) :
      a = b ∨ ¬LiesIn a b ∧ ¬LiesIn b a := by
    simp only [List.mem_cons, List.not_mem_nil, or_false] at ha hb
    rcases ha with rfl | rfl <;> rcases hb with rfl | rfl <;> simp_all [and_comm, eq_comm]
  have path_eq {a b path path' : String} (ha : a ∈ [pure, plat]) (hb : b ∈ [pure, plat])
      (h : under a path = under b path') : path' = path := by
    obtain rfl : a = b := (alone ha hb).elim id fun ⟨hab, hba⟩ =>
      (eq_or_liesIn_of_under_eq h).elim id fun h => absurd h (not_or.2 ⟨hab, hba⟩)
    exact (under_right_inj.1 h).symm
  constructor
  · intro dir hdir r path hfile hstandard
    rw [Region.label, hfile]
    by_cases inStd : ∃ path', under dir path = under std path'
    · obtain ⟨path', h⟩ := inStd
      have member := hstandard path' (hfile.trans h)
      rw [h, shortenPath_standard hstd hpure hplat plain, if_pos member, path_eq hdir member h]
    · obtain ⟨first, hfirst, path', h, short⟩ :=
        shortenPath_site hstd hpure hplat plain hdir (not_exists.1 inStd)
      rw [short, path_eq hdir hfirst h]
  · intro r path hfile hsites
    have notSite : std ∉ [pure, plat] := fun member => hsites std member path hfile
    rw [Region.label, hfile, shortenPath_standard hstd hpure hplat plain, if_neg notSite]
  · intro dir hdir inner hinner r path hfile
    have notSite : std ∉ [pure, plat] := by
      intro member
      rcases alone hdir member with rfl | ⟨outside, -⟩
      · exact not_liesIn_self ⟨inner, hinner⟩
      · exact outside ⟨inner, hinner⟩
    rw [Region.label, hfile, hinner, under_under, shortenPath_standard hstd hpure hplat plain,
      if_neg notSite]

end Library

/-- A system with two site directories outside of its standard library. -/
def separatePaths : Table String (Option String) :=
  .ofList [("stdlib", some "/usr/lib/python3.11"),
    ("purelib", some "/usr/lib/python3/dist-packages//"),
    ("platlib", some "/usr/lib64/python3/dist-packages")]

theorem label_library_separatePaths :
    let aliases := ({} : Settings).aliases separatePaths
    NamesDirectory separatePaths "stdlib" "/usr/lib/python3.11" ∧
      NamesDirectory separatePaths "purelib" "/usr/lib/python3/dist-packages" ∧
      NamesDirectory separatePaths "platlib" "/usr/lib64/python3/dist-packages" ∧
      ¬LiesIn "/usr/lib/python3/dist-packages" "/usr/lib64/python3/dist-packages" ∧
      ¬LiesIn "/usr/lib64/python3/dist-packages" "/usr/lib/python3/dist-packages" ∧
      ({} : Settings).pathAliases.entries = [] ∧
      Region.label ⟨"/usr/lib/python3/dist-packages/attr.py", 0, 1⟩ none aliases =
        "<site-packages>/attr.py" ∧
      Region.label ⟨"/usr/lib64/python3/dist-packages/yaml/loader.py", 0, 1⟩ none aliases =
        "<site-packages>/yaml/loader.py" ∧
      Region.label ⟨"/usr/lib/python3.11/json/decoder.py", 0, 1⟩ none aliases =
        "<python>/json/decoder.py" := by
  intro aliases
  have std : NamesDirectory separatePaths "stdlib" "/usr/lib/python3.11" :=
    ⟨by decide, 0, by decide +kernel, by decide⟩
  have pure : NamesDirectory separatePaths "purelib" "/usr/lib/python3/dist-packages" :=
    ⟨by decide, 2, by decide +kernel, by decide⟩
  have plat : NamesDirectory separatePaths "platlib" "/usr/lib64/python3/dist-packages" :=
    ⟨by decide, 0, by decide +kernel, by decide⟩
  have apart : ¬LiesIn "/usr/lib/python3/dist-packages" "/usr/lib64/python3/dist-packages" ∧
      ¬LiesIn "/usr/lib64/python3/dist-packages" "/usr/lib/python3/dist-packages" :=
    ⟨mt isPrefixOf_iff.2 (by decide), mt isPrefixOf_iff.2 (by decide)⟩
  have labels := label_library std pure plat (.inr apart) (s := {}) rfl
  refine ⟨std, pure, plat, apart.1, apart.2, rfl, ?_, ?_, ?_⟩
  · refine labels.site "/usr/lib/python3/dist-packages" (by simp) _ "attr.py" (by decide)
      fun path' h => ?_
    exact absurd (isPrefixOf_iff.2 ⟨path', h⟩) (by decide)
  · refine labels.site "/usr/lib64/python3/dist-packages" (by simp) _ "yaml/loader.py" (by decide)
      fun path' h => ?_
    exact absurd (isPrefixOf_iff.2 ⟨path', h⟩) (by decide)
  · refine labels.standard _ "json/decoder.py" (by decide) fun dir hdir path' h => ?_
    have inside := isPrefixOf_iff.2 ⟨path', h⟩
    obtain rfl | rfl : dir = "/usr/lib/python3/dist-packages" ∨
        dir = "/usr/lib64/python3/dist-packages" := by simpa using hdir
    · exact absurd inside (by decide)
    · exact absurd inside (by decide)

/-- A system whose site directories lie in its standard library. -/
def nestedPaths : Table String (Option String) :=
  .ofList [("stdlib", some "/usr/lib/python3.11"),
    ("purelib", some "/usr/lib/python3.11/site-packages"),
    ("platlib", some "/usr/lib/python3.11/site-packages")]

/-- A file in a site directory may be labelled as one of the standard library. -/
theorem label_nestedPaths :
    NamesDirectory nestedPaths "stdlib" "/usr/lib/python3.11" ∧
      NamesDirectory nestedPaths "purelib" "/usr/lib/python3.11/site-packages" ∧
      NamesDirectory nestedPaths "platlib" "/usr/lib/python3.11/site-packages" ∧
      LiesIn "/usr/lib/python3.11/site-packages" "/usr/lib/python3.11" ∧
      Region.label ⟨under "/usr/lib/python3.11/site-packages" "attr.py", 0, 1⟩ none
        (({} : Settings).aliases nestedPaths) = "<python>/site-packages/attr.py" ∧
      "<python>/site-packages/attr.py" ≠ "<site-packages>/" ++ "attr.py" := by
  refine ⟨⟨by decide, 0, by decide +kernel, by decide⟩,
    ⟨by decide, 0, by decide +kernel, by decide⟩, ⟨by decide, 0, by decide +kernel, by decide⟩,
    ⟨"site-packages", by decide⟩, ?_, by decide⟩
  decide +kernel

end TraceLens
