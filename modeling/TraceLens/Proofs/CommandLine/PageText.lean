import TraceLens.CommandLine.Page
import TraceLens.Proofs.Bytecode.Sources
import TraceLens.Proofs.Pane.ShownText
import TraceLens.Proofs.Recorder.Snapshots

/-!
# The text of a page

The page of a recorded snapshot has its title in two elements, and the source pane after the graph.
What the source pane shows is the label and the text of the script, whatever characters they hold.
A title is written into the page as it is, so that it is shown as it is just if it holds no
beginning of a tag and no entity.

Main statements: `names_html_iff` for the titles, and `pageOf_shows` for the page of a snapshot.
-/

namespace TraceLens

namespace Html

/-! ## Elements -/

/-- The characters before the first occurrence of a mark. -/
def upTo? (mark : List Char) : List Char → Option (List Char)
  | [] => none
  | c :: cs => if mark.isPrefixOf (c :: cs) then some [] else (c :: ·) <$> upTo? mark cs

/-- The content of the first element of a name that has no attributes. -/
def element? (name : String) (cs : List Char) : Option (List Char) :=
  (fromFirst? ("<" ++ name ++ ">").toList cs).bind fun opened =>
    upTo? ("</" ++ name ++ ">").toList (opened.drop (name.length + 2))

/-- Characters that show themselves: there is no tag and no entity. -/
def Plain (cs : List Char) : Prop := '<' ∉ cs ∧ unescape cs = cs

variable {cs mark : List Char}

theorem fromFirst?_append_of_notMem (h : '<' ∉ cs) (mark rest : List Char) :
    fromFirst? ('<' :: mark) (cs ++ rest) = fromFirst? ('<' :: mark) rest := by
  induction cs with
  | nil => rfl
  | cons c cs ih =>
    obtain ⟨hc, hcs⟩ := List.ne_and_not_mem_of_not_mem_cons h
    rw [List.cons_append, fromFirst?, if_neg (by simp [List.isPrefixOf, hc]), ih hcs]

/-- The mark is found where it was put or before. -/
theorem exists_upTo? (hne : mark ≠ []) (cs rest : List Char) :
    ∃ content, upTo? mark (cs ++ (mark ++ rest)) = some content ∧ content <+: cs := by
  induction cs with
  | nil =>
    obtain ⟨c, more, rfl⟩ := List.exists_cons_of_ne_nil hne
    refine ⟨[], ?_, List.prefix_rfl⟩
    have here : (c :: more).isPrefixOf (c :: (more ++ rest)) := by simp
    simp only [List.nil_append, List.cons_append, upTo?, if_pos here]
  | cons c cs ih =>
    obtain ⟨content, hcontent, hprefix⟩ := ih
    rw [List.cons_append, upTo?]
    split
    · exact ⟨[], rfl, List.nil_prefix⟩
    · refine ⟨c :: content, by rw [hcontent]; rfl, ?_⟩
      exact List.cons_prefix_cons.2 ⟨rfl, hprefix⟩

/-- Characters without the beginning of a tag are read up to the mark that follows them. -/
theorem upTo?_of_notMem (h : '<' ∉ cs) (mark rest : List Char) :
    upTo? ('<' :: mark) (cs ++ ('<' :: mark ++ rest)) = some cs := by
  induction cs with
  | nil =>
    have here : ('<' :: mark).isPrefixOf ('<' :: (mark ++ rest)) := by simp
    simp only [List.nil_append, List.cons_append, upTo?, if_pos here]
  | cons c cs ih =>
    obtain ⟨hc, hcs⟩ := List.ne_and_not_mem_of_not_mem_cons h
    rw [List.cons_append, upTo?, if_neg (by simp [List.isPrefixOf, hc]), ih hcs]
    rfl

/-! ## Characters that show themselves -/

theorem length_go_le (inTag : Bool) (cs : List Char) :
    (withoutTags.go inTag cs).length ≤ cs.length := by
  fun_induction withoutTags.go inTag cs with
  | case1 => simp
  | case2 c rest ih => simp only [List.length_cons]; omega
  | case3 rest ih => simp only [List.length_cons]; omega
  | case4 c rest hc ih => simp only [List.length_cons]; omega

/-- A tag is not shown. -/
theorem length_withoutTags_lt (h : '<' ∈ cs) : (withoutTags cs).length < cs.length := by
  unfold withoutTags
  induction cs with
  | nil => cases h
  | cons c cs ih =>
    rw [withoutTags.go]
    split
    · have := length_go_le true cs
      rw [List.length_cons]
      omega
    · rename_i hc
      have := ih ((List.mem_cons.1 h).resolve_left (Ne.symm hc))
      rw [List.length_cons, List.length_cons]
      omega

theorem length_unescape_le (cs : List Char) : (unescape cs).length ≤ cs.length := by
  fun_induction unescape cs with
  | case1 cs c rest h hlt ih =>
    rw [List.length_cons]
    omega
  | case2 => simp
  | case3 c rest h ih =>
    rw [List.length_cons, List.length_cons]
    omega

theorem withoutTags_of_notMem (h : '<' ∉ cs) : withoutTags cs = cs := by
  have := withoutTags_append_of_notMem h []
  rwa [List.append_nil, show withoutTags [] = [] from rfl, List.append_nil] at this

/-- A beginning of some characters shows all of them just if it is all of them and shows itself. -/
theorem shownText_eq_iff_of_prefix {content : List Char} (h : content <+: cs) :
    shownText content = cs ↔ content = cs ∧ Plain cs := by
  constructor
  · intro shown
    have shorter := length_unescape_le (withoutTags content)
    rw [show unescape (withoutTags content) = cs from shown] at shorter
    have notLonger : (withoutTags content).length ≤ content.length := length_go_le false content
    have whole : content = cs := h.eq_of_length (by have := h.length_le; omega)
    subst whole
    have noTag : '<' ∉ content := by
      intro hmem
      have := length_withoutTags_lt hmem
      omega
    rw [shownText, withoutTags_of_notMem noTag] at shown
    exact ⟨rfl, noTag, shown⟩
  · rintro ⟨rfl, noTag, shown⟩
    rw [shownText, withoutTags_of_notMem noTag, shown]

end Html

/-! ## Titles -/

namespace Page

/-- A page whose two elements for the title both show a text. -/
def Names (page text : String) : Prop :=
  ∀ name ∈ ["title", "h3"], ∃ content,
    Html.element? name page.toList = some content ∧ Html.shownText content = text.toList

/-- What stands before the first title. -/
def opening : List Char := "<!DOCTYPE html>\n<html><head><meta charset=\"utf-8\"><title>".toList

/-- What stands after the end of the first title and before the second one. -/
def between : List Char := "</head>\n<body>\n<h3>".toList

theorem exists_html_eq (title graph source : String) : ∃ more, (html title graph source).toList =
    opening ++ (title.toList ++ ("</title>".toList ++ (between ++ (title.toList ++
      ("</h3>".toList ++ more))))) := by
  have parts (a t b c d e : String) : (a ++ t ++ b ++ c ++ t ++ d ++ graph ++ e ++ source ++
      "\n</body></html>\n").toList = a.toList ++ (t.toList ++ (b.toList ++ c.toList ++
        (t.toList ++ (d.toList ++ (graph ++ e ++ source ++ "\n</body></html>\n").toList)))) := by
    simp only [String.toList_append, List.append_assoc]
  have middle : "</title></head>\n".toList ++ "<body>\n<h3>".toList =
      "</title>".toList ++ between := by
    unfold between
    simp
  have foot : "</h3>\n".toList = "</h3>".toList ++ "\n".toList := by simp
  unfold html
  rw [parts, middle, foot, List.append_assoc "</title>".toList, List.append_assoc "</h3>".toList]
  exact ⟨_, rfl⟩

theorem element?_title (rest : List Char) :
    Html.element? "title" (opening ++ rest) = Html.upTo? "</title>".toList rest := by
  have found : fromFirst? "<title>".toList (opening ++ rest) = some ("<title>".toList ++ rest) := by
    unfold opening
    simp [fromFirst?]
  have start : ("<" ++ "title" ++ ">").toList = "<title>".toList := by simp
  have stop : ("</" ++ "title" ++ ">").toList = "</title>".toList := by simp
  have length : "title".length + 2 = "<title>".toList.length := rfl
  rw [Html.element?, start, stop, found, Option.bind_some, length, List.drop_left]

theorem element?_h3 {title : List Char} (h : '<' ∉ title) (rest : List Char) :
    Html.element? "h3" (opening ++ (title ++ ("</title>".toList ++ (between ++ rest)))) =
      Html.upTo? "</h3>".toList rest := by
  have start : ("<" ++ "h3" ++ ">").toList = '<' :: "h3>".toList := by simp
  have stop : ("</" ++ "h3" ++ ">").toList = "</h3>".toList := by simp
  have length : "h3".length + 2 = ('<' :: "h3>".toList).length := rfl
  have skipped (more : List Char) : fromFirst? ('<' :: "h3>".toList) (opening ++ more) =
      fromFirst? ('<' :: "h3>".toList) more := by
    unfold opening
    simp [fromFirst?]
  have found : fromFirst? ('<' :: "h3>".toList) ("</title>".toList ++ (between ++ rest)) =
      some ('<' :: "h3>".toList ++ rest) := by
    unfold between
    simp [fromFirst?]
  rw [Html.element?, start, stop, skipped, Html.fromFirst?_append_of_notMem h, found,
    Option.bind_some, length, List.drop_left]

/-- The title is shown as it is just if it shows itself. -/
theorem names_html_iff (title graph source : String) :
    Names (html title graph source) title ↔ Html.Plain title.toList := by
  obtain ⟨more, text⟩ := exists_html_eq title graph source
  obtain ⟨content, hcontent, hprefix⟩ := Html.exists_upTo?
    (show "</title>".toList ≠ [] by simp) title.toList
      (between ++ (title.toList ++ ("</h3>".toList ++ more)))
  rw [← element?_title, ← text] at hcontent
  constructor
  · intro names
    obtain ⟨content', hcontent', shown⟩ := names "title" (by simp)
    obtain rfl := Option.some.inj (hcontent.symm.trans hcontent')
    exact ((Html.shownText_eq_iff_of_prefix hprefix).1 shown).2
  · intro plain name hname
    have shown := (Html.shownText_eq_iff_of_prefix List.prefix_rfl).2 ⟨rfl, plain⟩
    refine ⟨title.toList, ?_, shown⟩
    rw [text]
    rcases List.mem_pair.1 hname with rfl | rfl
    · rw [element?_title]
      exact Html.upTo?_of_notMem plain.1 _ _
    · rw [element?_h3 plain.1]
      exact Html.upTo?_of_notMem plain.1 _ _

end Page

/-! ## Recorded snapshots -/

theorem Theme.notMem_background (t : Theme) :
    ∀ color ∈ t.styleTable.background, '>' ∉ color.toList := by
  rintro color ⟨⟩
  cases t <;> decide

theorem Settings.notMem_markerStyle {settings : Settings}
    (h : '>' ∉ settings.markerColor.toList) : '>' ∉ settings.markerStyle.toList := by
  unfold markerStyle
  simp [h]

/-- The pane of a position in one file shows its label and the text of the file. -/
theorem exists_pane_of_sourcePane {context : PaneContext} {scan : Scanner} {styles : StyleTable}
    (highlight : context.highlight = highlightLines scan styles) (colors : styles.Harmless)
    (marker : '>' ∉ context.markerStyle.toList) {body : Body} {position : Position}
    {file source : String} (text : context.sources.text file = .ok source)
    (inFile : ∀ span, body.spanOf position = .ok span → span.IsIn file) {panes : List Pane}
    (h : (sourcePane context {} body position).panes = .ok panes) :
    ∃ region pane, body.spanOf position = .ok (.ofRegion region) ∧ region.file = file ∧
      panes = [pane] ∧ pane.label = region.label (some source) context.aliases ∧
      ∀ background : Option String, (∀ color ∈ background, '>' ∉ color.toList) →
        Html.shownText (panesHtml [pane] background).toList =
          pane.label.toList ++ region.shownIn source := by
  cases hspan : body.spanOf position with
  | error f =>
    rw [sourcePane, hspan] at h
    cases h
  | ok span =>
    obtain ⟨region, rfl⟩ : ∃ region, span = .ofRegion region := ⟨_, (inFile span hspan).eq_ofRegion⟩
    have file_eq : region.file = file := (inFile _ hspan).file_eq
    rw [Pane.panes_of_spanOf .empty hspan] at h
    cases halone : Pane.alone context region with
    | error f =>
      rw [halone] at h
      cases h
    | ok pane =>
      rw [halone] at h
      obtain rfl := Except.ok.inj h
      have found : context.sources.text region.file = .ok source := file_eq ▸ text
      have label : pane.label = region.label (some source) context.aliases := by
        rw [Pane.alone_of_text found] at halone
        obtain ⟨entry, hentry, hpane⟩ := bind_eq_ok_iff.1 halone
        obtain ⟨lines, -, hlines⟩ := bind_eq_ok_iff.1 hentry
        obtain ⟨markup, -, hpane⟩ := bind_eq_ok_iff.1 hpane
        rw [← pure_eq_ok_iff.1 hpane, (Highlighted.covers_of_ofLines hlines).1]
      refine ⟨region, pane, rfl, file_eq, rfl, label, fun background harmless => ?_⟩
      have shown := Pane.shownText_panesHtml highlight colors marker harmless (.cons halone .nil)
      rw [shown, List.flatMap_singleton, Pane.shownOf, found, label]

/-- A page that is made has its title, the markup of a graph and the panes of the snapshot. -/
theorem exists_html_of_pageOf {context : PageContext} {recorder : Recorder} {lines : List Int}
    {s : Snapshot} {page : String} (made : (pageOf context recorder lines s).page = .ok page) :
    ∃ graph panes, (sourcePane (context.paneContext recorder) {} s.body s.position).panes =
        .ok panes ∧
      page = Page.html (Page.title s) graph
        (panesHtml panes context.settings.theme.styleTable.background) := by
  unfold pageOf at made
  dsimp only at made
  split at made
  · cases made
  · rename_i graph _
    cases hpanes : (sourcePane (context.paneContext recorder) {} s.body s.position).panes with
    | error f =>
      rw [hpanes] at made
      cases made
    | ok panes =>
      rw [hpanes] at made
      exact ⟨graph, panes, rfl, (Except.ok.inj made).symm⟩

/-- The page of a recorded snapshot shows the label and the text of its script unchanged in its
source pane. It shows its title, the name of the body and the line, just if the title shows itself;
so does the page of a run without snapshots with the name of the file. -/
theorem pageOf_shows {r : Recorder} {session : Session} {source : String} {s : Snapshot}
    (recorded : s ∈ (r.runScript session source).recorder.snapshots) {context : PageContext}
    {scan : Scanner}
    (highlight : context.highlight = highlightLines scan context.settings.theme.styleTable)
    (marker : '>' ∉ context.settings.markerColor.toList) {lines : List Int} {page : String}
    (made : (pageOf context (r.runScript session source).recorder lines s).page = .ok page) :
    (Page.Names page (Page.title s) ↔ Html.Plain (Page.title s).toList) ∧
      (Page.Names (Page.empty r.file) r.file ↔ Html.Plain r.file.toList) ∧
      ∃ graph region pane, s.body.spanOf s.position = .ok (.ofRegion region) ∧
        region.file = r.file ∧
        page = Page.html (Page.title s) graph
          (panesHtml [pane] context.settings.theme.styleTable.background) ∧
        pane.label = region.label (some source) context.aliases ∧
        Html.shownText (panesHtml [pane] context.settings.theme.styleTable.background).toList =
          pane.label.toList ++ region.shownIn source := by
  have traces := r.runScript_traces session source
  have text : (context.paneContext (r.runScript session source).recorder).sources.text r.file =
      .ok source := by
    change (SourceMap.add {} (r.runScript session source).recorder.file
      (r.runScript session source).recorder.source).text r.file = .ok source
    rw [traces.file_eq, traces.source_eq]
    exact SourceMap.text_add_self {} r.file source
  obtain ⟨graph, panes, hpanes, rfl⟩ := exists_html_of_pageOf made
  obtain ⟨region, pane, hspan, file_eq, rfl, label, shown⟩ :=
    exists_pane_of_sourcePane highlight (Theme.styleTable_harmless _)
      (Settings.notMem_markerStyle marker) text
      (fun span hspan => (traces.snapshots s recorded).isIn hspan) hpanes
  exact ⟨Page.names_html_iff .., Page.names_html_iff .., graph, region, pane, hspan, file_eq,
    rfl, label, shown _ (Theme.notMem_background _)⟩

/-- The code of a script that does nothing, under a name. -/
def passing (name : String) : Bytecode.Code where
  file := "prog.src"
  name
  instructions := [⟨0, 83, "RETURN_VALUE", none, none, "", some ⟨some 1, some 1, some 0, some 4⟩⟩]

def passingRun (name : String) : RunResult :=
  Recorder.runScript { file := "prog.src", maxSteps := 10 }
    { codes := [passing name], events := [.line ⟨0, 0, some 1, {}⟩] } "a < b"

/-- Pages whose texts have no tokens, from a layout that draws nothing. -/
def plainPages : PageContext where
  settings := {}
  layout := fun _ => { drawing := .ok (Utf8.encode "<svg/>") }
  highlight := highlightLines (fun _ => []) ({} : Settings).theme.styleTable
  aliases := {}

theorem exists_passingRun_page (name title : String)
    (h : ((passingRun name).recorder.snapshots.any fun s => Page.title s = title &&
      (pageOf plainPages (passingRun name).recorder [] s).page.toOption.isSome) = true) :
    ∃ s ∈ (passingRun name).recorder.snapshots, Page.title s = title ∧
      ∃ page, (pageOf plainPages (passingRun name).recorder [] s).page = .ok page := by
  obtain ⟨s, hs, h⟩ := List.any_eq_true.1 h
  rw [Bool.and_eq_true, decide_eq_true_eq] at h
  refine ⟨s, hs, h.1, ?_⟩
  cases hpage : (pageOf plainPages (passingRun name).recorder [] s).page with
  | error f =>
    rw [hpage] at h
    cases h.2
  | ok page => exact ⟨page, rfl⟩

/-- The page of a function has its name and shows the script. -/
theorem pageOf_shows_area :
    plainPages.highlight = highlightLines (fun _ => []) plainPages.settings.theme.styleTable ∧
    '>' ∉ plainPages.settings.markerColor.toList ∧
    ∃ s ∈ (passingRun "area").recorder.snapshots, ∃ page,
      (pageOf plainPages (passingRun "area").recorder [] s).page = .ok page ∧
      Page.Names page "area @ line 1" ∧
      ∃ region pane, s.body.spanOf s.position = .ok (.ofRegion region) ∧
        Html.shownText
            (panesHtml [pane] plainPages.settings.theme.styleTable.background).toList =
          pane.label.toList ++ region.shownIn "a < b" := by
  have highlight : plainPages.highlight =
      highlightLines (fun _ => []) plainPages.settings.theme.styleTable := rfl
  have marker : '>' ∉ plainPages.settings.markerColor.toList := by decide
  obtain ⟨s, recorded, title, page, made⟩ :=
    exists_passingRun_page "area" "area @ line 1" (by decide +kernel)
  obtain ⟨names, -, graph, region, pane, hspan, -, -, -, shown⟩ :=
    pageOf_shows recorded highlight marker made
  rw [title] at names
  have plain : Html.Plain "area @ line 1".toList := by
    refine ⟨by decide, ?_⟩
    simp [Html.unescape_cons, Html.unescape, Html.entity?]
  exact ⟨highlight, marker, s, recorded, page, made, names.2 plain, region, pane, hspan, shown⟩

/-- The name of the code of a whole script is taken for a tag. -/
theorem not_names_module : ∃ s ∈ (passingRun "<module>").recorder.snapshots,
    Page.title s = "<module> @ line 1" ∧
    ∃ page, (pageOf plainPages (passingRun "<module>").recorder [] s).page = .ok page ∧
      ¬Page.Names page (Page.title s) := by
  obtain ⟨s, recorded, title, page, made⟩ :=
    exists_passingRun_page "<module>" "<module> @ line 1" (by decide +kernel)
  refine ⟨s, recorded, title, page, made, ?_⟩
  obtain ⟨graph, panes, -, rfl⟩ := exists_html_of_pageOf made
  rw [Page.names_html_iff, title]
  rintro ⟨noTag, -⟩
  exact noTag (by decide)

end TraceLens
