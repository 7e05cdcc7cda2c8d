import PullReport.Proofs.Report.Lines
import PullReport.Proofs.Report.Style
import PullReport.Report.Markdown
import PullReport.Report.Terminal

/-!
# One report, three forms

A report is printed on a terminal, written as plain text and written as a document, and the three
are put together independently of each other. They say the same: the lines below the headings on the
terminal are those of the plain text, moved to the right, and the document has the reference block
of the plain text between its fences. On the terminal there are no empty lines between the sections
of references, which is the only difference. A fence cannot be closed early, since a line of the
block starts with a letter, a hyphen or an asterisk.

Styles make no difference to what is printed. Each text is styled by itself, so what is printed in
colour is looked at piece by piece.

## Main definitions

* `Report.strings`, `Report.IsClean`: the texts in a report are on one line and have no escapes.
* `Report.Agrees`: the three forms of a report say the same.

## Main results

* `Report.referenceEntries_eq`, `ReferenceChange.map_styledEntries`: the references on the terminal.
* `Report.markdown_eq`: the lines of the document.
* `Report.agrees_of_isClean`: the three forms of a report say the same.
-/

namespace PullReport

open Text

/-! ### Lines with a line feed behind each -/

/-- Lines with a line feed behind each. -/
def endLines (ls : List String) : String := String.join (ls.map (· ++ "\n"))

theorem endLines_cons (l : String) (ls : List String) :
    endLines (l :: ls) = l ++ "\n" ++ endLines ls := by
  rw [endLines, List.map_cons, String.join_cons]
  rfl

theorem endLines_append (ls ks : List String) :
    endLines (ls ++ ks) = endLines ls ++ endLines ks := by
  induction ls with
  | nil => rw [List.nil_append, show endLines [] = "" from rfl, String.empty_append]
  | cons l ls ih =>
    rw [List.cons_append, endLines_cons, ih, endLines_cons, ← String.append_assoc]

/-- Behind the last line feed there is nothing. -/
theorem endLines_eq_intercalate (ls : List String) :
    endLines ls = "\n".intercalate (ls ++ [""]) := by
  induction ls with
  | nil => rfl
  | cons l ls ih =>
    rw [endLines_cons, ih, List.cons_append, String.intercalate_cons_of_ne_nil (by simp)]

theorem intercalate_append_feed {ls : List String} (h : ls ≠ []) :
    "\n".intercalate ls ++ "\n" = endLines ls := by
  rw [endLines_eq_intercalate, String.intercalate_append_of_ne_nil h (by simp),
    String.intercalate_singleton, String.append_empty]

theorem feedLines_endLines {ls : List String} (h : ∀ l ∈ ls, '\n' ∉ l.toList) :
    feedLines (endLines ls) = ls ++ [""] := by
  rw [endLines_eq_intercalate, feedLines_intercalate (by simp)]
  exact List.forall_mem_append.2 ⟨h, List.forall_mem_singleton.2 List.not_mem_nil⟩

/-! ### The references on a terminal -/

namespace ReferenceChange

/-- What is printed of some changes, each entry with its style. -/
def styledEntries (changes : List ReferenceChange) : List (Style × String) :=
  if classes changes = [] then [(.dimmed, noneLine)]
  else (classes changes).flatMap fun cls =>
    (.bold, cls.heading) :: (changes.filter (·.readsAs cls)).map fun change =>
      (cls.style, line cls change)

theorem filter_classLines (changes : List ReferenceChange) (cls : ChangeClass) :
    (classLines changes cls).filter (· ≠ "") = classLines changes cls := by
  rw [List.filter_eq_self]
  intro l hl
  rw [decide_eq_true_eq]
  rintro rfl
  exact not_mem_classLines changes cls hl

/-- **What is printed** is the body of the reference block without its empty lines. -/
theorem map_styledEntries (changes : List ReferenceChange) :
    (styledEntries changes).map Prod.snd = (bodyLines changes).filter (· ≠ "") := by
  rw [styledEntries, bodyLines]
  split
  · rfl
  · rw [filter_intercalate (by simp), List.flatMap_map, List.map_flatMap]
    refine List.flatMap_congr fun cls _ => ?_
    rw [filter_classLines]
    simp [classLines, Function.comp_def]

/-- No line of the body starts with what a fence is made of. -/
theorem head?_ne_of_mem_bodyLines {changes : List ReferenceChange} :
    ∀ l ∈ bodyLines changes, l.toList.head? ≠ some '\x60' := by
  intro l hl
  rcases mem_bodyLines hl with ⟨-, rfl⟩ | rfl | ⟨cls, -, rfl⟩ | ⟨cls, change, -, rfl⟩
  · decide
  · decide
  · cases cls <;> decide
  · obtain ⟨versions, hline⟩ := line_eq cls change
    simp [hline, String.toList_append]

end ReferenceChange

namespace Report

open ReferenceChange

theorem sectionEntries_eq (colour : Bool) (changes : List ReferenceChange) (cls : ChangeClass) :
    sectionEntries colour changes cls =
      if changes.any (·.readsAs cls) then
        entry colour .bold cls.heading ::
          ((changes.filter (·.readsAs cls)).map (line cls)).map (entry colour cls.style)
      else [] := by
  rw [sectionEntries, any_readsAs_eq, ← ofClass, List.map_map]
  cases ofClass cls changes <;> rfl

/-- The references on the terminal are the entries in their styles. -/
theorem referenceEntries_eq (colour : Bool) (changes : List ReferenceChange) :
    referenceEntries colour changes =
      (styledEntries changes).map fun styled => entry colour styled.1 styled.2 := by
  have hall : ChangeClass.all.flatMap (sectionEntries colour changes) =
      (classes changes).flatMap fun cls => entry colour .bold cls.heading ::
        ((changes.filter (·.readsAs cls)).map (line cls)).map (entry colour cls.style) := by
    rw [classes]
    generalize ChangeClass.all = all
    induction all with
    | nil => rfl
    | cons cls all ih =>
      rw [List.flatMap_cons, ih, sectionEntries_eq, List.filter_cons]
      split
      · rw [List.flatMap_cons]
      · rw [List.nil_append]
  rw [referenceEntries, hall, styledEntries]
  cases classes changes with
  | nil => rfl
  | cons cls rest =>
    rw [if_neg (List.cons_ne_nil _ _), List.map_flatMap]
    simp [Function.comp_def]

/-- The lines on a terminal, with the parts whose number depends on the report put in between. -/
theorem terminalLines_eq (colour : Bool) (report : Report) :
    report.terminalLines colour =
      ["", "Pull request: " ++ Style.bold.paint colour report.source,
        "Files analyzed: " ++ toString report.filesAnalyzed, "", "═══ Test Changes ═══",
        "  Added tests:   " ++
          Style.boldGreen.paint colour (toString report.analysis.tests.added),
        "  Deleted tests: " ++
          Style.boldRed.paint colour (toString report.analysis.tests.deleted), "",
        "═══ Deleted Public Methods ═══"] ++
      (DeletedMethod.lines report.analysis.deletedMethods).map
        (entry colour (if report.analysis.deletedMethods = [] then .dimmed else .red)) ++
      ["", "═══ Project References ═══"] ++
      (styledEntries report.analysis.references).map
        (fun styled => entry colour styled.1 styled.2) ++ [""] := by
  rw [terminalLines, referenceEntries_eq]
  rfl

/-! ### The document -/

/-- The item of a method. -/
def item (method : DeletedMethod) : String :=
  "- `" ++ method.filename ++ "` : `" ++ method.method ++ "`"

/-- The items of all methods, or the line that says that there are none. -/
def items (methods : List DeletedMethod) : List String :=
  if methods = [] then ["None."] else methods.map item

theorem markdownLine_eq (method : DeletedMethod) : method.markdownLine = item method ++ "\n" := by
  rw [DeletedMethod.markdownLine, show "`\n" = "`" ++ "\n" from rfl, ← String.append_assoc]
  rfl

theorem markdown_methods (methods : List DeletedMethod) :
    DeletedMethod.markdown methods = endLines (items methods ++ [""]) := by
  cases methods with
  | nil => rfl
  | cons method methods =>
    have hitems : (method :: methods).map DeletedMethod.markdownLine =
        ((method :: methods).map item).map (· ++ "\n") := by
      rw [List.map_map]
      exact List.map_congr_left fun method _ => markdownLine_eq method
    rw [DeletedMethod.markdown, hitems, items, if_neg (List.cons_ne_nil _ _), endLines_append]
    · rfl
    · exact List.cons_ne_nil _ _

/-- The lines of the document, up to the reference block. -/
def documentHead (report : Report) : List String :=
  ["# Pull Request Helper: " ++ report.source, "",
    "**Files analyzed:** " ++ toString report.filesAnalyzed, "", "## Test Changes", "",
    "- Added tests: " ++ toString report.analysis.tests.added,
    "- Deleted tests: " ++ toString report.analysis.tests.deleted, "",
    "## Deleted Public Methods", ""] ++ items report.analysis.deletedMethods ++
    ["", "## Project References", "", "```text"]

theorem markdown_eq (report : Report) :
    report.markdown = endLines (documentHead report ++
      ("Project References:" :: bodyLines report.analysis.references) ++ ["```"]) := by
  have hblock := intercalate_append_feed
    (List.cons_ne_nil "Project References:" (bodyLines report.analysis.references))
  rw [← ReferenceChange.text_eq] at hblock
  rw [documentHead, endLines_append, endLines_append, endLines_append, endLines_append, ← hblock]
  unfold markdown
  dsimp only
  rw [markdown_methods, endLines_append]
  refine String.toList_injective ?_
  simp [String.toList_append, endLines_cons, show endLines [] = "" from rfl]

/-! ### Texts without line feeds and escapes -/

/-- The texts in a report. -/
def strings (report : Report) : List String := report.source :: report.analysis.strings

/-- No text in a report has a line feed or an escape character in it. -/
structure IsClean (report : Report) : Prop where
  feed : ∀ s ∈ report.strings, '\n' ∉ s.toList
  escape : ∀ s ∈ report.strings, '\x1b' ∉ s.toList

section Control

variable {x : Char} {report : Report}

theorem control_not_mem_styledEntries (hx : x.toNat < 0x20)
    (h : ∀ s ∈ report.analysis.strings, x ∉ s.toList) :
    ∀ styled ∈ styledEntries report.analysis.references, x ∉ styled.2.toList := by
  intro styled hstyled
  have hmem := List.mem_map_of_mem (f := Prod.snd) hstyled
  rw [map_styledEntries] at hmem
  exact control_not_mem_bodyLines hx (Analysis.forall_strings_iff.1 h).2 _
    (List.mem_of_mem_filter hmem)

/-- A line on the terminal has no control character in it that is not reported. -/
theorem control_not_mem_terminalLines (hx : x.toNat < 0x20)
    (h : ∀ s ∈ report.strings, x ∉ s.toList) :
    ∀ l ∈ report.terminalLines false, x ∉ l.toList := by
  obtain ⟨hsource, hstrings⟩ := List.forall_mem_cons.1 h
  have hfixed {s : String} (hs : s.toList.all (0x20 ≤ ·.toNat) = true) : x ∉ s.toList :=
    control_not_mem hx hs
  have hentry (style : Style) {text : String} (ht : x ∉ text.toList) :
      x ∉ (entry false style text).toList := control_not_mem_append (hfixed (by decide)) ht
  have hempty : x ∉ "".toList := List.not_mem_nil
  rw [terminalLines_eq]
  simp only [List.forall_mem_append, List.forall_mem_cons, List.forall_mem_map]
  refine ⟨⟨⟨⟨?head, ?methods⟩, ?title⟩, ?references⟩, hempty, List.forall_mem_nil _⟩
  case head =>
    exact ⟨hempty, control_not_mem_append (hfixed (by decide)) hsource,
      control_not_mem_label hx (by decide) _, hempty, hfixed (by decide),
      control_not_mem_label hx (by decide) _, control_not_mem_label hx (by decide) _, hempty,
      hfixed (by decide), List.forall_mem_nil _⟩
  case methods =>
    exact fun l hl => hentry _ (DeletedMethod.control_not_mem_lines hx
      (Analysis.forall_strings_iff.1 hstrings).1 l hl)
  case title => exact ⟨hempty, hfixed (by decide), List.forall_mem_nil _⟩
  case references =>
    exact fun styled hstyled => hentry _ (control_not_mem_styledEntries hx hstrings styled hstyled)

theorem control_not_mem_items (hx : x.toNat < 0x20) {methods : List DeletedMethod}
    (h : ∀ method ∈ methods, x ∉ method.filename.toList ∧ x ∉ method.method.toList) :
    ∀ l ∈ items methods, x ∉ l.toList := by
  have hfixed {s : String} (hs : s.toList.all (0x20 ≤ ·.toNat) = true) : x ∉ s.toList :=
    control_not_mem hx hs
  rw [items]
  split
  · exact List.forall_mem_singleton.2 (hfixed (by decide))
  · exact List.forall_mem_map.2 fun method hmethod => control_not_mem_append
      (control_not_mem_append (control_not_mem_append (control_not_mem_append (hfixed (by decide))
        (h method hmethod).1) (hfixed (by decide))) (h method hmethod).2) (hfixed (by decide))

theorem control_not_mem_documentHead (hx : x.toNat < 0x20)
    (h : ∀ s ∈ report.strings, x ∉ s.toList) : ∀ l ∈ documentHead report, x ∉ l.toList := by
  obtain ⟨hsource, hstrings⟩ := List.forall_mem_cons.1 h
  have hfixed {s : String} (hs : s.toList.all (0x20 ≤ ·.toNat) = true) : x ∉ s.toList :=
    control_not_mem hx hs
  have hempty : x ∉ "".toList := List.not_mem_nil
  simp only [documentHead, List.forall_mem_append, List.forall_mem_cons]
  refine ⟨⟨?head, ?methods⟩, ?title⟩
  case head =>
    exact ⟨control_not_mem_append (hfixed (by decide)) hsource, hempty,
      control_not_mem_label hx (by decide) _, hempty, hfixed (by decide), hempty,
      control_not_mem_label hx (by decide) _, control_not_mem_label hx (by decide) _, hempty,
      hfixed (by decide), hempty, List.forall_mem_nil _⟩
  case methods =>
    exact control_not_mem_items hx (Analysis.forall_strings_iff.1 hstrings).1
  case title =>
    exact ⟨hempty, hfixed (by decide), hempty, hfixed (by decide), List.forall_mem_nil _⟩

end Control

/-! ### Styles -/

theorem unstyles_entry (style : Style) {text : String} (h : '\x1b' ∉ text.toList) :
    Style.Unstyles (entry true style text) (entry false style text) :=
  (Style.Unstyles.of_not_mem (by decide)).append (Style.unstyles_paint h style)

theorem unstyles_map_entry {α : Type} (style : α → Style) (text : α → String) {entries : List α}
    (h : ∀ e ∈ entries, '\x1b' ∉ (text e).toList) :
    List.Forall₂ Style.Unstyles (entries.map fun e => entry true (style e) (text e))
      (entries.map fun e => entry false (style e) (text e)) :=
  List.forall₂_map_left_iff.2 <| List.forall₂_map_right_iff.2 <| List.forall₂_same.2 fun e he =>
    unstyles_entry (style e) (h e he)

variable {report : Report}

/-- The lines in colour are those without, line by line. -/
theorem unstyles_terminalLines (h : report.IsClean) :
    List.Forall₂ Style.Unstyles (report.terminalLines true) (report.terminalLines false) := by
  obtain ⟨hsource, hstrings⟩ := List.forall_mem_cons.1 h.escape
  have hfixed (s : String) (hs : '\x1b' ∉ s.toList) : Style.Unstyles s s := .of_not_mem hs
  have hnumber (n : Nat) : '\x1b' ∉ (toString n).toList := control_not_mem_toString (by decide) n
  rw [terminalLines_eq, terminalLines_eq]
  refine List.rel_append (List.rel_append (List.rel_append (List.rel_append ?head ?methods) ?title)
    ?references) (.cons (hfixed "" (by decide)) .nil)
  case head =>
    exact .cons (hfixed _ (by decide)) <|
      .cons ((hfixed _ (by decide)).append (Style.unstyles_paint hsource _)) <|
      .cons (hfixed _ (control_not_mem_append (by decide) (hnumber _))) <|
      .cons (hfixed _ (by decide)) <| .cons (hfixed _ (by decide)) <|
      .cons ((hfixed _ (by decide)).append (Style.unstyles_paint (hnumber _) _)) <|
      .cons ((hfixed _ (by decide)).append (Style.unstyles_paint (hnumber _) _)) <|
      .cons (hfixed _ (by decide)) <| .cons (hfixed _ (by decide)) .nil
  case methods =>
    exact unstyles_map_entry (fun _ => _) id
      (DeletedMethod.control_not_mem_lines (by decide) (Analysis.forall_strings_iff.1 hstrings).1)
  case title => exact .cons (hfixed _ (by decide)) (.cons (hfixed _ (by decide)) .nil)
  case references =>
    exact unstyles_map_entry Prod.fst Prod.snd
      (control_not_mem_styledEntries (by decide) hstrings)

/-- Styles make no difference to what is printed. -/
theorem withoutCodes_terminal (h : report.IsClean) :
    Style.withoutCodes (report.terminal true).toList = (report.terminal false).toList := by
  have hfeed : Style.Unstyles "\n" "\n" := .of_not_mem (by decide)
  refine Style.Unstyles.withoutCodes_eq (Style.Unstyles.join ?_)
  exact List.forall₂_map_left_iff.2 <| List.forall₂_map_right_iff.2 <|
    (unstyles_terminalLines h).imp fun _ _ hline => hline.append hfeed

/-! ### The three forms -/

/-- **The three forms of a report say the same**: the counts of tests, the methods and the
references, and these with the same headings and entries in all three of them. -/
structure Agrees (report : Report) : Prop where
  /-- The plain text is the counts, the methods and the reference block. -/
  text : feedLines report.analysis.text =
    ["Added Tests: " ++ toString report.analysis.tests.added,
      "Deleted Tests: " ++ toString report.analysis.tests.deleted, "",
      "Deleted Public Methods:"] ++ DeletedMethod.lines report.analysis.deletedMethods ++ [""] ++
      textLines report.analysis.references
  /-- The terminal has below its headings what the plain text has, moved to the right, and of the
  reference block what is not empty below its heading. -/
  terminal : feedLines (report.terminal false) =
    ["", "Pull request: " ++ report.source,
      "Files analyzed: " ++ toString report.filesAnalyzed, "", "═══ Test Changes ═══",
      "  Added tests:   " ++ toString report.analysis.tests.added,
      "  Deleted tests: " ++ toString report.analysis.tests.deleted, "",
      "═══ Deleted Public Methods ═══"] ++
      (DeletedMethod.lines report.analysis.deletedMethods).map ("  " ++ ·) ++
      ["", "═══ Project References ═══"] ++
      ((textLines report.analysis.references).tail.filter (· ≠ "")).map ("  " ++ ·) ++ ["", ""]
  /-- The document has an item for each method, and the reference block between its fences. -/
  markdown : feedLines report.markdown =
    ["# Pull Request Helper: " ++ report.source, "",
      "**Files analyzed:** " ++ toString report.filesAnalyzed, "", "## Test Changes", "",
      "- Added tests: " ++ toString report.analysis.tests.added,
      "- Deleted tests: " ++ toString report.analysis.tests.deleted, "",
      "## Deleted Public Methods", ""] ++
      (if report.analysis.deletedMethods = [] then ["None."]
        else report.analysis.deletedMethods.map fun method =>
          "- `" ++ method.filename ++ "` : `" ++ method.method ++ "`") ++
      ["", "## Project References", "", "```text"] ++ textLines report.analysis.references ++
      ["```", ""]
  /-- The block is there word for word. -/
  verbatim : ∃ front, report.markdown =
    front ++ "## Project References\n\n```text\n" ++
      ReferenceChange.text report.analysis.references ++ "\n```\n"
  /-- No line of the block closes the fence. -/
  fence : ∀ l ∈ textLines report.analysis.references, l.toList.head? ≠ some '\x60'
  /-- Colour makes no difference but for the escape sequences. -/
  colour : Style.withoutCodes (report.terminal true).toList = (report.terminal false).toList

/-- **The three forms of a report say the same**, if its texts have no line feeds and escapes. -/
theorem agrees_of_isClean (h : report.IsClean) : report.Agrees := by
  have hanalysis : ∀ s ∈ report.analysis.strings, '\n' ∉ s.toList := fun s hs =>
    h.feed s (List.mem_cons_of_mem _ hs)
  have hblock : textLines report.analysis.references =
      "Project References:" :: bodyLines report.analysis.references := by
    refine textLines_eq fun change hchange => ?_
    obtain ⟨hname, hversions⟩ :=
      List.forall_mem_cons.1 ((Analysis.forall_strings_iff.1 hanalysis).2 change hchange)
    exact ⟨hname, hversions⟩
  constructor
  case text =>
    rw [Analysis.feedLines_text hanalysis, hblock]
    simp [Analysis.blocks, TestTally.textLines, List.intercalate_cons_cons]
  case terminal =>
    have hlines := feedLines_endLines (control_not_mem_terminalLines (by decide) h.feed)
    refine hlines.trans ?_
    rw [terminalLines_eq, hblock, List.tail_cons, ← map_styledEntries, List.map_map]
    simp [Function.comp_def, entry, Style.paint]
  case markdown =>
    have hbody := control_not_mem_bodyLines (x := '\n') (by decide)
      (Analysis.forall_strings_iff.1 hanalysis).2
    have hlines : ∀ l ∈ documentHead report ++
        ("Project References:" :: bodyLines report.analysis.references) ++ ["```"],
        '\n' ∉ l.toList :=
      List.forall_mem_append.2 ⟨List.forall_mem_append.2
        ⟨control_not_mem_documentHead (by decide) h.feed, List.forall_mem_cons.2
          ⟨by decide, hbody⟩⟩, List.forall_mem_singleton.2 (by decide)⟩
    rw [markdown_eq, feedLines_endLines hlines, hblock]
    simp [documentHead, items]
    rfl
  case verbatim => exact ⟨_, rfl⟩
  case fence =>
    rw [hblock]
    exact List.forall_mem_cons.2 ⟨by decide, head?_ne_of_mem_bodyLines⟩
  case colour => exact withoutCodes_terminal h

/-- A report with an update and with an assembly that has no class. -/
theorem agrees_of_update_and_assembly :
    let report : Report := ⟨"a/b#1", 2, ⟨⟨1, 0⟩, [⟨"[0;1m.cs", "Run"⟩],
      [⟨"Sys", .assembly, none, some ""⟩, ⟨"Log", .package, some "1", some "2"⟩]⟩⟩
    report.IsClean ∧ report.Agrees := by
  intro report
  have hclean : report.IsClean := ⟨by decide +kernel, by decide +kernel⟩
  exact ⟨hclean, agrees_of_isClean hclean⟩

end Report

end PullReport
