import PullReport.Proofs.References.Block
import PullReport.Proofs.Text.Numeral

/-!
# The lines of a report

The text of a report is lines with a line feed between each two, and these lines are what is found
if it is cut at its line feeds again. For that nothing that is reported may have a line feed in it.
What is said here is not about line feeds alone but about any control character, since another form
of the report needs the same of the character that starts an escape sequence: the layout has no
control characters, so there is one in a line only where there is one in what is reported.

## Main definitions

* `Analysis.strings`: the texts that are reported.
* `Analysis.blocks`: the lines of a report.

## Main results

* `Analysis.control_not_mem_blocks`: no line has a control character in it that is not reported.
* `Analysis.feedLines_text`: the lines of a report are those of its blocks.
-/

namespace PullReport

open Text

section Control

variable {x : Char}

theorem control_not_mem_toString (hx : x.toNat < 0x20) (n : Nat) : x ∉ (toString n).toList := by
  refine control_not_mem hx (List.all_eq_true.2 fun c hc => decide_eq_true ?_)
  have hdigit := isDigit_of_mem_toString hc
  simp only [Char.isDigit, Bool.and_eq_true, decide_eq_true_eq] at hdigit
  exact Nat.le_trans (by decide) hdigit.1

/-- A number behind a label. -/
theorem control_not_mem_label (hx : x.toNat < 0x20) {label : String}
    (h : label.toList.all (0x20 ≤ ·.toNat) = true) (n : Nat) :
    x ∉ (label ++ toString n).toList :=
  control_not_mem_append (control_not_mem hx h) (control_not_mem_toString hx n)

namespace TestTally

/-- The lines of the test counts. -/
def textLines (tally : TestTally) : List String :=
  ["Added Tests: " ++ toString tally.added, "Deleted Tests: " ++ toString tally.deleted]

theorem text_eq (tally : TestTally) : tally.text = "\n".intercalate tally.textLines := by
  rw [textLines, String.intercalate_cons_cons, String.intercalate_singleton, text,
    String.append_assoc, String.append_assoc, String.append_assoc, String.append_assoc]
  rfl

theorem control_not_mem_textLines (hx : x.toNat < 0x20) (tally : TestTally) :
    ∀ l ∈ tally.textLines, x ∉ l.toList :=
  List.forall_mem_cons.2 ⟨control_not_mem_label hx (by decide) _,
    List.forall_mem_singleton.2 (control_not_mem_label hx (by decide) _)⟩

end TestTally

namespace DeletedMethod

theorem line_ne (method : DeletedMethod) : method.line ≠ noneLine ∧ method.line ≠ "" := by
  have hhead : method.line.toList.head? = some '-' := by simp [line, String.toList_append]
  constructor <;> intro h <;> rw [h] at hhead <;> exact absurd hhead (by decide)

theorem lines_ne_nil (methods : List DeletedMethod) : lines methods ≠ [] := by
  cases methods <;> exact List.cons_ne_nil _ _

theorem text_eq (methods : List DeletedMethod) :
    text methods = "\n".intercalate ("Deleted Public Methods:" :: lines methods) := by
  rw [String.intercalate_cons_of_ne_nil (lines_ne_nil methods)]
  rfl

theorem not_mem_lines (methods : List DeletedMethod) : "" ∉ lines methods := by
  cases methods with
  | nil => decide
  | cons method methods =>
    intro hmem
    obtain ⟨other, -, hother⟩ := List.mem_map.1 hmem
    exact other.line_ne.2 hother

theorem control_not_mem_lines (hx : x.toNat < 0x20) {methods : List DeletedMethod}
    (h : ∀ method ∈ methods, x ∉ method.filename.toList ∧ x ∉ method.method.toList) :
    ∀ l ∈ lines methods, x ∉ l.toList := by
  have hline : ∀ method ∈ methods, x ∉ method.line.toList := fun method hmethod =>
    control_not_mem_append (control_not_mem_append (control_not_mem_append
      (control_not_mem hx (by decide)) (h method hmethod).1) (control_not_mem hx (by decide)))
      (h method hmethod).2
  cases methods with
  | nil => exact List.forall_mem_singleton.2 (control_not_mem hx (by decide))
  | cons method methods => exact List.forall_mem_map.2 hline

end DeletedMethod

/-! ### The lines of a report -/

namespace Analysis

variable {analysis : Analysis}

/-- The texts that are reported: names of files, methods and references, and versions. -/
def strings (analysis : Analysis) : List String :=
  (analysis.deletedMethods.flatMap fun method => [method.filename, method.method]) ++
    analysis.references.flatMap fun change => change.name :: change.versions

theorem forall_strings_iff {p : String → Prop} :
    (∀ s ∈ analysis.strings, p s) ↔
      (∀ method ∈ analysis.deletedMethods, p method.filename ∧ p method.method) ∧
        ∀ change ∈ analysis.references, ∀ s ∈ change.name :: change.versions, p s := by
  have hpair (method : DeletedMethod) :
      (∀ s ∈ [method.filename, method.method], p s) ↔ p method.filename ∧ p method.method := by simp
  simp only [strings, List.forall_mem_append, List.forall_mem_flatMap, hpair]

/-- The blocks of a report, each as its lines. -/
def blocks (analysis : Analysis) : List (List String) :=
  [analysis.tests.textLines,
    "Deleted Public Methods:" :: DeletedMethod.lines analysis.deletedMethods,
    "Project References:" :: ReferenceChange.bodyLines analysis.references]

theorem text_eq (analysis : Analysis) :
    analysis.text = "\n".intercalate ([""].intercalate analysis.blocks) := by
  have hblocks : ∀ block ∈ analysis.blocks, block ≠ [] := by
    simp [blocks, TestTally.textLines]
  rw [← intercalate_emptyLine hblocks, text, TestTally.text_eq, ReferenceChange.text_eq,
    DeletedMethod.text_eq]
  rfl

theorem control_not_mem_blocks (hx : x.toNat < 0x20) (h : ∀ s ∈ analysis.strings, x ∉ s.toList) :
    ∀ l ∈ [""].intercalate analysis.blocks, x ∉ l.toList := by
  obtain ⟨hmethods, hreferences⟩ := forall_strings_iff.1 h
  intro l hl
  rcases mem_or_mem_of_mem_intercalate hl with hl | ⟨block, hblock, hl⟩
  · rw [List.mem_singleton.1 hl]
    exact List.not_mem_nil
  · simp only [blocks, List.mem_cons, List.not_mem_nil, or_false] at hblock
    rcases hblock with rfl | rfl | rfl
    · exact TestTally.control_not_mem_textLines hx analysis.tests l hl
    · rcases List.mem_cons.1 hl with rfl | hl
      · exact control_not_mem hx (by decide)
      · exact DeletedMethod.control_not_mem_lines hx hmethods l hl
    · rcases List.mem_cons.1 hl with rfl | hl
      · exact control_not_mem hx (by decide)
      · exact ReferenceChange.control_not_mem_bodyLines hx hreferences l hl

/-- **The lines of a report** are those of its blocks, with an empty line between each two. -/
theorem feedLines_text (h : ∀ s ∈ analysis.strings, '\n' ∉ s.toList) :
    feedLines analysis.text = [""].intercalate analysis.blocks := by
  have hne : [""].intercalate analysis.blocks ≠ [] :=
    intercalate_ne_nil (List.cons_ne_nil _ _) (by simp [blocks, TestTally.textLines])
  rw [text_eq, feedLines_intercalate hne (control_not_mem_blocks (by decide) h)]

end Analysis

end Control

end PullReport
