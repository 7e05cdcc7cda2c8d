import PullReport.Proofs.Report.Lines
import PullReport.Proofs.Text.Runs

/-!
# What a report says can be read off it

The text of a report determines what is in it, as far as it is shown. What stands between the parts
of a line may well occur in them: a file can have a colon in its name, and a version can look like
an arrow. It is the kind of the characters that keeps the parts apart. A name of a method has no
blank in it, so the last blank of its line is the one in front of it, whatever the file is called.
Names and versions of references have no blanks either, so that all blanks of their lines are known;
only the label of a reference without a version has one, and behind its first word there stands
another word where behind a version there stands an arrow.

Not everything is shown. Of a reference that is new or removed there is one side only, so that a
missing version and an empty one look the same, and a change that has no class is not shown at all.

## Main definitions

* `Text.HasNoBlank`, `ReferenceChange.IsUnbroken`: there are no blanks in a text, and none in the
  name and the versions of a reference.
* `ReferenceChange.shown`: what the entry of a change shows of it.
* `Analysis.IsPlain`: what is found has names as they can be.
* `Analysis.ShowsSame`: two analyses that differ at most in what is not shown.

## Main results

* `ReferenceChange.shown_eq_of_line_eq`: what the entry of a change says of it.
* `ReferenceChange.entries_eq_of_bodyLines_eq`: what the reference block says of its entries.
* `Analysis.text_eq_iff_showsSame`: two reports are the same if and only if they show the same.
-/

namespace PullReport

open Text

namespace Text

/-- There is no blank in a text. -/
def HasNoBlank (cs : List Char) : Prop := ∀ c ∈ cs, isBlank c = false

-- The characters of the text are looked through, and not all the characters there are.
instance : DecidablePred HasNoBlank := fun cs => List.decidableBAll (isBlank · = false) cs

theorem HasNoBlank.space_not_mem {cs : List Char} (h : HasNoBlank cs) : ' ' ∉ cs :=
  fun hmem => absurd (h ' ' hmem) (by decide)

theorem HasNoBlank.feed_not_mem {cs : List Char} (h : HasNoBlank cs) : '\n' ∉ cs :=
  fun hmem => absurd (h '\n' hmem) (by decide)

theorem IsName.hasNoBlank {cs : List Char} (h : IsName cs) : HasNoBlank cs :=
  fun c hc => isBlank_of_isWord (h.2 c hc)

end Text

/-- Where equal images have equal parts, rows of equal images have rows of equal parts. -/
theorem map_eq_map_of_imp {α β γ : Type} {f : α → β} {p : α → γ} {xs ys : List α}
    (h : ∀ x ∈ xs, ∀ y ∈ ys, f x = f y → p x = p y) (heq : xs.map f = ys.map f) :
    xs.map p = ys.map p := by
  induction xs generalizing ys with
  | nil =>
    obtain rfl : ys = [] := by simpa using heq.symm
    rfl
  | cons x xs ih =>
    cases ys with
    | nil => cases heq
    | cons y ys =>
      obtain ⟨hhead, htail⟩ := List.cons.inj heq
      rw [List.map_cons, List.map_cons, h x List.mem_cons_self y List.mem_cons_self hhead,
        ih (fun x hx y hy => h x (List.mem_cons_of_mem _ hx) y (List.mem_cons_of_mem _ hy)) htail]

theorem map_eq_map_iff {α β γ : Type} {f : α → β} {p : α → γ} {xs ys : List α}
    (h : ∀ x y, f x = f y ↔ p x = p y) : xs.map f = ys.map f ↔ xs.map p = ys.map p :=
  ⟨map_eq_map_of_imp fun x _ y _ => (h x y).1, map_eq_map_of_imp fun x _ y _ => (h x y).2⟩

/-! ### The tests -/

theorem toString_inj {m n : Nat} (h : toString m = toString n) : m = n := by
  rw [← decimal_toString m, h, decimal_toString]

namespace TestTally

theorem textLines_inj {tally other : TestTally} (h : tally.textLines = other.textLines) :
    tally = other := by
  obtain ⟨hadded, hdeleted⟩ := List.cons.inj h
  exact congrArg₂ TestTally.mk (toString_inj ((String.append_right_inj _).1 hadded))
    (toString_inj ((String.append_right_inj _).1 (List.cons.inj hdeleted).1))

end TestTally

/-! ### The methods -/

namespace DeletedMethod

/-- **The line of a method** says which method of which file it is. -/
theorem line_inj {method other : DeletedMethod} (h : IsName method.method.toList)
    (hother : IsName other.method.toList) (heq : method.line = other.line) : method = other := by
  have hspace {m : DeletedMethod} (hm : IsName m.method.toList) : ' ' ∉ m.method.toList :=
    hm.hasNoBlank.space_not_mem
  have hline (m : DeletedMethod) : m.line.toList =
      ("- ".toList ++ m.filename.toList ++ " :".toList) ++ ' ' :: m.method.toList := by
    simp [line, String.toList_append]
  have hlines := congrArg String.toList heq
  rw [hline, hline] at hlines
  obtain ⟨hfile, hmethod⟩ := append_cons_inj_of_notMem_back (hspace h) (hspace hother) hlines
  exact congrArg₂ DeletedMethod.mk
    (String.toList_injective (List.append_cancel_left (List.append_cancel_right hfile)))
    (String.toList_injective hmethod)

/-- The lines of the methods say which methods they are. -/
theorem lines_inj {methods others : List DeletedMethod}
    (h : ∀ method ∈ methods, IsName method.method.toList)
    (hothers : ∀ method ∈ others, IsName method.method.toList)
    (heq : lines methods = lines others) : methods = others := by
  have hmap : methods.map line = others.map line := by
    cases methods with
    | nil =>
      cases others with
      | nil => rfl
      | cons other others => exact absurd (List.cons.inj heq).1.symm other.line_ne.1
    | cons method methods =>
      cases others with
      | nil => exact absurd (List.cons.inj heq).1 method.line_ne.1
      | cons other others => exact heq
  have hid := map_eq_map_of_imp (p := id) (fun method hmethod other hother =>
    line_inj (h method hmethod) (hothers other hother)) hmap
  rwa [List.map_id, List.map_id] at hid

end DeletedMethod

/-! ### The entries of references -/

namespace ReferenceChange

/-- There are no blanks in the name and the versions of a reference. -/
structure IsUnbroken (change : ReferenceChange) : Prop where
  name : HasNoBlank change.name.toList
  versions : ∀ v ∈ change.versions, HasNoBlank v.toList

instance : DecidablePred IsUnbroken := fun change =>
  decidable_of_iff (HasNoBlank change.name.toList ∧ ∀ v ∈ change.versions, HasNoBlank v.toList)
    ⟨fun h => ⟨h.1, h.2⟩, fun h => ⟨h.name, h.versions⟩⟩

/-- What the entry of a change of some class shows of it. -/
def shown (cls : ChangeClass) (change : ReferenceChange) : ReferenceChange :=
  match cls with
  | .added => { change with old := none }
  | .updated => change
  | .removed => { change with new := none }

/-- What the entry of a change has between its name and its kind. -/
def versionText (cls : ChangeClass) (change : ReferenceChange) : String :=
  match cls with
  | .added => versionSuffix change.new
  | .updated =>
    " (version " ++ versionLabel change.old ++ " -> " ++ versionLabel change.new ++ ")"
  | .removed => versionSuffix change.old

theorem isSet_eq_true_iff {version : Option String} :
    isSet version = true ↔ ∃ v, version = some v ∧ v ≠ "" := by
  cases version <;> simp [isSet]

/-- A version that is present shows by its suffix. -/
theorem versionSuffix_inj {version other : Option String} (h : isSet version = true)
    (hother : isSet other = true) (heq : versionSuffix version = versionSuffix other) :
    version = other := by
  obtain ⟨v, rfl, hv⟩ := isSet_eq_true_iff.1 h
  obtain ⟨w, rfl, hw⟩ := isSet_eq_true_iff.1 hother
  simp only [versionSuffix, hv, hw, ne_eq, not_false_eq_true, true_and, ite_not] at heq
  split at heq <;> split at heq
  · rename_i hv hw
    rw [hv, hw]
  · exact absurd (congrArg String.toList heq) (by simp [String.toList_append])
  · exact absurd (congrArg String.toList heq) (by simp [String.toList_append])
  · exact congrArg some (String.append_right_inj _ |>.1 (String.append_left_inj _ |>.1 heq))

/-- The label of a version is the version, unless there is none. -/
theorem versionLabel_cases {version : Option String}
    (hunbroken : ∀ v ∈ version, HasNoBlank v.toList) (h : isSet version = true) :
    (version = some noVersion ∧ versionLabel version = "no version") ∨
      ∃ v, version = some v ∧ versionLabel version = v ∧ ' ' ∉ v.toList := by
  obtain ⟨v, rfl, -⟩ := isSet_eq_true_iff.1 h
  by_cases hv : v = noVersion
  · exact .inl ⟨by rw [hv], by rw [versionLabel, if_pos hv]⟩
  · exact .inr ⟨v, rfl, by rw [versionLabel, if_neg hv], (hunbroken v rfl).space_not_mem⟩

section Labels

variable {version other : Option String}

theorem versionLabel_inj (h : ∀ v ∈ version, HasNoBlank v.toList)
    (hother : ∀ v ∈ other, HasNoBlank v.toList) (hset : isSet version = true)
    (hotherSet : isSet other = true) (heq : versionLabel version = versionLabel other) :
    version = other := by
  rcases versionLabel_cases h hset with ⟨hv, hlabel⟩ | ⟨v, hv, hlabel, hspace⟩ <;>
    rcases versionLabel_cases hother hotherSet with ⟨hw, hlabel'⟩ | ⟨w, hw, hlabel', hspace'⟩ <;>
    rw [hlabel, hlabel'] at heq
  · rw [hv, hw]
  · exact absurd (heq ▸ hspace') (by decide)
  · exact absurd (heq ▸ hspace) (by decide)
  · rw [hv, hw, heq]

/-- The label of the old version ends at the arrow: behind the first word of the label of a missing
version there is a letter, and behind a version there is the arrow. -/
theorem versionLabel_append_inj (h : ∀ v ∈ version, HasNoBlank v.toList)
    (hother : ∀ v ∈ other, HasNoBlank v.toList) (hset : isSet version = true)
    (hotherSet : isSet other = true) {back back' : List Char}
    (heq : (versionLabel version).toList ++ ' ' :: '-' :: back =
      (versionLabel other).toList ++ ' ' :: '-' :: back') : version = other ∧ back = back' := by
  have hword (cs : List Char) : "no version".toList ++ ' ' :: '-' :: cs =
      "no".toList ++ ' ' :: ("version".toList ++ ' ' :: '-' :: cs) := rfl
  rcases versionLabel_cases h hset with ⟨hv, hlabel⟩ | ⟨v, hv, hlabel, hspace⟩ <;>
    rcases versionLabel_cases hother hotherSet with ⟨hw, hlabel'⟩ | ⟨w, hw, hlabel', hspace'⟩ <;>
    rw [hlabel, hlabel'] at heq
  · rw [hv, hw]
    exact ⟨rfl, (List.cons.inj (List.cons.inj (List.append_cancel_left heq)).2).2⟩
  · rw [hword] at heq
    have hback := (append_cons_inj_of_notMem_front (by decide) hspace' heq).2
    exact absurd (List.cons.inj hback).1 (by decide)
  · rw [hword] at heq
    have hback := (append_cons_inj_of_notMem_front hspace (by decide) heq).2
    exact absurd (List.cons.inj hback).1 (by decide)
  · obtain ⟨hversion, hback⟩ := append_cons_inj_of_notMem_front hspace hspace' heq
    rw [hv, hw, String.toList_injective hversion]
    exact ⟨rfl, (List.cons.inj hback).2⟩

end Labels

variable {cls : ChangeClass} {change other : ReferenceChange}

theorem toList_line (cls : ChangeClass) (change : ReferenceChange) :
    (line cls change).toList = "- ".toList ++ (change.name.toList ++
      ((versionText cls change).toList ++
        ' ' :: ('[' :: (change.kind.tagName.toList ++ [']'])))) := by
  cases cls <;> simp [line, versionText, String.toList_append]

/-- What stands behind the name of a reference starts with a blank. -/
theorem exists_versionText_append (cls : ChangeClass) (change : ReferenceChange)
    (back : List Char) :
    ∃ rest, (versionText cls change).toList ++ ' ' :: back = ' ' :: rest := by
  have hsuffix (version : Option String) :
      ∃ rest, (versionSuffix version).toList ++ ' ' :: back = ' ' :: rest := by
    rw [versionSuffix.eq_def]
    split
    · split
      · exact ⟨_, by rw [String.toList_append, String.toList_append]; rfl⟩
      · exact ⟨back, rfl⟩
    · exact ⟨back, rfl⟩
  cases cls with
  | added => exact hsuffix change.new
  | updated => exact ⟨_, by rw [versionText]; simp only [String.toList_append]; rfl⟩
  | removed => exact hsuffix change.old

theorem labels_eq_of_versionText_eq
    (h : versionText .updated change = versionText .updated other) :
    (versionLabel change.old).toList ++
        ' ' :: '-' :: '>' :: ' ' :: ((versionLabel change.new).toList ++ [')']) =
      (versionLabel other.old).toList ++
        ' ' :: '-' :: '>' :: ' ' :: ((versionLabel other.new).toList ++ [')']) := by
  have htexts := congrArg String.toList h
  simp only [versionText, String.toList_append, List.append_assoc] at htexts
  exact List.append_cancel_left htexts

theorem tagName_inj {kind other : ReferenceKind} (h : kind.tagName = other.tagName) :
    kind = other := by
  cases kind <;> cases other <;> first | rfl | exact absurd h (by decide)

/-- The parts of an entry can be told apart. -/
theorem parts_eq_of_line_eq (h : change.IsUnbroken) (hother : other.IsUnbroken)
    (heq : line cls change = line cls other) :
    change.name = other.name ∧ versionText cls change = versionText cls other ∧
      change.kind = other.kind := by
  have hkind (kind : ReferenceKind) : ' ' ∉ '[' :: (kind.tagName.toList ++ [']']) := by
    cases kind <;> decide
  have hlines := congrArg String.toList heq
  rw [toList_line, toList_line] at hlines
  have hlines := List.append_cancel_left hlines
  obtain ⟨rest, hrest⟩ := exists_versionText_append cls change
    ('[' :: (change.kind.tagName.toList ++ [']']))
  obtain ⟨rest', hrest'⟩ := exists_versionText_append cls other
    ('[' :: (other.kind.tagName.toList ++ [']']))
  rw [hrest, hrest'] at hlines
  obtain ⟨hname, hback⟩ := append_cons_inj_of_notMem_front h.name.space_not_mem
    hother.name.space_not_mem hlines
  rw [← List.cons_inj_right ' ', ← hrest, ← hrest'] at hback
  obtain ⟨hversions, htag⟩ := append_cons_inj_of_notMem_back (hkind _) (hkind _) hback
  refine ⟨String.toList_injective hname, String.toList_injective hversions, tagName_inj ?_⟩
  exact String.toList_injective (List.append_cancel_right (List.cons.inj htag).2)

/-- **The entry of a change** says its name, its kind and the versions that its class is about. -/
theorem shown_eq_of_line_eq (h : change.IsUnbroken) (hother : other.IsUnbroken)
    (hcls : change.readsAs cls = true) (hcls' : other.readsAs cls = true)
    (heq : line cls change = line cls other) : shown cls change = shown cls other := by
  have hold {c : ReferenceChange} (hc : c.IsUnbroken) :
      ∀ v ∈ c.old, HasNoBlank v.toList := fun v hv =>
    hc.versions v (List.mem_append_left _ (Option.mem_toList.2 hv))
  have hnew {c : ReferenceChange} (hc : c.IsUnbroken) :
      ∀ v ∈ c.new, HasNoBlank v.toList := fun v hv =>
    hc.versions v (List.mem_append_right _ (Option.mem_toList.2 hv))
  obtain ⟨hname, hversions, hkind⟩ := parts_eq_of_line_eq h hother heq
  obtain ⟨name, kind, old, new⟩ := change
  obtain ⟨name', kind', old', new'⟩ := other
  obtain rfl : name = name' := hname
  obtain rfl : kind = kind' := hkind
  cases cls with
  | added =>
    simp only [readsAs, Bool.and_eq_true] at hcls hcls'
    obtain rfl : new = new' := versionSuffix_inj hcls.2 hcls'.2 hversions
    rfl
  | updated =>
    simp only [readsAs, Bool.and_eq_true] at hcls hcls'
    obtain ⟨rfl, hback⟩ := versionLabel_append_inj (hold h) (hold hother) hcls.1 hcls'.1
      (labels_eq_of_versionText_eq hversions)
    have hlabel := List.append_cancel_right (List.cons.inj (List.cons.inj hback).2).2
    obtain rfl : new = new' := versionLabel_inj (hnew h) (hnew hother) hcls.2 hcls'.2
      (String.toList_injective hlabel)
    rfl
  | removed =>
    simp only [readsAs, Bool.and_eq_true] at hcls hcls'
    obtain rfl : old = old' := versionSuffix_inj hcls.1 hcls'.1 hversions
    rfl

variable {changes others : List ReferenceChange}

theorem map_shown_added : changes.map (shown .added) = others.map (shown .added) ↔
    changes.map (fun c => (c.name, c.kind, c.new)) =
      others.map fun c => (c.name, c.kind, c.new) :=
  map_eq_map_iff fun change other => by simp [shown]

theorem map_shown_updated : changes.map (shown .updated) = others.map (shown .updated) ↔
    changes.map (fun c => (c.name, c.kind, c.old, c.new)) =
      others.map fun c => (c.name, c.kind, c.old, c.new) :=
  map_eq_map_iff fun change other => by cases change; cases other; simp [shown]

theorem map_shown_removed : changes.map (shown .removed) = others.map (shown .removed) ↔
    changes.map (fun c => (c.name, c.kind, c.old)) =
      others.map fun c => (c.name, c.kind, c.old) :=
  map_eq_map_iff fun change other => by simp [shown]

/-! ### The reference block -/

/-- The parts of the body between which there is an empty line. -/
def bodyBlocks (changes : List ReferenceChange) : List (List String) :=
  if classes changes = [] then [[noneLine]] else (classes changes).map (classLines changes)

theorem bodyLines_eq_intercalate (changes : List ReferenceChange) :
    bodyLines changes = [""].intercalate (bodyBlocks changes) := by
  rw [bodyLines, bodyBlocks]
  split
  · exact List.intercalate_singleton.symm
  · rfl

theorem bodyBlocks_ne_nil (changes : List ReferenceChange) : bodyBlocks changes ≠ [] := by
  rw [bodyBlocks]
  split
  · exact List.cons_ne_nil _ _
  · simpa

theorem not_mem_bodyBlocks (changes : List ReferenceChange) :
    ∀ block ∈ bodyBlocks changes, "" ∉ block := by
  intro block hblock hmem
  rw [bodyBlocks] at hblock
  split at hblock
  · rw [List.mem_singleton.1 hblock] at hmem
    exact absurd hmem (by decide)
  · obtain ⟨cls, -, rfl⟩ := List.mem_map.1 hblock
    exact not_mem_classLines changes cls hmem

/-- The sections of a body are those under their headings, and not the line that says that there are
none. -/
theorem sections_eq_of_bodyLines_eq (h : bodyLines changes = bodyLines others) :
    (classes changes).map (classLines changes) = (classes others).map (classLines others) := by
  have hblocks : bodyBlocks changes = bodyBlocks others := by
    rw [bodyLines_eq_intercalate, bodyLines_eq_intercalate] at h
    exact intercalate_inj (bodyBlocks_ne_nil changes) (bodyBlocks_ne_nil others)
      (not_mem_bodyBlocks changes) (not_mem_bodyBlocks others) h
  have hnone (cls : ChangeClass) (list : List ReferenceChange) :
      [noneLine] ≠ classLines list cls := by
    intro heq
    cases cls <;> exact absurd (List.cons.inj heq).1 (by decide)
  rw [bodyBlocks, bodyBlocks] at hblocks
  split at hblocks <;> split at hblocks
  · rename_i hnil hnil'
    rw [hnil, hnil']
    rfl
  · cases hclasses : classes others with
    | nil => contradiction
    | cons cls rest =>
      rw [hclasses] at hblocks
      exact absurd (List.cons.inj hblocks).1 (hnone cls others)
  · cases hclasses : classes changes with
    | nil => contradiction
    | cons cls rest =>
      rw [hclasses] at hblocks
      exact absurd (List.cons.inj hblocks).1.symm (hnone cls changes)
  · exact hblocks

theorem heading_inj {cls other : ChangeClass} (h : cls.heading = other.heading) : cls = other := by
  cases cls <;> cases other <;> first | rfl | exact absurd h (by decide)

/-- **The reference block** says which entries each class has. -/
theorem entries_eq_of_bodyLines_eq (h : bodyLines changes = bodyLines others) (cls : ChangeClass) :
    (ofClass cls changes).map (line cls) = (ofClass cls others).map (line cls) := by
  have hsections := sections_eq_of_bodyLines_eq h
  have hclasses : classes changes = classes others := by
    have hheads : (classes changes).map (some ∘ ChangeClass.heading) =
        (classes others).map (some ∘ ChangeClass.heading) := by
      simpa [Function.comp_def, classLines] using congrArg (List.map List.head?) hsections
    exact List.map_injective_iff.2 (fun c d hcd => heading_inj (Option.some.inj hcd)) hheads
  rw [hclasses, List.map_inj_left] at hsections
  by_cases hcls : cls ∈ classes others
  · exact (List.cons.inj (hsections cls hcls)).2
  · have hnil {list : List ReferenceChange} (hlist : cls ∉ classes list) :
        ofClass cls list = [] := by
      rw [mem_classes] at hlist
      push Not at hlist
      exact List.filter_eq_nil_iff.2 hlist
    rw [hnil hcls, hnil (hclasses ▸ hcls)]

/-- The reference block says what the entries of each class show. -/
theorem shown_eq_of_bodyLines_eq (h : ∀ change ∈ changes, change.IsUnbroken)
    (hothers : ∀ change ∈ others, change.IsUnbroken) (heq : bodyLines changes = bodyLines others)
    (cls : ChangeClass) :
    (ofClass cls changes).map (shown cls) = (ofClass cls others).map (shown cls) := by
  refine map_eq_map_of_imp (fun change hchange other hother hline => ?_)
    (entries_eq_of_bodyLines_eq heq cls)
  obtain ⟨hmem, hcls⟩ := List.mem_filter.1 hchange
  obtain ⟨hmem', hcls'⟩ := List.mem_filter.1 hother
  exact shown_eq_of_line_eq (h change hmem) (hothers other hmem') hcls hcls' hline

/-- An entry depends on nothing but what it shows. -/
theorem line_shown (cls : ChangeClass) (change : ReferenceChange) :
    line cls (shown cls change) = line cls change := by
  cases cls <;> rfl

theorem sectionLines_eq_ite (changes : List ReferenceChange) (cls : ChangeClass) :
    sectionLines changes cls =
      if (ofClass cls changes).map (line cls) = [] then []
      else cls.heading :: (ofClass cls changes).map (line cls) := by
  rw [sectionLines]
  cases ofClass cls changes with
  | nil => rfl
  | cons => rfl

theorem bodyLines_eq_ite (changes : List ReferenceChange) :
    bodyLines changes =
      if sections changes = [] then [noneLine] else [""].intercalate (sections changes) := by
  rw [sections_eq, bodyLines]
  simp only [List.map_eq_nil_iff]

/-- Changes that show the same have the same text. -/
theorem text_eq_of_shown_eq (h : ∀ cls, (ofClass cls changes).map (shown cls) =
    (ofClass cls others).map (shown cls)) : text changes = text others := by
  have hentries (cls : ChangeClass) :
      (ofClass cls changes).map (line cls) = (ofClass cls others).map (line cls) := by
    have hlines := congrArg (List.map (line cls)) (h cls)
    simpa [Function.comp_def, line_shown] using hlines
  have hsections (cls : ChangeClass) : sectionLines changes cls = sectionLines others cls := by
    rw [sectionLines_eq_ite, sectionLines_eq_ite, hentries cls]
  have hsame : sections changes = sections others :=
    congrArg (fun f => (ChangeClass.all.map f).filter (· ≠ [])) (funext hsections)
  rw [text_eq, text_eq, bodyLines_eq_ite, bodyLines_eq_ite, hsame]

end ReferenceChange

/-! ### Reports -/

namespace Analysis

variable {analysis other : Analysis}

/-- What is found has names as they can be: files on one line, methods with the names of methods,
and references and versions without blanks. -/
structure IsPlain (analysis : Analysis) : Prop where
  filenames : ∀ method ∈ analysis.deletedMethods, '\n' ∉ method.filename.toList
  methods : ∀ method ∈ analysis.deletedMethods, IsName method.method.toList
  references : ∀ change ∈ analysis.references, change.IsUnbroken

/-- Two analyses differ at most in what is not shown: in changes without a class, and in whether the
missing version of a new or removed reference is missing or empty. -/
structure ShowsSame (analysis other : Analysis) : Prop where
  tests : analysis.tests = other.tests
  deletedMethods : analysis.deletedMethods = other.deletedMethods
  added : (analysis.references.filter (·.readsAs .added)).map (fun c => (c.name, c.kind, c.new)) =
    (other.references.filter (·.readsAs .added)).map fun c => (c.name, c.kind, c.new)
  updated : (analysis.references.filter (·.readsAs .updated)).map
      (fun c => (c.name, c.kind, c.old, c.new)) =
    (other.references.filter (·.readsAs .updated)).map fun c => (c.name, c.kind, c.old, c.new)
  removed : (analysis.references.filter (·.readsAs .removed)).map
      (fun c => (c.name, c.kind, c.old)) =
    (other.references.filter (·.readsAs .removed)).map fun c => (c.name, c.kind, c.old)

/-- None of that has a line feed in it. -/
theorem IsPlain.feed_not_mem (h : analysis.IsPlain) : ∀ s ∈ analysis.strings, '\n' ∉ s.toList := by
  refine forall_strings_iff.2 ⟨fun method hmethod => ⟨h.filenames method hmethod, ?_⟩,
    fun change hchange => List.forall_mem_cons.2 ⟨?_, fun v hv => ?_⟩⟩
  · exact (h.methods method hmethod).hasNoBlank.feed_not_mem
  · exact (h.references change hchange).name.feed_not_mem
  · exact ((h.references change hchange).versions v hv).feed_not_mem

theorem showsSame_iff :
    analysis.ShowsSame other ↔ analysis.tests = other.tests ∧
      analysis.deletedMethods = other.deletedMethods ∧
      ∀ cls, (ReferenceChange.ofClass cls analysis.references).map (ReferenceChange.shown cls) =
        (ReferenceChange.ofClass cls other.references).map (ReferenceChange.shown cls) := by
  constructor
  · rintro ⟨htests, hmethods, hadded, hupdated, hremoved⟩
    refine ⟨htests, hmethods, fun cls => ?_⟩
    cases cls with
    | added => exact ReferenceChange.map_shown_added.2 hadded
    | updated => exact ReferenceChange.map_shown_updated.2 hupdated
    | removed => exact ReferenceChange.map_shown_removed.2 hremoved
  · rintro ⟨htests, hmethods, hreferences⟩
    exact ⟨htests, hmethods, ReferenceChange.map_shown_added.1 (hreferences .added),
      ReferenceChange.map_shown_updated.1 (hreferences .updated),
      ReferenceChange.map_shown_removed.1 (hreferences .removed)⟩

/-- The first two blocks have no empty lines in them, so the lines of a report have its blocks. -/
theorem blocks_inj (h : [""].intercalate analysis.blocks = [""].intercalate other.blocks) :
    analysis.blocks = other.blocks := by
  have hlines (a : Analysis) : [""].intercalate a.blocks =
      a.tests.textLines ++ "" ::
        (("Deleted Public Methods:" :: DeletedMethod.lines a.deletedMethods) ++
          "" :: "Project References:" :: ReferenceChange.bodyLines a.references) := by
    simp [blocks, List.intercalate_cons_cons]
  have htests (a : Analysis) : "" ∉ a.tests.textLines := by
    simp [TestTally.textLines, String.append_eq_empty_iff]
  have hmethods (a : Analysis) :
      "" ∉ "Deleted Public Methods:" :: DeletedMethod.lines a.deletedMethods := by
    rw [List.mem_cons, or_iff_right (by decide)]
    exact DeletedMethod.not_mem_lines a.deletedMethods
  rw [hlines, hlines] at h
  obtain ⟨htally, hrest⟩ :=
    append_cons_inj_of_notMem_front (htests analysis) (htests other) h
  obtain ⟨hnames, hreferences⟩ :=
    append_cons_inj_of_notMem_front (hmethods analysis) (hmethods other) hrest
  rw [blocks, blocks, htally, hnames, hreferences]

/-- **Two reports are the same if and only if they show the same.** -/
theorem text_eq_iff_showsSame (h : analysis.IsPlain) (hother : other.IsPlain) :
    analysis.text = other.text ↔ analysis.ShowsSame other := by
  constructor
  · intro heq
    have hblocks := congrArg feedLines heq
    rw [feedLines_text h.feed_not_mem, feedLines_text hother.feed_not_mem] at hblocks
    have hblocks := blocks_inj hblocks
    simp only [blocks, List.cons.injEq, true_and, and_true] at hblocks
    obtain ⟨htests, hmethods, hreferences⟩ := hblocks
    exact showsSame_iff.2 ⟨TestTally.textLines_inj htests,
      DeletedMethod.lines_inj h.methods hother.methods hmethods,
      ReferenceChange.shown_eq_of_bodyLines_eq h.references hother.references hreferences⟩
  · intro hsame
    obtain ⟨htests, hmethods, hreferences⟩ := showsSame_iff.1 hsame
    rw [text, text, htests, hmethods, ReferenceChange.text_eq_of_shown_eq hreferences]

/-- Whether the old version of a new reference is missing or empty is not shown, and neither is an
assembly without versions. -/
theorem showsSame_of_empty_version :
    let method : DeletedMethod := ⟨"a : b.cs", "Run"⟩
    let analysis : Analysis := ⟨⟨1, 0⟩, [method],
      [⟨"Log", .project, some "", some noVersion⟩, ⟨"Sys", .assembly, none, some ""⟩]⟩
    let other : Analysis := ⟨⟨1, 0⟩, [method], [⟨"Log", .project, none, some noVersion⟩]⟩
    analysis.text = other.text ∧ analysis.ShowsSame other := by
  intro method analysis other
  have hplain : analysis.IsPlain := ⟨by decide +kernel, by decide +kernel, by decide +kernel⟩
  have hother : other.IsPlain := ⟨by decide +kernel, by decide +kernel, by decide +kernel⟩
  have htext : analysis.text = other.text := by decide +kernel
  exact ⟨htext, (text_eq_iff_showsSame hplain hother).1 htext⟩

end Analysis

end PullReport
