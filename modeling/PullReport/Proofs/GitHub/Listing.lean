import Mathlib.Data.List.Forall2
import PullReport.Proofs.GitHub.Paging
import PullReport.Proofs.Json.Quotation

/-!
# Listings of changed files as they may be written

A server may write one and the same listing in many ways: the members of a record in any order and
with any others among them, blanks between all parts of the text, every character by itself or as an
escape. A patch that there is no text for is `null` or left out. None of that shows in what is read.

What is said of a record is that its members, in whatever order, are those that count and others
with other names. A name that stands for no text is no name: a record with such a member is not one
that the program can read, even though the value of a member may have such names in it.

## Main definitions

* `GitHub.ListedFile`, `GitHub.ListedPatch`: what a record says of a file.
* `GitHub.ListedFile.IsGivenBy`: the value of a record says that.
* `GitHub.IsUnusable`: a record of which no file can be made.
* `GitHub.ReadsListing`: what is to be said of the text of a listing.

## Main results

* `GitHub.ListedFile.ofJson?_eq_some`: the file of a record.
* `GitHub.IsUnusable.ofJson?_eq_none`: no file is made of an unusable record.
* `GitHub.readsListing_of_writes`: what is read from a listing, however it is written.
-/

namespace PullReport

namespace Json

variable {names : List String} {members : List (Option String × Json)}
variable {field : String → Field Json} {name : String} {value : Json}

/-! ### Fields of an object -/

/-- The members of some name. -/
def named (name : String) (members : List (Option String × Json)) :
    List (Option String × Json) :=
  members.filter (·.1 = some name)

theorem length_named (name : String) (members : List (Option String × Json)) :
    (named name members).length = occurrences name members :=
  List.countP_eq_length_filter.symm

theorem mem_named_iff {member : Option String × Json} :
    member ∈ named name members ↔ member ∈ members ∧ member.1 = some name := by
  rw [named, List.mem_filter, decide_eq_true_eq]

theorem named_append (name : String) (members others : List (Option String × Json)) :
    named name (members ++ others) = named name members ++ named name others :=
  List.filter_append members others

theorem named_eq_nil (h : ∀ member ∈ members, member.1 ≠ some name) : named name members = [] := by
  rw [named, List.filter_eq_nil_iff]
  exact fun member hmem => by simpa using h member hmem

/-- What the members of an object say about a field. -/
def fieldOf (members : List (Option String × Json)) (name : String) : Field Json :=
  (named name members).head?.elim .absent fun member => .given member.2

theorem record?_object (names : List String) (members : List (Option String × Json)) :
    record? names (.object members) =
      if members.all (·.1.isSome) ∧ names.all (occurrences · members ≤ 1) then
        some (fieldOf members) else none := by
  rw [record?]
  split
  · refine congrArg some (funext fun name => ?_)
    rw [fieldOf, named, List.head?_filter]
    cases members.find? (·.1 = some name) <;> rfl
  · rfl

/-- The fields of an object: the names of all members are texts, none of the fields is given twice,
and a field is given by the member of its name. -/
theorem record?_object_eq_some_iff :
    record? names (.object members) = some field ↔
      ((∀ member ∈ members, member.1.isSome = true) ∧
        ∀ name ∈ names, (named name members).length ≤ 1) ∧ field = fieldOf members := by
  rw [record?_object, Option.ite_none_right_eq_some, List.all_eq_true, List.all_eq_true,
    Option.some.injEq, eq_comm (b := field)]
  simp only [length_named, decide_eq_true_eq]

theorem field_of_named (h : record? names (.object members) = some field)
    (hnamed : named name members = [(some name, value)]) : field name = .given value := by
  rw [(record?_object_eq_some_iff.1 h).2, fieldOf, hnamed]
  rfl

theorem field_of_named_nil (h : record? names (.object members) = some field)
    (hnamed : named name members = []) : field name = .absent := by
  rw [(record?_object_eq_some_iff.1 h).2, fieldOf, hnamed]
  rfl

/-- A field that is among the members is given by none but that member. -/
theorem field_of_mem (h : record? names (.object members) = some field) (hname : name ∈ names)
    (hmem : (some name, value) ∈ members) : field name = .given value := by
  have hmember : (some name, value) ∈ named name members := mem_named_iff.2 ⟨hmem, rfl⟩
  have hlength : (named name members).length = 1 :=
    Nat.le_antisymm ((record?_object_eq_some_iff.1 h).1.2 name hname)
      (List.length_pos_of_mem hmember)
  obtain ⟨member, hsingle⟩ := List.length_eq_one_iff.1 hlength
  rw [hsingle, List.mem_singleton] at hmember
  exact field_of_named h (hmember ▸ hsingle)

/-! ### Items of an array -/

section Items

variable {α : Type} {read? : Json → Option α} {item : Json} {items : List Json} {values : List α}

theorem list?_array_eq_some (h : List.Forall₂ (fun item value => read? item = some value) items
    values) : list? read? (.array items) = some values := by
  rw [list?]
  induction h with
  | nil => rfl
  | cons hitem _ ih => rw [List.mapM_cons, hitem, ih]; rfl

/-- One item that cannot be read spoils them all. -/
theorem list?_array_eq_none (hmem : item ∈ items) (h : read? item = none) :
    list? read? (.array items) = none := by
  rw [list?]
  induction items with
  | nil => cases hmem
  | cons first items ih =>
    rw [List.mapM_cons]
    rcases List.mem_cons.1 hmem with rfl | hmem
    · rw [h]
      rfl
    · rw [ih hmem]
      cases read? first <;> rfl

end Items

end Json

namespace GitHub

/-! ### Records -/

/-- What a record says of a patch: its text, that there is none, or nothing. -/
inductive ListedPatch where
  | text (patch : String)
  | null
  | absent
  deriving DecidableEq, Repr

namespace ListedPatch

/-- The members that say so. -/
def members : ListedPatch → List (Option String × Json)
  | text patch => [(some "patch", .string (some patch))]
  | null => [(some "patch", .null)]
  | absent => []

/-- The patch of the file: where there is no text, it is empty. -/
def content : ListedPatch → String
  | text patch => patch
  | null | absent => ""

end ListedPatch

/-- What a record says of a file. -/
structure ListedFile where
  filename : String
  patch : ListedPatch
  deriving DecidableEq, Repr

namespace ListedFile

/-- The file of which it is said. -/
def file (entry : ListedFile) : ChangedFile := ⟨entry.filename, entry.patch.content⟩

/-- The members that say so. -/
def members (entry : ListedFile) : List (Option String × Json) :=
  (some "filename", .string (some entry.filename)) :: entry.patch.members

/-- A member that says nothing here, since it has another name. -/
def IsOther (member : Option String × Json) : Prop :=
  ∃ name, member.1 = some name ∧ name ≠ "filename" ∧ name ≠ "patch"

/-- A value is a record that says this: an object with these members in some order and among
others, which have other names. -/
def IsGivenBy (entry : ListedFile) (item : Json) : Prop :=
  ∃ members others, item = .object members ∧ members.Perm (entry.members ++ others) ∧
    ∀ member ∈ others, IsOther member

variable {entry : ListedFile} {members others : List (Option String × Json)} {name : String}

theorem named_filename (entry : ListedFile) : Json.named "filename" entry.members =
    [(some "filename", .string (some entry.filename))] := by
  obtain ⟨filename, patch⟩ := entry
  cases patch <;> rfl

theorem named_patch (entry : ListedFile) :
    Json.named "patch" entry.members = entry.patch.members := by
  obtain ⟨filename, patch⟩ := entry
  cases patch <;> rfl

theorem length_members_patch (entry : ListedFile) : entry.patch.members.length ≤ 1 := by
  cases entry.patch <;> simp [ListedPatch.members]

/-- The members of the record have the names of fields. -/
theorem name_of_mem_members {member : Option String × Json} (h : member ∈ entry.members) :
    member.1 = some "filename" ∨ member.1 = some "patch" := by
  obtain ⟨filename, patch⟩ := entry
  rcases List.mem_cons.1 h with rfl | h
  · exact .inl rfl
  · cases patch with
    | text | null => exact .inr (congrArg Prod.fst (List.mem_singleton.1 h))
    | absent => cases h

/-- Where a name is that of a field, other members make no difference, and neither does the order,
since there is at most one member of that name. -/
theorem named_of_perm (hperm : members.Perm (entry.members ++ others))
    (hothers : ∀ member ∈ others, member.1 ≠ some name)
    (hlength : (Json.named name entry.members).length ≤ 1) :
    Json.named name members = Json.named name entry.members := by
  have hnamed : (Json.named name members).Perm (Json.named name (entry.members ++ others)) :=
    hperm.filter _
  rw [Json.named_append, Json.named_eq_nil hothers, List.append_nil] at hnamed
  cases hentry : Json.named name entry.members with
  | nil => rwa [hentry, List.perm_nil] at hnamed
  | cons member rest =>
    obtain rfl : rest = [] := by simpa [hentry] using hlength
    rwa [hentry, List.perm_singleton] at hnamed

/-- **The file of a record**, whatever else the record has in it. -/
theorem ofJson?_eq_some {item : Json} (h : entry.IsGivenBy item) :
    ChangedFile.ofJson? item = some entry.file := by
  obtain ⟨members, others, rfl, hperm, hothers⟩ := h
  have hfilename : Json.named "filename" members =
      [(some "filename", .string (some entry.filename))] := by
    rw [named_of_perm hperm ?_ (by rw [named_filename]; exact Nat.le_refl 1), named_filename]
    intro member hmem
    obtain ⟨name, hname, hne, -⟩ := hothers member hmem
    exact fun heq => hne (Option.some.inj (hname.symm.trans heq))
  have hpatch : Json.named "patch" members = entry.patch.members := by
    rw [named_of_perm hperm ?_ (by rw [named_patch]; exact entry.length_members_patch), named_patch]
    intro member hmem
    obtain ⟨name, hname, -, hne⟩ := hothers member hmem
    exact fun heq => hne (Option.some.inj (hname.symm.trans heq))
  have hsome : ∀ member ∈ members, member.1.isSome = true := by
    intro member hmem
    rcases List.mem_append.1 (hperm.subset hmem) with hmem | hmem
    · rcases name_of_mem_members hmem with hname | hname <;> rw [hname] <;> rfl
    · obtain ⟨name, hname, -⟩ := hothers member hmem
      rw [hname]
      rfl
  have hlength : ∀ name ∈ ["filename", "patch"], (Json.named name members).length ≤ 1 := by
    simp [hfilename, hpatch, entry.length_members_patch]
  rw [ChangedFile.ofJson?, Json.record?_object_eq_some_iff.2 ⟨⟨hsome, hlength⟩, rfl⟩]
  simp only [Option.bind_eq_bind, Option.bind_some, Json.fieldOf, hfilename, hpatch]
  obtain ⟨filename, patch⟩ := entry
  cases patch <;> rfl

theorem no_lines (entry : ListedFile) (h : entry.patch = .null ∨ entry.patch = .absent) :
    entry.file.patch = "" ∧ entry.file.lines = [] := by
  obtain ⟨filename, patch⟩ := entry
  rcases h with rfl | rfl <;> exact ⟨rfl, rfl⟩

end ListedFile

/-! ### Records of which no file can be made -/

/-- A value of which no file can be made: an object without the name of a file, an object with a
patch that is neither a text nor `null`, a list of fields with the same faults, or anything else
that has no fields. -/
inductive IsUnusable : Json → Prop
  | noFilename {members : List (Option String × Json)}
      (h : ∀ member ∈ members, member.1 ≠ some "filename") : IsUnusable (.object members)
  | otherPatch {members : List (Option String × Json)} {patch : Json}
      (h : (some "patch", patch) ∈ members) (hnull : patch ≠ .null)
      (htext : ∀ text, patch ≠ .string text) : IsUnusable (.object members)
  | noField : IsUnusable (.array [])
  | otherSecond {first patch : Json} {rest : List Json} (hnull : patch ≠ .null)
      (htext : ∀ text, patch ≠ .string text) : IsUnusable (.array (first :: patch :: rest))
  | scalar {item : Json} (hobject : ∀ members, item ≠ .object members)
      (harray : ∀ items, item ≠ .array items) : IsUnusable item

theorem patchOfJson?_eq_none {patch : Json} (hnull : patch ≠ .null)
    (htext : ∀ text, patch ≠ .string text) : ChangedFile.patchOfJson? patch = none := by
  cases patch with
  | null => exact absurd rfl hnull
  | string text => exact absurd rfl (htext text)
  | bool | number | array | object => rfl

/-- **No file is made** of an unusable record. -/
theorem IsUnusable.ofJson?_eq_none {item : Json} (h : IsUnusable item) :
    ChangedFile.ofJson? item = none := by
  rw [ChangedFile.ofJson?]
  cases hrecord : item.record? ["filename", "patch"] with
  | none => rfl
  | some field =>
    simp only [Option.bind_eq_bind, Option.bind_some]
    cases h with
    | noFilename h => rw [Json.field_of_named_nil hrecord (Json.named_eq_nil h)]; rfl
    | otherPatch h hnull htext =>
      rw [Json.field_of_mem hrecord (by decide) h, Field.default?, patchOfJson?_eq_none hnull htext]
      cases (field "filename").required? Json.text? <;> rfl
    | noField =>
      obtain rfl := Option.some.inj hrecord
      rfl
    | @otherSecond first patch rest hnull htext =>
      rw [Json.record?] at hrecord
      obtain ⟨-, hfield⟩ := Option.ite_none_right_eq_some.1 hrecord
      obtain rfl := Option.some.inj hfield
      have hpatch : Field.ofList ["filename", "patch"] (first :: patch :: rest) "patch" =
        .given patch := rfl
      rw [hpatch, Field.default?, patchOfJson?_eq_none hnull htext]
      cases (Field.ofList _ _ "filename").required? Json.text? <;> rfl
    | scalar hobject harray =>
      cases item with
      | object members => exact absurd rfl (hobject members)
      | array items => exact absurd rfl (harray items)
      | null | bool | number | string => cases hrecord

/-! ### The text of a listing -/

/-- What is to be said of a text in which these items are listed. -/
structure ReadsListing (items : List Json) (text : String) : Prop where
  /-- Records are read as the files of which they tell, in their order, by the reader and from a
  successful reply with that text. Where there is no text of a patch, the file has no lines. -/
  files (entries : List ListedFile) (h : List.Forall₂ ListedFile.IsGivenBy entries items) :
    ChangedFile.listing? text = some (entries.map ListedFile.file) ∧
      (∀ code, Reply.isSuccess code = true →
        listed (.answer code text) = .ok (entries.map ListedFile.file)) ∧
      ∀ entry ∈ entries, entry.patch = .null ∨ entry.patch = .absent →
        entry.file.patch = "" ∧ entry.file.lines = []
  /-- One record of which no file can be made spoils the listing. -/
  unusable (item : Json) (hmem : item ∈ items) (h : IsUnusable item) :
    ChangedFile.listing? text = none ∧
      ∀ code, Reply.isSuccess code = true → listed (.answer code text) = .error .unreadableReply

/-- **What is read from a listing**, however it is written. -/
theorem readsListing_of_writes {items : List Json} {text : String}
    (h : Json.Writes (.spaced (.array items)) text.toList) : ReadsListing items text := by
  have hlisting : ChangedFile.listing? text = (Json.array items).list? ChangedFile.ofJson? := by
    rw [ChangedFile.listing?, Json.read?_of_writes h]
    rfl
  constructor
  case files =>
    intro entries hentries
    have hfiles : ChangedFile.listing? text = some (entries.map ListedFile.file) := by
      rw [hlisting]
      refine Json.list?_array_eq_some (List.forall₂_map_right_iff.2 (hentries.flip.imp ?_))
      exact fun item entry hentry => ListedFile.ofJson?_eq_some hentry
    refine ⟨hfiles, fun code hcode => ?_, fun entry _ hpatch => entry.no_lines hpatch⟩
    rw [Reply.listed_eq_ok_iff, Reply.files?, if_pos hcode, hfiles]
  case unusable =>
    intro item hmem hitem
    have hnone : ChangedFile.listing? text = none :=
      hlisting.trans (Json.list?_array_eq_none hmem hitem.ofJson?_eq_none)
    exact ⟨hnone, fun code hcode => Reply.listed_of_unreadable hcode hnone⟩

/-- A listing with an escaped patch in front of the name of its file and half a pair of surrogates
between them, and a listing of an object with nothing in it. -/
theorem readsListing_of_reordered :
    ChangedFile.listing? ("[\x7b\"patch\":\"\\ud83d\\uDE00\",\"raw\":[\"\\udead\"]," ++
        "\"filename\":\"a\"\x7d\n,\x7b\"filename\":\"b\",\"patch\":null\x7d]") =
      some [⟨"a", "😀"⟩, ⟨"b", ""⟩] ∧
    listed (.answer 200 "[\x7b\x7d]") = .error .unreadableReply := by
  have hhigh : Json.IsHexUnit 0xD83D ['d', '8', '3', 'd'] :=
    .mk (i := 0xD) (j := 8) (k := 3) (l := 0xD) rfl rfl rfl rfl
  have hlow : Json.IsHexUnit 0xDE00 ['D', 'E', '0', '0'] :=
    .mk (i := 0xD) (j := 0xE) (k := 0) (l := 0) rfl rfl rfl rfl
  have hhalf : Json.IsHexUnit 0xDEAD ['d', 'e', 'a', 'd'] :=
    .mk (i := 0xD) (j := 0xE) (k := 0xA) (l := 0xD) rfl rfl rfl rfl
  have hpatch : Json.WritesString (some "😀") _ :=
    .text (.cons (.number hhigh) (.cons (.number hlow) .nil))
      (.pair (by decide) (by decide) rfl .nil)
  have hunits := Json.SpellsUnits.cons (.number hhalf) .nil
  have hbroken : Json.WritesString none _ := .broken hunits fun cs hcs => by
    cases (Json.ofUnits?_eq_some_iff hunits.lt).2 hcs
  have hspace : Json.IsSpace [] := List.forall_mem_nil _
  have hfeed : Json.IsSpace ['\n'] := by simp [Json.IsSpace]
  have hquote (name : String) := Json.writesString_quote name
  have hraw := Json.Writes.array (.lastItem (Json.Writes.bare (.string hbroken)))
  have hfirst := Json.Writes.object <|
    .moreMembers (.bareMember (hquote "patch") (.string hpatch)) (by simp) <|
    .moreMembers (.bareMember (hquote "raw") hraw) (by simp) <|
    .lastMember (.bareMember (hquote "filename") (.string (hquote "a")))
  have hsecond := Json.Writes.object <|
    .moreMembers (.bareMember (hquote "filename") (.string (hquote "b"))) (by simp) <|
    .lastMember (.bareMember (hquote "patch") .nullWord)
  have hlisting := Json.Writes.bare <|
    .array (.moreItems (.spaced hspace hfirst hfeed) (by simp) (.lastItem hsecond.bare))
  have hempty := Json.Writes.bare <|
    .array (.lastItem (Json.Writes.bare (.object (.noMembers hspace))))
  constructor
  · refine ((readsListing_of_writes (hlisting.of_eq ?_)).files
      [⟨"a", .text "😀"⟩, ⟨"b", .null⟩] (.cons ?_ (.cons ?_ .nil))).1
    · decide +kernel
    · exact ⟨_, [(some "raw", .array [.string none])], rfl, List.perm_append_singleton _ [_, _],
        List.forall_mem_singleton.2 ⟨"raw", rfl, by decide, by decide⟩⟩
    · exact ⟨_, [], rfl, .refl _, List.forall_mem_nil _⟩
  · refine ((readsListing_of_writes (hempty.of_eq ?_)).unusable _ List.mem_cons_self
      (.noFilename (List.forall_mem_nil _))).2 200 rfl
    decide +kernel

end GitHub

end PullReport
