import PullReport.Proofs.Text.Numeral
import PullReport.Proofs.Text.Pieces
import PullReport.Settings.Workflow

/-!
# What the variables of a workflow describe

A workflow needs a token, a repository and the number of a pull request. The number is looked for
first of all, and whatever is wrong with it is reported at once: a numeral that cannot be read, a
payload that cannot be read, a file that is not there. So a garbled number hides what else is
missing. Only then is everything that is missing reported, all of it together, and only if nothing
is missing does the form of the repository matter.

## Main definitions

* `IsGiven`, `IsUnset`: a value has more than blanks in it, or not.
* `Event.Numbers`: the two numbers in a payload.
* `Workflow.IsRepository`: owner and name of a repository with a slash between them.
* `Workflow.GivesNumber`, `Workflow.LacksNumber`, `Workflow.Garbled`: what can come of looking for
  the number.
* `Workflow.Lacks`, `Workflow.NamesMissing`: what is missing, and a list of its names.
* `Workflow.Describes`: a workflow is described by the token, the variables and the event.

## Main results

* `Workflow.number_eq_some_iff`, `Workflow.number_eq_none_iff`, `Workflow.number_eq_error_iff`: what
  looking for the number comes to.
* `Workflow.resolve_names_missing`: what is reported if something is missing.
* `Workflow.resolve_described`: when a workflow is made, and which one.
-/

namespace PullReport

open Text

/-! ### Values -/

/-- A value is given: there is a text, and something in it that is not blank. -/
def IsGiven (value : Option String) (text : String) : Prop :=
  value = some text ∧ ∃ c ∈ text.toList, isBlank c = false

/-- A value is not given: there is no text, or nothing but blanks in it. -/
def IsUnset (value : Option String) : Prop :=
  ∀ text, value = some text → ∀ c ∈ text.toList, isBlank c = true

theorem isGiven_iff {value : Option String} {text : String} :
    IsGiven value text ↔ nonBlank? value = some text := by
  rw [nonBlank?_eq_some_iff, isBlankText, List.all_eq_false, IsGiven]
  simp

theorem isUnset_iff {value : Option String} : IsUnset value ↔ nonBlank? value = none := by
  rw [nonBlank?_eq_none_iff, IsUnset]
  simp only [isBlankText, List.all_eq_true]

/-! ### Payloads -/

namespace Json

/-- An optional field, given what it is for a value to be of the right kind: it is left out, or
`null`, or has such a value. -/
inductive Holds {α : Type} (Reads : Json → α → Prop) : Field Json → Option α → Prop where
  | absent : Holds Reads .absent none
  | null : Holds Reads (.given .null) none
  | given {json : Json} {value : α} (reads : Reads json value) :
    Holds Reads (.given json) (some value)

theorem Holds.imp {α : Type} {Reads Others : Json → α → Prop} {field : Field Json}
    {value : Option α} (h : Holds Reads field value)
    (himp : ∀ json a, Reads json a → Others json a) :
    Holds Others field value := by
  cases h with
  | absent => exact .absent
  | null => exact .null
  | given reads => exact .given (himp _ _ reads)

theorem nullable?_eq_some_iff {α : Type} {read? : Json → Option α} {field : Field Json}
    {value : Option α} (hnull : read? .null = none) :
    nullable? read? field = some value ↔ Holds (read? · = some ·) field value := by
  constructor
  · intro h
    rw [nullable?.eq_def] at h
    split at h
    · obtain rfl := Option.some.inj h
      exact .null
    · cases field with
      | absent =>
        obtain rfl := Option.some.inj h
        exact .absent
      | cutOff => cases h
      | given json =>
        obtain ⟨a, ha, rfl⟩ := Option.map_eq_some_iff.1 h
        exact .given ha
  · intro h
    cases h with
    | absent => rfl
    | null => rfl
    | @given json a reads =>
      rw [nullable?.eq_def]
      split
      · rename_i heq
        obtain rfl := Field.given.inj heq
        rw [hnull] at reads
        cases reads
      · exact Option.map_eq_some_iff.2 ⟨a, reads, rfl⟩

end Json

namespace Event

variable {payload : String} {ofPullRequest own : Option Nat} {n : Nat}

/-- The number of a pull request in a payload, which has to be there. -/
def PullRequestNumber (json : Json) (n : Nat) : Prop :=
  ∃ fields value, json.record? ["number"] = some fields ∧ fields "number" = .given value ∧
    value.natural? = some n

/-- A payload says which number its pull request has and which number stands next to it. Each of
them may be left out. -/
def Numbers (payload : String) (ofPullRequest own : Option Nat) : Prop :=
  ∃ json event, Json.read? payload = some json ∧
    json.record? ["number", "pull_request"] = some event ∧
    Json.Holds (Json.natural? · = some ·) (event "number") own ∧
    Json.Holds PullRequestNumber (event "pull_request") ofPullRequest

theorem pullRequestNumber_iff {json : Json} :
    ((json.record? ["number"]).bind fun fields => (fields "number").required? Json.natural?) =
        some n ↔ PullRequestNumber json n := by
  rw [Option.bind_eq_some_iff]
  simp only [Field.required?_eq_some_iff]
  constructor
  · rintro ⟨fields, hfields, value, hvalue, hn⟩
    exact ⟨fields, value, hfields, hvalue, hn⟩
  · rintro ⟨fields, value, hfields, hvalue, hn⟩
    exact ⟨fields, hfields, value, hvalue, hn⟩

/-- **The number in a payload** is that of its pull request, or else the one next to it. -/
theorem number?_eq_some_iff {number : Option Nat} :
    number? payload = some number ↔
      ∃ ofPullRequest own, Numbers payload ofPullRequest own ∧
        (ofPullRequest <|> own) = number := by
  rw [number?]
  simp only [Option.bind_eq_bind, Option.bind_eq_some_iff, Option.pure_def, Option.some.injEq]
  constructor
  · rintro ⟨json, hjson, event, hevent, own, hown, ofPullRequest, hpull, hnumber⟩
    refine ⟨ofPullRequest, own, ⟨json, event, hjson, hevent,
      (Json.nullable?_eq_some_iff rfl).1 hown, ?_⟩, hnumber⟩
    exact ((Json.nullable?_eq_some_iff rfl).1 hpull).imp fun _ _ => pullRequestNumber_iff.1
  · rintro ⟨ofPullRequest, own, ⟨json, event, hjson, hevent, hown, hpull⟩, hnumber⟩
    refine ⟨json, hjson, event, hevent, own, (Json.nullable?_eq_some_iff rfl).2 hown,
      ofPullRequest, ?_, hnumber⟩
    exact (Json.nullable?_eq_some_iff rfl).2 (hpull.imp fun _ _ => pullRequestNumber_iff.2)

end Event

namespace Workflow

variable {token : Option String} {environment : Environment} {tree : FileTree}
  {e : Settings.Error} {n : Nat} {workflow : Workflow} {which : List Variable}

/-! ### Repositories -/

/-- A repository is written as its owner and its name with a slash between them. Neither is empty,
and there is no other slash. -/
structure IsRepository (repository owner repo : String) : Prop where
  parts : repository.toList = owner.toList ++ '/' :: repo.toList
  owner_ne : owner ≠ ""
  repo_ne : repo ≠ ""
  slash_not_mem_owner : '/' ∉ owner.toList
  slash_not_mem_repo : '/' ∉ repo.toList

/-- A text has two pieces if there is one slash between them and no other. -/
theorem splitOn_eq_pair_iff {cs front back : List Char} :
    cs.splitOn '/' = [front, back] ↔
      cs = front ++ '/' :: back ∧ '/' ∉ front ∧ '/' ∉ back := by
  constructor
  · intro h
    have hmem : ∀ piece ∈ [front, back], '/' ∉ piece := fun piece hpiece =>
      not_mem_of_mem_splitOn (h ▸ hpiece)
    refine ⟨?_, hmem front (by simp), hmem back (by simp)⟩
    have hjoined : ['/'].intercalate (cs.splitOn '/') = cs := List.intercalate_splitOn '/'
    rw [← hjoined, h, List.intercalate_cons_cons, List.intercalate_singleton, List.append_assoc,
      List.singleton_append]
  · rintro ⟨rfl, hfront, hback⟩
    have hpieces : (['/'].intercalate [front, back]).splitOn '/' = [front, back] :=
      List.splitOn_intercalate '/' (by simp [hfront, hback]) (by simp)
    rwa [List.intercalate_cons_cons, List.intercalate_singleton, List.append_assoc,
      List.singleton_append] at hpieces

theorem ownerAndRepo?_eq_some_iff {repository owner repo : String} :
    ownerAndRepo? repository = some (owner, repo) ↔ IsRepository repository owner repo := by
  constructor
  · intro h
    rw [ownerAndRepo?] at h
    split at h
    · rename_i front back hpieces
      obtain ⟨⟨hfront, hback⟩, hpair⟩ := Option.ite_none_right_eq_some.1 h
      obtain ⟨rfl, rfl⟩ := Prod.mk.inj (Option.some.inj hpair)
      obtain ⟨hparts, hslashFront, hslashBack⟩ := splitOn_eq_pair_iff.1 hpieces
      refine ⟨?_, ?_, ?_, ?_, ?_⟩
      · simpa using hparts
      · simpa [String.ext_iff] using hfront
      · simpa [String.ext_iff] using hback
      · simpa using hslashFront
      · simpa using hslashBack
    · cases h
  · rintro ⟨hparts, howner, hrepo, hslashOwner, hslashRepo⟩
    rw [ownerAndRepo?, splitOn_eq_pair_iff.2 ⟨hparts, hslashOwner, hslashRepo⟩]
    simp [String.toList_eq_nil_iff, howner, hrepo]

/-! ### Looking for the number -/

/-- The number of the pull request: the variable has a numeral of it, or else, if the variable says
nothing, it is in the event, where the pull request's own number counts before the one next to
it. -/
inductive GivesNumber (environment : Environment) (tree : FileTree) (n : Nat) : Prop where
  | ofVariable {raw : String} (given : IsGiven (environment .number) raw)
    (numeral : IsNumeral (trim raw.toList) n)
  | ofPullRequest {name payload : String} {own : Option Nat}
    (unset : IsUnset (environment .number))
    (named : IsGiven (environment .eventPath) name) (read : tree.read name = .ok payload)
    (numbers : Event.Numbers payload (some n) own)
  | ofEvent {name payload : String} (unset : IsUnset (environment .number))
    (named : IsGiven (environment .eventPath) name) (read : tree.read name = .ok payload)
    (numbers : Event.Numbers payload none (some n))

/-- There is no number: the variable says nothing, and there is no event or no number in it. -/
inductive LacksNumber (environment : Environment) (tree : FileTree) : Prop where
  | ofVariables (unset : IsUnset (environment .number))
    (unnamed : IsUnset (environment .eventPath))
  | ofEvent {name payload : String} (unset : IsUnset (environment .number))
    (named : IsGiven (environment .eventPath) name) (read : tree.read name = .ok payload)
    (numbers : Event.Numbers payload none none)

/-- Looking for the number goes wrong: what the variable holds is no numeral, or the event cannot be
read, or it is no payload. -/
inductive Garbled (environment : Environment) (tree : FileTree) : Settings.Error → Prop where
  | numeral {raw : String} (given : IsGiven (environment .number) raw)
    (garbled : ∀ n, ¬ IsNumeral (trim raw.toList) n) :
    Garbled environment tree (.invalid .number raw)
  | file {name : String} {error : FileError} (unset : IsUnset (environment .number))
    (named : IsGiven (environment .eventPath) name)
    (unread : tree.read name = .error error) :
    Garbled environment tree (.unreadable error)
  | payload {name payload : String} (unset : IsUnset (environment .number))
    (named : IsGiven (environment .eventPath) name) (read : tree.read name = .ok payload)
    (garbled : ∀ ofPullRequest own, ¬ Event.Numbers payload ofPullRequest own) :
    Garbled environment tree .malformedEvent

theorem GivesNumber.number_eq (h : GivesNumber environment tree n) :
    number environment tree = .ok (some n) := by
  rw [number]
  cases h with
  | ofVariable given numeral => simp only [isGiven_iff.1 given, number?_eq_some_iff.2 numeral]
  | ofPullRequest unset named read numbers =>
    simp only [isUnset_iff.1 unset, isGiven_iff.1 named, Event.load, read,
      Event.number?_eq_some_iff.2 ⟨_, _, numbers, rfl⟩]
    rfl
  | ofEvent unset named read numbers =>
    simp only [isUnset_iff.1 unset, isGiven_iff.1 named, Event.load, read,
      Event.number?_eq_some_iff.2 ⟨_, _, numbers, rfl⟩]
    rfl

theorem LacksNumber.number_eq (h : LacksNumber environment tree) :
    number environment tree = .ok none := by
  rw [number]
  cases h with
  | ofVariables unset unnamed => simp only [isUnset_iff.1 unset, isUnset_iff.1 unnamed]
  | ofEvent unset named read numbers =>
    simp only [isUnset_iff.1 unset, isGiven_iff.1 named, Event.load, read,
      Event.number?_eq_some_iff.2 ⟨_, _, numbers, rfl⟩]
    rfl

theorem Garbled.number_eq (h : Garbled environment tree e) :
    number environment tree = .error e := by
  rw [number]
  cases h with
  | @numeral raw given garbled =>
    have hnone : number? (trim raw.toList) = none :=
      Option.eq_none_iff_forall_ne_some.2 fun n hn => garbled n (number?_eq_some_iff.1 hn)
    simp only [isGiven_iff.1 given, hnone]
  | file unset named unread =>
    simp only [isUnset_iff.1 unset, isGiven_iff.1 named, Event.load, unread]
  | @payload name payload unset named read garbled =>
    have hnone : Event.number? payload = none := by
      refine Option.eq_none_iff_forall_ne_some.2 fun found hfound => ?_
      obtain ⟨ofPullRequest, own, hnumbers, -⟩ := Event.number?_eq_some_iff.1 hfound
      exact garbled ofPullRequest own hnumbers
    simp only [isUnset_iff.1 unset, isGiven_iff.1 named, Event.load, read, hnone]

/-- **Looking for the number** gives one, or there is none, or it goes wrong. -/
theorem number_cases (environment : Environment) (tree : FileTree) :
    (∃ n, GivesNumber environment tree n) ∨ LacksNumber environment tree ∨
      ∃ e, Garbled environment tree e := by
  cases hnumber : nonBlank? (environment .number) with
  | some raw =>
    by_cases hnumeral : ∃ n, IsNumeral (trim raw.toList) n
    · obtain ⟨n, hn⟩ := hnumeral
      exact .inl ⟨n, .ofVariable (isGiven_iff.2 hnumber) hn⟩
    · exact .inr (.inr ⟨_, .numeral (isGiven_iff.2 hnumber) (not_exists.1 hnumeral)⟩)
  | none =>
    have hunset := isUnset_iff.2 hnumber
    cases hpath : nonBlank? (environment .eventPath) with
    | none => exact .inr (.inl (.ofVariables hunset (isUnset_iff.2 hpath)))
    | some name =>
      have hnamed := isGiven_iff.2 hpath
      cases hread : tree.read name with
      | error error => exact .inr (.inr ⟨_, .file hunset hnamed hread⟩)
      | ok payload =>
        by_cases hnumbers : ∃ ofPullRequest own, Event.Numbers payload ofPullRequest own
        · obtain ⟨ofPullRequest, own, hnumbers⟩ := hnumbers
          match ofPullRequest, own with
          | some n, own => exact .inl ⟨n, .ofPullRequest hunset hnamed hread hnumbers⟩
          | none, some n => exact .inl ⟨n, .ofEvent hunset hnamed hread hnumbers⟩
          | none, none => exact .inr (.inl (.ofEvent hunset hnamed hread hnumbers))
        · refine .inr (.inr ⟨_, .payload hunset hnamed hread fun ofPullRequest own h => ?_⟩)
          exact hnumbers ⟨ofPullRequest, own, h⟩

theorem number_eq_some_iff :
    number environment tree = .ok (some n) ↔ GivesNumber environment tree n := by
  refine ⟨fun h => ?_, GivesNumber.number_eq⟩
  rcases number_cases environment tree with ⟨other, hgives⟩ | hlacks | ⟨e, hgarbled⟩
  · obtain rfl : other = n := Option.some.inj (Except.ok.inj (hgives.number_eq.symm.trans h))
    exact hgives
  · cases hlacks.number_eq.symm.trans h
  · cases hgarbled.number_eq.symm.trans h

theorem number_eq_none_iff :
    number environment tree = .ok none ↔ LacksNumber environment tree := by
  refine ⟨fun h => ?_, LacksNumber.number_eq⟩
  rcases number_cases environment tree with ⟨n, hgives⟩ | hlacks | ⟨e, hgarbled⟩
  · cases hgives.number_eq.symm.trans h
  · exact hlacks
  · cases hgarbled.number_eq.symm.trans h

theorem number_eq_error_iff :
    number environment tree = .error e ↔ Garbled environment tree e := by
  refine ⟨fun h => ?_, Garbled.number_eq⟩
  rcases number_cases environment tree with ⟨n, hgives⟩ | hlacks | ⟨other, hgarbled⟩
  · cases hgives.number_eq.symm.trans h
  · cases hlacks.number_eq.symm.trans h
  · obtain rfl : other = e := Except.error.inj (hgarbled.number_eq.symm.trans h)
    exact hgarbled

/-! ### What is missing -/

/-- What is needed and not there. Nothing has to be said about the other variables. -/
def Lacks (token : Option String) (environment : Environment) (tree : FileTree) : Variable → Prop
  | .token => IsUnset token
  | .repository => IsUnset (environment .repository)
  | .number => LacksNumber environment tree
  | .eventPath => False
  | .clientId => False

/-- The names of everything that is missing and of nothing else, each once and in a fixed order. -/
structure NamesMissing (token : Option String) (environment : Environment) (tree : FileTree)
    (which : List Variable) : Prop where
  ordered : which.Sublist [.token, .repository, .number]
  mem_iff : ∀ item, item ∈ which ↔ Lacks token environment tree item

theorem mem_missing_iff {repository : Option String} {found : Option Nat} {item : Variable} :
    item ∈ missing token repository found ↔
      (item = .token ∧ token = none) ∨ (item = .repository ∧ repository = none) ∨
        (item = .number ∧ found = none) := by
  cases token <;> cases repository <;> cases found <;> simp [missing]

theorem missing_eq_nil_iff {repository : Option String} {found : Option Nat} :
    missing token repository found = [] ↔
      (∃ given, token = some given) ∧ (∃ given, repository = some given) ∧
        ∃ given, found = some given := by
  cases token <;> cases repository <;> cases found <;> simp [missing]

theorem namesMissing_missing {found : Option Nat} (h : number environment tree = .ok found) :
    NamesMissing token environment tree
      (missing (nonBlank? token) (nonBlank? (environment .repository)) found) where
  ordered := by
    cases nonBlank? token <;> cases nonBlank? (environment .repository) <;> cases found <;>
      simp [missing]
  mem_iff item := by
    rw [mem_missing_iff]
    cases item with
    | number => simp [Lacks, ← number_eq_none_iff, h]
    | _ => simp [Lacks, isUnset_iff]

/-! ### Making a workflow -/

/-- A workflow is described: its token and its repository are given as they are, neither of them
blank, and there is a number. -/
structure Describes (token : Option String) (environment : Environment) (tree : FileTree)
    (workflow : Workflow) : Prop where
  token : IsGiven token workflow.token
  repository : ∃ repository, IsGiven (environment .repository) repository ∧
    IsRepository repository workflow.target.owner workflow.target.repo
  number : GivesNumber environment tree workflow.target.number

/-- What comes of making a workflow. Errors of the number come first, then all that is missing, and
then the form of the repository. -/
inductive Resolved (token : Option String) (environment : Environment) (tree : FileTree) :
    Except Settings.Error Workflow → Prop where
  | garbled {e : Settings.Error} (garbled : Garbled environment tree e) :
    Resolved token environment tree (.error e)
  | missing {which : List Variable} (names : NamesMissing token environment tree which)
    (ne_nil : which ≠ []) : Resolved token environment tree (.error (.missing which))
  | malformed {repository : String} (complete : ∀ item, ¬ Lacks token environment tree item)
    (given : IsGiven (environment .repository) repository)
    (malformed : ∀ owner repo, ¬ IsRepository repository owner repo) :
    Resolved token environment tree (.error (.invalid .repository repository))
  | described {workflow : Workflow} (describes : Describes token environment tree workflow) :
    Resolved token environment tree (.ok workflow)

theorem resolve_of_garbled (h : Garbled environment tree e) :
    resolve token environment tree = .error e := by
  rw [resolve, h.number_eq]

/-- If anything is missing, that is reported. -/
theorem resolve_of_missing {found : Option Nat} (h : number environment tree = .ok found)
    (hmissing : missing (nonBlank? token) (nonBlank? (environment .repository)) found ≠ []) :
    resolve token environment tree =
      .error
        (.missing (missing (nonBlank? token) (nonBlank? (environment .repository)) found)) := by
  rw [resolve, h]
  dsimp only
  split
  · rename_i given repository n htoken hrepository
    rw [htoken, hrepository] at hmissing
    exact absurd rfl hmissing
  · rfl

/-- If nothing is missing, the form of the repository decides. -/
theorem resolve_of_given {given repository : String} (htoken : nonBlank? token = some given)
    (hrepository : nonBlank? (environment .repository) = some repository)
    (hnumber : number environment tree = .ok (some n)) :
    resolve token environment tree =
      match ownerAndRepo? repository with
      | none => .error (.invalid .repository repository)
      | some (owner, repo) => .ok ⟨given, ⟨owner, repo, n⟩⟩ := by
  cases hparts : ownerAndRepo? repository with
  | none => simp only [resolve, hnumber, htoken, hrepository, hparts]
  | some parts => simp only [resolve, hnumber, htoken, hrepository, hparts]

theorem Describes.resolve_eq (h : Describes token environment tree workflow) :
    resolve token environment tree = .ok workflow := by
  obtain ⟨repository, hgiven, hrepository⟩ := h.repository
  rw [resolve_of_given (isGiven_iff.1 h.token) (isGiven_iff.1 hgiven) h.number.number_eq,
    ownerAndRepo?_eq_some_iff.2 hrepository]

theorem not_lacks_of_given {given repository : String} (htoken : nonBlank? token = some given)
    (hrepository : nonBlank? (environment .repository) = some repository)
    (hnumber : number environment tree = .ok (some n)) (item : Variable) :
    ¬ Lacks token environment tree item := by
  cases item <;>
    simp [Lacks, isUnset_iff, htoken, hrepository, ← number_eq_none_iff, hnumber]

theorem Describes.not_lacks (h : Describes token environment tree workflow) (item : Variable) :
    ¬ Lacks token environment tree item := by
  obtain ⟨repository, hgiven, -⟩ := h.repository
  exact not_lacks_of_given (isGiven_iff.1 h.token) (isGiven_iff.1 hgiven) h.number.number_eq item

/-- **All that can come of making a workflow.** -/
theorem resolved_resolve (token : Option String) (environment : Environment) (tree : FileTree) :
    Resolved token environment tree (resolve token environment tree) := by
  cases hnumber : number environment tree with
  | error e =>
    have hgarbled := number_eq_error_iff.1 hnumber
    rw [resolve_of_garbled hgarbled]
    exact .garbled hgarbled
  | ok found =>
    by_cases hmissing : missing (nonBlank? token) (nonBlank? (environment .repository)) found = []
    · obtain ⟨⟨given, htoken⟩, ⟨repository, hrepository⟩, ⟨n, rfl⟩⟩ :=
        missing_eq_nil_iff.1 hmissing
      rw [resolve_of_given htoken hrepository hnumber]
      cases hpair : ownerAndRepo? repository with
      | none =>
        refine .malformed (not_lacks_of_given htoken hrepository hnumber)
          (isGiven_iff.2 hrepository) fun owner repo hform => ?_
        rw [ownerAndRepo?_eq_some_iff.2 hform] at hpair
        cases hpair
      | some pair =>
        obtain ⟨owner, repo⟩ := pair
        exact .described ⟨isGiven_iff.2 htoken,
          ⟨repository, isGiven_iff.2 hrepository, ownerAndRepo?_eq_some_iff.1 hpair⟩,
          number_eq_some_iff.1 hnumber⟩
    · rw [resolve_of_missing hnumber hmissing]
      exact .missing (namesMissing_missing hnumber) hmissing

theorem resolve_eq_ok_iff :
    resolve token environment tree = .ok workflow ↔ Describes token environment tree workflow := by
  refine ⟨fun h => ?_, Describes.resolve_eq⟩
  have hresolved := resolved_resolve token environment tree
  rw [h] at hresolved
  cases hresolved with
  | described hdescribes => exact hdescribes

theorem namesMissing_of_resolve (h : resolve token environment tree = .error (.missing which)) :
    NamesMissing token environment tree which ∧ which ≠ [] := by
  have hresolved := resolved_resolve token environment tree
  rw [h] at hresolved
  cases hresolved with
  | garbled hgarbled => cases hgarbled
  | missing hnames hne => exact ⟨hnames, hne⟩

/-- **What is reported if something is missing.** As long as nothing is wrong with the number, it is
the names of all that is missing and of nothing else, whatever the form of the repository. But if
the number is garbled then that is reported, and what is missing stays hidden. -/
theorem resolve_names_missing (token : Option String) (environment : Environment)
    (tree : FileTree) :
    ((∃ item, Lacks token environment tree item) →
      ((∃ which, resolve token environment tree = .error (.missing which)) ↔
        ∀ e, ¬ Garbled environment tree e)) ∧
    (∀ which, resolve token environment tree = .error (.missing which) →
      NamesMissing token environment tree which ∧ which ≠ []) ∧
    ∀ e, Garbled environment tree e → resolve token environment tree = .error e := by
  refine ⟨?_, fun which => namesMissing_of_resolve, fun e => resolve_of_garbled⟩
  rintro ⟨item, hlacks⟩
  constructor
  · rintro ⟨which, hwhich⟩ e hgarbled
    rw [resolve_of_garbled hgarbled] at hwhich
    obtain rfl := Except.error.inj hwhich
    cases hgarbled
  · intro hclear
    cases hresolve : resolve token environment tree with
    | ok workflow => exact absurd hlacks ((resolve_eq_ok_iff.1 hresolve).not_lacks item)
    | error e =>
      have hresolved := resolved_resolve token environment tree
      rw [hresolve] at hresolved
      cases hresolved with
      | garbled hgarbled => exact absurd hgarbled (hclear e)
      | missing hnames hne => exact ⟨_, rfl⟩
      | malformed hcomplete => exact absurd hlacks (hcomplete item)

/-- A blank token is missing, which is reported although the repository has no slash. -/
theorem resolve_names_missing_beside_malformed :
    let environment : Environment := fun
      | .repository => some "widgets"
      | .number => some "1"
      | _ => none
    Lacks (some "  ") environment ⟨[], []⟩ .token ∧
      ∃ which, resolve (some "  ") environment ⟨[], []⟩ = .error (.missing which) ∧
        NamesMissing (some "  ") environment ⟨[], []⟩ which := by
  intro environment
  have hlacks : Lacks (some "  ") environment ⟨[], []⟩ .token := by
    exact isUnset_iff.2 (by decide)
  have hnumber : number environment ⟨[], []⟩ = .ok (some 1) := rfl
  have hnames := resolve_names_missing (some "  ") environment ⟨[], []⟩
  obtain ⟨which, hwhich⟩ := (hnames.1 ⟨.token, hlacks⟩).2 fun e hgarbled => by
    cases hgarbled.number_eq.symm.trans hnumber
  exact ⟨hlacks, which, hwhich, (hnames.2.1 which hwhich).1⟩

/-- Neither a token nor a repository is given, and nothing is said about that. -/
theorem resolve_hides_missing :
    let environment : Environment := fun
      | .number => some "abc"
      | _ => none
    Lacks none environment ⟨[], []⟩ .token ∧ Lacks none environment ⟨[], []⟩ .repository ∧
      resolve none environment ⟨[], []⟩ = .error (.invalid .number "abc") :=
  ⟨isUnset_iff.2 rfl, isUnset_iff.2 rfl, rfl⟩

/-- **When a workflow is made, and which one.** The token must not be blank, the repository must
have one slash with something on either side, and there must be a number, in the variable or else in
the event. Then the workflow has the token, the two sides of the slash and the number as they
are. -/
theorem resolve_described (token : Option String) (environment : Environment) (tree : FileTree) :
    ((∃ workflow, resolve token environment tree = .ok workflow) ↔
      (∃ given, IsGiven token given) ∧
      (∃ repository owner repo, IsGiven (environment .repository) repository ∧
        IsRepository repository owner repo) ∧
      ∃ n, GivesNumber environment tree n) ∧
    ∀ workflow, resolve token environment tree = .ok workflow ↔
      Describes token environment tree workflow := by
  refine ⟨⟨?_, ?_⟩, fun workflow => resolve_eq_ok_iff⟩
  · rintro ⟨workflow, hworkflow⟩
    obtain ⟨htoken, ⟨repository, hgiven, hform⟩, hnumber⟩ := resolve_eq_ok_iff.1 hworkflow
    exact ⟨⟨_, htoken⟩, ⟨repository, _, _, hgiven, hform⟩, ⟨_, hnumber⟩⟩
  · rintro ⟨⟨given, htoken⟩, ⟨repository, owner, repo, hgiven, hform⟩, ⟨n, hnumber⟩⟩
    exact ⟨⟨given, ⟨owner, repo, n⟩⟩,
      Describes.resolve_eq ⟨htoken, ⟨repository, hgiven, hform⟩, hnumber⟩⟩

/-- A variable for the number that has nothing but blanks in it leaves the number to the event,
while a token with nothing but blanks in it is none, and neither is such a name of an event. -/
theorem resolve_described_beside_blanks :
    let environment (eventPath : String) : Environment := fun
      | .repository => some "octo/widgets"
      | .number => some " \t"
      | .eventPath => some eventPath
      | _ => none
    let payload := "\x7b\"number\": 5, \"pull_request\": \x7b\"number\": 17\x7d\x7d"
    let tree : FileTree := ⟨[(["event.json"], .file payload)], []⟩
    resolve (some "tok") (environment "event.json") tree = .ok ⟨"tok", ⟨"octo", "widgets", 17⟩⟩ ∧
      (¬ ∃ workflow, resolve (some "  ") (environment "event.json") tree = .ok workflow) ∧
      ¬ ∃ workflow, resolve (some "tok") (environment "\n") tree = .ok workflow := by
  intro environment payload tree
  have hrepository : IsRepository "octo/widgets" "octo" "widgets" :=
    ⟨rfl, by decide, by decide, by decide, by decide⟩
  have hnumber : GivesNumber (environment "event.json") tree 17 := by
    have hunset : IsUnset (environment "event.json" .number) := isUnset_iff.2 rfl
    have hnamed : IsGiven (environment "event.json" .eventPath) "event.json" := isGiven_iff.2 rfl
    have hpayload : Event.number? payload = some (some 17) := by decide +kernel
    obtain ⟨ofPullRequest, own, hnumbers, hfirst⟩ := Event.number?_eq_some_iff.1 hpayload
    cases ofPullRequest with
    | some n =>
      obtain rfl : n = 17 := Option.some.inj hfirst
      exact .ofPullRequest hunset hnamed rfl hnumbers
    | none =>
      obtain rfl : own = some 17 := hfirst
      exact .ofEvent hunset hnamed rfl hnumbers
  refine ⟨?_, fun hmade => ?_, fun hmade => ?_⟩
  · exact ((resolve_described (some "tok") (environment "event.json") tree).2 _).2
      ⟨isGiven_iff.2 rfl, ⟨"octo/widgets", isGiven_iff.2 rfl, hrepository⟩, hnumber⟩
  · obtain ⟨⟨given, hgiven⟩, -⟩ :=
      (resolve_described (some "  ") (environment "event.json") tree).1.1 hmade
    cases isGiven_iff.1 hgiven
  · obtain ⟨-, -, n, hnumber⟩ :=
      (resolve_described (some "tok") (environment "\n") tree).1.1 hmade
    cases hnumber with
    | ofVariable given => cases isGiven_iff.1 given
    | ofPullRequest unset named => cases isGiven_iff.1 named
    | ofEvent unset named => cases isGiven_iff.1 named

/-- A numeral with blanks around it, a plus sign and a zero in front. -/
example :
    let environment : Environment := fun
      | .repository => some "octo/widgets"
      | .number => some " +017 "
      | _ => none
    resolve (some "tok") environment ⟨[], []⟩ = .ok ⟨"tok", ⟨"octo", "widgets", 17⟩⟩ := rfl

end Workflow

end PullReport
