import PullReport.Text.Blank

/-!
# The environment

The variables through which a workflow, or a user, tells the program what it is to do. A variable
that holds nothing but blanks counts as missing wherever that makes sense.

## Main definitions

* `Variable`: the variables; `Variable.name`.
* `Environment`: their values.
* `nonBlank?`: a value that is there and not blank.
-/

namespace PullReport

/-- A variable of the environment. -/
inductive Variable where
  | token
  | repository
  | number
  | eventPath
  | clientId
  deriving DecidableEq, Repr

/-- The name of a variable. -/
def Variable.name : Variable → String
  | token => "GITHUB_TOKEN"
  | repository => "GITHUB_REPOSITORY"
  | number => "GITHUB_PULL_REQUEST_NUMBER"
  | eventPath => "GITHUB_EVENT_PATH"
  | clientId => "PR_HELPER_CLIENT_ID"

/-- The values of the variables that are set. -/
abbrev Environment := Variable → Option String

/-- A value, unless it is blank. -/
def nonBlank? (value : Option String) : Option String :=
  value.filter fun text => !Text.isBlankText text.toList

theorem nonBlank?_eq_some_iff {value : Option String} {text : String} :
    nonBlank? value = some text ↔ value = some text ∧ Text.isBlankText text.toList = false := by
  simp [nonBlank?, Option.filter_eq_some_iff]

/-- A value that does not count is missing or blank. -/
theorem nonBlank?_eq_none_iff {value : Option String} :
    nonBlank? value = none ↔ ∀ text, value = some text → Text.isBlankText text.toList = true := by
  simp [nonBlank?, Option.filter_eq_none_iff]

end PullReport
