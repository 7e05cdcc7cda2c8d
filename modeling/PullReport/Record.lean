/-!
# Fields of records

A record with named fields is written as a table of names or as a list of values. A table gives its
fields by name, in any order, among names that mean nothing here; a list gives them by position and
may stop early. What a missing field means depends on the field: some must be there, some are
optional in a table only, and some have a default.

## Main definitions

* `Field`: what a record says about one field.
* `Field.ofList`: the fields of a record written as a list.
* `Field.required?`, `Field.optional?`, `Field.default?`: the three ways to read one.
-/

namespace PullReport

/-- What a record says about a field: its value, nothing in a table, or nothing in a list that ends
before it. -/
inductive Field (α : Type) where
  | given (value : α)
  | absent
  | cutOff
  deriving Repr

namespace Field

variable {α β : Type}

/-- The fields of a record written as a list, given the names that go with its positions. -/
def ofList (names : List String) (values : List α) (name : String) : Field α :=
  match (names.zip values).lookup name with
  | some value => given value
  | none => cutOff

/-- A field that must be there. -/
def required? (read? : α → Option β) : Field α → Option β
  | given value => read? value
  | absent => none
  | cutOff => none

theorem required?_eq_some_iff {read? : α → Option β} {field : Field α} {result : β} :
    field.required? read? = some result ↔
      ∃ value, field = given value ∧ read? value = some result := by
  cases field <;> simp [required?]

/-- A field that a table may leave out. A list must reach it. -/
def optional? (read? : α → Option β) : Field α → Option (Option β)
  | given value => (read? value).map some
  | absent => some none
  | cutOff => none

/-- A field with a default, which stands in wherever the field is missing. -/
def default? (fallback : β) (read? : α → Option β) : Field α → Option β
  | given value => read? value
  | absent => some fallback
  | cutOff => some fallback

end Field

end PullReport
