import PullReport.Json.Reader
import PullReport.Record

/-!
# Records in JSON

A record is written as an object or as an array of its fields. In an object no field may be given
twice, while other members may; where a field is optional, `null` says that it is left out.

## Main definitions

* `Json.record?`: the fields of a record.
* `Json.nullable?`: an optional field.
-/

namespace PullReport

namespace Json

/-- How often a name occurs among the members of an object. -/
def occurrences (name : String) (members : List (Option String × Json)) : Nat :=
  members.countP (·.1 = some name)

/-- The fields of a record with the given field names, by name. In an object every member's name
must be a text, known or not; an array may not have more items than there are fields. -/
def record? (names : List String) : Json → Option (String → Field Json)
  | object members =>
    if members.all (·.1.isSome) ∧ names.all (occurrences · members ≤ 1) then
      some fun name =>
        match members.find? (·.1 = some name) with
        | some (_, value) => .given value
        | none => .absent
    else none
  | array items =>
    if items.length ≤ names.length then some (Field.ofList names items) else none
  | _ => none

/-- An optional field, for which `null` stands as if it were left out. -/
def nullable? {α : Type} (read? : Json → Option α) : Field Json → Option (Option α)
  | .given null => some none
  | field => field.optional? read?

end Json

end PullReport
