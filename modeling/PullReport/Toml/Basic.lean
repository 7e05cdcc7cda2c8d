import PullReport.Record

/-!
# TOML values

The values of a configuration file, as far as settings are made from them: texts, arrays, tables and
arrays of tables. All other values are told apart only by whether they are dates.

A document builds its tables piece by piece, and the rules on who may add to a table depend on how
the table came about. So a table remembers that.

## Main definitions

* `Toml`: values; `Toml.Origin`: how a table came about.
* `Toml.alter?`: a change of the table at a path.
* `Toml.insert?`, `Toml.open?`, `Toml.openNext?`: the three ways in which a document adds to tables.
* `Toml.text?`, `Toml.texts?`, `Toml.record?`: values as texts, lists of texts and records.
-/

namespace PullReport

/-- How a table came about: written between braces, named by a header of its own, passed through on
the way to another header's table, or passed through by a dotted key. -/
inductive Toml.Origin where
  | inline
  | header
  | implied
  | dotted
  deriving DecidableEq, Repr

/-- A value. Numbers and truth values are `plain`, since no setting takes one. -/
inductive Toml where
  | plain
  | date
  | text (value : String)
  | array (items : List Toml)
  | table (origin : Toml.Origin) (entries : List (String × Toml))
  | tables (elements : List (List (String × Toml)))
  deriving Repr

namespace Toml

/-- The entries of a table, in the order of their first mention. -/
abbrev Entries := List (String × Toml)

/-- The entries with another value under a key that is there. -/
def Entries.replace (entries : Entries) (key : String) (value : Toml) : Entries :=
  entries.map fun (name, old) => if name = key then (name, value) else (name, old)

/-! ### Building tables -/

/-- The entries of a table after `change?` is applied to the table at a path below it, where
`change?` is told how that table came about. Tables that are missing on the way are made, and count
as passed through by dots or by a header. A dotted key does not pass through a table that has a
header. Through an array of tables the way leads into its last table. -/
def alter? (byDots : Bool) (change? : Origin → Entries → Option Entries) (origin : Origin) :
    List String → Entries → Option Entries
  | [], entries => change? origin entries
  | key :: path, entries =>
    let made : Origin := if byDots then .dotted else .implied
    match entries.lookup key with
    | none => (alter? byDots change? made path []).map fun inner =>
        entries ++ [(key, table made inner)]
    | some (table .inline _) => none
    | some (table .header inner) =>
      if byDots then none
      else (alter? byDots change? .header path inner).map fun inner =>
        entries.replace key (table .header inner)
    | some (table below inner) =>
      (alter? byDots change? below path inner).map fun inner =>
        entries.replace key (table below inner)
    | some (tables elements) =>
      match elements.getLast? with
      | none => none
      | some last => (alter? byDots change? .header path last).map fun last =>
          entries.replace key (tables (elements.dropLast ++ [last]))
    | some _ => none

/-- The entries of a table with a value added under a dotted key. The last part of the key must be
new. A table that the dots lead to must be one that only dots have made. -/
def insert? (path : List String) (key : String) (value : Toml) (entries : Entries) :
    Option Entries :=
  let add (origin : Origin) (entries : Entries) : Option Entries :=
    if (path ≠ [] ∧ origin ≠ .dotted) ∨ (entries.lookup key).isSome then none
    else some (entries ++ [(key, value)])
  alter? true add .header path entries

/-- The entries of a document behind the header of a table. The table must be new, or known only
from the headers of tables below it. -/
def open? (path : List String) (key : String) (entries : Entries) : Option Entries :=
  let add (_ : Origin) (entries : Entries) : Option Entries :=
    match entries.lookup key with
    | none => some (entries ++ [(key, table .header [])])
    | some (table .implied inner) => some (entries.replace key (table .header inner))
    | some _ => none
  alter? false add .header path entries

/-- The entries of a document behind the header of one more table in an array of tables. -/
def openNext? (path : List String) (key : String) (entries : Entries) : Option Entries :=
  let add (_ : Origin) (entries : Entries) : Option Entries :=
    match entries.lookup key with
    | none => some (entries ++ [(key, tables [[]])])
    | some (tables elements) => some (entries.replace key (tables (elements ++ [[]])))
    | some _ => none
  alter? false add .header path entries

/-! ### Using values -/

/-- The value as a text. -/
def text? : Toml → Option String
  | text value => some value
  | _ => none

/-- The value as a list of texts. -/
def texts? : Toml → Option (List String)
  | array items => items.mapM text?
  | _ => none

/-- The fields of a record with the given field names. A record is a table or an array of values; a
date is a record too, but has none of the fields. -/
def record? (names : List String) : Toml → Option (String → Field Toml)
  | table _ entries => some fun name =>
    match entries.lookup name with
    | some value => .given value
    | none => .absent
  | array items => some (Field.ofList names items)
  | tables elements => some (Field.ofList names (elements.map (table .header)))
  | date => some fun _ => .absent
  | _ => none

end Toml

end PullReport
