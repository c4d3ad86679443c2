import TelescopeLink.Binary64.Basic

/-!
# TOML values and tables

A document is a table, and its values are texts, numbers, flags, moments of time, arrays and tables.

While a document is read, its tables grow, and which of them may still grow and how depends on how
each came to be. A table is *implicit* if it was only named on the way to another, and *dotted* if
that way was a dotted key. A header may turn an implicit table into a real one unless it is dotted;
a dotted key may only pass through implicit tables; and what has a value stays as it is.
-/

namespace TelescopeLink.Toml

/-- A TOML value. -/
inductive Value
  | text (s : String)
  | whole (n : Int)
  | real (x : Binary64)
  | flag (b : Bool)
  /-- A date, a time or both, as it was written. -/
  | moment (written : String)
  | array (items : List Value)
  | table (members : List (String × Value))

mutual

/-- What a key of a growing table holds. -/
inductive Item
  | value (value : Value)
  | table (table : Table)
  /-- Tables that were begun by one header after another. -/
  | tables (earlier : List Table) (last : Table)

/-- A growing table. -/
inductive Table
  | mk (implicit dotted : Bool) (entries : List (String × Item))

end

namespace Table

/-- The table was only named on the way to another. -/
def implicit : Table → Bool
  | mk implicit _ _ => implicit

/-- The table was named by a dotted key. -/
def dotted : Table → Bool
  | mk _ dotted _ => dotted

/-- The keys with what they hold, in order. -/
def entries : Table → List (String × Item)
  | mk _ _ entries => entries

/-- A table that a header began. -/
def empty : Table := mk false false []

/-- The table with another entry or with an entry replaced, in its place. -/
def insert (table : Table) (key : String) (item : Item) : Table :=
  let entries :=
    if (table.entries.lookup key).isSome then
      table.entries.map fun entry => if entry.1 = key then (key, item) else entry
    else table.entries ++ [(key, item)]
  mk table.implicit table.dotted entries

/-- Changes the table that a path leads to; tables that are missing on the way are made. None if the
path leads through something else, or, for a dotted key, through a table that was given otherwise.
-/
def update (byDots : Bool) (change : Table → Option Table) : List String → Table → Option Table
  | [], table => change table
  | key :: path, table =>
    match table.entries.lookup key with
    | none => do
      let child ← update byDots change path (mk true byDots [])
      return table.insert key (.table child)
    | some (.value _) => none
    | some (.table child) =>
      if byDots && !child.implicit then none
      else do
        let child ← update byDots change path child
        return table.insert key (.table child)
    | some (.tables earlier last) => do
      let last ← update byDots change path last
      return table.insert key (.tables earlier last)

/-- Gives a value to the last key of a dotted key, which must be new. -/
def assign (path : List String) (key : String) (value : Value) (table : Table) : Option Table :=
  update true
    (fun table =>
      if table.dotted == path.isEmpty then none
      else if (table.entries.lookup key).isSome then none
      else some (table.insert key (.value value)))
    path table

/-- Begins the table of a header. -/
def begin (path : List String) (key : String) (table : Table) : Option Table :=
  update false
    (fun table =>
      match table.entries.lookup key with
      | none => some (table.insert key (.table empty))
      | some (.table (mk true false entries)) =>
        some (table.insert key (.table (mk false false entries)))
      | some _ => none)
    path table

/-- Begins one more table of a header that repeats. -/
def beginNext (path : List String) (key : String) (table : Table) : Option Table :=
  update false
    (fun table =>
      match table.entries.lookup key with
      | none => some (table.insert key (.tables [] empty))
      | some (.tables earlier last) => some (table.insert key (.tables (earlier ++ [last]) empty))
      | some _ => none)
    path table

end Table

mutual

/-- The value of what a key holds. -/
def Item.toValue : Item → Value
  | .value value => value
  | .table table => table.toValue
  | .tables earlier last => .array (Table.toValues earlier ++ [last.toValue])

/-- The table as a value. -/
def Table.toValue : Table → Value
  | .mk _ _ entries => .table (Table.toMembers entries)

/-- The tables as values. -/
def Table.toValues : List Table → List Value
  | [] => []
  | table :: more => table.toValue :: Table.toValues more

/-- The entries of a table with the values of what they hold. -/
def Table.toMembers : List (String × Item) → List (String × Value)
  | [] => []
  | (key, item) :: more => (key, item.toValue) :: Table.toMembers more

end

end TelescopeLink.Toml
