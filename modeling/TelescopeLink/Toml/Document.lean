import TelescopeLink.Toml.Number

/-!
# TOML documents

A document is a list of statements, each on lines of its own: headers, which say where the following
keys belong, and assignments. `parse` reads the statements and then builds the table they describe,
so what a statement says and whether it may be said are kept apart.

Arrays and tables in braces may be nested, and keys be dotted, up to a depth.
-/

namespace TelescopeLink.Toml

/-- How many arrays and tables in braces, or parts of a key, there may be: fewer than this. -/
def depthLimit : Nat := 80

/-- One statement of a document. -/
inductive Statement
  /-- The keys that follow belong to this table. -/
  | header (path : List String) (key : String)
  /-- The keys that follow belong to one more table of this name. -/
  | nextHeader (path : List String) (key : String)
  | assign (path : List String) (key : String) (value : Value)

/-! ## Between statements -/

/-- A character of a comment. -/
def isCommentChar (c : Char) : Bool := c == '\t' || (0x20 ≤ c.toNat && c.toNat != 0x7F)

/-- The text behind a comment, if one comes next. -/
def skipComment : List Char → List Char
  | '#' :: rest => rest.dropWhile isCommentChar
  | rest => rest

/-- The text behind the end of a line, which may have blanks and a comment before it. -/
def readLineEnd (cs : List Char) : Option (List Char) :=
  match skipComment (skipSpaces cs) with
  | [] => some []
  | '\n' :: rest => some rest
  | '\r' :: '\n' :: rest => some rest
  | _ => none

/-- The text behind blanks, comments and line breaks. -/
def skipLines : (fuel : Nat) → List Char → List Char
  | 0, cs => cs
  | fuel + 1, cs =>
    match skipSpaces cs with
    | '\n' :: rest => skipLines fuel rest
    | '\r' :: '\n' :: rest => skipLines fuel rest
    | '#' :: rest =>
      match rest.dropWhile isCommentChar with
      | '\n' :: rest => skipLines fuel rest
      | '\r' :: '\n' :: rest => skipLines fuel rest
      | rest => '#' :: rest
    | rest => rest

/-! ## Keys -/

/-- The parts of a dotted key, with the blanks around them. -/
def readKeyParts : (fuel : Nat) → List Char → Option (List String × List Char)
  | 0, _ => none
  | fuel + 1, cs => do
    let (part, rest) ← readSimpleKey (skipSpaces cs)
    match skipSpaces rest with
    | '.' :: rest => do
      let (parts, rest) ← readKeyParts fuel rest
      return (String.ofList part :: parts, rest)
    | rest => return ([String.ofList part], rest)

/-- A dotted key: the path to a table and the key in it. -/
def readKey (cs : List Char) : Option ((List String × String) × List Char) := do
  let (parts, rest) ← readKeyParts depthLimit cs
  if depthLimit ≤ parts.length then none
  let key ← parts.getLast?
  return ((parts.dropLast, key), rest)

/-! ## Values -/

/-- A table of assignments in braces. -/
def inlineTable (pairs : List ((List String × String) × Value)) : Option Value :=
  (pairs.foldlM (fun (table : Table) pair => table.assign pair.1.1 pair.1.2 pair.2) .empty).map
    Table.toValue

mutual

/-- A value, with `room` for so many arrays and tables in braces inside one another. -/
def readValue : (fuel room : Nat) → List Char → Option (Value × List Char)
  | 0, _, _ => none
  | fuel + 1, room, cs =>
    match cs with
    | [] => none
    | c :: rest =>
      if c = '"' ∨ c = '\'' then
        (readText cs).map fun (text, rest) => (.text (String.ofList text), rest)
      else if c = '[' then
        match room with
        | 0 => none
        | room + 1 =>
          (readItems fuel room rest).map fun (items, rest) => (.array items, rest)
      else if c = '\x7b' then
        match room with
        | 0 => none
        | room + 1 => do
          let (pairs, rest) ← readPairs fuel room true rest
          let table ← inlineTable pairs
          some (table, rest)
      else
        match cs with
        | 't' :: 'r' :: 'u' :: 'e' :: rest => some (.flag true, rest)
        | 'f' :: 'a' :: 'l' :: 's' :: 'e' :: rest => some (.flag false, rest)
        | cs => readNumber cs

/-- The items of an array and its bracket. -/
def readItems : (fuel room : Nat) → List Char → Option (List Value × List Char)
  | 0, _, _ => none
  | fuel + 1, room, cs =>
    match skipLines (cs.length + 1) cs with
    -- Unlike in braces, a comma may be the last mark before the bracket.
    | ']' :: rest => some ([], rest)
    | cs => do
      let (item, rest) ← readValue fuel room cs
      match skipLines (rest.length + 1) rest with
      | ',' :: rest => do
        let (items, rest) ← readItems fuel room rest
        some (item :: items, rest)
      | ']' :: rest => some ([item], rest)
      | _ => none

/-- The assignments of a table in braces and its brace. -/
def readPairs : (fuel room : Nat) → Bool → List Char →
    Option (List ((List String × String) × Value) × List Char)
  | 0, _, _, _ => none
  | fuel + 1, room, isFirst, cs =>
    match isFirst, skipSpaces cs with
    -- Only an empty table may close here: a comma promises one more assignment.
    | true, '\x7d' :: rest => some ([], rest)
    | _, cs => do
      let (key, rest) ← readKey cs
      let rest ← readMark '=' rest
      let (value, rest) ← readValue fuel room (skipSpaces rest)
      match skipSpaces rest with
      | ',' :: rest => do
        let (pairs, rest) ← readPairs fuel room false rest
        some ((key, value) :: pairs, rest)
      | '\x7d' :: rest => some ([(key, value)], rest)
      | _ => none

end

/-! ## Statements -/

/-- A header behind its brackets, or an assignment. -/
def readStatement (cs : List Char) : Option (Statement × List Char) :=
  match cs with
  | '[' :: '[' :: rest => do
    let ((path, key), rest) ← readKey rest
    let rest ← readMark ']' rest
    let rest ← readMark ']' rest
    return (.nextHeader path key, rest)
  | '[' :: rest => do
    let ((path, key), rest) ← readKey rest
    let rest ← readMark ']' rest
    return (.header path key, rest)
  | cs => do
    let ((path, key), rest) ← readKey cs
    let rest ← readMark '=' rest
    let (value, rest) ← readValue (2 * rest.length + 2) (depthLimit - 1) (skipSpaces rest)
    return (.assign path key value, rest)

/-- The statements of a document, with a bound on its lines. -/
def readStatements : (fuel : Nat) → List Char → Option (List Statement)
  | 0, _ => none
  | fuel + 1, cs =>
    match skipSpaces cs with
    | [] => some []
    | c :: rest =>
      if c = '#' ∨ c = '\n' ∨ c = '\r' then do
        let rest ← readLineEnd (c :: rest)
        readStatements fuel rest
      else do
        let (statement, rest) ← readStatement (c :: rest)
        let rest ← readLineEnd rest
        let statements ← readStatements fuel rest
        return statement :: statements

/-- A document while it is built: its table, and the header that the next keys belong to. -/
structure Draft where
  root : Table := .empty
  here : List String := []

/-- What a statement adds to a document, if it may. -/
def Draft.add (draft : Draft) : Statement → Option Draft
  | .header path key => (draft.root.begin path key).map fun root => ⟨root, path ++ [key]⟩
  | .nextHeader path key => (draft.root.beginNext path key).map fun root => ⟨root, path ++ [key]⟩
  | .assign path key value =>
    (draft.root.update false (Table.assign path key value) draft.here).map fun root =>
      ⟨root, draft.here⟩

/-- The table that statements describe. -/
def build (statements : List Statement) : Option (List (String × Value)) :=
  (statements.foldlM Draft.add {}).map fun draft => Table.toMembers draft.root.entries

/-- The table of a whole document, which may begin with a byte order mark. -/
def parse (cs : List Char) : Option (List (String × Value)) :=
  let cs := match cs with
    | '\uFEFF' :: rest => rest
    | cs => cs
  (readStatements (cs.length + 1) cs).bind build

end TelescopeLink.Toml
