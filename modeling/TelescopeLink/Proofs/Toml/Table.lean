import TelescopeLink.Toml.Document

/-!
# Tables that grow

What a statement does to a document happens in one of its tables, to which a path of keys leads. The
way there is a list of the tables passed with the keys taken, and `graft` puts a table at its end; a
change behind a path is then the change of that table alone (`update_graft`). So the assignments
below a header are followed in the table of the header (`foldlM_assign`), whatever stands around it.
-/

namespace TelescopeLink.Toml

namespace Table

variable {implicit dotted : Bool} {entries : List (String × Item)} {key : String} {item : Item}

/-! ### Entries -/

@[simp] theorem implicit_mk : (mk implicit dotted entries).implicit = implicit := rfl

@[simp] theorem dotted_mk : (mk implicit dotted entries).dotted = dotted := rfl

@[simp] theorem entries_mk : (mk implicit dotted entries).entries = entries := rfl

theorem lookup_eq_none_iff {α : Type} {entries : List (String × α)} :
    entries.lookup key = none ↔ key ∉ entries.map Prod.fst := by
  simp only [List.lookup_eq_none_iff, List.mem_map, not_exists, not_and, bne_iff_ne]
  exact forall₂_congr fun entry _ => ⟨Ne.symm, Ne.symm⟩

/-- A new key goes behind the others. -/
theorem insert_of_none {table : Table} (h : table.entries.lookup key = none) :
    table.insert key item = mk table.implicit table.dotted (table.entries ++ [(key, item)]) := by
  simp [insert, h]

/-- A key that is there keeps its place. -/
theorem insert_of_some {table : Table} {old : Item} (h : table.entries.lookup key = some old) :
    table.insert key item = mk table.implicit table.dotted
      (table.entries.map fun entry => if entry.1 = key then (key, item) else entry) := by
  simp [insert, h]

theorem lookup_replace {old : Item} (h : entries.lookup key = some old) :
    (entries.map fun entry => if entry.1 = key then (key, item) else entry).lookup key =
      some item := by
  induction entries with
  | nil => simp at h
  | cons entry entries ih =>
    by_cases hkey : entry.1 = key
    · simp [hkey]
    · have hne : (key == entry.1) = false := by simpa using Ne.symm hkey
      rw [List.lookup_cons, hne] at h
      rw [List.map_cons, if_neg hkey, List.lookup_cons, hne]
      exact ih h

/-- What was put under a key is found there. -/
@[simp] theorem lookup_insert_self (table : Table) :
    (table.insert key item).entries.lookup key = some item := by
  cases h : table.entries.lookup key with
  | none => simp [insert_of_none h, List.lookup_append, h]
  | some old => simp [insert_of_some h, lookup_replace h]

/-- Only what was put last under a key is left. -/
@[simp] theorem insert_insert (table : Table) (other : Item) :
    (table.insert key item).insert key other = table.insert key other := by
  have hlast : (table.insert key item).entries.lookup key = some item := lookup_insert_self table
  rw [insert_of_some hlast]
  cases h : table.entries.lookup key with
  | none =>
    have hkept : (table.entries.map fun entry => if entry.1 = key then (key, other) else entry) =
        table.entries := by
      refine (List.map_congr_left fun entry hentry => if_neg ?_).trans (List.map_id' _)
      rintro rfl
      exact lookup_eq_none_iff.mp h (List.mem_map_of_mem hentry)
    simp [insert_of_none h, hkept]
  | some old =>
    rw [insert_of_some h, insert_of_some h]
    simp only [implicit_mk, dotted_mk, entries_mk, List.map_map]
    congr 2
    funext entry
    by_cases hkey : entry.1 = key <;> simp [hkey]

/-- Putting something under a key does not give a key twice. -/
theorem nodup_keys_insert {table : Table} (h : (table.entries.map Prod.fst).Nodup) :
    ((table.insert key item).entries.map Prod.fst).Nodup := by
  cases hlookup : table.entries.lookup key with
  | none =>
    have hnew := lookup_eq_none_iff.mp hlookup
    rw [insert_of_none hlookup, entries_mk, List.map_append, List.nodup_append]
    refine ⟨h, by simp, ?_⟩
    rintro other hother _ hlast rfl
    rw [List.map_singleton, List.mem_singleton] at hlast
    obtain rfl : other = key := hlast
    exact hnew hother
  | some old =>
    have hkeys : (table.entries.map fun entry => if entry.1 = key then (key, item) else entry).map
        Prod.fst = table.entries.map Prod.fst := by
      rw [List.map_map]
      refine List.map_congr_left fun entry _ => ?_
      by_cases hkey : entry.1 = key <;> simp [hkey]
    rwa [insert_of_some hlookup, entries_mk, hkeys]

/-- What stands in a table afterwards is the new entry or an old one. -/
theorem mem_entries_insert {table : Table} {entry : String × Item}
    (h : entry ∈ (table.insert key item).entries) :
    entry = (key, item) ∨ entry ∈ table.entries := by
  cases hlookup : table.entries.lookup key with
  | none =>
    rw [insert_of_none hlookup, entries_mk, List.mem_append, List.mem_singleton] at h
    exact h.symm
  | some old =>
    rw [insert_of_some hlookup, entries_mk] at h
    obtain ⟨before, hbefore, rfl⟩ := List.mem_map.mp h
    by_cases hkey : before.1 = key
    · exact .inl (if_pos hkey)
    · rw [if_neg hkey]
      exact .inr hbefore

/-! ### Behind a path -/

/-- A table at the end of a way through other tables, each with the key that was taken in it. -/
def graft : List (Table × String) → Table → Table
  | [], table => table
  | (outer, key) :: way, table => outer.insert key (.table (graft way table))

theorem graft_append (way more : List (Table × String)) (table : Table) :
    graft (way ++ more) table = graft way (graft more table) := by
  induction way with
  | nil => rfl
  | cons step way ih => simp only [List.cons_append, graft, ih]

/-- A change behind a path leaves alone what stands on the way. -/
theorem update_graft (change : Table → Option Table) (way : List (Table × String))
    (table : Table) :
    update false change (way.map Prod.snd) (graft way table) = (change table).map (graft way) := by
  -- Along the way: each table gets the next one back in its place.
  induction way with
  | nil => simp [update, graft]
  | cons step way ih =>
    obtain ⟨outer, key⟩ := step
    rw [List.map_cons, graft, update, lookup_insert_self]
    simp only [Bool.false_and, Bool.false_eq_true, if_false, ih]
    cases change table <;> simp [graft]

/-! ### Tables of values -/

/-- A table that a header began and that was given values. -/
def ofPairs (pairs : List (String × Value)) : Table :=
  mk false false (pairs.map fun pair => (pair.1, .value pair.2))

@[simp] theorem ofPairs_nil : ofPairs [] = empty := rfl

theorem lookup_ofPairs_eq_none {pairs : List (String × Value)} (h : key ∉ pairs.map Prod.fst) :
    (ofPairs pairs).entries.lookup key = none := by
  rw [lookup_eq_none_iff]
  simpa [ofPairs] using h

/-- A new key is given its value behind all others. -/
theorem assign_ofPairs {pairs : List (String × Value)} (h : key ∉ pairs.map Prod.fst)
    (value : Value) :
    assign [] key value (ofPairs pairs) = some (ofPairs (pairs ++ [(key, value)])) := by
  have hnew := lookup_ofPairs_eq_none h
  have hinsert : (ofPairs pairs).insert key (.value value) = ofPairs (pairs ++ [(key, value)]) := by
    rw [insert_of_none hnew]
    simp [ofPairs]
  have hheader : (ofPairs pairs).dotted = false := rfl
  simp [assign, update, hnew, hinsert, hheader]

theorem toValue_eq (table : Table) : table.toValue = .table (toMembers table.entries) := by
  cases table
  rw [toValue, entries_mk]

@[simp] theorem toMembers_append (entries more : List (String × Item)) :
    toMembers (entries ++ more) = toMembers entries ++ toMembers more := by
  induction entries with
  | nil => rfl
  | cons entry entries ih => simp [toMembers, ih]

/-- The keys of a table are those of its members. -/
theorem keys_toMembers (entries : List (String × Item)) :
    (toMembers entries).map Prod.fst = entries.map Prod.fst := by
  induction entries with
  | nil => rfl
  | cons entry entries ih => simp [toMembers, ih]

@[simp] theorem toMembers_ofPairs (pairs : List (String × Value)) :
    toMembers (ofPairs pairs).entries = pairs := by
  induction pairs with
  | nil => rfl
  | cons pair pairs ih =>
    simp only [ofPairs, entries_mk] at ih
    simp [ofPairs, toMembers, Item.toValue, ih]

end Table

/-! ### Below a header -/

open Table

/-- A header begins its table, if it is the first to name it. -/
theorem Draft.add_header {table : Table} {key : String} (h : table.entries.lookup key = none)
    (way : List (Table × String)) (here : List String) :
    Draft.add ⟨graft way table, here⟩ (.header (way.map Prod.snd) key) =
      some ⟨graft (way ++ [(table, key)]) empty, (way ++ [(table, key)]).map Prod.snd⟩ := by
  simp [Draft.add, begin, update_graft, h, graft_append, graft]

/-- An assignment is about the table of the last header. -/
theorem Draft.add_assign (way : List (Table × String)) (table : Table) (key : String)
    (value : Value) :
    Draft.add ⟨graft way table, way.map Prod.snd⟩ (.assign [] key value) =
      (table.assign [] key value).map fun table => ⟨graft way table, way.map Prod.snd⟩ := by
  simp [Draft.add, update_graft]
  rfl

/-- Assignments below a header fill the table of the header, one behind the other. -/
theorem foldlM_assign (way : List (Table × String)) {before pairs : List (String × Value)}
    (h : ((before ++ pairs).map Prod.fst).Nodup) :
    (pairs.map fun pair => Statement.assign [] pair.1 pair.2).foldlM Draft.add
        ⟨graft way (ofPairs before), way.map Prod.snd⟩ =
      some ⟨graft way (ofPairs (before ++ pairs)), way.map Prod.snd⟩ := by
  induction pairs generalizing before with
  | nil => simp
  | cons pair pairs ih =>
    have hnew : pair.1 ∉ before.map Prod.fst := by
      simp only [List.map_append, List.map_cons] at h
      exact fun hmem => (List.nodup_append.mp h).2.2 _ hmem _ List.mem_cons_self rfl
    have hrest : ((before ++ [pair] ++ pairs).map Prod.fst).Nodup := by simpa using h
    rw [List.map_cons, List.foldlM_cons, Draft.add_assign, assign_ofPairs hnew]
    simpa using ih hrest

/-- A header and the assignments below it fill a new table. -/
theorem foldlM_section (way : List (Table × String)) (table : Table) (key : String)
    (hnew : table.entries.lookup key = none) {pairs : List (String × Value)}
    (hkeys : (pairs.map Prod.fst).Nodup) (here : List String) (more : List Statement) :
    (Statement.header (way.map Prod.snd) key ::
        (pairs.map (fun pair => .assign [] pair.1 pair.2) ++ more)).foldlM Draft.add
        ⟨graft way table, here⟩ =
      more.foldlM Draft.add ⟨graft (way ++ [(table, key)]) (ofPairs pairs),
        (way ++ [(table, key)]).map Prod.snd⟩ := by
  have hkeys' : (([] ++ pairs).map Prod.fst).Nodup := hkeys
  have hfill := foldlM_assign (way ++ [(table, key)]) hkeys'
  rw [ofPairs_nil, List.nil_append] at hfill
  rw [List.foldlM_cons, Draft.add_header hnew, Option.bind_eq_bind, Option.bind_some,
    List.foldlM_append, hfill]
  rfl

end TelescopeLink.Toml
