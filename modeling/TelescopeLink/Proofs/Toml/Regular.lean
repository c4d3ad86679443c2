import TelescopeLink.Proofs.Toml.Number
import TelescopeLink.Proofs.Toml.Table

/-!
# What documents can say

A document never gives a key of a table twice, and all its whole numbers fit 64 bits with sign. Both
hold however deep a value lies: a value is `Regular` if they hold in it, and every value that can be
read is (`regular_of_parse`).

Readers keep it because their parts do. For the tables, the step is one entry more or one entry
replaced (`Table.Regular.insert`), and `Table.update` carries it along a path.
-/

namespace TelescopeLink.Toml

/-- The keys of each table differ, and each whole number fits. -/
inductive Value.Regular : Value → Prop
  | text (s : String) : (text s).Regular
  | whole {n : Int} (h : Fits n) : (whole n).Regular
  | real (x : Binary64) : (real x).Regular
  | flag (b : Bool) : (flag b).Regular
  | moment (written : String) : (moment written).Regular
  | array {items : List Value} (h : ∀ item ∈ items, item.Regular) : (array items).Regular
  | table {members : List (String × Value)} (keys : (members.map Prod.fst).Nodup)
    (h : ∀ member ∈ members, member.2.Regular) : (table members).Regular

mutual

/-- What a key holds is regular. -/
inductive Item.Regular : Item → Prop
  | value {value : Value} (h : value.Regular) : (Item.value value).Regular
  | table {table : Table} (h : table.Regular) : (Item.table table).Regular
  | tables {earlier : List Table} {last : Table} (h : ∀ table ∈ earlier, table.Regular)
    (hlast : last.Regular) : (Item.tables earlier last).Regular

/-- A table that grows is regular. -/
inductive Table.Regular : Table → Prop
  | mk {implicit dotted : Bool} {entries : List (String × Item)}
    (keys : (entries.map Prod.fst).Nodup) (h : ∀ entry ∈ entries, entry.2.Regular) :
    (Table.mk implicit dotted entries).Regular

end

/-- What each step keeps holds after all of them. -/
theorem foldlM_keeps {σ α : Type} {step : σ → α → Option σ} {P : σ → Prop} {Q : α → Prop}
    (hstep : ∀ {s s' : σ} {a : α}, P s → Q a → step s a = some s' → P s') {items : List α}
    {s s' : σ} (hs : P s) (hitems : ∀ a ∈ items, Q a) (h : items.foldlM step s = some s') :
    P s' := by
  induction items generalizing s with
  | nil => exact Option.some.inj h ▸ hs
  | cons a items ih =>
    obtain ⟨ha, hmore⟩ := List.forall_mem_cons.mp hitems
    rw [List.foldlM_cons, Option.bind_eq_bind, Option.bind_eq_some_iff] at h
    obtain ⟨next, hnext, h⟩ := h
    exact ih (hstep hs ha hnext) hmore h

/-! ### Growing tables -/

namespace Table

theorem Regular.empty : Table.empty.Regular := .mk List.nodup_nil (by simp)

theorem Regular.implicit (dotted : Bool) : (Table.mk true dotted []).Regular :=
  .mk List.nodup_nil (by simp)

/-- A table is regular if its keys differ and its entries are. -/
theorem regular_iff {table : Table} : table.Regular ↔
    (table.entries.map Prod.fst).Nodup ∧ ∀ entry ∈ table.entries, entry.2.Regular := by
  obtain ⟨implicit, dotted, entries⟩ := table
  constructor
  · intro h
    cases h with
    | mk keys h => exact ⟨keys, h⟩
  · rintro ⟨keys, h⟩
    exact .mk keys h

/-- So is what stands under a key of a regular table. -/
theorem Regular.of_lookup {table : Table} (h : table.Regular) {key : String} {item : Item}
    (hlookup : table.entries.lookup key = some item) : item.Regular := by
  obtain ⟨before, after, hentries, -⟩ := List.lookup_eq_some_iff.mp hlookup
  exact (regular_iff.mp h).2 (key, item) (by simp [hentries])

/-- One entry more, or another in its place. -/
theorem Regular.insert {table : Table} (h : table.Regular) (key : String) {item : Item}
    (hitem : item.Regular) : (table.insert key item).Regular := by
  obtain ⟨keys, hentries⟩ := regular_iff.mp h
  refine regular_iff.mpr ⟨nodup_keys_insert keys, fun entry hentry => ?_⟩
  rcases mem_entries_insert hentry with rfl | hold
  · exact hitem
  · exact hentries entry hold

/-- A change behind a path keeps regular what it keeps regular at its end. -/
theorem Regular.update {byDots : Bool} {change : Table → Option Table}
    (hchange : ∀ {table changed : Table}, table.Regular → change table = some changed →
      changed.Regular) {path : List String} {table updated : Table} (h : table.Regular)
    (hupdate : Table.update byDots change path table = some updated) : updated.Regular := by
  -- Along the path: a key is new, or it leads to a table or into the last of a row.
  induction path generalizing table updated with
  | nil => exact hchange h hupdate
  | cons key path ih =>
    rw [Table.update] at hupdate
    cases hlookup : table.entries.lookup key with
    | none =>
      simp only [hlookup, Option.bind_eq_bind, Option.bind_eq_some_iff] at hupdate
      obtain ⟨child, hchild, hupdate⟩ := hupdate
      obtain rfl := Option.some.inj hupdate
      exact h.insert key (.table (ih (Regular.implicit byDots) hchild))
    | some item =>
      have hitem := h.of_lookup hlookup
      cases hitem with
      | value _ => simp [hlookup] at hupdate
      | @table child hchild =>
        simp only [hlookup] at hupdate
        split_ifs at hupdate
        simp only [Option.bind_eq_bind, Option.bind_eq_some_iff] at hupdate
        obtain ⟨updatedChild, hupdatedChild, hupdate⟩ := hupdate
        obtain rfl := Option.some.inj hupdate
        exact h.insert key (.table (ih hchild hupdatedChild))
      | @tables earlier last hearlier hlast =>
        simp only [hlookup, Option.bind_eq_bind, Option.bind_eq_some_iff] at hupdate
        obtain ⟨updatedLast, hupdatedLast, hupdate⟩ := hupdate
        obtain rfl := Option.some.inj hupdate
        exact h.insert key (.tables hearlier (ih hlast hupdatedLast))

/-- A new key with a regular value. -/
theorem Regular.assign {path : List String} {key : String} {value : Value}
    {table assigned : Table} (h : table.Regular) (hvalue : value.Regular)
    (hassign : Table.assign path key value table = some assigned) : assigned.Regular := by
  refine h.update ?_ hassign
  intro table changed h hchange
  split_ifs at hchange
  obtain rfl := Option.some.inj hchange
  exact h.insert key (.value hvalue)

/-- A header begins an empty table, or goes on with one that was there by implication. -/
theorem Regular.begin {path : List String} {key : String} {table begun : Table}
    (h : table.Regular) (hbegin : Table.begin path key table = some begun) : begun.Regular := by
  refine h.update ?_ hbegin
  intro table changed h hchange
  split at hchange
  next =>
    obtain rfl := Option.some.inj hchange
    exact h.insert key (.table .empty)
  next entries hlookup =>
    obtain rfl := Option.some.inj hchange
    cases h.of_lookup hlookup with
    | table hchild =>
      cases hchild with
      | mk keys hentries => exact h.insert key (.table (.mk keys hentries))
  next => cases hchange

/-- A header of a row puts an empty table behind the others. -/
theorem Regular.beginNext {path : List String} {key : String} {table begun : Table}
    (h : table.Regular) (hbegin : Table.beginNext path key table = some begun) :
    begun.Regular := by
  refine h.update ?_ hbegin
  intro table changed h hchange
  split at hchange
  next =>
    obtain rfl := Option.some.inj hchange
    exact h.insert key (.tables (by simp) .empty)
  next earlier last hlookup =>
    obtain rfl := Option.some.inj hchange
    cases h.of_lookup hlookup with
    | tables hearlier hlast =>
      refine h.insert key (.tables ?_ .empty)
      intro table htable
      rcases List.mem_append.mp htable with hmem | hmem
      · exact hearlier table hmem
      · exact List.mem_singleton.mp hmem ▸ hlast
  next => cases hchange

end Table

/-! ### Values of what has grown -/

mutual

theorem Item.Regular.toValue : {item : Item} → item.Regular → item.toValue.Regular
  | .value _, .value h => h
  | .table _, .table h => h.toValue
  | .tables _ _, .tables h hlast => by
    refine .array fun item hitem => ?_
    rcases List.mem_append.mp hitem with hmem | hmem
    · exact Table.toValues_regular h item hmem
    · exact List.mem_singleton.mp hmem ▸ hlast.toValue

theorem Table.Regular.toValue : {table : Table} → table.Regular → table.toValue.Regular
  | .mk _ _ _, .mk keys h =>
    .table (by rwa [Table.keys_toMembers]) (Table.toMembers_regular h)

theorem Table.toValues_regular : {tables : List Table} → (∀ table ∈ tables, table.Regular) →
    ∀ value ∈ Table.toValues tables, value.Regular
  | [], _, _, hvalue => by cases hvalue
  | table :: more, h, value, hvalue => by
    obtain ⟨htable, hmore⟩ := List.forall_mem_cons.mp h
    rcases List.mem_cons.mp hvalue with rfl | hmem
    · exact htable.toValue
    · exact Table.toValues_regular hmore value hmem

theorem Table.toMembers_regular : {entries : List (String × Item)} →
    (∀ entry ∈ entries, entry.2.Regular) →
    ∀ member ∈ Table.toMembers entries, member.2.Regular
  | [], _, _, hmember => by cases hmember
  | (key, item) :: more, h, member, hmember => by
    obtain ⟨hitem, hmore⟩ := List.forall_mem_cons.mp h
    rcases List.mem_cons.mp hmember with rfl | hmem
    · exact Item.Regular.toValue hitem
    · exact Table.toMembers_regular hmore member hmem

end

/-! ### Values as they are read -/

/-- Whole numbers are checked when they are read, in every base. -/
theorem readWhole_regular {cs rest : List Char} {value : Value}
    (h : readWhole cs = some (value, rest)) : value.Regular := by
  simp only [readWhole] at h
  split at h
  all_goals
    simp only [Option.bind_eq_bind, Option.bind_eq_some_iff, Option.pure_def, Option.some.injEq,
      Prod.mk.injEq] at h
    obtain ⟨_, _, _, hfitting, rfl, -⟩ := h
    obtain ⟨hfits, rfl⟩ := fits_of_fitting? hfitting
    exact .whole hfits

theorem readReal_regular {cs rest : List Char} {value : Value}
    (h : readReal cs = some (value, rest)) : value.Regular := by
  simp only [readReal] at h
  split at h
  · obtain ⟨rfl, -⟩ := Prod.mk.inj (Option.some.inj h)
    exact .real _
  · obtain ⟨rfl, -⟩ := Prod.mk.inj (Option.some.inj h)
    exact .real _
  · simp only [Option.bind_eq_bind, Option.bind_eq_some_iff] at h
    obtain ⟨_, -, h⟩ := h
    split at h
    all_goals
      simp only [Option.bind_eq_some_iff] at h
      obtain ⟨_, -, _, -, x, -, h⟩ := h
      split_ifs at h
      obtain ⟨rfl, -⟩ := Prod.mk.inj (Option.some.inj h)
      exact .real x

/-- A number is a moment, one with a fraction or a whole one, tried in this order. -/
theorem readNumber_regular {cs rest : List Char} {value : Value}
    (h : readNumber cs = some (value, rest)) : value.Regular := by
  rw [readNumber, Option.or_eq_some_iff, Option.or_eq_some_iff] at h
  rcases h with h | ⟨-, h | ⟨-, h⟩⟩
  · obtain ⟨_, -, hvalue⟩ := Option.map_eq_some_iff.mp h
    obtain ⟨rfl, -⟩ := Prod.mk.inj hvalue
    exact .moment _
  · exact readReal_regular h
  · exact readWhole_regular h

/-- A table in braces grows like any other. -/
theorem inlineTable_regular {pairs : List ((List String × String) × Value)} {value : Value}
    (h : ∀ pair ∈ pairs, pair.2.Regular) (htable : inlineTable pairs = some value) :
    value.Regular := by
  obtain ⟨table, hfold, rfl⟩ := Option.map_eq_some_iff.mp htable
  have hregular : table.Regular :=
    foldlM_keeps (fun htable hvalue hassign => htable.assign hvalue hassign) .empty h hfold
  exact hregular.toValue

/-- Values, items and assignments in braces are read by one recursion; with a bound on it, all that
is read is regular. -/
structure ReadsRegular (fuel : Nat) : Prop where
  value {room : Nat} {cs rest : List Char} {value : Value}
    (h : readValue fuel room cs = some (value, rest)) : value.Regular
  items {room : Nat} {cs rest : List Char} {items : List Value}
    (h : readItems fuel room cs = some (items, rest)) : ∀ item ∈ items, item.Regular
  pairs {room : Nat} {isFirst : Bool} {cs rest : List Char}
    {pairs : List ((List String × String) × Value)}
    (h : readPairs fuel room isFirst cs = some (pairs, rest)) : ∀ pair ∈ pairs, pair.2.Regular

section Step

variable {fuel : Nat} (ih : ReadsRegular fuel)
include ih

theorem readValue_regular {room : Nat} {cs rest : List Char} {value : Value}
    (h : readValue (fuel + 1) room cs = some (value, rest)) : value.Regular := by
  cases cs with
  | nil => simp [readValue] at h
  | cons c more =>
    rw [readValue.eq_def] at h
    simp only at h
    split_ifs at h with htext harray htable
    · obtain ⟨_, -, hvalue⟩ := Option.map_eq_some_iff.mp h
      obtain ⟨rfl, -⟩ := Prod.mk.inj hvalue
      exact .text _
    · cases room with
      | zero => cases h
      | succ room =>
        obtain ⟨_, hread, hvalue⟩ := Option.map_eq_some_iff.mp h
        obtain ⟨rfl, -⟩ := Prod.mk.inj hvalue
        exact .array (ih.items hread)
    · cases room with
      | zero => cases h
      | succ room =>
        simp only [Option.bind_eq_bind, Option.bind_eq_some_iff] at h
        obtain ⟨_, hread, _, htable, hvalue⟩ := h
        obtain ⟨rfl, -⟩ := Prod.mk.inj (Option.some.inj hvalue)
        exact inlineTable_regular (ih.pairs hread) htable
    · split at h
      · obtain ⟨rfl, -⟩ := Prod.mk.inj (Option.some.inj h)
        exact .flag true
      · obtain ⟨rfl, -⟩ := Prod.mk.inj (Option.some.inj h)
        exact .flag false
      · exact readNumber_regular h

theorem readItems_regular {room : Nat} {cs rest : List Char} {items : List Value}
    (h : readItems (fuel + 1) room cs = some (items, rest)) : ∀ item ∈ items, item.Regular := by
  rw [readItems.eq_def] at h
  simp only at h
  split at h
  · obtain ⟨rfl, -⟩ := Prod.mk.inj (Option.some.inj h)
    simp
  · simp only [Option.bind_eq_bind, Option.bind_eq_some_iff] at h
    obtain ⟨⟨item, _⟩, hitem, h⟩ := h
    split at h
    · obtain ⟨_, hmore, h⟩ := Option.bind_eq_some_iff.mp h
      obtain ⟨rfl, -⟩ := Prod.mk.inj (Option.some.inj h)
      exact List.forall_mem_cons.mpr ⟨ih.value hitem, ih.items hmore⟩
    · obtain ⟨rfl, -⟩ := Prod.mk.inj (Option.some.inj h)
      simpa using ih.value hitem
    · cases h

theorem readPairs_regular {room : Nat} {isFirst : Bool} {cs rest : List Char}
    {pairs : List ((List String × String) × Value)}
    (h : readPairs (fuel + 1) room isFirst cs = some (pairs, rest)) :
    ∀ pair ∈ pairs, pair.2.Regular := by
  rw [readPairs.eq_def] at h
  simp only at h
  split at h
  · obtain ⟨rfl, -⟩ := Prod.mk.inj (Option.some.inj h)
    simp
  · simp only [Option.bind_eq_bind, Option.bind_eq_some_iff] at h
    obtain ⟨_, -, _, -, _, hread, h⟩ := h
    split at h
    · obtain ⟨_, hmore, h⟩ := Option.bind_eq_some_iff.mp h
      obtain ⟨rfl, -⟩ := Prod.mk.inj (Option.some.inj h)
      exact List.forall_mem_cons.mpr ⟨ih.value hread, ih.pairs hmore⟩
    · obtain ⟨rfl, -⟩ := Prod.mk.inj (Option.some.inj h)
      simpa using ih.value hread
    · cases h

end Step

/-- **Every value that is read is regular**, to whatever depth. -/
theorem readsRegular (fuel : Nat) : ReadsRegular fuel := by
  -- On the bound, since the three readers call each other with one less.
  induction fuel with
  | zero =>
    constructor
    · intro _ _ _ _ h
      simp [readValue] at h
    · intro _ _ _ _ h
      simp [readItems] at h
    · intro _ _ _ _ _ h
      simp [readPairs] at h
  | succ fuel ih => exact ⟨readValue_regular ih, readItems_regular ih, readPairs_regular ih⟩

/-! ### Documents -/

/-- What is assigned is regular. -/
def Statement.Regular : Statement → Prop
  | .assign _ _ value => value.Regular
  | _ => True

theorem readStatement_regular {cs rest : List Char} {statement : Statement}
    (h : readStatement cs = some (statement, rest)) : statement.Regular := by
  unfold readStatement at h
  split at h
  all_goals simp only [Option.bind_eq_bind, Option.bind_eq_some_iff] at h
  · obtain ⟨_, -, _, -, _, -, h⟩ := h
    obtain ⟨rfl, -⟩ := Prod.mk.inj (Option.some.inj h)
    trivial
  · obtain ⟨_, -, _, -, h⟩ := h
    obtain ⟨rfl, -⟩ := Prod.mk.inj (Option.some.inj h)
    trivial
  · obtain ⟨_, -, _, -, _, hvalue, h⟩ := h
    obtain ⟨rfl, -⟩ := Prod.mk.inj (Option.some.inj h)
    exact (readsRegular _).value hvalue

/-- So are all values that a document assigns. -/
theorem readStatements_regular {fuel : Nat} {cs : List Char} {statements : List Statement}
    (h : readStatements fuel cs = some statements) :
    ∀ statement ∈ statements, statement.Regular := by
  induction fuel generalizing cs statements with
  | zero => cases h
  | succ fuel ih =>
    rw [readStatements.eq_def] at h
    simp only at h
    split at h
    · obtain rfl := Option.some.inj h
      simp
    · split_ifs at h
      · obtain ⟨_, -, h⟩ := Option.bind_eq_some_iff.mp h
        exact ih h
      · simp only [Option.bind_eq_bind, Option.bind_eq_some_iff] at h
        obtain ⟨_, hstatement, _, -, _, hmore, h⟩ := h
        obtain rfl := Option.some.inj h
        exact List.forall_mem_cons.mpr ⟨readStatement_regular hstatement, ih hmore⟩

/-- A statement keeps the draft regular. -/
theorem Draft.add_regular {draft added : Draft} {statement : Statement} (h : draft.root.Regular)
    (hstatement : statement.Regular) (hadd : draft.add statement = some added) :
    added.root.Regular := by
  cases statement with
  | header path key =>
    obtain ⟨root, hroot, rfl⟩ := Option.map_eq_some_iff.mp hadd
    exact h.begin hroot
  | nextHeader path key =>
    obtain ⟨root, hroot, rfl⟩ := Option.map_eq_some_iff.mp hadd
    exact h.beginNext hroot
  | assign path key value =>
    obtain ⟨root, hroot, rfl⟩ := Option.map_eq_some_iff.mp hadd
    exact h.update (fun htable hassign => htable.assign hstatement hassign) hroot

/-- Whatever a document says, its keys differ and its whole numbers fit, in every depth. -/
theorem regular_of_parse {cs : List Char} {members : List (String × Value)}
    (h : parse cs = some members) : (Value.table members).Regular := by
  unfold parse at h
  simp only [Option.bind_eq_some_iff] at h
  obtain ⟨statements, hstatements, hbuild⟩ := h
  obtain ⟨built, hbuilt, rfl⟩ := Option.map_eq_some_iff.mp hbuild
  have hempty : (Draft.root {}).Regular := .empty
  have hroot : built.root.Regular :=
    foldlM_keeps Draft.add_regular hempty (readStatements_regular hstatements) hbuilt
  obtain ⟨⟨implicit, dotted, entries⟩, here⟩ := built
  have hvalue := hroot.toValue
  rwa [Table.toValue] at hvalue

end TelescopeLink.Toml
