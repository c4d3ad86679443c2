/-!
# Numbers for requests

A registry hands out the numbers by which replies find their requests, and knows the owner of each
number in use. Numbers run from 0 to one below the largest of 32 bits and then start over; one that
is still owned is passed over. A number stays owned until it is released, so a reply that comes late
finds either its own request or none.
-/

namespace TelescopeLink

/-- Numbers in use with their owners, and the number handed out last. -/
structure Registry (α : Type) where
  last : Int32
  entries : List (Int32 × α)

namespace Registry

variable {α : Type}

/-- The number after a number, back to 0 behind the greatest. -/
def following (n : Int32) : Int32 := (n + 1) % Int32.maxValue

/-- A registry whose first number follows `start`; negative starts count as 0. -/
def startingAt (start : Int32) : Registry α :=
  ⟨(if start < 0 then 0 else start) % Int32.maxValue, []⟩

/-- The owner of a number. -/
def lookup (registry : Registry α) (n : Int32) : Option α := registry.entries.lookup n

/-- The number is in use. -/
def contains (registry : Registry α) (n : Int32) : Bool := (registry.lookup n).isSome

/-- How many numbers are in use. -/
def size (registry : Registry α) : Nat := registry.entries.length

/-- The numbers in use. -/
def numbers (registry : Registry α) : List Int32 := registry.entries.map (·.1)

/-- Gives a number to an owner, whoever had it before. -/
def put (registry : Registry α) (n : Int32) (owner : α) : Registry α :=
  { registry with entries := registry.entries.filter (·.1 != n) ++ [(n, owner)] }

/-- Releases a number. -/
def release (registry : Registry α) (n : Int32) : Registry α :=
  { registry with entries := registry.entries.filter (·.1 != n) }

/-- The first number behind `n` that is not in use, among the next `fuel`. -/
def nextFree? (registry : Registry α) : (fuel : Nat) → (n : Int32) → Option Int32
  | 0, _ => none
  | fuel + 1, n =>
    -- With more steps than numbers in use, the search cannot meet owned numbers only.
    let next := following n
    if registry.contains next then registry.nextFree? fuel next else some next

/-- Hands out the next number that is not in use. One more number is looked at than are in use, so
there is one unless all are. -/
def allocate? (registry : Registry α) (owner : Int32 → α) : Option (Int32 × Registry α) :=
  (registry.nextFree? (registry.size + 1) registry.last).map fun n =>
    (n, { registry.put n (owner n) with last := n })

/-! ## Owners

What each operation does to `lookup`, the view by which a registry is used. -/

@[simp] theorem lookup_startingAt (start n : Int32) :
    (startingAt start : Registry α).lookup n = none := rfl

private theorem lookup_filter_of_ne {entries : List (Int32 × α)} {m n : Int32} (h : m ≠ n) :
    (entries.filter (·.1 != n)).lookup m = entries.lookup m := by
  induction entries with
  | nil => rfl
  | cons entry rest ih =>
    obtain ⟨k, owner⟩ := entry
    by_cases hk : k = n
    · subst hk
      simp [List.lookup_cons, ih, beq_false_of_ne h]
    · simp [hk, List.lookup_cons, ih]

private theorem lookup_filter_self (entries : List (Int32 × α)) (n : Int32) :
    (entries.filter (·.1 != n)).lookup n = none := by
  rw [List.lookup_eq_none_iff]
  intro entry hmem
  have hne : entry.1 ≠ n := by simpa using (List.mem_filter.mp hmem).2
  simpa using hne.symm

@[simp] theorem lookup_release_self (registry : Registry α) (n : Int32) :
    (registry.release n).lookup n = none :=
  lookup_filter_self registry.entries n

theorem lookup_release_of_ne (registry : Registry α) {m n : Int32} (h : m ≠ n) :
    (registry.release n).lookup m = registry.lookup m :=
  lookup_filter_of_ne h

@[simp] theorem lookup_put_self (registry : Registry α) (n : Int32) (owner : α) :
    (registry.put n owner).lookup n = some owner := by
  simp [put, lookup, List.lookup_append, lookup_filter_self]

theorem lookup_put_of_ne (registry : Registry α) {m n : Int32} (h : m ≠ n) (owner : α) :
    (registry.put n owner).lookup m = registry.lookup m := by
  simp [put, lookup, List.lookup_append, lookup_filter_of_ne h, List.lookup_cons,
    beq_false_of_ne h]

/-- A number that the search finds is free. -/
theorem contains_of_nextFree?_eq_some {registry : Registry α} {fuel : Nat} {n m : Int32}
    (h : registry.nextFree? fuel n = some m) : registry.contains m = false := by
  induction fuel generalizing n with
  | zero => simp [nextFree?] at h
  | succ fuel ih =>
    simp only [nextFree?] at h
    split at h
    · exact ih h
    · rename_i hfree
      obtain rfl := Option.some.inj h
      simpa using hfree

end Registry

end TelescopeLink
