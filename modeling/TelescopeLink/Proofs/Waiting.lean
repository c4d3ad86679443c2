import Mathlib.Data.Nat.Find
import Mathlib.Order.Bounds.Basic
import TelescopeLink.Waiting

/-!
# When a wait ends

While a caller waits, its deadline at a moment is the latest of what the slot had before, of the time
first allowed, and of what the keep-alives before that moment allow (`deadlineAt`). It never moves to
an earlier time, and since the visits come to an end, there is a first moment at which it has come:
that is where the wait ends in vain. An outcome that is left before ends it there and then.

The wait itself looks at one visit after the other and compares its moment with the deadline as it
stands (`await_of_early`, `await_of_late`); that both are the same is the induction of `await_ends`,
in which the visits that were heard move from the list into the slot.
-/

namespace TelescopeLink

namespace Slot

/-! ### What visits say -/

/-- The time that the work should still take, if the visit is a keep-alive. -/
def Visit.timeToComplete? : Visit → Option Span
  | .keepAlive timeToComplete => some timeToComplete
  | .done _ => none

/-- The outcome, if the visit leaves one. -/
def Visit.outcome? : Visit → Option Outcome
  | .keepAlive _ => none
  | .done outcome => some outcome

/-- The visits before a moment. -/
def before (visits : List (Nat × Visit)) (moment : Nat) : List (Nat × Visit) :=
  visits.filter (·.1 < moment)

/-- The moments up to which keep-alives allow a wait, each counted from its own moment. -/
def allowances (visits : List (Nat × Visit)) : List Nat :=
  visits.filterMap fun visit => visit.2.timeToComplete?.map (visit.1 + ·.nanos)

/-- The deadline at a moment: the latest of the one at first and of what the keep-alives before that
moment allow. -/
def deadlineAt (first : Nat) (visits : List (Nat × Visit)) (moment : Nat) : Nat :=
  (allowances (before visits moment)).foldl max first

/-- The outcome that is left first, and when. -/
def firstOutcome? (visits : List (Nat × Visit)) : Option (Nat × Outcome) :=
  visits.findSome? fun visit => visit.2.outcome?.map (visit.1, ·)

/-- The slot at a moment of a wait, if no outcome has been left before. -/
def standing (slot : Slot) (first : Nat) (visits : List (Nat × Visit)) (moment : Nat) : Slot where
  deadline := some (deadlineAt first visits moment)
  held := none
  keepAlives := slot.keepAlives + UInt32.ofNat (allowances (before visits moment)).length

/-- The outcome that is left first has been left by a visit. -/
theorem mem_of_firstOutcome? {visits : List (Nat × Visit)} {moment : Nat} {outcome : Outcome}
    (h : firstOutcome? visits = some (moment, outcome)) : (moment, .done outcome) ∈ visits := by
  obtain ⟨⟨t, visit⟩, hmem, heq⟩ := List.exists_of_findSome?_eq_some h
  cases visit with
  | keepAlive timeToComplete => simp [Visit.outcome?] at heq
  | done left =>
      obtain ⟨rfl, rfl⟩ : t = moment ∧ left = outcome := by simpa [Visit.outcome?] using heq
      exact hmem

theorem allowances_before_sublist (visits : List (Nat × Visit)) (moment : Nat) :
    (allowances (before visits moment)).Sublist (allowances visits) :=
  List.filter_sublist.filterMap _

/-! ### Deadlines -/

/-- The latest of some moments is no later than a bound if none of them is. -/
theorem foldl_max_le_iff {first bound : Nat} {moments : List Nat} :
    moments.foldl max first ≤ bound ↔ first ≤ bound ∧ ∀ moment ∈ moments, moment ≤ bound := by
  induction moments generalizing first with
  | nil => simp
  | cons moment moments ih => simp [ih, and_assoc]

/-- No keep-alive shortens the time first allowed. -/
theorem le_deadlineAt (first : Nat) (visits : List (Nat × Visit)) (moment : Nat) :
    first ≤ deadlineAt first visits moment :=
  (foldl_max_le_iff.mp le_rfl).1

/-- **A deadline never moves to an earlier time.** -/
theorem deadlineAt_mono (first : Nat) (visits : List (Nat × Visit)) :
    Monotone (deadlineAt first visits) := by
  intro moment later hle
  obtain ⟨hfirst, hallowed⟩ := foldl_max_le_iff.mp (le_refl (deadlineAt first visits later))
  refine foldl_max_le_iff.mpr ⟨hfirst, fun allowed hmem => hallowed allowed ?_⟩
  simp only [allowances, before, List.mem_filterMap, List.mem_filter, decide_eq_true_eq] at hmem ⊢
  obtain ⟨visit, ⟨hvisit, hbefore⟩, heq⟩ := hmem
  exact ⟨visit, ⟨hvisit, hbefore.trans_le hle⟩, heq⟩

section Sorted

variable {first moment : Nat} {visit : Visit} {later : List (Nat × Visit)}
  (hlater : ∀ next ∈ later, moment < next.1)
include hlater

theorem before_cons_of_le {t : Nat} (hle : t ≤ moment) :
    before ((moment, visit) :: later) t = [] := by
  rw [before, List.filter_eq_nil_iff]
  intro next hnext
  rcases List.mem_cons.mp hnext with rfl | hnext
  · simpa using hle
  · have := hlater next hnext
    simp only [decide_eq_true_eq]
    omega

omit hlater in
theorem before_cons_of_lt {t : Nat} (hlt : moment < t) :
    before ((moment, visit) :: later) t = (moment, visit) :: before later t := by
  simp [before, hlt]

theorem deadlineAt_cons_of_le {t : Nat} (hle : t ≤ moment) :
    deadlineAt first ((moment, visit) :: later) t = first := by
  rw [deadlineAt, before_cons_of_le hlater hle]
  rfl

end Sorted

/-- A deadline moves to the later of the two moments, a missing one to the new. -/
theorem extendTo_eq (slot : Slot) (moment : Nat) :
    slot.extendTo moment = { slot with deadline := some (max (slot.deadline.getD 0) moment) } := by
  unfold extendTo
  cases slot.deadline <;> simp

theorem standing_eq (slot : Slot) (first : Nat) (visits : List (Nat × Visit)) (moment : Nat) :
    slot.standing first visits moment =
      ⟨some (deadlineAt first visits moment), none,
        UInt32.ofNat (slot.keepAlives.toNat + (allowances (before visits moment)).length)⟩ := by
  rw [UInt32.ofNat_add, UInt32.ofNat_toNat]
  rfl

/-- Who waits in vain is told how many keep-alives the slot has had. -/
theorem timeout_standing (slot : Slot) (first : Nat) (visits : List (Nat × Visit)) (moment : Nat)
    (hcount : slot.keepAlives.toNat + (allowances visits).length < UInt32.size) :
    (slot.standing first visits moment).timeout =
      .failed Outcome.localTimeout ("no reply after " ++ String.ofList (Text.natDigits
        (slot.keepAlives.toNat + (allowances (before visits moment)).length)) ++
          " keep-alive(s)") := by
  have hheard := (allowances_before_sublist visits moment).length_le
  have hlimit : slot.keepAlives.toNat + (allowances (before visits moment)).length <
      UInt32.size := by
    omega
  rw [standing_eq, timeout, UInt32.toNat_ofNat_of_lt' hlimit]

/-! ### One look at the slot -/

/-- An outcome that has been left already is taken at once. -/
theorem await_of_held {slot : Slot} {outcome : Outcome} (h : slot.held = some outcome) (now : Nat)
    (visits : List (Nat × Visit)) :
    slot.await now visits = ⟨outcome, false, now, { slot with held := none }, visits⟩ := by
  rw [await.eq_def, h]

section Look

variable {slot : Slot} {now deadline : Nat} (hheld : slot.held = none)
  (hdeadline : slot.deadline = some deadline)
include hheld hdeadline

/-- A visit before the deadline is heard. -/
theorem await_of_early {moment : Nat} (hlt : moment < deadline) (visit : Visit)
    (later : List (Nat × Visit)) :
    slot.await now ((moment, visit) :: later) = (slot.visit moment visit).await moment later := by
  rw [await.eq_def, hheld]
  simp [hdeadline, hlt]

/-- If there is no visit before the deadline, the wait ends there. -/
theorem await_of_late (hnow : now ≤ deadline) {visits : List (Nat × Visit)}
    (hvisits : ∀ visit ∈ visits, deadline ≤ visit.1) :
    slot.await now visits = ⟨slot.timeout, true, deadline, slot, visits⟩ := by
  rw [await.eq_def, hheld]
  cases visits with
  | nil => simp [hdeadline, hnow]
  | cons visit later =>
      have hle : ¬visit.1 < deadline := Nat.not_lt.mpr (hvisits visit List.mem_cons_self)
      simp [hdeadline, hnow, hle]

end Look

/-! ### Where a wait runs out -/

/-- The first moment of a wait at which its deadline has come. -/
def IsExpiry (now first : Nat) (visits : List (Nat × Visit)) (expiry : Nat) : Prop :=
  IsLeast {t | now ≤ t ∧ deadlineAt first visits t ≤ t} expiry

/-- **Every wait is over some time**: at the latest when all keep-alives have run out. -/
theorem exists_isExpiry (now first : Nat) (visits : List (Nat × Visit)) :
    ∃ expiry, IsExpiry now first visits expiry := by
  have hlast : ∃ t, now ≤ t ∧ deadlineAt first visits t ≤ t := by
    obtain ⟨hfirst, hallowed⟩ := foldl_max_le_iff.mp (le_refl ((allowances visits).foldl max first))
    refine ⟨max now ((allowances visits).foldl max first), le_max_left _ _, ?_⟩
    refine foldl_max_le_iff.mpr ⟨hfirst.trans (le_max_right _ _), fun allowed hmem => ?_⟩
    have hmem' := (allowances_before_sublist visits _).subset hmem
    exact (hallowed allowed hmem').trans (le_max_right _ _)
  exact ⟨Nat.find hlast, Nat.find_spec hlast, fun t ht => Nat.find_min' hlast ht⟩

namespace IsExpiry

variable {now first expiry : Nat} {visits : List (Nat × Visit)}

/-- Until the wait is over its deadline lies ahead. -/
theorem lt_deadlineAt (h : IsExpiry now first visits expiry) {t : Nat} (hnow : now ≤ t)
    (hlt : t < expiry) : t < deadlineAt first visits t := by
  by_contra hle
  exact absurd (h.2 ⟨hnow, Nat.not_lt.mp hle⟩) (Nat.not_le.mpr hlt)

/-- A wait is over exactly at its deadline. -/
theorem deadlineAt_eq (h : IsExpiry now first visits expiry) (hnow : now ≤ first) :
    deadlineAt first visits expiry = expiry := by
  refine le_antisymm h.1.2 ?_
  by_contra hlt
  have hfirst := le_deadlineAt first visits expiry
  -- It would have been over a moment before.
  have hearlier := h.lt_deadlineAt (t := expiry - 1) (by omega) (by omega)
  have hmono := deadlineAt_mono first visits (Nat.sub_le expiry 1)
  omega

end IsExpiry

/-- Without a visit before it, the first deadline is where the wait is over. -/
theorem isExpiry_of_late {now first : Nat} {visits : List (Nat × Visit)} (hnow : now ≤ first)
    (hvisits : ∀ visit ∈ visits, first ≤ visit.1) : IsExpiry now first visits first := by
  have hnone : before visits first = [] := by
    rw [before, List.filter_eq_nil_iff]
    intro visit hvisit
    simpa using hvisits visit hvisit
  refine ⟨⟨hnow, ?_⟩, fun t ht => (le_deadlineAt first visits t).trans ht.2⟩
  rw [deadlineAt, hnone]
  rfl

/-- A visit that is heard does not change where the wait is over, but for its own allowance. -/
theorem IsExpiry.of_cons {now first moment expiry : Nat} {visit : Visit}
    {later : List (Nat × Visit)}
    (h : IsExpiry now first ((moment, visit) :: later) expiry)
    (hlater : ∀ next ∈ later, moment < next.1) (hnow : now < moment) (hlt : moment < first) :
    moment < expiry ∧
      IsExpiry moment ((allowances [(moment, visit)]).foldl max first) later expiry := by
  have hcons : ∀ t, moment < t → deadlineAt first ((moment, visit) :: later) t =
      deadlineAt ((allowances [(moment, visit)]).foldl max first) later t := by
    intro t ht
    rw [deadlineAt, before_cons_of_lt ht, deadlineAt, ← List.foldl_append]
    simp only [allowances, ← List.filterMap_append, List.singleton_append]
  have hexpiry : moment < expiry := by
    by_contra hle
    have hdeadline := h.1.2
    rw [deadlineAt_cons_of_le hlater (Nat.not_lt.mp hle)] at hdeadline
    omega
  refine ⟨hexpiry, ⟨hexpiry.le, hcons expiry hexpiry ▸ h.1.2⟩, ?_⟩
  rintro t ⟨hmoment, hdeadline⟩
  rcases Nat.lt_or_ge moment t with ht | hge
  · exact h.2 ⟨hnow.le.trans hmoment, (hcons t ht).trans_le hdeadline⟩
  · -- At its own moment the visit has been heard before the deadline.
    have hfirst := le_deadlineAt ((allowances [(moment, visit)]).foldl max first) later t
    have hkept := (foldl_max_le_iff.mp
      (le_refl ((allowances [(moment, visit)]).foldl max first))).1
    omega

/-! ### The whole wait -/

/-- The slot after a keep-alive stands as if the wait had begun with that one. -/
theorem standing_cons (slot : Slot) {first moment t : Nat} {timeToComplete : Span}
    {later : List (Nat × Visit)} (hlt : moment < t) :
    slot.standing first ((moment, .keepAlive timeToComplete) :: later) t =
      (slot.visit moment (.keepAlive timeToComplete)).standing
        (max first (moment + timeToComplete.nanos)) later t := by
  have hallowances : allowances (before ((moment, .keepAlive timeToComplete) :: later) t) =
      (moment + timeToComplete.nanos) :: allowances (before later t) := by
    rw [before_cons_of_lt hlt]
    rfl
  simp only [standing, deadlineAt, hallowances, List.foldl_cons, List.length_cons, visit, extendTo]
  rw [UInt32.ofNat_add, UInt32.add_comm _ (UInt32.ofNat 1), ← UInt32.add_assoc]
  rfl

/-- As long as nobody has come, the slot stands as it did. -/
theorem standing_of_le {slot : Slot} {first t : Nat} {visits : List (Nat × Visit)}
    (hheld : slot.held = none) (hdeadline : slot.deadline = some first)
    (hvisits : ∀ visit ∈ visits, t ≤ visit.1) : slot.standing first visits t = slot := by
  have hnone : before visits t = [] := by
    rw [before, List.filter_eq_nil_iff]
    intro visit hvisit
    simpa using hvisits visit hvisit
  obtain ⟨deadline, held, keepAlives⟩ := slot
  obtain rfl : deadline = some first := hdeadline
  obtain rfl : held = none := hheld
  simp [standing, deadlineAt, hnone, allowances]

/-- How a wait ends that is over at a moment: with the first outcome, if it is left before, and else
at that moment. -/
def endingAt (slot : Slot) (first expiry : Nat) (visits : List (Nat × Visit)) : Ending :=
  match (firstOutcome? visits).filter (·.1 < expiry) with
  | some (moment, outcome) =>
    ⟨outcome, false, moment, slot.standing first visits moment, visits.filter (moment < ·.1)⟩
  | none =>
    let left := slot.standing first visits expiry
    ⟨left.timeout, true, expiry, left, visits.filter (expiry ≤ ·.1)⟩

/-- Without a visit before the first deadline, the wait ends there in vain. -/
theorem endingAt_of_late {slot : Slot} {first : Nat} {visits : List (Nat × Visit)}
    (hheld : slot.held = none) (hdeadline : slot.deadline = some first)
    (hvisits : ∀ visit ∈ visits, first ≤ visit.1) :
    slot.endingAt first first visits = ⟨slot.timeout, true, first, slot, visits⟩ := by
  have hnone : (firstOutcome? visits).filter (·.1 < first) = none := by
    rw [Option.filter_eq_none_iff]
    rintro ⟨moment, outcome⟩ houtcome
    have hle := hvisits _ (mem_of_firstOutcome? houtcome)
    simpa using hle
  have hall : visits.filter (first ≤ ·.1) = visits := by
    rw [List.filter_eq_self]
    simpa using hvisits
  simp only [endingAt, hnone, standing_of_le hheld hdeadline hvisits, hall]

/-- An outcome that is left by the first visit ends the wait at its moment. -/
theorem endingAt_done {slot : Slot} {first expiry moment : Nat} {outcome : Outcome}
    {later : List (Nat × Visit)} (hheld : slot.held = none)
    (hdeadline : slot.deadline = some first) (hlater : ∀ next ∈ later, moment < next.1)
    (hlt : moment < expiry) :
    slot.endingAt first expiry ((moment, .done outcome) :: later) =
      ⟨outcome, false, moment, slot, later⟩ := by
  have hhere : (firstOutcome? ((moment, .done outcome) :: later)).filter (·.1 < expiry) =
      some (moment, outcome) := by
    simp [firstOutcome?, Visit.outcome?, hlt]
  have hrest : ((moment, Visit.done outcome) :: later).filter (moment < ·.1) = later := by
    rw [List.filter_cons_of_neg (by simp), List.filter_eq_self]
    simpa using hlater
  have hstanding : slot.standing first ((moment, .done outcome) :: later) moment = slot := by
    refine standing_of_le hheld hdeadline fun visit hvisit => ?_
    rcases List.mem_cons.mp hvisit with rfl | hvisit
    · exact le_rfl
    · exact (hlater visit hvisit).le
  simp only [endingAt, hhere, hstanding, hrest]

/-- A keep-alive leaves the ending to the visits behind it. -/
theorem endingAt_keepAlive (slot : Slot) {first expiry moment : Nat} {timeToComplete : Span}
    {later : List (Nat × Visit)} (hlater : ∀ next ∈ later, moment < next.1) (hlt : moment < expiry) :
    slot.endingAt first expiry ((moment, .keepAlive timeToComplete) :: later) =
      (slot.visit moment (.keepAlive timeToComplete)).endingAt
        (max first (moment + timeToComplete.nanos)) expiry later := by
  have hsame : firstOutcome? ((moment, .keepAlive timeToComplete) :: later) =
      firstOutcome? later := rfl
  unfold endingAt
  rw [hsame]
  cases houtcome : (firstOutcome? later).filter (·.1 < expiry) with
  | none =>
      simp only [standing_cons slot hlt]
      rw [List.filter_cons_of_neg (by simpa using hlt)]
  | some found =>
      obtain ⟨t, outcome⟩ := found
      obtain ⟨hfirst, -⟩ := Option.filter_eq_some_iff.mp houtcome
      have ht : moment < t := hlater _ (mem_of_firstOutcome? hfirst)
      simp only [standing_cons slot ht]
      rw [List.filter_cons_of_neg (by simpa using ht.le)]

/-- **Where a wait ends**, that has come to a moment before its deadline. -/
theorem await_eq_endingAt {slot : Slot} {now first expiry : Nat} {visits : List (Nat × Visit)}
    (hheld : slot.held = none) (hdeadline : slot.deadline = some first) (hnow : now ≤ first)
    (hstart : ∀ visit ∈ visits, now < visit.1) (hsorted : visits.Pairwise (·.1 < ·.1))
    (hexpiry : IsExpiry now first visits expiry) :
    slot.await now visits = slot.endingAt first expiry visits := by
  -- Visit by visit: one that is heard moves from the list into the slot, deadline and all.
  induction visits generalizing slot now first with
  | nil =>
      obtain rfl : expiry = first := hexpiry.unique (isExpiry_of_late hnow (by simp))
      rw [await_of_late hheld hdeadline hnow (by simp), endingAt_of_late hheld hdeadline (by simp)]
  | cons head later ih =>
      obtain ⟨moment, visit⟩ := head
      obtain ⟨hlater, hrestSorted⟩ := List.pairwise_cons.mp hsorted
      have hmoment : now < moment := hstart _ List.mem_cons_self
      by_cases hlt : moment < first
      · obtain ⟨hbefore, hrest⟩ := hexpiry.of_cons hlater hmoment hlt
        rw [await_of_early hheld hdeadline hlt]
        cases visit with
        | keepAlive timeToComplete =>
            rw [endingAt_keepAlive slot hlater hbefore]
            -- The wait goes on as if it had begun at the keep-alive.
            have hextended : (slot.visit moment (.keepAlive timeToComplete)).deadline =
                some (max first (moment + timeToComplete.nanos)) := by
              simp [Slot.visit, extendTo, hdeadline]
            exact ih hheld hextended (hlt.le.trans (le_max_left _ _)) hlater hrestSorted hrest
        | done outcome =>
            have htaken : { slot.visit moment (.done outcome) with held := none } = slot := by
              rw [← hheld]
              rfl
            rw [endingAt_done hheld hdeadline hlater hbefore, await_of_held rfl, htaken]
      · -- The first visit comes too late, and so do all others.
        have hvisits : ∀ next ∈ (moment, visit) :: later, first ≤ next.1 := by
          intro next hnext
          rcases List.mem_cons.mp hnext with rfl | hnext
          · exact Nat.not_lt.mp hlt
          · exact (Nat.not_lt.mp hlt).trans (hlater next hnext).le
        obtain rfl : expiry = first := hexpiry.unique (isExpiry_of_late hnow hvisits)
        rw [await_of_late hheld hdeadline hnow hvisits, endingAt_of_late hheld hdeadline hvisits]

/-- **The outcome if it comes in time, and no earlier end.** A wait that finds an outcome ends at
once. Otherwise it is over at the first moment `expiry` at which the deadline has come, where the
deadline at a moment is the latest of what the slot had before, of the time first allowed and of what
each keep-alive before allows from its own moment on, and never moves to an earlier time. If an
outcome is left before that moment, the first one ends the wait when it is left, and is held no
longer. If none is, the wait ends exactly there, and what the caller gets counts all keep-alives that
the slot has had. Either way the slot is left with its deadline and its count, and what comes later
is still to come. -/
theorem wait_ends (slot : Slot) (now : Nat) (initial : Span) (visits : List (Nat × Visit))
    (hstart : ∀ visit ∈ visits, now < visit.1) (hsorted : visits.Pairwise (·.1 < ·.1))
    (hcount : slot.keepAlives.toNat + (allowances visits).length < UInt32.size) :
    let first := max (slot.deadline.getD 0) (now + initial.nanos)
    let deadline := deadlineAt first visits
    let keepAlives (t : Nat) := slot.keepAlives.toNat + (allowances (before visits t)).length
    Monotone deadline ∧
    (∀ outcome, slot.held = some outcome →
      slot.wait now initial visits =
        ⟨outcome, false, now, { slot with deadline := some first, held := none }, visits⟩) ∧
    (slot.held = none →
      ∃ expiry, IsLeast {t | now ≤ t ∧ deadline t ≤ t} expiry ∧ deadline expiry = expiry ∧
        (∀ moment outcome, firstOutcome? visits = some (moment, outcome) → moment < expiry →
          slot.wait now initial visits =
            ⟨outcome, false, moment,
              ⟨some (deadline moment), none, UInt32.ofNat (keepAlives moment)⟩,
              visits.filter (moment < ·.1)⟩) ∧
        ((∀ moment outcome, firstOutcome? visits = some (moment, outcome) → expiry ≤ moment) →
          slot.wait now initial visits =
            ⟨.failed Outcome.localTimeout ("no reply after " ++
                String.ofList (Text.natDigits (keepAlives expiry)) ++ " keep-alive(s)"),
              true, expiry, ⟨some expiry, none, UInt32.ofNat (keepAlives expiry)⟩,
              visits.filter (expiry ≤ ·.1)⟩)) := by
  intro first deadline keepAlives
  have hwait : slot.wait now initial visits =
      { slot with deadline := some first }.await now visits := by
    rw [wait, extendTo_eq]
  refine ⟨deadlineAt_mono first visits, ?_, ?_⟩
  · intro outcome hheld
    have hwaiting : ({ slot with deadline := some first } : Slot).held = some outcome := hheld
    rw [hwait, await_of_held hwaiting]
  · intro hheld
    have hnow : now ≤ first := (Nat.le_add_right _ _).trans (le_max_right _ _)
    obtain ⟨expiry, hexpiry⟩ := exists_isExpiry now first visits
    -- How a slot stands later depends on its count only, so the deadline set at first may go.
    have hends : slot.wait now initial visits = slot.endingAt first expiry visits :=
      hwait.trans (await_eq_endingAt hheld rfl hnow hstart hsorted hexpiry)
    refine ⟨expiry, hexpiry, hexpiry.deadlineAt_eq hnow, ?_, ?_⟩
    · intro moment outcome houtcome hlt
      rw [hends, endingAt, houtcome, Option.filter_some_pos (by simpa using hlt)]
      dsimp only
      rw [standing_eq]
    · intro hnone
      have hlate : (firstOutcome? visits).filter (·.1 < expiry) = none := by
        rw [Option.filter_eq_none_iff]
        rintro ⟨moment, outcome⟩ houtcome
        simpa using hnone moment outcome houtcome
      rw [hends, endingAt, hlate]
      dsimp only
      rw [timeout_standing _ first visits expiry hcount, standing_eq, hexpiry.deadlineAt_eq hnow]

/-- A keep-alive that allows little behind one that allows more: an outcome that comes before the
latter has run out is heard, and one that comes behind is left for the next wait. -/
theorem wait_ends_between_allowances :
    let slot : Slot := ⟨some 7, none, 3⟩
    let visits (moment : Nat) : List (Nat × Visit) :=
      [(15, .keepAlive ⟨100⟩), (50, .keepAlive ⟨10⟩), (moment, .done (.ok []))]
    (∀ moment ∈ [90, 120], (∀ visit ∈ visits moment, 10 < visit.1) ∧
      (visits moment).Pairwise (·.1 < ·.1) ∧
      slot.keepAlives.toNat + (allowances (visits moment)).length < UInt32.size) ∧
    slot.wait 10 ⟨20⟩ (visits 90) = ⟨.ok [], false, 90, ⟨some 115, none, 5⟩, []⟩ ∧
    slot.wait 10 ⟨20⟩ (visits 120) =
      ⟨.failed Outcome.localTimeout "no reply after 5 keep-alive(s)", true, 115,
        ⟨some 115, none, 5⟩, [(120, .done (.ok []))]⟩ := by
  intro slot visits
  have hvisits : ∀ moment ∈ [90, 120], (∀ visit ∈ visits moment, 10 < visit.1) ∧
      (visits moment).Pairwise (·.1 < ·.1) ∧
      slot.keepAlives.toNat + (allowances (visits moment)).length < UInt32.size := by
    simp [visits, slot, allowances, Visit.timeToComplete?, UInt32.size]
  have hexpiry : ∀ moment ∈ [90, 120],
      IsLeast {t | 10 ≤ t ∧ deadlineAt 30 (visits moment) t ≤ t} 115 := by
    intro moment hmoment
    refine ⟨?_, ?_⟩
    · have hcases : moment = 90 ∨ moment = 120 := by simpa using hmoment
      rcases hcases with rfl | rfl <;> exact ⟨by decide, by decide⟩
    · rintro t ⟨-, hdeadline⟩
      have hfirst := (le_deadlineAt 30 (visits moment) t).trans hdeadline
      have hlong : 115 ∈ allowances (before (visits moment) t) := by
        rw [before_cons_of_lt (by omega)]
        exact List.mem_cons_self
      exact (foldl_max_le_iff.mp hdeadline).2 115 hlong
  refine ⟨hvisits, ?_, ?_⟩
  · obtain ⟨hstart, hsorted, hcount⟩ := hvisits 90 (by simp)
    obtain ⟨-, -, hends⟩ := wait_ends slot 10 ⟨20⟩ (visits 90) hstart hsorted hcount
    obtain ⟨expiry, hleast, -, hanswered, -⟩ := hends rfl
    obtain rfl := hleast.unique (hexpiry 90 (by simp))
    exact hanswered 90 (.ok []) rfl (by decide)
  · obtain ⟨hstart, hsorted, hcount⟩ := hvisits 120 (by simp)
    obtain ⟨-, -, hends⟩ := wait_ends slot 10 ⟨20⟩ (visits 120) hstart hsorted hcount
    obtain ⟨expiry, hleast, -, -, htimedOut⟩ := hends rfl
    obtain rfl := hleast.unique (hexpiry 120 (by simp))
    have hheard : (allowances (before (visits 120) 115)).length = 2 := by decide
    have hlate : ∀ moment outcome, firstOutcome? (visits 120) = some (moment, outcome) →
        115 ≤ moment := by
      intro moment outcome h
      obtain ⟨rfl, -⟩ := Prod.mk.inj (Option.some.inj h)
      decide
    have htext : "no reply after " ++ String.ofList (Text.natDigits (3 + 2)) ++ " keep-alive(s)" =
        "no reply after 5 keep-alive(s)" := by
      decide
    rw [htimedOut hlate]
    simp only [hheard, slot]
    exact htext ▸ rfl

end Slot

end TelescopeLink
