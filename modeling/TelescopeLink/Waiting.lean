import TelescopeLink.Outcome
import TelescopeLink.Span

/-!
# Waiting for an outcome

A caller waits at a slot, where others leave keep-alives and at last an outcome. The wait has a
deadline: the latest of the time first allowed and of what each keep-alive allows from its own
moment on, so a deadline never moves to an earlier time. An outcome that lies in the slot ends the
wait at once, whatever the deadline.

Time is counted in nanoseconds from any fixed moment.
-/

namespace TelescopeLink

/-- Where a caller waits. -/
structure Slot where
  /-- The end of the wait as far as anyone has said. -/
  deadline : Option Nat := none
  /-- The outcome that nobody has taken yet. -/
  held : Option Outcome := none
  /-- How many keep-alives were left. -/
  keepAlives : UInt32 := 0

namespace Slot

/-- What others do at a slot. -/
inductive Visit
  /-- A keep-alive, with the time the work should still take. -/
  | keepAlive (timeToComplete : Span)
  /-- The outcome. -/
  | done (outcome : Outcome)

/-- Moves the deadline to a moment, unless it is later already. -/
def extendTo (slot : Slot) (moment : Nat) : Slot :=
  { slot with
    deadline := some (match slot.deadline with
      | some deadline => max deadline moment
      | none => moment) }

/-- A visit at a moment. -/
def visit (slot : Slot) (now : Nat) : Visit → Slot
  | .keepAlive timeToComplete =>
    { slot with keepAlives := slot.keepAlives + 1 }.extendTo (now + timeToComplete.nanos)
  | .done outcome => { slot with held := some outcome }

/-- Visits at a moment, one after another. -/
def visitAll (slot : Slot) (now : Nat) (visits : List Visit) : Slot :=
  visits.foldl (fun slot visit => slot.visit now visit) slot

/-- What a caller gets who waited in vain. -/
def timeout (slot : Slot) : Outcome :=
  Outcome.failed Outcome.localTimeout
    ("no reply after " ++ String.ofList (Text.natDigits slot.keepAlives.toNat) ++ " keep-alive(s)")

/-- The end of a wait. -/
structure Ending where
  /-- What the caller gets. -/
  outcome : Outcome
  /-- The outcome was not left at the slot. -/
  timedOut : Bool
  moment : Nat
  slot : Slot
  /-- The visits that had not happened yet. -/
  later : List (Nat × Visit)

/-- Waits from a moment on, with the visits to come in order of their moments. -/
def await (slot : Slot) (now : Nat) (visits : List (Nat × Visit)) : Ending :=
  match slot.held with
  | some outcome => ⟨outcome, false, now, { slot with held := none }, visits⟩
  | none =>
    let deadline := slot.deadline.getD now
    match visits with
    | (moment, visit) :: later =>
      -- A visit at the deadline itself comes too late.
      if moment < deadline then (slot.visit moment visit).await moment later
      else ⟨slot.timeout, true, max now deadline, slot, visits⟩
    | [] => ⟨slot.timeout, true, max now deadline, slot, []⟩

/-- What a caller finds who looks at a moment: the end of its wait, or how long to wait on. -/
def look (slot : Slot) (now : Nat) : Except Nat Outcome :=
  match slot.held with
  | some outcome => .ok outcome
  | none =>
    let deadline := slot.deadline.getD now
    if now < deadline then .error (deadline - now) else .ok slot.timeout

/-- Waits for at most so long, or longer if keep-alives say so. -/
def wait (slot : Slot) (now : Nat) (initial : Span) (visits : List (Nat × Visit)) : Ending :=
  (slot.extendTo (now + initial.nanos)).await now visits

@[simp] theorem visitAll_nil (slot : Slot) (now : Nat) : slot.visitAll now [] = slot := rfl

@[simp] theorem visitAll_cons (slot : Slot) (now : Nat) (visit : Visit) (visits : List Visit) :
    slot.visitAll now (visit :: visits) = (slot.visit now visit).visitAll now visits := rfl

end Slot

end TelescopeLink
