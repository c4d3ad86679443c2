import Mathlib.Order.Bounds.Basic
import TelescopeLink.Proofs.Reception

/-!
# What stops a receiver

A receiver goes on whatever the link gives it. Two things stop it (`EndsAt`): to be told so, which it
sees when the call is over and its datagram handed on, and a message that nobody will take, which it
does not see before it has such a message. Which of the two comes first is read off the calls alone,
one after the other (`endsAt_cons_zero`, `endsAt_cons_succ`), and a run stops there and not before.

What a run puts into the inbox is what its calls say, each for itself (`messages_run`); the buffer
that they share is in none of it (`run_withBuffer`).
-/

namespace TelescopeLink

namespace Reception

/-! ### Where it stops -/

/-- The receiver stops behind the call at a place: it is told to stop in that call, or the call gives
a message and nobody takes it any more, be it that the taker was gone before or has left by then. -/
def EndsAt (room : Nat) (gone : Bool) (calls : List Call) (place : Nat) : Prop :=
  ∃ call, calls[place]? = some call ∧
    (call.stops = true ∨ call.isReadable room = true ∧
      (gone = true ∨ ∃ earlier ∈ calls.take (place + 1), earlier.takerLeaves = true))

theorem endsAt_cons_zero {room : Nat} {gone : Bool} {call : Call} {later : List Call} :
    EndsAt room gone (call :: later) 0 ↔
      call.stops = true ∨ call.isReadable room = true ∧ (gone || call.takerLeaves) = true := by
  simp [EndsAt]

theorem endsAt_cons_succ {room : Nat} {gone : Bool} {call : Call} {later : List Call}
    {place : Nat} : EndsAt room gone (call :: later) (place + 1) ↔
      EndsAt room (gone || call.takerLeaves) later place := by
  simp [EndsAt, or_assoc]

@[simp] theorem run_nil (reception : Reception) : reception.run [] = reception := rfl

@[simp] theorem run_cons (reception : Reception) (call : Call) (later : List Call) :
    reception.run (call :: later) = (reception.step call).run later := rfl

/-- A receiver that has stopped makes no call, so it stays as it is. -/
theorem run_of_stopped {reception : Reception} (h : reception.hasStopped = true)
    (calls : List Call) : reception.run calls = reception := by
  induction calls with
  | nil => rfl
  | cons call later ih =>
      have hstep : reception.step call = reception := by simp [step, h]
      rw [run_cons, hstep, ih]

section Run

variable {reception : Reception} (h : reception.hasStopped = false)
include h

/-- A call stops the receiver exactly if it ends a run that begins with it. -/
theorem hasStopped_step_iff (call : Call) (later : List Call) :
    (reception.step call).hasStopped = true ↔
      EndsAt reception.capacity reception.inbox.takerGone (call :: later) 0 := by
  have hmade := step_made h call
  have hrunning : reception.running = true := by
    simp only [hasStopped, Bool.or_eq_false_iff, Bool.not_eq_false'] at h
    exact h.1
  rw [endsAt_cons_zero, hasStopped, hmade.running, hmade.abandoned, hmade.taker, hrunning]
  simp

/-- **A receiver stops behind the first call that ends it**, and has made the calls up to there. -/
theorem run_of_isLeast {calls : List Call} {place : Nat}
    (hplace : IsLeast {n | EndsAt reception.capacity reception.inbox.takerGone calls n} place) :
    (reception.run calls).calls = reception.calls + (place + 1) ∧
      (reception.run calls).hasStopped = true := by
  -- Either the first call ends the run, or the rest is a run of the receiver that it leaves.
  induction calls generalizing reception place with
  | nil =>
      obtain ⟨call, hcall, -⟩ := hplace.1
      simp at hcall
  | cons call later ih =>
      have hmade := step_made h call
      rw [run_cons]
      by_cases hends : EndsAt reception.capacity reception.inbox.takerGone (call :: later) 0
      · obtain rfl : place = 0 := Nat.le_zero.mp (hplace.2 hends)
        have hstopped : (reception.step call).hasStopped = true :=
          (hasStopped_step_iff h call later).mpr hends
        rw [run_of_stopped hstopped]
        exact ⟨hmade.calls, hstopped⟩
      · have hopen : (reception.step call).hasStopped = false := by
          rw [Bool.eq_false_iff]
          exact mt (hasStopped_step_iff h call later).mp hends
        cases place with
        | zero => exact absurd hplace.1 hends
        | succ place =>
            have hrest : IsLeast {n | EndsAt (reception.step call).capacity
                (reception.step call).inbox.takerGone later n} place := by
              rw [hmade.capacity, hmade.taker]
              refine ⟨endsAt_cons_succ.mp hplace.1, fun n hn => ?_⟩
              exact Nat.le_of_succ_le_succ (hplace.2 (endsAt_cons_succ.mpr hn))
            obtain ⟨hcalls, hstopped⟩ := ih hopen hrest
            refine ⟨?_, hstopped⟩
            rw [hcalls, hmade.calls]
            omega

/-- If no call ends it, a receiver makes them all. -/
theorem run_of_never {calls : List Call}
    (hnever : ∀ n, ¬EndsAt reception.capacity reception.inbox.takerGone calls n) :
    (reception.run calls).calls = reception.calls + calls.length ∧
      (reception.run calls).hasStopped = false := by
  induction calls generalizing reception with
  | nil => exact ⟨rfl, h⟩
  | cons call later ih =>
      have hmade := step_made h call
      have hopen : (reception.step call).hasStopped = false := by
        rw [Bool.eq_false_iff]
        exact mt (hasStopped_step_iff h call later).mp (hnever 0)
      have hrest : ∀ n, ¬EndsAt (reception.step call).capacity
          (reception.step call).inbox.takerGone later n := by
        intro n hn
        rw [hmade.capacity, hmade.taker] at hn
        exact hnever (n + 1) (endsAt_cons_succ.mpr hn)
      obtain ⟨hcalls, hstill⟩ := ih hopen hrest
      refine ⟨?_, hstill⟩
      rw [run_cons, hcalls, hmade.calls, List.length_cons]
      omega

end Run

/-! ### What it hears -/

/-- Calls that were made are never taken back. -/
theorem calls_le_run (reception : Reception) (calls : List Call) :
    reception.calls ≤ (reception.run calls).calls := by
  induction calls generalizing reception with
  | nil => exact le_rfl
  | cons call later ih =>
      refine le_trans ?_ (ih (reception.step call))
      cases h : reception.hasStopped with
      | true => simp [step, h]
      | false => exact (step_made h call).calls ▸ Nat.le_succ _

/-- The calls that are made of those that could be. -/
def made (reception : Reception) (calls : List Call) : List Call :=
  calls.take ((reception.run calls).calls - reception.calls)

theorem made_of_stopped {reception : Reception} (h : reception.hasStopped = true)
    (calls : List Call) : reception.made calls = [] := by
  rw [made, run_of_stopped h, Nat.sub_self, List.take_zero]

theorem made_cons {reception : Reception} (h : reception.hasStopped = false) (call : Call)
    (later : List Call) :
    reception.made (call :: later) = call :: (reception.step call).made later := by
  have hcalls := (step_made h call).calls
  have hle := calls_le_run (reception.step call) later
  have hcount : ((reception.step call).run later).calls - reception.calls =
      ((reception.step call).run later).calls - (reception.step call).calls + 1 := by
    omega
  rw [made, made, run_cons, hcount, List.take_succ_cons]

/-- **The inbox holds what was heard**, as long as somebody takes it: of each datagram received, in
order, what it says as far as there was room for it. -/
theorem messages_run {reception : Reception} {calls : List Call}
    (htaker : reception.inbox.takerGone = false)
    (hstays : ∀ call ∈ reception.made calls, call.takerLeaves = false) :
    (reception.run calls).inbox.messages.map Except.ok =
      reception.inbox.messages.map Except.ok ++ Datagram.heard reception.capacity
        ((reception.made calls).filterMap fun call => call.arrival.datagram?) := by
  -- Call by call, as long as the taker is there.
  induction calls generalizing reception with
  | nil => simp [made]
  | cons call later ih =>
      cases h : reception.hasStopped with
      | true => simp [run_of_stopped h, made_of_stopped h]
      | false =>
          have hstep := step_made h call
          rw [made_cons h] at hstays ⊢
          have hstill : (reception.step call).inbox.takerGone = false := by
            rw [hstep.taker, htaker, hstays call List.mem_cons_self]
            rfl
          rw [run_cons, ih hstill fun next hnext => hstays next (List.mem_cons_of_mem call hnext),
            hstep.messages hstill, hstep.capacity, List.append_assoc, ← Datagram.heard_append]
          cases hdatagram : call.arrival.datagram? <;> simp [hdatagram]

/-- A call has nothing to do with what the buffer held before it. -/
theorem step_withBuffer (reception : Reception) (buffer : List UInt8) (call : Call) :
    ∃ left, { reception with buffer }.step call = { reception.step call with buffer := left } := by
  cases h : reception.hasStopped with
  | true =>
      have h' : { reception with buffer }.hasStopped = true := h
      exact ⟨buffer, by simp [step, h, h']⟩
  | false =>
      have h' : { reception with buffer }.hasStopped = false := h
      -- A datagram covers the part of the buffer that is read, and no other call looks at it.
      cases harrival : call.arrival.datagram? with
      | none =>
          rw [step_of_none h harrival, step_of_none h' harrival]
          exact ⟨buffer, rfl⟩
      | some bytes =>
          rw [step_of_datagram h harrival, step_of_datagram h' harrival]
          cases Datagram.message (bytes.take reception.capacity) with
          | error error => exact ⟨_, rfl⟩
          | ok message => exact ⟨_, rfl⟩

/-- **Nothing leaks from one datagram into the next**: the same calls with another buffer lead to the
same receiver, but for its buffer. -/
theorem run_withBuffer (reception : Reception) (buffer : List UInt8) (calls : List Call) :
    ∃ left, { reception with buffer }.run calls = { reception.run calls with buffer := left } := by
  induction calls generalizing reception buffer with
  | nil => exact ⟨buffer, rfl⟩
  | cons call later ih =>
      obtain ⟨between, hbetween⟩ := step_withBuffer reception buffer call
      obtain ⟨left, hleft⟩ := ih (reception.step call) between
      exact ⟨left, by rw [run_cons, hbetween, hleft, run_cons]⟩

/-! ### The whole loop -/

/-- **The receiver survives whatever arrives.** Told to stop beforehand, it makes no call. Otherwise
it stops behind the first call in which it is told to, or that gives a message when nobody takes it
any more, and if there is none it makes all its calls: failures, calls in vain and datagrams without
a whole header do not end it. As long as somebody takes the messages, the inbox then holds, behind
what was there, what the datagrams of the calls say that were made, that of the last one included,
each cut off at the size of the buffer and left out if it has no whole header. And whatever the
buffer held before, all is the same but for the buffer. -/
theorem run_survives (reception : Reception) (calls : List Call)
    (h : reception.abandoned = false) :
    let after := reception.run calls
    let ends := EndsAt reception.capacity reception.inbox.takerGone calls
    let made := calls.take (after.calls - reception.calls)
    (reception.running = false → after = reception) ∧
    (reception.running = true →
      (∀ place, IsLeast {n | ends n} place →
        after.calls = reception.calls + (place + 1) ∧ after.hasStopped = true) ∧
      ((∀ n, ¬ends n) →
        after.calls = reception.calls + calls.length ∧ after.hasStopped = false)) ∧
    (reception.inbox.takerGone = false → (∀ call ∈ made, call.takerLeaves = false) →
      after.inbox.messages.map Except.ok =
        reception.inbox.messages.map Except.ok ++
          ((((made.filterMap fun call => call.arrival.datagram?).map
            (·.take reception.capacity)).filter (Datagram.headerLength ≤ ·.length)).map
              Datagram.message)) ∧
    ∀ buffer, ∃ left, { reception with buffer }.run calls = { after with buffer := left } := by
  intro after ends made
  refine ⟨fun hstopped => ?_, fun hrunning => ?_, fun htaker hstays => messages_run htaker hstays,
    fun buffer => run_withBuffer reception buffer calls⟩
  · exact run_of_stopped (by simp [hasStopped, hstopped]) calls
  · have hopen : reception.hasStopped = false := by simp [hasStopped, hrunning, h]
    exact ⟨fun place hplace => run_of_isLeast hopen hplace, run_of_never hopen⟩

/-- A call in vain, a failure and a datagram without a whole header, then a message in the very call
in which the receiver is told to stop, and one more that is never received. -/
theorem run_survives_told_to_stop :
    let ack : Message := ⟨1, 17, 3, 1, 1, "5000"⟩
    let reception : Reception := { capacity := 64 }
    let calls : List Call := [{ arrival := .nothing }, { arrival := .failed .notBound },
      { arrival := .datagram [1, 2, 3] },
      { arrival := .datagram (.ofMessage ack ⟨0, 0⟩), stops := true },
      { arrival := .datagram (.ofMessage ack ⟨0, 0⟩) }]
    reception.abandoned = false ∧ (reception.run calls).calls = 4 ∧
      (reception.run calls).hasStopped = true ∧ (reception.run calls).inbox.messages = [ack] := by
  intro ack reception calls
  obtain ⟨-, hruns, hmessages, -⟩ := run_survives reception calls rfl
  have hplace : IsLeast {n | EndsAt reception.capacity reception.inbox.takerGone calls n} 3 := by
    refine ⟨⟨_, rfl, Or.inl rfl⟩, ?_⟩
    -- None of the three calls before gives a message or stops the receiver.
    rintro n ⟨call, hcall, hends⟩
    by_contra hlt
    have hcases : n = 0 ∨ n = 1 ∨ n = 2 := by omega
    rcases hcases with rfl | rfl | rfl <;> obtain rfl := Option.some.inj hcall <;>
      exact absurd hends (by decide)
  obtain ⟨hcalls, hstopped⟩ := (hruns rfl).1 3 hplace
  have hmade : calls.take ((reception.run calls).calls - reception.calls) = calls.take 4 := by
    rw [hcalls, Nat.add_sub_cancel_left]
  rw [hmade] at hmessages
  have hheard : ((reception.run calls).inbox.messages.map Except.ok : List (Except Error Message)) =
      [ack].map Except.ok :=
    (hmessages rfl (by decide)).trans (by decide +kernel)
  exact ⟨rfl, hcalls, hstopped, List.map_injective_iff.mpr (fun _ _ => Except.ok.inj) hheard⟩

end Reception

end TelescopeLink
