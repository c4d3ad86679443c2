import Mathlib.Logic.Relation
import TelescopeLink.Bridge.Step
import TelescopeLink.Proofs.Registry.Allocation

/-!
# Moves of a bridge

What any operation of a bridge does, said once. A `Move` is one change, about one request: it is
registered, its text is recorded, it hears an estimate, it is told a keep-alive, it is retired and
told its outcome; or the surroundings change. `Moves touched` is a sequence of moves about places
that satisfy `touched`, and every operation is one (`Proofs/Bridge/Operations.lean`).

What a property needs is then proved for one move and carried over sequences by
`Moves.induction`. Two facts hold of every move: it leaves all other requests and what they were
told alone (`Move.request_of_ne`, `Move.toldTo_of_ne`), and the request it is about only goes
forward (`Move.progress`).
-/

namespace TelescopeLink

/-! ### Sessions and states -/

/-- The session submits a command when it is told the outcome. -/
def Session.submits : Session → Bool
  | .single _ => false
  | .chain _ _ _ => true

/-- The states in the order in which a request goes through them. -/
def RequestState.rank : RequestState → Nat
  | .created => 0
  | .sent => 1
  | .completed => 2

/-- What one request can become: number and command stay, what is recorded stays recorded, what is
over stays over, and a session that is gone does not come back. -/
structure Request.Progress (before after : Request) : Prop where
  sequence : after.sequence = before.sequence
  command : after.command = before.command
  wireText : before.wireText.isSome = true → after.wireText.isSome = true
  completed : before.completed = true → after.completed = true
  session : after.session = before.session ∨ after.session = none

namespace Request.Progress

theorem refl (request : Request) : request.Progress request :=
  ⟨rfl, rfl, id, id, Or.inl rfl⟩

theorem trans {first second third : Request} (h : first.Progress second)
    (h' : second.Progress third) : first.Progress third where
  sequence := h'.sequence.trans h.sequence
  command := h'.command.trans h.command
  wireText hw := h'.wireText (h.wireText hw)
  completed hc := h'.completed (h.completed hc)
  session := by
    rcases h'.session with hs | hs
    · rw [hs]
      exact h.session
    · exact Or.inr hs

/-- A request never goes back to an earlier state. -/
theorem rank_le {before after : Request} (h : before.Progress after) :
    before.state.rank ≤ after.state.rank := by
  have hc := h.completed
  have hw := h.wireText
  unfold Request.state
  cases hb : before.completed <;> cases ha : after.completed <;>
    cases hbw : before.wireText.isSome <;> cases haw : after.wireText.isSome <;>
    simp_all [RequestState.rank]

end Request.Progress

namespace Bridge

/-! ### Views -/

/-- What the caller of the request at a place was told, in order. -/
def toldTo (bridge : Bridge) (place : Nat) : List Callback :=
  bridge.log.filter (·.request == place)

/-- The session that the request at a place holds. -/
def sessionAt (bridge : Bridge) (place : Nat) : Option Session :=
  bridge.requests[place]?.bind (·.session)

/-- The request that `create` makes, with its number. -/
def fresh (bridge : Bridge) (command : Command) (session : Session) (n : Int32) : Request :=
  { sequence := n
    command
    estimate := bridge.settings.handlingTime command.typeName
    session := some session }

/-- The bridge in other surroundings: with another link, and dispatching messages or not. -/
def around (bridge : Bridge) (link : Link) (running : Bool) : Bridge :=
  { bridge with link, running }

@[simp] theorem requests_around (bridge : Bridge) (link : Link) (running : Bool) :
    (bridge.around link running).requests = bridge.requests := rfl

/-- The callback by which the caller of a request is told something. -/
def callback (bridge : Bridge) (place : Nat) (request : Request) (notice : Notice) : Callback :=
  { request := place
    sequence := request.sequence
    typeName := request.command.typeName
    notice
    registered := bridge.registry.contains request.sequence }

theorem requests_modifyRequest_self (bridge : Bridge) {place : Nat} {request : Request}
    (h : bridge.requests[place]? = some request) (change : Request → Request) :
    (bridge.modifyRequest place change).requests[place]? = some (change request) := by
  simp [modifyRequest, h]

theorem requests_modifyRequest_of_ne (bridge : Bridge) {place q : Nat} (h : q ≠ place)
    (change : Request → Request) :
    (bridge.modifyRequest place change).requests[q]? = bridge.requests[q]? := by
  simp [modifyRequest, Ne.symm h]

/-- The requests after a change: those before, one of them changed. -/
theorem requests_modifyRequest_eq_some_iff (bridge : Bridge) (place : Nat)
    (change : Request → Request) {q : Nat} {request' : Request} :
    (bridge.modifyRequest place change).requests[q]? = some request' ↔
      ∃ request, bridge.requests[q]? = some request ∧
        request' = if q = place then change request else request := by
  show (bridge.requests.modify place change)[q]? = some request' ↔ _
  rw [List.getElem?_modify, Option.map_eq_map, Option.map_eq_some_iff]
  simp only [eq_comm]

/-- The requests after a new one: those before, and the new one behind them. -/
theorem requests_concat_eq_some_iff {requests : List Request} {new request : Request} {q : Nat} :
    (requests ++ [new])[q]? = some request ↔
      requests[q]? = some request ∨ q = requests.length ∧ request = new := by
  rcases Nat.lt_trichotomy q requests.length with hlt | rfl | hgt
  · rw [List.getElem?_append_left hlt]
    simp [hlt.ne]
  · simp [eq_comm]
  · rw [List.getElem?_eq_none (by simpa using Nat.succ_le_of_lt hgt), List.getElem?_eq_none hgt.le]
    simp [hgt.ne']

@[simp] theorem length_requests_modifyRequest (bridge : Bridge) (place : Nat)
    (change : Request → Request) :
    (bridge.modifyRequest place change).requests.length = bridge.requests.length :=
  List.length_modify ..

@[simp] theorem log_tell (bridge : Bridge) (place : Nat) (request : Request) (notice : Notice) :
    (bridge.tell place request notice).log =
      bridge.log ++ [bridge.callback place request notice] := rfl

@[simp] theorem requests_tell (bridge : Bridge) (place : Nat) (request : Request)
    (notice : Notice) : (bridge.tell place request notice).requests = bridge.requests := rfl

@[simp] theorem toldTo_modifyRequest (bridge : Bridge) (place : Nat) (change : Request → Request)
    (q : Nat) : (bridge.modifyRequest place change).toldTo q = bridge.toldTo q := rfl

@[simp] theorem toldTo_retire (bridge : Bridge) (place : Nat) (request : Request) (q : Nat) :
    (bridge.retire place request).toldTo q = bridge.toldTo q := rfl

/-- What is told goes behind what was told before, and to one caller only. -/
theorem toldTo_tell (bridge : Bridge) (place : Nat) (request : Request) (notice : Notice)
    (q : Nat) :
    (bridge.tell place request notice).toldTo q =
      bridge.toldTo q ++ if q = place then [bridge.callback place request notice] else [] := by
  rw [toldTo, log_tell, List.filter_append]
  by_cases hq : q = place
  · simp [toldTo, callback, hq]
  · simp [toldTo, callback, hq, Ne.symm hq]

/-! ### Moves -/

/-- One change to a bridge, with the place of the request that it is about. -/
inductive Move : Nat → Bridge → Bridge → Prop
  /-- A new request gets a number. -/
  | register {bridge : Bridge} {n : Int32} {registry : Registry Nat} (command : Command)
      (session : Session)
      (halloc : bridge.registry.allocate? (fun _ => bridge.requests.length) = some (n, registry)) :
      Move bridge.requests.length bridge
        { bridge with registry, requests := bridge.requests ++ [bridge.fresh command session n] }
  /-- The text of a request is recorded. -/
  | record {bridge : Bridge} {place : Nat} (text : String) :
      Move place bridge (bridge.modifyRequest place ({ · with wireText := some text }))
  /-- A request takes note of an estimate. -/
  | hear {bridge : Bridge} {place : Nat} {request : Request}
      (hrequest : bridge.requests[place]? = some request) (hopen : request.completed = false)
      (text : String) : Move place bridge (bridge.modifyRequest place (·.hear text))
  /-- A caller is told a keep-alive. -/
  | relay {bridge : Bridge} {place : Nat} {request : Request}
      (hrequest : bridge.requests[place]? = some request) (hopen : request.completed = false)
      (timeToComplete : Span) :
      Move place bridge
        ((bridge.modifyRequest place ({ · with keepAlives := request.keepAlives + 1 })).tell place
          request (.keepAlive timeToComplete))
  /-- A request is over, and its caller is told the outcome. -/
  | retire {bridge : Bridge} {place : Nat} {request : Request}
      (hrequest : bridge.requests[place]? = some request) (hopen : request.completed = false)
      (outcome : Outcome) :
      Move place bridge ((bridge.retire place request).tell place request (.done outcome))
  /-- The link changes, or whether messages are to be dispatched. -/
  | surroundings {bridge : Bridge} {place : Nat} (link : Link) (running : Bool) :
      Move place bridge (bridge.around link running)

namespace Move

variable {place : Nat} {bridge after : Bridge}

/-- A request that a move is not about stays as it is. -/
theorem request_of_ne (h : Move place bridge after) {q : Nat} (hne : q ≠ place) :
    after.requests[q]? = bridge.requests[q]? := by
  cases h with
  | register command session halloc =>
      rcases Nat.lt_or_gt_of_ne hne with hlt | hgt
      · exact List.getElem?_append_left hlt
      · rw [List.getElem?_eq_none hgt.le, List.getElem?_eq_none]
        simpa using Nat.succ_le_of_lt hgt
  | record text => exact requests_modifyRequest_of_ne bridge hne _
  | hear hrequest hopen text => exact requests_modifyRequest_of_ne bridge hne _
  | relay hrequest hopen timeToComplete => exact requests_modifyRequest_of_ne bridge hne _
  | retire hrequest hopen outcome => exact requests_modifyRequest_of_ne bridge hne _
  | surroundings link running => rfl

/-- Nobody else is told anything. -/
theorem toldTo_of_ne (h : Move place bridge after) {q : Nat} (hne : q ≠ place) :
    after.toldTo q = bridge.toldTo q := by
  cases h with
  | relay hrequest hopen timeToComplete =>
      rw [toldTo_tell, if_neg hne, List.append_nil, toldTo_modifyRequest]
  | retire hrequest hopen outcome =>
      rw [toldTo_tell, if_neg hne, List.append_nil, toldTo_retire]
  | _ => rfl

/-- What was told stays told. -/
theorem log_prefix (h : Move place bridge after) : bridge.log <+: after.log := by
  cases h with
  | relay hrequest hopen timeToComplete => exact List.prefix_append ..
  | retire hrequest hopen outcome => exact List.prefix_append ..
  | _ => exact List.prefix_rfl

/-- Requests are never dropped. -/
theorem length_le (h : Move place bridge after) :
    bridge.requests.length ≤ after.requests.length := by
  cases h <;> simp [Bridge.retire]

/-- Only the registration of a request makes them more. -/
theorem length_eq (h : Move place bridge after) (hplace : place < bridge.requests.length) :
    after.requests.length = bridge.requests.length := by
  cases h with
  | register command session halloc => exact absurd hplace (Nat.lt_irrefl _)
  | _ => simp [Bridge.retire]

theorem dialect_eq (h : Move place bridge after) : after.dialect = bridge.dialect := by
  cases h <;> rfl

theorem endpoint_eq (h : Move place bridge after) : after.endpoint = bridge.endpoint := by
  cases h <;> rfl

theorem clock_eq (h : Move place bridge after) : after.clock = bridge.clock := by
  cases h <;> rfl

/-- The counter moves for a new request only. -/
theorem last_eq (h : Move place bridge after) (hplace : place < bridge.requests.length) :
    after.registry.last = bridge.registry.last := by
  cases h with
  | register command session halloc => exact absurd hplace (Nat.lt_irrefl _)
  | _ => rfl

/-- The caller of a request that is over is told nothing. -/
theorem toldTo_of_completed (h : Move place bridge after) {q : Nat} {request : Request}
    (hrequest : bridge.requests[q]? = some request) (hcompleted : request.completed = true) :
    after.toldTo q = bridge.toldTo q := by
  by_cases hne : q = place
  · subst hne
    cases h with
    | relay hrequest' hopen timeToComplete =>
        obtain rfl := Option.some.inj (hrequest'.symm.trans hrequest)
        exact absurd hopen (by simp [hcompleted])
    | retire hrequest' hopen outcome =>
        obtain rfl := Option.some.inj (hrequest'.symm.trans hrequest)
        exact absurd hopen (by simp [hcompleted])
    | _ => rfl
  · exact h.toldTo_of_ne hne

/-- **Requests only go forward.** -/
theorem progress (h : Move place bridge after) {q : Nat} {request : Request}
    (hrequest : bridge.requests[q]? = some request) :
    ∃ request', after.requests[q]? = some request' ∧ request.Progress request' := by
  by_cases hne : q = place
  · subst hne
    cases h with
    | register command session halloc =>
        rw [List.getElem?_eq_none (Nat.le_refl _)] at hrequest
        exact absurd hrequest (by simp)
    | record text =>
        exact ⟨_, requests_modifyRequest_self bridge hrequest _, rfl, rfl, fun _ => rfl, id,
          Or.inl rfl⟩
    | hear hreq hopen text =>
        exact ⟨_, requests_modifyRequest_self bridge hrequest _, rfl, rfl, id, id, Or.inl rfl⟩
    | relay hreq hopen timeToComplete =>
        exact ⟨_, requests_modifyRequest_self bridge hrequest _, rfl, rfl, id, id, Or.inl rfl⟩
    | retire hreq hopen outcome =>
        exact ⟨_, requests_modifyRequest_self bridge hrequest _, rfl, rfl, id, fun _ => rfl,
          Or.inr rfl⟩
    | surroundings link running => exact ⟨request, hrequest, .refl request⟩
  · exact ⟨request, (h.request_of_ne hne).trans hrequest, .refl request⟩

end Move

/-! ### Sequences of moves -/

/-- A sequence of moves about requests whose places satisfy `touched`. -/
def Moves (touched : Nat → Prop) : Bridge → Bridge → Prop :=
  Relation.ReflTransGen fun bridge after => ∃ place, touched place ∧ Move place bridge after

namespace Moves

variable {touched : Nat → Prop} {first second third : Bridge}

theorem refl (bridge : Bridge) : Moves touched bridge bridge := Relation.ReflTransGen.refl

theorem single {place : Nat} (hplace : touched place) (h : Move place first second) :
    Moves touched first second :=
  Relation.ReflTransGen.single ⟨place, hplace, h⟩

theorem trans (h : Moves touched first second) (h' : Moves touched second third) :
    Moves touched first third :=
  Relation.ReflTransGen.trans h h'

theorem mono {wider : Nat → Prop} (hwider : ∀ q, touched q → wider q)
    (h : Moves touched first second) : Moves wider first second :=
  Relation.ReflTransGen.mono
    (fun _ _ ⟨place, hplace, hmove⟩ => ⟨place, hwider place hplace, hmove⟩) _ _ h

/-- What every move keeps, a sequence of them keeps. -/
theorem induction {motive : Bridge → Prop} (h : Moves touched first second)
    (hmove : ∀ place bridge after, Move place bridge after → touched place → motive bridge →
      motive after) (hfirst : motive first) : motive second := by
  induction h with
  | refl => exact hfirst
  | tail _ hstep ih =>
      obtain ⟨place, hplace, hm⟩ := hstep
      exact hmove place _ _ hm hplace ih

/-- **Frame.** A request at a place that is not touched stays as it is. -/
theorem request_of_not_touched (h : Moves touched first second) {q : Nat} (hq : ¬touched q) :
    second.requests[q]? = first.requests[q]? := by
  refine h.induction (motive := fun bridge => bridge.requests[q]? = first.requests[q]?) ?_ rfl
  intro place bridge after hm hplace ih
  have hne : q ≠ place := fun heq => hq (heq ▸ hplace)
  exact (hm.request_of_ne hne).trans ih

/-- Its caller is told nothing. -/
theorem toldTo_of_not_touched (h : Moves touched first second) {q : Nat} (hq : ¬touched q) :
    second.toldTo q = first.toldTo q := by
  refine h.induction (motive := fun bridge => bridge.toldTo q = first.toldTo q) ?_ rfl
  intro place bridge after hm hplace ih
  have hne : q ≠ place := fun heq => hq (heq ▸ hplace)
  exact (hm.toldTo_of_ne hne).trans ih

theorem log_prefix (h : Moves touched first second) : first.log <+: second.log :=
  h.induction (motive := fun bridge => first.log <+: bridge.log)
    (fun _ _ _ hm _ ih => ih.trans hm.log_prefix) List.prefix_rfl

theorem length_le (h : Moves touched first second) :
    first.requests.length ≤ second.requests.length := by
  refine h.induction (motive := fun bridge => first.requests.length ≤ bridge.requests.length) ?_
    le_rfl
  intro place bridge after hm _ ih
  exact ih.trans hm.length_le

theorem progress (h : Moves touched first second) {q : Nat} {request : Request}
    (hrequest : first.requests[q]? = some request) :
    ∃ request', second.requests[q]? = some request' ∧ request.Progress request' := by
  refine h.induction (motive := fun bridge => ∃ request', bridge.requests[q]? = some request' ∧
    request.Progress request') ?_ ⟨request, hrequest, .refl request⟩
  intro place bridge after hm _ ih
  obtain ⟨request', hrequest', hprogress⟩ := ih
  obtain ⟨request'', hrequest'', hprogress'⟩ := hm.progress hrequest'
  exact ⟨request'', hrequest'', hprogress.trans hprogress'⟩

theorem dialect_eq (h : Moves touched first second) : second.dialect = first.dialect :=
  h.induction (fun _ _ _ hm _ ih => hm.dialect_eq.trans ih) rfl

theorem endpoint_eq (h : Moves touched first second) : second.endpoint = first.endpoint :=
  h.induction (fun _ _ _ hm _ ih => hm.endpoint_eq.trans ih) rfl

theorem clock_eq (h : Moves touched first second) : second.clock = first.clock :=
  h.induction (fun _ _ _ hm _ ih => hm.clock_eq.trans ih) rfl

/-- Nothing is told behind the outcome. -/
theorem toldTo_of_completed (h : Moves touched first second) {q : Nat} {request : Request}
    (hrequest : first.requests[q]? = some request) (hcompleted : request.completed = true) :
    second.toldTo q = first.toldTo q := by
  refine (h.induction (motive := fun bridge => bridge.toldTo q = first.toldTo q ∧
    ∃ request', bridge.requests[q]? = some request' ∧ request'.completed = true) ?_
    ⟨rfl, request, hrequest, hcompleted⟩).1
  intro place bridge after hm _ ih
  obtain ⟨htold, request', hrequest', hcompleted'⟩ := ih
  obtain ⟨request'', hrequest'', hprogress⟩ := hm.progress hrequest'
  exact ⟨(hm.toldTo_of_completed hrequest' hcompleted').trans htold, request'', hrequest'',
    hprogress.completed hcompleted'⟩

/-- Moves about requests that are there make no new ones. -/
theorem length_eq (h : Moves touched first second)
    (htouched : ∀ q, touched q → q < first.requests.length) :
    second.requests.length = first.requests.length := by
  refine h.induction
    (motive := fun bridge => bridge.requests.length = first.requests.length) ?_ rfl
  intro place bridge after hm hplace ih
  exact (hm.length_eq (ih.symm ▸ htouched place hplace)).trans ih

theorem last_eq (h : Moves touched first second)
    (htouched : ∀ q, touched q → q < first.requests.length) :
    second.registry.last = first.registry.last := by
  refine (h.induction (motive := fun bridge =>
    bridge.requests.length = first.requests.length ∧ bridge.registry.last = first.registry.last) ?_
    ⟨rfl, rfl⟩).2
  intro place bridge after hm hplace ih
  have hlt : place < bridge.requests.length := ih.1.symm ▸ htouched place hplace
  exact ⟨(hm.length_eq hlt).trans ih.1, (hm.last_eq hlt).trans ih.2⟩

/-- After such moves, every request comes from one before. -/
theorem exists_before (h : Moves touched first second)
    (htouched : ∀ q, touched q → q < first.requests.length) {q : Nat} {request' : Request}
    (hrequest' : second.requests[q]? = some request') :
    ∃ request, first.requests[q]? = some request ∧ request.Progress request' := by
  have hlt : q < first.requests.length :=
    h.length_eq htouched ▸ (List.getElem?_eq_some_iff.mp hrequest').1
  obtain ⟨request'', hrequest'', hprogress⟩ := h.progress (List.getElem?_eq_getElem hlt)
  rw [hrequest'] at hrequest''
  exact ⟨_, List.getElem?_eq_getElem hlt, Option.some.inj hrequest'' ▸ hprogress⟩

end Moves

end Bridge

end TelescopeLink
