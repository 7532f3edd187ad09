import Storefront.Checkout.Dialogue

/-!
# Conversations

What can be said when a dialogue is held. `Request.Answers` are the answers that a caller can get:
an interruption, or whatever comes of checking an arbitrary reply. `Dialogue.Plays` runs a dialogue
against all of them, so what is shown of its plays holds whatever the collaborators do. The lemmas
about placements read a play off the way in which the placement is put together; `plays_bind` is
the one that the others are for. A dialogue that halts at a call was going to be played,
`Dialogue.Halts.exists_plays`.
-/

namespace Storefront

/-- What is not an error after errors were renamed was not one before. -/
theorem eq_ok_of_mapError {ε δ α : Type} {f : ε → δ} {x : Except ε α} {a : α}
    (h : x.mapError f = .ok a) : x = .ok a := by
  cases x with
  | error e => cases h
  | ok value =>
      cases h
      rfl

/-- An answer that a caller can get to a request: it is interrupted, or the collaborator replies,
and the reply is checked. -/
inductive Request.Answers (request : Request) : Except CallFailure request.Accepted → Prop where
  | interrupted (reason : Interruption) : Answers request (.error (.interrupted reason))
  | replied (reply : Except TransportError request.Reply) :
      Answers request ((request.accept reply).mapError .transport)

/-- A request and the answer to it. -/
structure Call where
  request : Request
  answer : Except CallFailure request.Accepted

/-- Something that happens in a conversation. -/
inductive Event where
  | asked (call : Call)
  | consulted (diverted : Bool)
  | noted (note : Note)

namespace Event

/-- The call, if something was asked. -/
def call? : Event → Option Call
  | asked call => some call
  | consulted _ | noted _ => none

/-- Whether charges are to be diverted, if that was asked. -/
def consultation? : Event → Option Bool
  | consulted diverted => some diverted
  | asked _ | noted _ => none

end Event

/-- The calls of a conversation, in order. -/
def callsOf (events : List Event) : List Call :=
  events.filterMap Event.call?

/-- What a conversation was told about charges, in order. -/
def consultations (events : List Event) : List Bool :=
  events.filterMap Event.consultation?

@[simp] theorem callsOf_nil : callsOf [] = [] := rfl

@[simp] theorem callsOf_append (first rest : List Event) :
    callsOf (first ++ rest) = callsOf first ++ callsOf rest :=
  List.filterMap_append

@[simp] theorem callsOf_asked (call : Call) (events : List Event) :
    callsOf (.asked call :: events) = call :: callsOf events := rfl

@[simp] theorem callsOf_consulted (diverted : Bool) (events : List Event) :
    callsOf (.consulted diverted :: events) = callsOf events := rfl

@[simp] theorem callsOf_noted (note : Note) (events : List Event) :
    callsOf (.noted note :: events) = callsOf events := rfl

@[simp] theorem callsOf_map_asked (calls : List Call) :
    callsOf (calls.map .asked) = calls := by
  induction calls with
  | nil => rfl
  | cons call rest ih => rw [List.map_cons, callsOf_asked, ih]

@[simp] theorem consultations_nil : consultations [] = [] := rfl

@[simp] theorem consultations_append (first rest : List Event) :
    consultations (first ++ rest) = consultations first ++ consultations rest :=
  List.filterMap_append

@[simp] theorem consultations_asked (call : Call) (events : List Event) :
    consultations (.asked call :: events) = consultations events := rfl

@[simp] theorem consultations_consulted (diverted : Bool) (events : List Event) :
    consultations (.consulted diverted :: events) = diverted :: consultations events := rfl

@[simp] theorem consultations_noted (note : Note) (events : List Event) :
    consultations (.noted note :: events) = consultations events := rfl

@[simp] theorem consultations_map_asked (calls : List Call) :
    consultations (calls.map .asked) = [] := by
  induction calls with
  | nil => rfl
  | cons call rest ih => rw [List.map_cons, consultations_asked, ih]

namespace Dialogue

variable {α β : Type}

/-- `d.Plays events value` says that the dialogue `d` can go as `events` and end with `value`. -/
inductive Plays : Dialogue α → List Event → α → Prop where
  | done (value) : Plays (.done value) [] value
  | asked {request next answer events value} :
      request.Answers answer → Plays (next answer) events value →
      Plays (.ask request next) (.asked ⟨request, answer⟩ :: events) value
  | consulted {next diverted events value} :
      Plays (next diverted) events value →
      Plays (.consult next) (.consulted diverted :: events) value
  | noted {note next events value} :
      Plays next events value → Plays (.note note next) (.noted note :: events) value

/-- A dialogue that is done has nothing more to say. -/
theorem plays_done {value other : α} {events : List Event} (h : Plays (.done value) events other) :
    events = [] ∧ other = value := by
  cases h
  exact ⟨rfl, rfl⟩

/-- A play of a composed dialogue is a play of the first part and then one of the second. -/
theorem plays_of_bind {d : Dialogue α} {f : α → Dialogue β} {events : List Event} {value : β}
    (h : Plays (d.bind f) events value) :
    ∃ middle first rest, events = first ++ rest ∧ Plays d first middle ∧
      Plays (f middle) rest value := by
  induction d generalizing events with
  -- The first part is over, so all that is left belongs to the second.
  | done middle => exact ⟨middle, [], events, rfl, .done middle, h⟩
  | ask request next ih =>
      cases h with
      | asked hanswer h =>
          obtain ⟨middle, first, rest, rfl, hfirst, hrest⟩ := ih _ h
          exact ⟨middle, _, rest, rfl, .asked hanswer hfirst, hrest⟩
  | consult next ih =>
      cases h with
      | consulted h =>
          obtain ⟨middle, first, rest, rfl, hfirst, hrest⟩ := ih _ h
          exact ⟨middle, _, rest, rfl, .consulted hfirst, hrest⟩
  | note n next ih =>
      cases h with
      | noted h =>
          obtain ⟨middle, first, rest, rfl, hfirst, hrest⟩ := ih h
          exact ⟨middle, _, rest, rfl, .noted hfirst, hrest⟩

/-- `d.Halts events request` says that the dialogue `d` can go as `events` and then asks a request
whose answer is not waited for. -/
inductive Halts : Dialogue α → List Event → Request → Prop where
  | waiting {request next} : Halts (.ask request next) [] request
  | asked {request next answer events pending} :
      request.Answers answer → Halts (next answer) events pending →
      Halts (.ask request next) (.asked ⟨request, answer⟩ :: events) pending
  | consulted {next diverted events pending} :
      Halts (next diverted) events pending →
      Halts (.consult next) (.consulted diverted :: events) pending
  | noted {note next events pending} :
      Halts next events pending → Halts (.note note next) (.noted note :: events) pending

/-- Every dialogue can be played: every call can be interrupted. -/
theorem exists_play (d : Dialogue α) : ∃ events value, d.Plays events value := by
  induction d with
  | done value => exact ⟨[], value, .done value⟩
  | ask request next ih =>
      obtain ⟨events, value, hplays⟩ := ih (.error (.interrupted .cancelled))
      exact ⟨_, value, .asked (.interrupted .cancelled) hplays⟩
  | consult next ih =>
      obtain ⟨events, value, hplays⟩ := ih false
      exact ⟨_, value, .consulted hplays⟩
  | note n next ih =>
      obtain ⟨events, value, hplays⟩ := ih
      exact ⟨_, value, .noted hplays⟩

/-- What has been said before a dialogue halts is the beginning of a play. -/
theorem Halts.exists_plays {d : Dialogue α} {events : List Event} {pending : Request}
    (h : d.Halts events pending) :
    ∃ rest value, d.Plays
      (events ++ .asked ⟨pending, .error (.interrupted .cancelled)⟩ :: rest) value := by
  induction h with
  | @waiting request next =>
      obtain ⟨rest, value, hplays⟩ := (next (.error (.interrupted .cancelled))).exists_play
      exact ⟨rest, value, .asked (.interrupted .cancelled) hplays⟩
  | asked hanswer _ ih =>
      obtain ⟨rest, value, hplays⟩ := ih
      exact ⟨rest, value, .asked hanswer hplays⟩
  | consulted _ ih =>
      obtain ⟨rest, value, hplays⟩ := ih
      exact ⟨rest, value, .consulted hplays⟩
  | noted _ ih =>
      obtain ⟨rest, value, hplays⟩ := ih
      exact ⟨rest, value, .noted hplays⟩

end Dialogue

namespace Placement

variable {α β : Type} {events : List Event}

/-- `p.Plays events result` says that the placement `p` can go as `events` and end with `result`. -/
abbrev Plays (p : Placement α) (events : List Event) (result : Except PlacementError α) : Prop :=
  Dialogue.Plays p.run events result

/-- A value that is given ends the placement in silence. -/
theorem plays_pure {value : α} {result : Except PlacementError α}
    (h : Plays (pure value) events result) : events = [] ∧ result = .ok value :=
  Dialogue.plays_done h

/-- A failure ends the placement in silence. -/
theorem plays_throw {error : PlacementError} {result : Except PlacementError α}
    (h : Plays (throw error) events result) : events = [] ∧ result = .error error :=
  Dialogue.plays_done h

/-- A requirement is met or fails in silence. -/
theorem plays_require {ε : Type} {wrap : ε → PlacementError} {value : Except ε α}
    {result : Except PlacementError α} (h : Plays (require wrap value) events result) :
    events = [] ∧ ((∃ met, value = .ok met ∧ result = .ok met) ∨
      ∃ error, value = .error error ∧ result = .error (wrap error)) := by
  obtain ⟨rfl, rfl⟩ := Dialogue.plays_done h
  cases value with
  | ok met => exact ⟨rfl, .inl ⟨met, rfl, rfl⟩⟩
  | error error => exact ⟨rfl, .inr ⟨error, rfl, rfl⟩⟩

/-- Either the first part of a placement fails, or it ends with a value and the second part goes
on. -/
theorem plays_bind {p : Placement α} {f : α → Placement β} {result : Except PlacementError β}
    (h : Plays (p >>= f) events result) :
    (∃ error, Plays p events (.error error) ∧ result = .error error) ∨
      ∃ value first rest, events = first ++ rest ∧ Plays p first (.ok value) ∧
        Plays (f value) rest result := by
  obtain ⟨middle, first, rest, rfl, hfirst, hrest⟩ := Dialogue.plays_of_bind h
  cases middle with
  | error error =>
      obtain ⟨rfl, rfl⟩ := Dialogue.plays_done hrest
      rw [List.append_nil]
      exact .inl ⟨error, hfirst, rfl⟩
  | ok value => exact .inr ⟨value, first, rest, rfl, hfirst, hrest⟩

/-- A placement that is caught ends with its value, or its failure is dealt with. -/
theorem plays_tryCatch {p : Placement α} {handle : PlacementError → Placement α}
    {result : Except PlacementError α} (h : Plays (tryCatch p handle) events result) :
    (∃ value, Plays p events (.ok value) ∧ result = .ok value) ∨
      ∃ error first rest, events = first ++ rest ∧ Plays p first (.error error) ∧
        Plays (handle error) rest result := by
  obtain ⟨middle, first, rest, rfl, hfirst, hrest⟩ := Dialogue.plays_of_bind h
  cases middle with
  | error error => exact .inr ⟨error, first, rest, rfl, hfirst, hrest⟩
  | ok value =>
      obtain ⟨rfl, rfl⟩ := Dialogue.plays_done hrest
      rw [List.append_nil]
      exact .inl ⟨value, hfirst, rfl⟩

/-- A mandatory call fails the placement by the error of its step. -/
theorem plays_ask {request : Request} {failure : TransportError → PlacementError}
    {result : Except PlacementError request.Accepted}
    (h : Plays (ask request failure) events result) :
    ∃ answer, request.Answers answer ∧ events = [.asked ⟨request, answer⟩] ∧
      result = answer.mapError (PlacementError.ofCall request.step failure) := by
  cases h with
  | asked hanswer h =>
      obtain ⟨rfl, rfl⟩ := Dialogue.plays_done h
      exact ⟨_, hanswer, rfl, rfl⟩

/-- A best-effort call never fails the placement. -/
theorem plays_attempt {request : Request} {failure : TransportError → BestEffortError}
    {result : Except PlacementError (Except BestEffortError request.Accepted)}
    (h : Plays (attempt request failure) events result) :
    ∃ answer, request.Answers answer ∧ events = [.asked ⟨request, answer⟩] ∧
      result = .ok (answer.mapError fun e ↦ failure e.toTransport) := by
  cases h with
  | asked hanswer h =>
      obtain ⟨rfl, rfl⟩ := Dialogue.plays_done h
      exact ⟨_, hanswer, rfl, rfl⟩

/-- The policy for charges answers one way or the other. -/
theorem plays_consult {result : Except PlacementError Bool} (h : Plays consult events result) :
    ∃ diverted, events = [.consulted diverted] ∧ result = .ok diverted := by
  cases h with
  | consulted h =>
      obtain ⟨rfl, rfl⟩ := Dialogue.plays_done h
      exact ⟨_, rfl, rfl⟩

/-- `p.Tells script value` says that the placement `p` always goes as `script` and ends with
`value`. -/
def Tells (p : Placement α) (script : List Event) (value : α) : Prop :=
  ∀ events result, Plays p events result → events = script ∧ result = .ok value

/-- A note is made and nothing else. -/
theorem tells_note (n : Note) : Tells (note n) [.noted n] () := by
  intro events result h
  cases h with
  | noted h =>
      obtain ⟨rfl, rfl⟩ := Dialogue.plays_done h
      exact ⟨rfl, rfl⟩

/-- A value that is given needs no words. -/
theorem tells_pure (value : α) : Tells (pure value) [] value :=
  fun _ _ h ↦ plays_pure h

/-- What always goes the same way is followed by the rest of the placement. -/
theorem Tells.plays_bind {p : Placement α} {f : α → Placement β} {script : List Event} {value : α}
    {result : Except PlacementError β} (hp : Tells p script value)
    (h : Plays (p >>= f) events result) :
    ∃ rest, events = script ++ rest ∧ Plays (f value) rest result := by
  rcases Placement.plays_bind h with ⟨error, hfirst, -⟩ | ⟨other, first, rest, rfl, hfirst, hrest⟩
  · exact nomatch (hp _ _ hfirst).2
  · obtain ⟨rfl, hvalue⟩ := hp _ _ hfirst
    cases hvalue
    exact ⟨rest, rfl, hrest⟩

/-- Parts that always go the same way make up a placement that does. -/
theorem Tells.bind {p : Placement α} {f : α → Placement β} {script more : List Event} {value : α}
    {final : β} (hp : Tells p script value) (hf : Tells (f value) more final) :
    Tells (p >>= f) (script ++ more) final := by
  intro events result h
  obtain ⟨rest, rfl, hrest⟩ := hp.plays_bind h
  obtain ⟨rfl, rfl⟩ := hf _ _ hrest
  exact ⟨rfl, rfl⟩

end Placement

end Storefront
