import SeedGate.Source

/-!
# Calls

What reaches a source in the course of an operation are its *calls*: the events
that are neither notes nor happenings inside the source (`Event.calls`). Each has
the answer that the source gave.

Events are no free invention of whoever records them. `Source.Leads s events t`
says that they are what comes of calling the source one call after the other,
from the state `s` to the state `t`, with notes in between. Two stretches that
meet in a state make one (`Source.Leads.trans`).
-/

namespace SeedGate

variable {α σ ι : Type}

/-- A call that reaches a source, with its answer. -/
inductive Call where
  | status (answer : Int)
  | gather (answer : Int)
  | fill (entry : Bytes) (answer : Except Fault Unit)

namespace Event

/-- The call that an event is, if it is one. -/
def call? : Event ι → Option Call
  | .status answer => some (.status answer)
  | .gather answer => some (.gather answer)
  | .fill entry answer => some (.fill entry answer)
  | .inside _ => none
  | .note _ => none

/-- The calls among events, in their order. -/
def calls (events : List (Event ι)) : List Call := events.filterMap call?

@[simp] theorem calls_nil : calls ([] : List (Event ι)) = [] := rfl

@[simp] theorem calls_append (a b : List (Event ι)) : calls (a ++ b) = calls a ++ calls b :=
  List.filterMap_append

@[simp] theorem calls_note (note : Log.Note) (events : List (Event ι)) :
    calls (.note note :: events) = calls events := rfl

end Event

open Event

/-- Of what happens in a call, the call itself is all that reaches the source. -/
@[simp] theorem calls_events (reply : Reply α σ ι) (call : Event ι) :
    calls (reply.events call) = call.call?.toList := by
  have hinside : calls (reply.record.map Event.inside) = [] := by
    rw [calls, List.filterMap_map]
    exact List.filterMap_eq_nil_iff.2 fun _ _ => rfl
  rw [Reply.events, calls_append, hinside, List.nil_append]
  cases call <;> rfl

/-! ## Calling a source -/

namespace Source

variable (source : Source σ ι)

/-- What happens when the status is asked for. -/
def asking (s : σ) : List (Event ι) :=
  (source.status s).events (.status (source.status s).answer)

/-- What happens in a pass of gathering. -/
def gathering (s : σ) : List (Event ι) :=
  (source.gather s).events (.gather (source.gather s).answer)

/-- What happens when a buffer is filled. -/
def filling (buffer : Bytes) (s : σ) : List (Event ι) :=
  (source.fill buffer s).toReply.events (.fill buffer (source.fill buffer s).answer)

@[simp] theorem calls_asking (s : σ) :
    calls (source.asking s) = [.status (source.status s).answer] := calls_events _ _

@[simp] theorem calls_gathering (s : σ) :
    calls (source.gathering s) = [.gather (source.gather s).answer] := calls_events _ _

@[simp] theorem calls_filling (buffer : Bytes) (s : σ) :
    calls (source.filling buffer s) = [.fill buffer (source.fill buffer s).answer] :=
  calls_events _ _

/-- These events are what comes of calling the source, from the first state to the
    second. -/
inductive Leads : σ → List (Event ι) → σ → Prop
  | refl (s : σ) : Leads s [] s
  | note {s t : σ} {events : List (Event ι)} (note : Log.Note) :
      Leads s events t → Leads s (.note note :: events) t
  | status {s t : σ} {events : List (Event ι)} :
      Leads (source.status s).state events t → Leads s (source.asking s ++ events) t
  | gather {s t : σ} {events : List (Event ι)} :
      Leads (source.gather s).state events t → Leads s (source.gathering s ++ events) t
  | fill {s t : σ} {events : List (Event ι)} (buffer : Bytes) :
      Leads (source.fill buffer s).state events t → Leads s (source.filling buffer s ++ events) t

namespace Leads

variable {source} {r s t : σ} {events later : List (Event ι)}

theorem trans (h : source.Leads r events s) (hlater : source.Leads s later t) :
    source.Leads r (events ++ later) t := by
  induction h with
  | refl => exact hlater
  | note note _ ih => exact .note note (ih hlater)
  | status _ ih =>
    rw [List.append_assoc]
    exact .status (ih hlater)
  | gather _ ih =>
    rw [List.append_assoc]
    exact .gather (ih hlater)
  | fill buffer _ ih =>
    rw [List.append_assoc]
    exact .fill buffer (ih hlater)

/-- Asking for the status, and nothing else. -/
theorem asking (s : σ) : source.Leads s (source.asking s) (source.status s).state :=
  List.append_nil (source.asking s) ▸ .status (.refl _)

/-- A pass of gathering, and nothing else. -/
theorem gathering (s : σ) : source.Leads s (source.gathering s) (source.gather s).state :=
  List.append_nil (source.gathering s) ▸ .gather (.refl _)

/-- A fill, and nothing else. -/
theorem filling (buffer : Bytes) (s : σ) :
    source.Leads s (source.filling buffer s) (source.fill buffer s).state :=
  List.append_nil (source.filling buffer s) ▸ .fill buffer (.refl _)

end Leads

end Source

end SeedGate
