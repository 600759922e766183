import Mathlib.Data.List.Forall2
import SeedGate.Proofs.Requests

/-!
# Sessions step by step

A session is played one request after the other, each on the state that the one
before it has left, until the list is at its end or a request does not finish
(`play_cons`, `length_play`). So what holds of each request in any state holds of every step of
a session (`forall₂_play`), also where it is about that state (`along_play`), and what
happens in a session of one generator comes of calling its source (`leads_last`).
-/

namespace SeedGate

open Event Bytes

variable {σ ι : Type}

/-! ## What one request does to the source -/

theorem leads_isSeeded (g : Generator σ ι) (s : σ) :
    g.source.Leads s (g.isSeeded s).events (g.isSeeded s).state := by
  rw [events_isSeeded, state_isSeeded]
  exact .asking s

theorem leads_tryRandom (g : Generator σ ι) (fuel : Nat) (buffer : Bytes) (s : σ) :
    g.source.Leads s (g.tryRandom fuel buffer s).events (g.tryRandom fuel buffer s).state :=
  (attempt_tryRandom g fuel buffer s).leads

/-- What happens in the course of a request comes of calling the source. -/
theorem leads_serve (g : Generator σ ι) (fuel : Nat) (request : Request) (s : σ) :
    g.source.Leads s (g.serve fuel request s).events (g.serve fuel request s).state := by
  cases request with
  | poll => exact (polling_poll g fuel s).leads
  | isSeeded => exact leads_isSeeded g s
  | random buffer =>
    have h := leads_tryRandom g fuel buffer s
    simp only [Generator.serve, Generator.random, BufferRun.step]
    split
    · exact h
    · exact h
    · exact h
    · exact h.trans (.note _ (.refl _))
  | randomVec n =>
    simp only [Generator.serve, Generator.randomVec_eq, Run.step]
    split
    · exact .refl s
    · exact leads_tryRandom g fuel (zeros n) s
  | randomArray n => exact leads_tryRandom g fuel (zeros n) s
  | nextU32 => exact leads_tryRandom g fuel (zeros 4) s
  | nextU64 => exact leads_tryRandom g fuel (zeros 8) s
  | tryRandom buffer | fillBytes buffer | tryFillBytes buffer =>
    exact leads_tryRandom g fuel buffer s

/-! ## Playing a session -/

namespace Session

variable {fuel : Nat}

/-- The state at the end of a session. -/
def last (s : σ) (steps : List (Step σ ι)) : σ := steps.foldl (fun _ step => step.state) s

theorem last_cons (s : σ) (step : Step σ ι) (steps : List (Step σ ι)) :
    last s (step :: steps) = last step.state steps := rfl

/-- A request that does not finish is the last. -/
theorem play_cons_of_cut {g : Generator σ ι} {request : Request} {s : σ}
    (h : (g.serve fuel request s).ending = .unfinished)
    (rest : List (Generator σ ι × Request)) :
    play fuel ((g, request) :: rest) s = [g.serve fuel request s] := by
  simp only [play, h]

/-- After a request that finishes the session goes on from the state that it left. -/
theorem play_cons_of_finished {g : Generator σ ι} {request : Request} {s : σ}
    (h : (g.serve fuel request s).ending ≠ .unfinished)
    (rest : List (Generator σ ι × Request)) :
    play fuel ((g, request) :: rest) s =
      g.serve fuel request s :: play fuel rest (g.serve fuel request s).state := by
  rw [play]
  split
  · exact absurd ‹_› h
  · rfl

/-- Either way, the session begins with the step of its first request. -/
theorem play_cons (g : Generator σ ι) (request : Request) (rest : List (Generator σ ι × Request))
    (s : σ) :
    ((g.serve fuel request s).ending = .unfinished ∧
        play fuel ((g, request) :: rest) s = [g.serve fuel request s]) ∨
      ((g.serve fuel request s).ending ≠ .unfinished ∧
        play fuel ((g, request) :: rest) s =
          g.serve fuel request s :: play fuel rest (g.serve fuel request s).state) := by
  by_cases h : (g.serve fuel request s).ending = .unfinished
  · exact .inl ⟨h, play_cons_of_cut h rest⟩
  · exact .inr ⟨h, play_cons_of_finished h rest⟩

/-- A session in two parts: the second goes on from the state that the first has left. -/
theorem play_append {before : List (Generator σ ι × Request)} {s : σ}
    (h : ∀ step ∈ play fuel before s, step.ending ≠ .unfinished)
    (after : List (Generator σ ι × Request)) :
    play fuel (before ++ after) s =
      play fuel before s ++ play fuel after (last s (play fuel before s)) := by
  induction before generalizing s with
  | nil => rfl
  | cons call rest ih =>
    obtain ⟨g, request⟩ := call
    rcases play_cons g request rest s with ⟨hcut, hplay⟩ | ⟨hfinished, hplay⟩
    · rw [hplay] at h
      exact absurd hcut (h _ (List.mem_singleton_self _))
    · rw [hplay] at h ⊢
      rw [List.cons_append, play_cons_of_finished hfinished, List.cons_append, last_cons,
        ih fun step hstep => h step (List.mem_cons_of_mem _ hstep)]

/-- A session is played to its end, or to a request that does not finish. -/
theorem length_play (session : List (Generator σ ι × Request)) (s : σ) :
    (play fuel session s).length = session.length ∨
      ∃ step ∈ (play fuel session s).getLast?, step.ending = .unfinished := by
  induction session generalizing s with
  | nil => exact .inl rfl
  | cons call rest ih =>
    obtain ⟨g, request⟩ := call
    rcases play_cons g request rest s with ⟨hcut, hplay⟩ | ⟨_, hplay⟩
    · rw [hplay]
      exact .inr ⟨_, rfl, hcut⟩
    rw [hplay]
    rcases ih (g.serve fuel request s).state with hlength | ⟨step, hlast, hcut⟩
    · exact .inl (congrArg (· + 1) hlength)
    · refine .inr ⟨step, ?_, hcut⟩
      rw [Option.mem_def] at hlast ⊢
      rw [List.getLast?_cons, hlast]
      rfl

/-- What holds of every request in every state holds of every step of a session. -/
theorem forall₂_play {P : Generator σ ι × Request → Step σ ι → Prop}
    (h : ∀ g request s, P (g, request) (g.serve fuel request s))
    (session : List (Generator σ ι × Request)) (s : σ) :
    List.Forall₂ P (session.take (play fuel session s).length) (play fuel session s) := by
  induction session generalizing s with
  | nil => exact .nil
  | cons call rest ih =>
    obtain ⟨g, request⟩ := call
    rcases play_cons g request rest s with ⟨_, hplay⟩ | ⟨_, hplay⟩
    · rw [hplay]
      exact .cons (h g request s) .nil
    · rw [hplay]
      exact .cons (h g request s) (ih _)

theorem length_play_le (session : List (Generator σ ι × Request)) (s : σ) :
    (play fuel session s).length ≤ session.length := by
  have h : (session.take (play fuel session s).length).length = (play fuel session s).length :=
    (forall₂_play (P := fun _ _ => True) (fun _ _ _ => trivial) session s).length_eq
  rw [List.length_take] at h
  omega

/-- The relation holds of each request and its step, in the state that the step before it
    has left. -/
inductive Along (P : σ → Request → Step σ ι → Prop) : σ → List Request → List (Step σ ι) → Prop
  | nil (s : σ) : Along P s [] []
  | cons {s : σ} {request : Request} {requests : List Request} {step : Step σ ι}
      {steps : List (Step σ ι)} (h : P s request step) (hrest : Along P step.state requests steps) :
      Along P s (request :: requests) (step :: steps)

/-- What holds of every request in every state holds along a session of one generator in
    which every request finishes. -/
theorem along_play {g : Generator σ ι} {P : σ → Request → Step σ ι → Prop}
    (hfinished : ∀ request s, (g.serve fuel request s).ending ≠ .unfinished)
    (h : ∀ request s, P s request (g.serve fuel request s)) (requests : List Request) (s : σ) :
    Along P s requests (play fuel (requests.map (g, ·)) s) := by
  induction requests generalizing s with
  | nil => exact .nil s
  | cons request rest ih =>
    rw [List.map_cons, play_cons_of_finished (hfinished request s)]
    exact .cons (h request s) (ih _)

/-- What happens in a session of one generator comes of calling its source. -/
theorem leads_last (g : Generator σ ι) (requests : List Request) (s : σ) :
    let steps := play fuel (requests.map (g, ·)) s
    g.source.Leads s (steps.flatMap (·.events)) (last s steps) := by
  induction requests generalizing s with
  | nil => exact .refl s
  | cons request rest ih =>
    dsimp only
    rw [List.map_cons]
    rcases play_cons g request (rest.map (g, ·)) s with ⟨_, hplay⟩ | ⟨_, hplay⟩
    · rw [hplay, List.flatMap_cons, List.flatMap_nil, List.append_nil]
      exact leads_serve g fuel request s
    · rw [hplay]
      exact (leads_serve g fuel request s).trans (ih _)

theorem leads_play (g : Generator σ ι) (requests : List Request) (s : σ) :
    ∃ t, g.source.Leads s ((play fuel (requests.map (g, ·)) s).flatMap (·.events)) t :=
  ⟨_, leads_last g requests s⟩

end Session

end SeedGate
