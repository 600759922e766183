import Mathlib.Data.Nat.Digits.Defs
import SeedGate.Proofs.Attempt
import SeedGate.Session

/-!
# Requests as attempts

Polling and asking apart, every request has the generator fill one buffer
(`Request.target?`): the one it brings along, or a new one. Its step is what one attempt
at that buffer looks like from the entry point that was taken: the result is put into
other words (`Request.closing`), and a note more or less is made of it
(`Request.recount`). `Shows limit request run step` says so, and whatever a generator
does with a request is such a step (`shows_serve`).

For most purposes less will do. `Serves request run step` says that the step is the
attempt `run` with another face: the same calls, the same state of the source, and for
success the contents of the buffer, handed over in whatever form (`Step.handedOut`).
-/

namespace SeedGate

open Event Bytes

variable {α β σ ι : Type}

namespace Request

/-- The buffer that a request has the generator fill. -/
def target? : Request → Option Bytes
  | .poll | .isSeeded => none
  | .random buffer | .tryRandom buffer | .fillBytes buffer | .tryFillBytes buffer => some buffer
  | .randomVec length | .randomArray length => some (zeros length)
  | .nextU32 => some (zeros 4)
  | .nextU64 => some (zeros 8)

/-- How many bytes a request asks for. -/
def length? (request : Request) : Option Nat := request.target?.map List.length

/-- The buffer that a request brings along. -/
def ownBuffer? : Request → Option Bytes
  | .random buffer | .tryRandom buffer | .fillBytes buffer | .tryFillBytes buffer => some buffer
  | _ => none

/-- The random bytes in the answer to a request, or in its buffer if the answer
    says that it was filled. -/
def contents : Request → Answer → (buffer? : Option Bytes) → Bytes
  | .random _, .truth true, some buffer => buffer
  | .tryRandom _, .outcome (.ok ()), some buffer => buffer
  | .fillBytes _, .done, some buffer => buffer
  | .tryFillBytes _, .outcome (.ok ()), some buffer => buffer
  | .randomVec _, .bytes (.ok bytes), _ => bytes
  | .randomArray _, .bytes (.ok bytes), _ => bytes
  | .nextU32, .word n, _ => LittleEndian.encode 4 n
  | .nextU64, .word n, _ => LittleEndian.encode 8 n
  | _, _, _ => []

/-- A request has a buffer filled, or it is for polling or asking alone. -/
theorem target?_cases (request : Request) :
    (∃ buffer, request.target? = some buffer) ∨ request = .poll ∨ request = .isSeeded := by
  cases request with
  | poll => exact .inr (.inl rfl)
  | isSeeded => exact .inr (.inr rfl)
  | _ => exact .inl ⟨_, rfl⟩

theorem target?_of_ownBuffer? {request : Request} {buffer : Bytes}
    (h : request.ownBuffer? = some buffer) : request.target? = some buffer := by
  cases request <;> first | exact h | cases h

end Request

/-- The random bytes that the step of a request hands out: none if it failed. -/
def Step.handedOut (request : Request) (step : Step σ ι) : Bytes :=
  match step.ending with
  | .returned answer => request.contents answer step.buffer?
  | _ => []

theorem Step.handedOut_of_target?_eq_none {request : Request} (h : request.target? = none)
    (step : Step σ ι) : step.handedOut request = [] := by
  rw [Step.handedOut]
  cases request with
  | poll | isSeeded => split <;> rfl
  | _ => cases h

/-- The contents of the buffer after a success, and nothing after anything else. -/
def BufferRun.handedOut (run : BufferRun (Except Fault Unit) σ ι) : Bytes :=
  match run.ending with
  | .returned (.ok ()) => run.buffer
  | _ => []

/-- The ending that comes of the result, if there is one. -/
def Ending.bind (ending : Ending α) (f : α → Ending β) : Ending β :=
  match ending with
  | .returned a => f a
  | .panicked p => .panicked p
  | .unfinished => .unfinished

@[simp] theorem Ending.map_eq_unfinished_iff {f : α → β} {ending : Ending α} :
    ending.map f = .unfinished ↔ ending = .unfinished := by
  cases ending <;> simp [Ending.map]

/-! ## What an entry point shows -/

/-- The number of a byte string has its bytes for digits, the least significant first. -/
theorem decode_eq_ofDigits (b : Bytes) :
    LittleEndian.decode b = Nat.ofDigits 256 (b.map UInt8.toNat) := by
  induction b with
  | nil => rfl
  | cons x rest ih => rw [LittleEndian.decode, ih, List.map_cons, Nat.ofDigits_cons]

namespace Request

/-- How a request ends whose attempt has this result and leaves its buffer like this. -/
def closing (request : Request) (result : Except Fault Unit) (buffer : Bytes) : Ending Answer :=
  match request, result with
  | .random _, _ => .returned (.truth result.isOk)
  | .randomVec _, _ | .randomArray _, _ => .returned (.bytes (result.map fun () => buffer))
  | .fillBytes _, .ok () => .returned .done
  | .nextU32, .ok () | .nextU64, .ok () =>
    .returned (.word (Nat.ofDigits 256 (buffer.map UInt8.toNat)))
  | .fillBytes _, .error fault | .nextU32, .error fault | .nextU64, .error fault =>
    .panicked (.fillFailed fault)
  | _, _ => .returned (.outcome result)

/-- What happens in the course of a request, next to what happens in its attempt: a new
    vector over the limit is refused without a note, and a failure that is answered by a
    truth value alone is noted. -/
def recount (limit : Nat) (request : Request) (ending : Ending (Except Fault Unit))
    (events : List (Event ι)) : List (Event ι) :=
  match request, ending with
  | .randomVec length, _ => if limit < length then [] else events
  | .random buffer, .returned (.error fault) =>
    events ++ [.note (.requestFailed buffer.length fault)]
  | _, _ => events

end Request

/-- The step of a request is an attempt as its entry point shows it. -/
structure Shows (limit : Nat) (request : Request) (run : BufferRun (Except Fault Unit) σ ι)
    (step : Step σ ι) : Prop where
  ending : step.ending = run.ending.bind (request.closing · run.buffer)
  state : step.state = run.state
  events : step.events = request.recount limit run.ending run.events
  buffer : step.buffer? = request.ownBuffer?.map fun _ => run.buffer

/-- An attempt has one step at each entry point. -/
theorem Shows.unique {limit : Nat} {request : Request} {run : BufferRun (Except Fault Unit) σ ι}
    {step step' : Step σ ι} (h : Shows limit request run step)
    (h' : Shows limit request run step') : step = step' := by
  obtain ⟨⟨ending, t, events⟩, buffer?⟩ := step
  obtain ⟨⟨ending', t', events'⟩, buffer?'⟩ := step'
  obtain rfl : ending = ending' := h.ending.trans h'.ending.symm
  obtain rfl : t = t' := h.state.trans h'.state.symm
  obtain rfl : events = events' := h.events.trans h'.events.symm
  obtain rfl : buffer? = buffer?' := h.buffer.trans h'.buffer.symm
  rfl

theorem shows_tryRandom (limit : Nat) (buffer : Bytes)
    (run : BufferRun (Except Fault Unit) σ ι) :
    Shows limit (.tryRandom buffer) run (run.step .outcome) := by
  obtain ⟨⟨_ | _ | _, t, events⟩, filled⟩ := run <;> exact ⟨rfl, rfl, rfl, rfl⟩

/-- Handing over a new buffer that is within the limit. -/
theorem shows_handOver {limit n : Nat} {request : Request}
    (h : request = .randomVec n ∧ n ≤ limit ∨ request = .randomArray n)
    (run : BufferRun (Except Fault Unit) σ ι) :
    Shows limit request run (run.handOver.step .bytes) := by
  rcases h with ⟨rfl, hle⟩ | rfl
  · refine ⟨?_, rfl, (if_neg (Nat.not_lt.2 hle)).symm, rfl⟩
    obtain ⟨⟨_ | _ | _, t, events⟩, filled⟩ := run <;> rfl
  · obtain ⟨⟨_ | _ | _, t, events⟩, filled⟩ := run <;> exact ⟨rfl, rfl, rfl, rfl⟩

theorem shows_fillBytes (g : Generator σ ι) (fuel : Nat) (buffer : Bytes) (s : σ) :
    Shows g.limit (.fillBytes buffer) (g.tryRandom fuel buffer s)
      (((Words.ofGenerator g).fillBytes fuel buffer s).step fun () => .done) := by
  simp only [Words.fillBytes, Words.tryFillBytes, Words.ofGenerator]
  generalize g.tryRandom fuel buffer s = run
  obtain ⟨⟨(_ | ⟨⟩) | _ | _, t, events⟩, filled⟩ := run <;> exact ⟨rfl, rfl, rfl, rfl⟩

theorem shows_next {request : Request} {width : Nat}
    (h : request = .nextU32 ∧ width = 4 ∨ request = .nextU64 ∧ width = 8)
    (g : Generator σ ι) (fuel : Nat) (s : σ) :
    Shows g.limit request (g.tryRandom fuel (zeros width) s)
      (((Words.ofGenerator g).next fuel width s).step .word) := by
  simp only [Words.next, Words.fillBytes, Words.tryFillBytes, Words.ofGenerator,
    decode_eq_ofDigits]
  generalize g.tryRandom fuel (zeros width) s = run
  obtain ⟨⟨(_ | ⟨⟩) | _ | _, t, events⟩, filled⟩ := run <;>
    rcases h with ⟨rfl, rfl⟩ | ⟨rfl, rfl⟩ <;> exact ⟨rfl, rfl, rfl, rfl⟩

/-- Whatever the entry point, a request with a buffer shows one attempt at filling it. -/
theorem shows_serve {request : Request} {buffer : Bytes} (h : request.target? = some buffer)
    (g : Generator σ ι) (fuel : Nat) (s : σ) :
    Shows g.limit request (g.tryRandom fuel buffer s) (g.serve fuel request s) := by
  cases request with
  | poll => cases h
  | isSeeded => cases h
  | random own =>
    cases h
    simp only [Generator.serve, Generator.random]
    generalize g.tryRandom fuel buffer s = run
    obtain ⟨⟨(_ | ⟨⟩) | _ | _, t, events⟩, filled⟩ := run <;> exact ⟨rfl, rfl, rfl, rfl⟩
  | tryRandom own =>
    cases h
    exact shows_tryRandom _ _ _
  | randomVec n =>
    cases h
    simp only [Generator.serve, Generator.randomVec_eq]
    split
    · -- Refused before there is a buffer, just as the attempt would be.
      rename_i hlimit
      rw [Generator.tryRandom, if_pos (by rwa [length_zeros]), length_zeros]
      exact ⟨rfl, rfl, (if_pos hlimit).symm, rfl⟩
    · rename_i hlimit
      exact shows_handOver (.inl ⟨rfl, Nat.not_lt.1 hlimit⟩) _
  | randomArray n =>
    cases h
    exact shows_handOver (.inr rfl) _
  | nextU32 =>
    cases h
    exact shows_next (.inl ⟨rfl, rfl⟩) g fuel s
  | nextU64 =>
    cases h
    exact shows_next (.inr ⟨rfl, rfl⟩) g fuel s
  | fillBytes own =>
    cases h
    exact shows_fillBytes g fuel buffer s
  | tryFillBytes own =>
    cases h
    obtain ⟨hending, hstate, hevents, hbuffer⟩ :=
      shows_tryRandom g.limit buffer (g.tryRandom fuel buffer s)
    exact ⟨hending, hstate, hevents, hbuffer⟩

/-! ## Every request as an attempt -/

/-- The step of a request is an attempt with another face. -/
structure Serves (request : Request) (run : BufferRun (Except Fault Unit) σ ι)
    (step : Step σ ι) : Prop where
  state : step.state = run.state
  calls : calls step.events = calls run.events
  unfinished : step.ending = .unfinished ↔ run.ending = .unfinished
  handedOut : step.handedOut request = run.handedOut
  buffer : step.buffer? = request.ownBuffer?.map fun _ => run.buffer

theorem Attempt.length_buffer {g : Generator σ ι} {buffer : Bytes} {s : σ}
    {run : BufferRun (Except Fault Unit) σ ι} (h : Attempt g buffer s run) :
    run.buffer.length = buffer.length := by
  cases h with
  | oversized => rfl
  | empty hempty => rw [hempty]
  | filled => rw [Source.fill_length, length_zeros]
  | _ => exact length_zeros _

/-- What an entry point adds to the events of an attempt, or leaves out, are no calls. -/
theorem Attempt.calls_recount {g : Generator σ ι} {request : Request} {buffer : Bytes} {s : σ}
    {run : BufferRun (Except Fault Unit) σ ι} (h : Attempt g buffer s run)
    (htarget : request.target? = some buffer) :
    calls (request.recount g.limit run.ending run.events) = calls run.events := by
  cases request with
  | randomVec n =>
    cases htarget
    by_cases hlimit : g.limit < n
    · -- The attempt is refused as well, and its only event is the note that says so.
      rw [Request.recount, if_pos hlimit]
      cases h with
      | oversized | empty => rfl
      | cut hle | malformed hle | failed hle | filled hle =>
        rw [length_zeros] at hle
        exact absurd hlimit (Nat.not_lt.2 hle)
    · rw [Request.recount, if_neg hlimit]
  | random own =>
    obtain ⟨⟨(_ | ⟨⟩) | _ | _, t, events⟩, filled⟩ := run
    · exact (calls_append _ _).trans (List.append_nil _)
    all_goals rfl
  | _ => rfl

/-- Writing the word of a buffer as wide as itself gives the buffer back. -/
theorem encode_ofDigits {width : Nat} {buffer : Bytes} (h : buffer.length = width) :
    LittleEndian.encode width (Nat.ofDigits 256 (buffer.map UInt8.toNat)) = buffer := by
  rw [← decode_eq_ofDigits, ← h]
  exact LittleEndian.encode_decode buffer

namespace Shows

variable {limit : Nat} {request : Request} {run : BufferRun (Except Fault Unit) σ ι}
  {step : Step σ ι}

/-- To a request within the limit it does not matter how much more is allowed. -/
theorem of_le {limit' : Nat} (h : Shows limit request run step)
    (hle : ∀ n ∈ request.length?, n ≤ limit) (hlimit : limit ≤ limit') :
    Shows limit' request run step := by
  refine ⟨h.ending, h.state, h.events.trans ?_, h.buffer⟩
  cases request with
  | randomVec n =>
    have hn : n ≤ limit := by simpa using hle _ rfl
    rw [Request.recount, Request.recount, if_neg (Nat.not_lt.2 hn),
      if_neg (Nat.not_lt.2 (Nat.le_trans hn hlimit))]
  | random own => obtain ⟨⟨(_ | ⟨⟩) | _ | _, t, events⟩, filled⟩ := run <;> rfl
  | _ => rfl

theorem unfinished_iff (h : Shows limit request run step) :
    step.ending = .unfinished ↔ run.ending = .unfinished := by
  rw [h.ending]
  cases run.ending with
  | returned result => cases request <;> cases result <;> simp [Ending.bind, Request.closing]
  | panicked | unfinished => simp [Ending.bind]

/-- What an entry point shows of a buffer that was filled is all of it. -/
theorem handedOut_eq (h : Shows limit request run step)
    (htarget : request.length? = some run.buffer.length) :
    step.handedOut request = run.handedOut := by
  rw [Step.handedOut, BufferRun.handedOut, h.ending, h.buffer]
  cases run.ending with
  | panicked | unfinished => rfl
  | returned result =>
    cases result with
    | error => cases request <;> rfl
    | ok =>
      cases request with
      | poll | isSeeded => cases htarget
      | nextU32 => exact encode_ofDigits (Option.some.inj htarget).symm
      | nextU64 => exact encode_ofDigits (Option.some.inj htarget).symm
      | _ => rfl

end Shows

/-- Every request with a buffer is served by one attempt at filling it. -/
theorem serves_serve {request : Request} {buffer : Bytes} (h : request.target? = some buffer)
    (g : Generator σ ι) (fuel : Nat) (s : σ) :
    Serves request (g.tryRandom fuel buffer s) (g.serve fuel request s) := by
  have hshows := shows_serve h g fuel s
  have hattempt := attempt_tryRandom g fuel buffer s
  refine ⟨hshows.state, ?_, hshows.unfinished_iff, hshows.handedOut_eq ?_, hshows.buffer⟩
  · rw [hshows.events, hattempt.calls_recount h]
  · rw [hattempt.length_buffer, Request.length?, h, Option.map_some]

/-! ## What follows for every request -/

/-- Once a request has finished, allowing it more rounds of polling changes nothing. -/
theorem serve_add {g : Generator σ ι} {fuel : Nat} {request : Request} {s : σ}
    (h : (g.serve fuel request s).ending ≠ .unfinished) (extra : Nat) :
    g.serve (fuel + extra) request s = g.serve fuel request s := by
  rcases request.target?_cases with ⟨buffer, htarget⟩ | rfl | rfl
  · have hshows := shows_serve htarget g fuel s
    have hmore := shows_serve htarget g (fuel + extra) s
    rw [Ne, hshows.unfinished_iff] at h
    rw [tryRandom_add h] at hmore
    exact hmore.unique hshows
  · have hpoll : g.poll (fuel + extra) s = g.poll fuel s :=
      pollFrom_add (fun hcut => h (Ending.map_eq_unfinished_iff.2 hcut)) extra
    rw [Generator.serve, hpoll]
    rfl
  · rfl

/-- A request finishes if polling does. -/
theorem finished_serve {g : Generator σ ι} {fuel : Nat} {s : σ}
    (h : (g.poll fuel s).ending ≠ .unfinished) (request : Request) :
    (g.serve fuel request s).ending ≠ .unfinished := by
  rcases request.target?_cases with ⟨buffer, htarget⟩ | rfl | rfl
  · rw [Ne, (serves_serve htarget g fuel s).unfinished]
    exact finished_tryRandom h buffer
  · intro hcut
    exact h (Ending.map_eq_unfinished_iff.1 hcut)
  · simp only [Generator.serve, Generator.isSeeded, Run.step]
    split <;> simp [Ending.map]

/-- The buffer of a request that hands out nothing is blank, or larger than the limit
    and as it was brought along. -/
def Step.KeepsBack (limit : Nat) (request : Request) (step : Step σ ι) : Prop :=
  ∀ buffer ∈ step.buffer?, buffer.isBlank ∨
    (limit < buffer.length ∧ request.ownBuffer? = some buffer)

theorem Attempt.blank_or_oversized {g : Generator σ ι} {buffer : Bytes} {s : σ}
    {run : BufferRun (Except Fault Unit) σ ι} (h : Attempt g buffer s run)
    (hnone : run.handedOut = []) :
    run.buffer.isBlank ∨ (g.limit < buffer.length ∧ run.buffer = buffer) := by
  cases h with
  | oversized hlimit => exact .inr ⟨hlimit, rfl⟩
  | empty hempty =>
    subst hempty
    exact .inl rfl
  | filled => exact .inl (congrArg isBlank hnone)
  | _ => exact .inl (isBlank_zeros _)

/-- A request that hands out nothing keeps back whatever the source delivered. -/
theorem keepsBack_serve (g : Generator σ ι) (fuel : Nat) (request : Request) (s : σ)
    (h : (g.serve fuel request s).handedOut request = []) :
    (g.serve fuel request s).KeepsBack g.limit request := by
  intro buffer hbuffer
  rcases request.target?_cases with ⟨target, htarget⟩ | rfl | rfl
  · have hserves := serves_serve htarget g fuel s
    rw [hserves.handedOut] at h
    rw [hserves.buffer] at hbuffer
    obtain ⟨own, hown, rfl⟩ := Option.map_eq_some_iff.1 hbuffer
    obtain rfl : target = own :=
      Option.some.inj (htarget.symm.trans (Request.target?_of_ownBuffer? hown))
    rcases (attempt_tryRandom g fuel target s).blank_or_oversized h with hblank | ⟨hlimit, heq⟩
    · exact .inl hblank
    · rw [heq]
      exact .inr ⟨hlimit, hown⟩
  · cases hbuffer
  · cases hbuffer

end SeedGate
