import SeedGate.Proofs.EntryPoints

/-!
# Words refine the generator

The words over a generator get their bytes by `tryRandom`, and to most of them a failure
of it is past remedy. `Refines g request s tried step` says how the step of such a
request comes of the attempt it makes in the state `s`: all that happened and all that
is left behind is the same; a success is the number that the bytes denote, the first the
least significant; and a failure is a panic, the last words of which report the fault,
unless the request is one that reports it itself.

* `play_refines`: wherever in a session the request is made, its step refines the attempt
  at that place. If it finishes, be it in a panic, the session goes on from the state
  that the attempt has left.
-/

namespace SeedGate

open Event Bytes

variable {σ ι : Type}

/-- A request to the words over a generator, and a buffer to try it with. -/
inductive Request.Demands : Request → Bytes → Prop
  | nextU32 {buffer : Bytes} (h : buffer.length = 4) : Demands .nextU32 buffer
  | nextU64 {buffer : Bytes} (h : buffer.length = 8) : Demands .nextU64 buffer
  | fillBytes (buffer : Bytes) : Demands (.fillBytes buffer) buffer
  | tryFillBytes (buffer : Bytes) : Demands (.tryFillBytes buffer) buffer

/-- The step of a request to words, next to an attempt at its buffer in the same state. -/
structure Refines (g : Generator σ ι) (request : Request) (s : σ)
    (tried : BufferRun (Except Fault Unit) σ ι) (step : Step σ ι) : Prop
    extends Shows g.limit request tried step where
  /-- The same has happened, neither more nor less. -/
  events_eq : step.events = tried.events
  /-- It returns exactly when the buffer was filled, unless it is to report a failure. -/
  returned_iff : (∀ own, request ≠ .tryFillBytes own) →
    ((∃ answer, step.ending = .returned answer) ↔ tried.ending = .returned (.ok ()))
  /-- It gives up exactly when the buffer was not filled. -/
  panicked_iff : (∀ own, request ≠ .tryFillBytes own) →
    ((∃ panic, step.ending = .panicked panic) ↔
      tried.ending ≠ .returned (.ok ()) ∧ tried.ending ≠ .unfinished)
  /-- Its last words are those of polling, or report the fault. -/
  message : ∀ panic, step.ending = .panicked panic →
    (∃ v : Int, v < 0 ∧ tried.ending = .panicked panic ∧
        panic.message = s!"entropy source reported malformed status {v}") ∨
      ∃ fault, tried.ending = .returned (.error fault) ∧
        panic.message = "secure random generation failed: " ++ fault.message
  /-- Where no word is within the limit, there are none, and the source is not called. -/
  beyond : request.ownBuffer? = none → (∃ width ∈ request.length?, g.limit < width) →
    (∃ panic, step.ending = .panicked panic) ∧ calls step.events = [] ∧ step.state = s

namespace Request.Demands

variable {request : Request} {buffer : Bytes} (h : request.Demands buffer)
include h

theorem length?_eq : request.length? = some buffer.length := by
  cases h with
  | nextU32 h => exact congrArg some h.symm
  | nextU64 h => exact congrArg some h.symm
  | fillBytes | tryFillBytes => rfl

theorem shows (g : Generator σ ι) (fuel : Nat) (s : σ) :
    Shows g.limit request (g.tryRandom fuel buffer s) (g.serve fuel request s) := by
  cases h with
  | nextU32 h =>
    exact shows_tryRandom_congr rfl ((length_zeros 4).trans h.symm) (shows_serve rfl g fuel s)
  | nextU64 h =>
    exact shows_tryRandom_congr rfl ((length_zeros 8).trans h.symm) (shows_serve rfl g fuel s)
  | fillBytes | tryFillBytes => exact shows_serve rfl g fuel s

theorem recount_eq (limit : Nat) (ending : Ending (Except Fault Unit)) (events : List (Event ι)) :
    request.recount limit ending events = events := by
  cases h <;> rfl

/-- The ways in which a request can end that is not to report a failure, next to how its
    attempt ends. -/
theorem ending_cases (hreport : ∀ own, request ≠ .tryFillBytes own)
    (ending : Ending (Except Fault Unit)) (filled : Bytes) :
    (ending = .returned (.ok ()) ∧
        ∃ answer, ending.bind (request.closing · filled) = .returned answer) ∨
      (∃ fault, ending = .returned (.error fault) ∧
        ending.bind (request.closing · filled) = .panicked (.fillFailed fault)) ∨
      (∃ panic, ending = .panicked panic ∧
        ending.bind (request.closing · filled) = .panicked panic) ∨
      (ending = .unfinished ∧ ending.bind (request.closing · filled) = .unfinished) := by
  cases h with
  | tryFillBytes => exact absurd rfl (hreport _)
  | _ =>
    obtain (fault | ⟨⟩) | panic | _ := ending
    · exact .inr (.inl ⟨fault, rfl, rfl⟩)
    · exact .inl ⟨rfl, _, rfl⟩
    · exact .inr (.inr (.inl ⟨panic, rfl, rfl⟩))
    · exact .inr (.inr (.inr ⟨rfl, rfl⟩))

end Request.Demands

theorem Attempt.of_panicked {g : Generator σ ι} {buffer : Bytes} {s : σ}
    {run : BufferRun (Except Fault Unit) σ ι} (h : Attempt g buffer s run) {panic : Panic}
    (hpanic : run.ending = .panicked panic) : ∃ v < 0, panic = .malformedStatus v := by
  cases h with
  | malformed _ _ hpoll =>
    cases hpanic
    obtain ⟨v, hv, rfl, -⟩ := hpoll.seeking.of_panicked
    exact ⟨v, hv, rfl⟩
  | _ => cases hpanic

/-- No entry point gives up on a success, and a failure on which it gives up is its last
    word. -/
theorem Request.closing_eq_panicked {request : Request} {result : Except Fault Unit}
    {filled : Bytes} {panic : Panic} (h : request.closing result filled = .panicked panic) :
    ∃ fault, result = .error fault ∧ panic = .fillFailed fault := by
  cases result with
  | ok => cases request <;> cases h
  | error fault =>
    cases request with
    | fillBytes | nextU32 | nextU64 =>
      cases h
      exact ⟨fault, rfl, rfl⟩
    | _ => cases h

/-- The step of a request to words refines the attempt that it makes. -/
theorem refines_serve {request : Request} {buffer : Bytes} (h : request.Demands buffer)
    (g : Generator σ ι) (fuel : Nat) (s : σ) :
    Refines g request s (g.tryRandom fuel buffer s) (g.serve fuel request s) := by
  have hshows := h.shows g fuel s
  have hattempt := attempt_tryRandom g fuel buffer s
  have hcases hreport := h.ending_cases hreport (g.tryRandom fuel buffer s).ending
    (g.tryRandom fuel buffer s).buffer
  rw [← hshows.ending] at hcases
  refine ⟨hshows, hshows.events.trans (h.recount_eq _ _ _), fun hreport => ?_, fun hreport => ?_,
    fun panic hpanic => ?_, fun hown hwidth => ?_⟩
  · rcases hcases hreport with ⟨htried, hstep⟩ | ⟨fault, htried, hstep⟩ | ⟨panic, htried, hstep⟩ |
      ⟨htried, hstep⟩
    · exact iff_of_true hstep htried
    all_goals simp [htried, hstep]
  · rcases hcases hreport with ⟨htried, answer, hstep⟩ | ⟨fault, htried, hstep⟩ |
      ⟨panic, htried, hstep⟩ | ⟨htried, hstep⟩ <;> simp [htried, hstep]
  · -- The attempt has given up itself, or it has failed and the request has given up on that.
    rw [hshows.ending] at hpanic
    cases htried : (g.tryRandom fuel buffer s).ending with
    | returned result =>
      rw [htried] at hpanic
      obtain ⟨fault, rfl, rfl⟩ := Request.closing_eq_panicked hpanic
      exact .inr ⟨fault, rfl, rfl⟩
    | panicked other =>
      rw [htried] at hpanic
      cases hpanic
      obtain ⟨v, hv, rfl⟩ := hattempt.of_panicked htried
      exact .inl ⟨v, hv, rfl, rfl⟩
    | unfinished =>
      rw [htried] at hpanic
      cases hpanic
  · -- The attempt is refused at once, and there is no word to hand out.
    obtain ⟨width, hwidth, hlt⟩ := hwidth
    rw [h.length?_eq] at hwidth
    obtain rfl := Option.some.inj hwidth
    rw [tryRandom_of_lt hlt] at hshows
    have hevents : calls (g.serve fuel request s).events = [] := by
      rw [hshows.events, h.recount_eq]
      rfl
    refine ⟨?_, hevents, hshows.state⟩
    cases h with
    | nextU32 | nextU64 => exact ⟨_, hshows.ending⟩
    | fillBytes | tryFillBytes => cases hown

/-- Wherever in a session a request is made to words, its step refines the attempt at its
    buffer in the state that has been reached. If it finishes, the session goes on from
    the state that the attempt has left, as if nothing had happened. -/
theorem play_refines (g : Generator σ ι) (fuel : Nat) {request : Request} {buffer : Bytes}
    (h : request.Demands buffer) {before : List (Generator σ ι × Request)} {s : σ}
    (hbefore : ∀ step ∈ Session.play fuel before s, step.ending ≠ .unfinished)
    (after : List (Generator σ ι × Request)) :
    let reached := Session.last s (Session.play fuel before s)
    let tried := g.tryRandom fuel buffer reached
    let step := g.serve fuel request reached
    Refines g request reached tried step ∧
      (tried.ending ≠ .unfinished →
        Session.play fuel (before ++ (g, request) :: after) s =
          Session.play fuel before s ++ step :: Session.play fuel after tried.state) := by
  intro reached tried step
  have hrefines := refines_serve h g fuel reached
  refine ⟨hrefines, fun hfinished => ?_⟩
  have hstep : step.ending ≠ .unfinished := mt hrefines.unfinished_iff.1 hfinished
  rw [Session.play_append hbefore, Session.play_cons_of_finished hstep, hrefines.state]

/-- A fill that fails and takes `fillBytes` with it, then a word and a buffer too large. -/
theorem play_refines_after_panic :
    let g : Generator Replay.State Empty := ⟨Replay.source, 8⟩
    let s : Replay.State := .start [0, 1] [-1] [⟨some 1, some (.generation "worn out")⟩, ⟨none, none⟩]
    let before : List (Generator Replay.State Empty × Request) := [(g, .fillBytes [9, 9])]
    let after : List (Generator Replay.State Empty × Request) := [(g, .tryFillBytes (zeros 9))]
    let reached := Session.last s (Session.play 2 before s)
    let tried := g.tryRandom 2 [1, 2, 3, 4, 5, 6, 7, 8] reached
    let step := g.serve 2 .nextU64 reached
    (Session.play 2 before s).map (·.ending) =
        [.panicked (.fillFailed (.generation "worn out"))] ∧
      Request.Demands .nextU64 [1, 2, 3, 4, 5, 6, 7, 8] ∧
      (∀ step ∈ Session.play 2 before s, step.ending ≠ .unfinished) ∧
      tried.ending ≠ .unfinished ∧ Refines g .nextU64 reached tried step ∧
      Session.play 2 (before ++ (g, .nextU64) :: after) s =
        Session.play 2 before s ++ step :: Session.play 2 after tried.state := by
  intro g s before after
  have hbefore : ∀ step ∈ Session.play 2 before s, step.ending ≠ .unfinished := by
    intro step hstep
    obtain rfl := List.mem_singleton.1 hstep
    exact nofun
  have h : Request.Demands .nextU64 [1, 2, 3, 4, 5, 6, 7, 8] := .nextU64 rfl
  have hall := play_refines g 2 h hbefore after
  -- Comparing the two texts is quick once they have no local definitions.
  dsimp only at hall ⊢
  obtain ⟨hrefines, hplay⟩ := hall
  have hfinished : (g.tryRandom 2 [1, 2, 3, 4, 5, 6, 7, 8]
      (Session.last s (Session.play 2 before s))).ending ≠ .unfinished := nofun
  exact ⟨rfl, h, hbefore, hfinished, hrefines, hplay hfinished⟩

end SeedGate
