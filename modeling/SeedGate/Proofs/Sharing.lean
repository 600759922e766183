import SeedGate.Proofs.Sessions
import SeedGate.Source.Handle
import SeedGate.Source.Replay

/-!
# Sharing a source

Generators that hold on to one source, each through handles of its own, share its
state. A `Holder` is such a generator: `Holder.serve` carries out a request on the
shared state, put behind the handles for the time of the request, and
`Session.share` a whole sequence of them, one holder after the other as they come.

A source *follows* another along a map of states if every call of it is the same
call of the other, seen through the map (`Source.Follows`); then so is every
request (`Source.Follows.serve`) and every session (`Source.Follows.play`). A source
behind handles follows the bare source (`follows_behind`), so that sharing it is the
same as drawing from it directly (`share_eq_play`), each holder with its own limit, and
as having one generator whose limit is set before each request (`Session.alone`).
-/

namespace SeedGate

variable {α σ τ ι : Type}

/-! ## States seen through a map -/

/-- The reply with its state replaced. -/
def Reply.mapState (f : σ → τ) (reply : Reply α σ ι) : Reply α τ ι :=
  ⟨reply.answer, f reply.state, reply.record⟩

/-- The filling with its state replaced. -/
def Filling.mapState (f : σ → τ) (filling : Filling σ ι) : Filling τ ι :=
  ⟨filling.toReply.mapState f, filling.buffer⟩

/-- The run with its state replaced. -/
def Run.mapState (f : σ → τ) (run : Run α σ ι) : Run α τ ι := ⟨run.ending, f run.state, run.events⟩

/-- The run with its state replaced. -/
def BufferRun.mapState (f : σ → τ) (run : BufferRun α σ ι) : BufferRun α τ ι :=
  ⟨run.toRun.mapState f, run.buffer⟩

/-- The step with its state replaced. -/
def Step.mapState (f : σ → τ) (step : Step σ ι) : Step τ ι :=
  ⟨step.toRun.mapState f, step.buffer?⟩

/-- Every call of the outer source is the same call of the inner one, its state seen
    through the map. -/
structure Source.Follows (inner : Source σ ι) (outer : Source τ ι) (f : σ → τ) : Prop where
  status : ∀ s, outer.status (f s) = (inner.status s).mapState f
  gather : ∀ s, outer.gather (f s) = (inner.gather s).mapState f
  fill : ∀ buffer s, outer.fill buffer (f s) = (inner.fill buffer s).mapState f

namespace Source.Follows

variable {inner : Source σ ι} {outer : Source τ ι} {f : σ → τ} (h : inner.Follows outer f)
include h

theorem answer_status (s : σ) : (outer.status (f s)).answer = (inner.status s).answer :=
  congrArg Reply.answer (h.status s)

theorem state_status (s : σ) : (outer.status (f s)).state = f (inner.status s).state :=
  congrArg Reply.state (h.status s)

theorem answer_gather (s : σ) : (outer.gather (f s)).answer = (inner.gather s).answer :=
  congrArg Reply.answer (h.gather s)

theorem state_gather (s : σ) : (outer.gather (f s)).state = f (inner.gather s).state :=
  congrArg Reply.state (h.gather s)

theorem asking (s : σ) : outer.asking (f s) = inner.asking s := by
  rw [Source.asking, Source.asking, h.status]
  rfl

theorem gathering (s : σ) : outer.gathering (f s) = inner.gathering s := by
  rw [Source.gathering, Source.gathering, h.gather]
  rfl

/-- The same is found of either source. -/
theorem isSeeded (limit : Nat) (s : σ) :
    Generator.isSeeded ⟨outer, limit⟩ (f s) =
      (Generator.isSeeded ⟨inner, limit⟩ s).mapState f := by
  have hasking := h.asking s
  simp only [Source.asking, h.answer_status] at hasking
  simp only [Generator.isSeeded, h.answer_status, h.state_status, hasking]
  split_ifs <;> rfl

/-- Polling takes the same rounds with either source. -/
theorem pollFrom (limit fuel rounds : Nat) (s : σ) (past : List (Event ι)) :
    Generator.pollFrom ⟨outer, limit⟩ fuel rounds (f s) past =
      (Generator.pollFrom ⟨inner, limit⟩ fuel rounds s past).mapState f := by
  induction fuel generalizing rounds s past with
  | zero => rfl
  | succ fuel ih =>
    simp only [pollFrom_succ, h.answer_status, h.state_status, h.answer_gather, h.state_gather,
      h.asking, h.gathering]
    split_ifs
    · rfl
    · rfl
    · rfl
    · exact ih _ _ _

/-- An attempt comes to the same with either source. -/
theorem tryRandom (limit fuel : Nat) (buffer : Bytes) (s : σ) :
    Generator.tryRandom ⟨outer, limit⟩ fuel buffer (f s) =
      (Generator.tryRandom ⟨inner, limit⟩ fuel buffer s).mapState f := by
  have hpoll : Generator.poll ⟨outer, limit⟩ fuel (f s) =
      (Generator.poll ⟨inner, limit⟩ fuel s).mapState f := h.pollFrom limit fuel 0 s []
  rw [Generator.tryRandom, Generator.tryRandom, hpoll]
  dsimp only
  split_ifs
  · rfl
  · rfl
  -- Polling ends alike on both sides; if it returns, a fill is left that reaches the source.
  generalize Generator.poll ⟨inner, limit⟩ fuel s = polled
  obtain ⟨ending, t, events⟩ := polled
  cases ending with
  | unfinished => rfl
  | panicked => rfl
  | returned =>
    dsimp only [Run.mapState]
    rw [h.fill]
    dsimp only [Filling.mapState, Reply.mapState]
    split <;> rfl

theorem fillBytes (limit fuel : Nat) (buffer : Bytes) (s : σ) :
    (Words.ofGenerator ⟨outer, limit⟩).fillBytes fuel buffer (f s) =
      ((Words.ofGenerator ⟨inner, limit⟩).fillBytes fuel buffer s).mapState f := by
  simp only [Words.fillBytes, Words.tryFillBytes, Words.ofGenerator, h.tryRandom]
  rfl

theorem next (limit fuel width : Nat) (s : σ) :
    (Words.ofGenerator ⟨outer, limit⟩).next fuel width (f s) =
      ((Words.ofGenerator ⟨inner, limit⟩).next fuel width s).mapState f := by
  simp only [Words.next, h.fillBytes]
  rfl

/-- Every request on the outer source is the same request on the inner one. -/
theorem serve (limit fuel : Nat) (request : Request) (s : σ) :
    Generator.serve ⟨outer, limit⟩ fuel request (f s) =
      (Generator.serve ⟨inner, limit⟩ fuel request s).mapState f := by
  have htry := fun buffer => h.tryRandom limit fuel buffer s
  cases request with
  | poll => exact congrArg (Run.step · fun () => .done) (h.pollFrom limit fuel 0 s [])
  | isSeeded => exact congrArg (Run.step · .truth) (h.isSeeded limit s)
  | random buffer =>
    simp only [Generator.serve, Generator.random, htry]
    generalize Generator.tryRandom ⟨inner, limit⟩ fuel buffer s = run
    obtain ⟨⟨(_ | ⟨⟩) | _ | _, t, events⟩, filled⟩ := run <;> rfl
  | tryRandom buffer => exact congrArg (BufferRun.step · .outcome) (htry buffer)
  | randomVec n =>
    simp only [Generator.serve, Generator.randomVec_eq, htry]
    split_ifs <;> rfl
  | randomArray n => exact congrArg (fun run => run.handOver.step .bytes) (htry _)
  | nextU32 => exact congrArg (Run.step · .word) (h.next limit fuel 4 s)
  | nextU64 => exact congrArg (Run.step · .word) (h.next limit fuel 8 s)
  | fillBytes buffer =>
    exact congrArg (BufferRun.step · fun () => .done) (h.fillBytes limit fuel buffer s)
  | tryFillBytes buffer => exact congrArg (BufferRun.step · .outcome) (htry buffer)

/-- Every session on the outer source is the same session on the inner one. -/
theorem play (limit fuel : Nat) (requests : List Request) (s : σ) :
    Session.play fuel (requests.map (⟨outer, limit⟩, ·)) (f s) =
      (Session.play fuel (requests.map (⟨inner, limit⟩, ·)) s).map (·.mapState f) := by
  induction requests generalizing s with
  | nil => rfl
  | cons request rest ih =>
    have hending : (Generator.serve ⟨outer, limit⟩ fuel request (f s)).ending =
        (Generator.serve ⟨inner, limit⟩ fuel request s).ending := by
      rw [h.serve]
      rfl
    rw [List.map_cons, List.map_cons]
    by_cases hcut : (Generator.serve ⟨inner, limit⟩ fuel request s).ending = .unfinished
    · rw [Session.play_cons_of_cut hcut, Session.play_cons_of_cut (hending.trans hcut), h.serve]
      rfl
    · rw [Session.play_cons_of_finished hcut, Session.play_cons_of_finished (hending ▸ hcut),
        h.serve]
      exact congrArg (List.cons _) (ih _)

end Source.Follows

/-! ## Handles -/

/-- The state at the end of a chain of handles. -/
def Nest.content : {depth : Nat} → Nest σ depth → σ
  | 0, state => state
  | _ + 1, held => Nest.content (Held.content held)

theorem content_hold (state : σ) (handles : List Handle) :
    Nest.content (Nest.hold state handles) = state := by
  induction handles with
  | nil => rfl
  | cons _ _ ih => exact ih

/-- A source behind handles follows the bare source: a handle passes every call on. -/
theorem follows_behind (source : Source σ ι) (handles : List Handle) :
    source.Follows (source.behind handles.length) (Nest.hold · handles) := by
  induction handles with
  | nil => exact ⟨fun _ => rfl, fun _ => rfl, fun _ _ => rfl⟩
  | cons handle handles ih =>
    exact ⟨fun s => congrArg (Reply.through handle) (ih.status s),
      fun s => congrArg (Reply.through handle) (ih.gather s),
      fun buffer s => congrArg (fun filling : Filling _ ι =>
        Filling.mk (filling.toReply.through handle) filling.buffer) (ih.fill buffer s)⟩

/-! ## Sharing -/

/-- A generator that holds on to a shared source. -/
structure Holder where
  /-- The chain of handles that leads to the source, the outermost first. -/
  handles : List Handle
  /-- The largest request, in bytes. -/
  limit : Nat
  deriving DecidableEq, Repr

namespace Holder

/-- The generator over the source at the end of the chain. -/
def generator (holder : Holder) (source : Source σ ι) :
    Generator (Nest σ holder.handles.length) ι :=
  ⟨source.behind holder.handles.length, holder.limit⟩

/-- Carries out a request on the shared state. -/
def serve (holder : Holder) (source : Source σ ι) (fuel : Nat) (request : Request) (s : σ) :
    Step σ ι :=
  ((holder.generator source).serve fuel request (Nest.hold s holder.handles)).mapState Nest.content

/-- A holder serves a request as a generator would that has the source to itself. -/
theorem serve_eq (holder : Holder) (source : Source σ ι) (fuel : Nat) (request : Request) (s : σ) :
    holder.serve source fuel request s =
      Generator.serve ⟨source, holder.limit⟩ fuel request s := by
  rw [serve, generator, (follows_behind source holder.handles).serve]
  simp only [Step.mapState, Run.mapState, content_hold]

end Holder

namespace Session

/-- Carries out requests, each by its own holder, on the state that they share. A
    request that is still polling when its rounds are used up is the last. -/
def share (source : Source σ ι) (fuel : Nat) : List (Holder × Request) → σ → List (Step σ ι)
  | [], _ => []
  | (holder, request) :: rest, s =>
    let step := holder.serve source fuel request s
    match step.ending with
    | .unfinished => [step]
    | _ => step :: share source fuel rest step.state

/-- Sharing a source is drawing from it directly, one after the other. -/
theorem share_eq_play (source : Source σ ι) (fuel : Nat) (session : List (Holder × Request))
    (s : σ) :
    share source fuel session s =
      play fuel (session.map fun (holder, request) => (⟨source, holder.limit⟩, request)) s := by
  induction session generalizing s with
  | nil => rfl
  | cons call rest ih =>
    obtain ⟨holder, request⟩ := call
    simp only [share, List.map_cons, play, holder.serve_eq]
    cases (Generator.serve ⟨source, holder.limit⟩ fuel request s).ending with
    | unfinished => rfl
    | returned | panicked => exact congrArg (List.cons _) (ih _)

/-- Each step of a shared session is the request of its holder, with the limit of that
    holder, on the state that the steps before it have left. -/
theorem getElem?_share {source : Source σ ι} {fuel : Nat} {session : List (Holder × Request)}
    {s : σ} {i : Nat} {step : Step σ ι} (h : (share source fuel session s)[i]? = some step) :
    ∃ holder request, session[i]? = some (holder, request) ∧
      step = Generator.serve ⟨source, holder.limit⟩ fuel request
        (last s ((share source fuel session s).take i)) := by
  rw [share_eq_play] at h ⊢
  induction session generalizing s i with
  | nil => cases h
  | cons call rest ih =>
    obtain ⟨holder, request⟩ := call
    rw [List.map_cons] at h ⊢
    cases i with
    | zero =>
      refine ⟨holder, request, rfl, ?_⟩
      rcases play_cons ⟨source, holder.limit⟩ request _ s with ⟨_, hplay⟩ | ⟨_, hplay⟩ <;>
        exact (Option.some.inj (hplay ▸ h)).symm
    | succ i =>
      rcases play_cons ⟨source, holder.limit⟩ request _ s with ⟨_, hplay⟩ | ⟨_, hplay⟩
      · rw [hplay] at h
        cases h
      · rw [hplay] at h ⊢
        exact ih h

/-- Carries out requests with one generator, whose limit is set before each of them. A
    request that is still polling when its rounds are used up is the last. -/
def alone (fuel : Nat) : List (Nat × Request) → Generator σ ι → σ → List (Step σ ι)
  | [], _, _ => []
  | (limit, request) :: rest, g, s =>
    let g := g.withLimit limit
    let step := g.serve fuel request s
    match step.ending with
    | .unfinished => [step]
    | _ => step :: alone fuel rest g step.state

/-- Sharing a source is as good as having one generator, if every holder has a limit that a
    generator can have. -/
theorem share_eq_alone {session : List (Holder × Request)}
    (h : ∀ call ∈ session, call.1.limit ≤ platformMax) (source : Source σ ι) (fuel limit : Nat)
    (s : σ) :
    share source fuel session s =
      alone fuel (session.map fun (holder, request) => (holder.limit, request)) ⟨source, limit⟩
        s := by
  induction session generalizing limit s with
  | nil => rfl
  | cons call rest ih =>
    obtain ⟨holder, request⟩ := call
    have hle : holder.limit ≤ platformMax := h _ List.mem_cons_self
    have hrest := ih fun call hcall => h call (List.mem_cons_of_mem _ hcall)
    simp only [share, List.map_cons, alone, Generator.withLimit, Nat.min_eq_left hle,
      holder.serve_eq]
    cases (Generator.serve ⟨source, holder.limit⟩ fuel request s).ending with
    | unfinished => rfl
    | returned | panicked => exact congrArg (List.cons _) (hrest _ _)

/-- Handles change nothing about a session, and sharing a source through them is as good as
    having one generator over the bare source, its limit set before each request to that of
    the holder: each holder applies its own limit, on the state that all of them have left. -/
theorem play_behind_and_share (source : Source σ ι) (fuel : Nat) (s : σ)
    {session : List (Holder × Request)} (h : ∀ call ∈ session, call.1.limit ≤ platformMax) :
    (∀ (handles : List Handle) (limit : Nat) (requests : List Request),
      play fuel (requests.map (⟨source.behind handles.length, limit⟩, ·)) (Nest.hold s handles) =
        (play fuel (requests.map (⟨source, limit⟩, ·)) s).map
          (·.mapState (Nest.hold · handles))) ∧
    (∀ limit, share source fuel session s =
      alone fuel (session.map fun (holder, request) => (holder.limit, request)) ⟨source, limit⟩
        s) ∧
    ∀ i step, (share source fuel session s)[i]? = some step →
      ∃ holder request, session[i]? = some (holder, request) ∧
        step = Generator.serve ⟨source, holder.limit⟩ fuel request
          (last s ((share source fuel session s).take i)) :=
  ⟨fun handles limit requests => (follows_behind source handles).play limit fuel requests s,
    fun limit => share_eq_alone h source fuel limit s, fun _ _ hstep => getElem?_share hstep⟩

/-- Two holders, of one and of two bytes: the first has the source seeded for both, and is
    refused two bytes that the second is given. -/
theorem play_behind_and_share_two :
    let first : Holder := ⟨[.shared], 1⟩
    let second : Holder := ⟨[.reference, .shared], 2⟩
    let session : List (Holder × Request) :=
      [(first, .randomVec 1), (second, .randomVec 2), (first, .randomVec 2)]
    let s := Replay.State.start [0, 1] [1] []
    (∀ call ∈ session, call.1.limit ≤ platformMax) ∧
      share Replay.source 2 session s =
        alone 2 [(1, .randomVec 1), (2, .randomVec 2), (1, .randomVec 2)] ⟨Replay.source, 0⟩ s ∧
      (share Replay.source 2 session s).map (·.ending) =
        [.returned (.bytes (.ok [1])), .returned (.bytes (.ok [2, 33])),
          .returned (.bytes (.error (.tooLarge 2 1)))] := by
  intro first second session s
  have hlimits : ∀ call ∈ session, call.1.limit ≤ platformMax := by decide
  refine ⟨hlimits, (play_behind_and_share Replay.source 2 s hlimits).2.1 0, ?_⟩
  rfl

end Session

end SeedGate
