import SeedGate.ProcessWide
import SeedGate.Proofs.Accounting
import SeedGate.Proofs.Exits
import SeedGate.Proofs.OldContents

/-!
# One procedure behind all entry points

There are many ways to ask a generator for bytes, and one way in which it gets them. A
request is *direct* for another if it has `tryRandom` fill a buffer of the same size
(`Request.Direct`); if the other makes its own buffer, any contents will do. The steps
of the two *agree*: the one shows what the other has done (`agrees_serve`).

The functions of the process are no more than the methods of its generator
(`ProcessWide.play_eq`), which lives from the first call to the last.

* `agrees_play_direct`: if every request of a session is made directly, all steps agree
  and the source comes to the same state; a new vector within the limit is refused as
  too large only if the source itself says so; what is noted besides the attempts, and what
  is not, is known by its level and its text (`Remarks`); and a session by the functions of
  the process is one on a new generator over the entropy of the operating system.
-/

namespace SeedGate

open Event Bytes

variable {σ ι : Type}

/-- The second request has `tryRandom` fill a buffer as large as the first one's: that
    very buffer, or any if the first makes its own. -/
inductive Request.Direct : Request → Request → Prop
  | same {request : Request} (h : request.target? = none) : Direct request request
  | own {request : Request} {buffer : Bytes} (h : request.ownBuffer? = some buffer) :
      Direct request (.tryRandom buffer)
  | new {request : Request} {buffer : Bytes} (hown : request.ownBuffer? = none)
      (h : request.length? = some buffer.length) : Direct request (.tryRandom buffer)

/-- The first step shows, at the entry point of the request, what the second has done. -/
inductive Agrees (limit : Nat) (request : Request) : Step σ ι → Step σ ι → Prop
  | same (h : request.target? = none) (step : Step σ ι) : Agrees limit request step step
  | shown {run : BufferRun (Except Fault Unit) σ ι} {step : Step σ ι}
      (h : Shows limit request run step) : Agrees limit request step (run.step .outcome)

namespace Agrees

variable {limit : Nat} {request : Request} {step direct : Step σ ι}

theorem state (h : Agrees limit request step direct) : step.state = direct.state := by
  cases h with
  | same => rfl
  | shown h => exact h.state

theorem unfinished_iff (h : Agrees limit request step direct) :
    step.ending = .unfinished ↔ direct.ending = .unfinished := by
  cases h with
  | same => exact Iff.rfl
  | shown h => exact h.unfinished_iff.trans Ending.map_eq_unfinished_iff.symm

end Agrees

/-! ## One request -/

/-- What an entry point shows that makes its own buffer does not depend on what was in
    it before: a request over the limit shows nothing of its buffer, and any other has
    wiped it. -/
theorem shows_tryRandom_congr {request : Request} {g : Generator σ ι} {fuel : Nat} {s : σ}
    {a b : Bytes} {step : Step σ ι} (hown : request.ownBuffer? = none)
    (hlength : a.length = b.length) (h : Shows g.limit request (g.tryRandom fuel a s) step) :
    Shows g.limit request (g.tryRandom fuel b s) step := by
  rcases Nat.lt_or_ge g.limit a.length with hlt | hle
  · rw [tryRandom_of_lt hlt] at h
    rw [tryRandom_of_lt (hlength ▸ hlt), ← hlength]
    refine ⟨h.ending.trans ?_, h.state, h.events, h.buffer.trans (by rw [hown]; rfl)⟩
    cases request <;> rfl
  · rwa [tryRandom_congr hlength hle] at h

/-- A request agrees with a direct one. -/
theorem agrees_serve {request direct : Request} (h : request.Direct direct)
    (g : Generator σ ι) (fuel : Nat) (s : σ) :
    Agrees g.limit request (g.serve fuel request s) (g.serve fuel direct s) := by
  cases h with
  | same h => exact .same h _
  | own h => exact .shown (shows_serve (Request.target?_of_ownBuffer? h) g fuel s)
  | new hown h =>
    obtain ⟨target, htarget, hlength⟩ := Option.map_eq_some_iff.1 h
    exact .shown (shows_tryRandom_congr hown hlength (shows_serve htarget g fuel s))

/-- A new vector within the limit is too large only for the source. -/
theorem mem_fills_randomVec {g : Generator σ ι} {fuel n requested limit : Nat} {s : σ}
    (hle : n ≤ g.limit)
    (h : (g.randomVec fuel n s).ending = .returned (.error (.tooLarge requested limit))) :
    (zeros n, .error (.tooLarge requested limit)) ∈ fills (g.randomVec fuel n s).events := by
  rw [Generator.randomVec_eq, if_neg (Nat.not_lt.2 hle)] at h ⊢
  have hattempt := attempt_tryRandom g fuel (zeros n) s
  generalize g.tryRandom fuel (zeros n) s = run at h hattempt ⊢
  cases hattempt with
  | oversized hlt =>
    rw [length_zeros] at hlt
    exact absurd hlt (Nat.not_lt.2 hle)
  | empty | cut | malformed | filled => cases h
  | failed _ _ hpoll hfill =>
    cases h
    rw [BufferRun.handOver, hpoll.fills_filling, hfill, length_zeros]
    exact List.mem_singleton_self _

/-! ## What is written down -/

/-- The notes in which entry points differ from their attempts: the one that `random` adds, and
    the one that `randomVec` leaves out. -/
structure Remarks (g : Generator σ ι) (fuel : Nat) (s : σ) : Prop where
  /-- A failure is followed by one warning, with the length of the buffer and the fault in words. -/
  warning : ∀ buffer fault, (g.tryRandom fuel buffer s).ending = .returned (.error fault) →
    ∃ note : Log.Note,
      (g.random fuel buffer s).events = (g.tryRandom fuel buffer s).events ++ [.note note] ∧
        note.level = .warn ∧
        note.text = s!"secure random request failed len={buffer.length} error=" ++ fault.message
  /-- Nothing but a failure is followed by anything. -/
  silence : ∀ buffer, (∀ fault, (g.tryRandom fuel buffer s).ending ≠ .returned (.error fault)) →
    (g.random fuel buffer s).events = (g.tryRandom fuel buffer s).events
  /-- A vector over the limit is refused without the note for debugging that its attempt makes. -/
  omission : ∀ n, g.limit < n → (g.randomVec fuel n s).events = [] ∧
    ∃ note : Log.Note, (g.tryRandom fuel (zeros n) s).events = [.note note] ∧
      note.level = .debug ∧
      note.text = s!"rejecting oversized random request requested={n} max={g.limit}"

theorem remarks (g : Generator σ ι) (fuel : Nat) (s : σ) : Remarks g fuel s where
  warning buffer fault h := by
    refine ⟨.requestFailed buffer.length fault, ?_, rfl, rfl⟩
    simp only [Generator.random, h]
  silence buffer h := by
    rw [Generator.random]
    split
    · rfl
    · rfl
    · rfl
    · rename_i fault hfault
      exact absurd hfault (h fault)
  omission n hlt := by
    rw [Generator.randomVec_eq, if_pos hlt, tryRandom_of_lt (by rwa [length_zeros]), length_zeros]
    exact ⟨rfl, .oversized n g.limit, rfl, rfl, rfl⟩

/-! ## Sessions -/

/-- If every request is made directly, all steps agree. -/
theorem forall₂_agrees_play {fuel : Nat} {session direct : List (Generator σ ι × Request)}
    (h : List.Forall₂ (fun call other => call.1 = other.1 ∧ call.2.Direct other.2) session direct)
    (s : σ) :
    let steps := Session.play fuel session s
    let directs := Session.play fuel direct s
    List.Forall₂ (fun served other => Agrees served.1.1.limit served.1.2 served.2 other)
        (session.zip steps) directs ∧
      Session.last s steps = Session.last s directs := by
  dsimp only
  induction h generalizing s with
  | nil => exact ⟨.nil, rfl⟩
  | @cons call other rest others hcall _ ih =>
    obtain ⟨g, request⟩ := call
    obtain ⟨_, direct⟩ := other
    obtain ⟨rfl, hdirect⟩ := hcall
    have hstep := agrees_serve hdirect g fuel s
    -- Either both sessions end here, or both go on from one and the same state.
    by_cases hcut : (g.serve fuel request s).ending = .unfinished
    · rw [Session.play_cons_of_cut hcut,
        Session.play_cons_of_cut (hstep.unfinished_iff.1 hcut), List.zip_cons_cons,
        List.zip_nil_right]
      exact ⟨.cons hstep .nil, hstep.state⟩
    · obtain ⟨hsteps, hlast⟩ := ih (g.serve fuel request s).state
      rw [Session.play_cons_of_finished hcut,
        Session.play_cons_of_finished (mt hstep.unfinished_iff.2 hcut), List.zip_cons_cons,
        Session.last_cons, Session.last_cons, ← hstep.state]
      exact ⟨.cons hstep hsteps, hlast⟩

namespace ProcessWide

open SystemEntropy

variable {stream : Nat → UInt8}

/-- Carries out requests by the functions of the process, one after the other. -/
def play (stream : Nat → UInt8) : List Request → State → List (Step State Happening)
  | [], _ => []
  | request :: rest, s =>
    let step := serve stream request s
    step :: play stream rest step.state

theorem serve_eq (stream : Nat → UInt8) (request : Request) (s : State) :
    serve stream request s = (system stream).serve rounds request s := by
  cases request <;> rfl

/-- The functions of the process are the methods of its generator, however many rounds
    of polling these are allowed. -/
theorem play_eq {fuel : Nat} (hfuel : rounds ≤ fuel) (requests : List Request) (s : State) :
    play stream requests s = Session.play fuel (requests.map (system stream, ·)) s := by
  obtain ⟨extra, rfl⟩ := Nat.exists_eq_add_of_le hfuel
  induction requests generalizing s with
  | nil => rfl
  | cons request rest ih =>
    have hfinished : ((system stream).serve rounds request s).ending ≠ .unfinished :=
      finished_serve (finished_poll stream (Nat.le_refl _) _ s) request
    -- The process allows as many rounds as are needed, so that more make no difference.
    have hadd := serve_add hfinished extra
    rw [List.map_cons, Session.play_cons_of_finished (hadd ▸ hfinished), hadd, ← ih, play,
      serve_eq]

end ProcessWide

/-- Whatever the entry points that a session takes, its requests might as well be made
    directly: all steps agree, and the source comes to the same state. A new vector within
    the limit is refused as too large only by the source. What entry points note besides is
    a warning of a failure, and what they do not note is for debugging (`Remarks`). And the
    functions of the process are entry points of one generator over the entropy of the
    operating system. -/
theorem agrees_play_direct (fuel : Nat) {session direct : List (Generator σ ι × Request)}
    (h : List.Forall₂ (fun call other => call.1 = other.1 ∧ call.2.Direct other.2) session direct)
    (s : σ) :
    let steps := Session.play fuel session s
    let directs := Session.play fuel direct s
    (List.Forall₂ (fun served other => Agrees served.1.1.limit served.1.2 served.2 other)
        (session.zip steps) directs ∧
      steps.length = directs.length ∧ Session.last s steps = Session.last s directs) ∧
    (∀ (g : Generator σ ι) (n requested limit : Nat) (t : σ), n ≤ g.limit →
      (g.randomVec fuel n t).ending = .returned (.error (.tooLarge requested limit)) →
        (zeros n, .error (.tooLarge requested limit)) ∈ fills (g.randomVec fuel n t).events) ∧
    (∀ (g : Generator σ ι) (t : σ), Remarks g fuel t) ∧
    ∀ (stream : Nat → UInt8) (outcomes : List Nat) (requests : List Request) (rounds : Nat),
      SystemEntropy.rounds ≤ rounds →
        ProcessWide.play stream requests (.fresh outcomes) =
          Session.play rounds (requests.map (.ofSource (SystemEntropy.source stream), ·))
            (.fresh outcomes) := by
  obtain ⟨hsteps, hlast⟩ : List.Forall₂ _ _ (Session.play fuel direct s) ∧ _ :=
    forall₂_agrees_play h s
  have hlength := hsteps.length_eq
  rw [List.length_zip, Nat.min_eq_right (Session.length_play_le session s)] at hlength
  exact ⟨⟨hsteps, hlength, hlast⟩, fun _ _ _ _ _ => mem_fills_randomVec,
    fun g t => remarks g fuel t,
    fun _ outcomes requests _ hrounds => ProcessWide.play_eq hrounds requests (.fresh outcomes)⟩

/-- A fill that fails and one that says it was asked for too much, with a vector over the
    limit between them; and a process that polls before it draws. -/
theorem agrees_play_direct_mixed :
    let g : Generator Replay.State Empty := ⟨Replay.source, 4⟩
    let s : Replay.State := .start [0, 1] [2]
      [⟨some 1, some (.generation "worn out")⟩, ⟨none, some (.tooLarge 3 2)⟩]
    let session : List (Generator Replay.State Empty × Request) :=
      [(g, .random [7, 7]), (g, .randomVec 5), (g, .isSeeded), (g, .randomArray 3)]
    let direct : List (Generator Replay.State Empty × Request) :=
      [(g, .tryRandom [7, 7]), (g, .tryRandom [1, 2, 3, 4, 5]), (g, .isSeeded),
        (g, .tryRandom [6, 7, 8])]
    let steps := Session.play 2 session s
    let directs := Session.play 2 direct s
    let t : Replay.State := .start [1] [] [⟨none, some (.tooLarge 3 2)⟩]
    let stream : Nat → UInt8 := fun i => .ofNat i
    let requests : List Request := [.poll, .randomVec 2]
    (List.Forall₂ (fun call other => call.1 = other.1 ∧ call.2.Direct other.2) session direct ∧
      List.Forall₂ (fun served other => Agrees served.1.1.limit served.1.2 served.2 other)
        (session.zip steps) directs ∧
      steps.length = directs.length ∧ Session.last s steps = Session.last s directs) ∧
    (3 ≤ g.limit ∧ (g.randomVec 2 3 t).ending = .returned (.error (.tooLarge 3 2)) ∧
      (zeros 3, .error (.tooLarge 3 2)) ∈ fills (g.randomVec 2 3 t).events) ∧
    ((∃ note : Log.Note,
        (g.random 2 [7, 7] s).events = (g.tryRandom 2 [7, 7] s).events ++ [.note note] ∧
          note.level = .warn ∧ note.text =
            "secure random request failed len=2 error=Random generation failed: worn out") ∧
      (g.randomVec 2 5 s).events = [] ∧
      ∃ note : Log.Note, (g.tryRandom 2 (zeros 5) s).events = [.note note] ∧
        note.level = .debug ∧
        note.text = "rejecting oversized random request requested=5 max=4") ∧
    SystemEntropy.rounds ≤ 5 ∧ ProcessWide.play stream requests (.fresh [5]) =
      Session.play 5 (requests.map (.ofSource (SystemEntropy.source stream), ·)) (.fresh [5]) := by
  intro g s session direct steps directs t stream requests
  have h : List.Forall₂ (fun call other => call.1 = other.1 ∧ call.2.Direct other.2)
      session direct :=
    .cons ⟨rfl, .own rfl⟩ (.cons ⟨rfl, .new rfl rfl⟩
      (.cons ⟨rfl, .same rfl⟩ (.cons ⟨rfl, .new rfl rfl⟩ .nil)))
  obtain ⟨hsteps, hvec, hremarks, hprocess⟩ := agrees_play_direct 2 h s
  obtain ⟨hwarning, -, homission⟩ := hremarks g s
  obtain ⟨hunsaid, note, hnote, hlevel, htext⟩ := homission 5 (by decide)
  exact ⟨⟨h, hsteps⟩, ⟨by decide, rfl, hvec g 3 3 2 t (by decide) rfl⟩,
    ⟨hwarning [7, 7] (.generation "worn out") rfl, hunsaid, note, hnote, hlevel,
      htext.trans (by decide)⟩, by decide,
    hprocess stream [5] requests 5 (by decide)⟩

end SeedGate
