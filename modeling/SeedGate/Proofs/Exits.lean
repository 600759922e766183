import SeedGate.Proofs.Attempt
import SeedGate.Source.Replay

/-!
# How a request ends

A request for random bytes that finishes does so in one of five ways. `Exit` names
them; `Exit.Taken` says by what each is known, in terms of the size of the buffer
and of the calls that were made, and `Exit.Leaves` what it leaves behind: the
result, the buffer, and how far the source has come.

* `existsUnique_exit`: exactly one of the five is taken, and it leaves behind what
  it should, whatever the source does.
-/

namespace SeedGate

open Event Bytes

variable {α σ ι : Type}

/-- The fill that a call is, if it is one: the buffer as it was handed over, and the
    answer. -/
def Call.fill? : Call → Option (Bytes × Except Fault Unit)
  | .fill entry answer => some (entry, answer)
  | _ => none

/-- The fills among events, in their order. -/
def Event.fills (events : List (Event ι)) : List (Bytes × Except Fault Unit) :=
  (calls events).filterMap Call.fill?

theorem Seeking.filterMap_fill? {cs : List Call} {ending : Ending Unit} (h : Seeking cs ending) :
    cs.filterMap Call.fill? = [] := by
  refine List.filterMap_eq_nil_iff.2 fun call hcall => ?_
  cases call with
  | fill entry answer => exact absurd hcall (h.not_mem_fill entry answer)
  | _ => rfl

namespace Polling

variable {source : Source σ ι} {rounds : Nat} {s t : σ} {run : Run Unit σ ι}
  {events : List (Event ι)}

theorem fills_eq_nil (h : Polling source rounds s run) : fills run.events = [] :=
  h.seeking.filterMap_fill?

/-- The only fill is the one after polling. -/
theorem fills_filling (h : Polling source rounds s ⟨.returned (), t, events⟩) (buffer : Bytes) :
    fills (events ++ source.filling buffer t) = [(buffer, (source.fill buffer t).answer)] := by
  rw [fills, calls_append, List.filterMap_append, h.seeking.filterMap_fill?, Source.calls_filling]
  rfl

/-- No negative status precedes a fill. -/
theorem not_mem_status (h : Polling source rounds s ⟨.returned (), t, events⟩) (buffer : Bytes) :
    ¬∃ v < 0, Call.status v ∈ calls (events ++ source.filling buffer t) := by
  rintro ⟨v, hv, hmem⟩
  rw [calls_append, Source.calls_filling, List.mem_append, List.mem_singleton] at hmem
  rcases hmem with hmem | hmem
  · exact absurd (h.seeking.nonneg_of_returned hmem) (Int.not_le.2 hv)
  · cases hmem

end Polling

/-- The last thing that happened is that the source, in the state `t`, was given a
    blank buffer of `n` bytes to fill; before that it was led there without a fill. -/
structure Run.FillsAt (source : Source σ ι) (n : Nat) (s t : σ) (run : Run α σ ι) : Prop where
  events : ∃ earlier, source.Leads s earlier t ∧ fills earlier = [] ∧
    run.events = earlier ++ source.filling (zeros n) t
  state : run.state = (source.fill (zeros n) t).state

/-- The ways in which a request can end. -/
inductive Exit where
  /-- More bytes were asked for than the generator accepts. -/
  | oversized
  /-- No bytes were asked for. -/
  | empty
  /-- A negative status was read. -/
  | malformed
  /-- The source was asked for the bytes, and failed. -/
  | failed
  /-- The source was asked for the bytes, and delivered. -/
  | filled

namespace Exit

variable (g : Generator σ ι) (buffer : Bytes)

/-- How it is known, from the size of the buffer and from what happened, that a
    request has ended in this way. -/
def Taken (events : List (Event ι)) : Exit → Prop
  | oversized => g.limit < buffer.length
  | empty => buffer = []
  | malformed => ∃ v < 0, .status v ∈ calls events
  | failed => ∃ fault, fills events = [(zeros buffer.length, .error fault)]
  | filled => fills events = [(zeros buffer.length, .ok ())]

/-- What a request that ends in this way leaves behind. -/
def Leaves (s : σ) (run : BufferRun (Except Fault Unit) σ ι) : Exit → Prop
  | oversized =>
    run.ending = .returned (.error (.tooLarge buffer.length g.limit)) ∧ run.buffer = buffer ∧
      calls run.events = [] ∧ run.state = s
  | empty =>
    run.ending = .returned (.ok ()) ∧ run.buffer = buffer ∧ calls run.events = [] ∧ run.state = s
  | malformed =>
    ∃ v < 0, .status v ∈ calls run.events ∧ run.ending = .panicked (.malformedStatus v) ∧
      run.buffer = zeros buffer.length ∧ fills run.events = []
  | failed =>
    ∃ t fault, run.FillsAt g.source buffer.length s t ∧
      (g.source.fill (zeros buffer.length) t).answer = .error fault ∧
      run.ending = .returned (.error fault) ∧ run.buffer = zeros buffer.length
  | filled =>
    ∃ t, run.FillsAt g.source buffer.length s t ∧
      (g.source.fill (zeros buffer.length) t).answer = .ok () ∧
      run.ending = .returned (.ok ()) ∧
      run.buffer = (g.source.fill (zeros buffer.length) t).buffer

/-- The exit that the answer to a fill leads to. -/
def ofAnswer : Except Fault Unit → Exit
  | .ok () => filled
  | .error _ => failed

variable {g buffer} {events : List (Event ι)}

/-- A request in which the source was asked for the bytes ends as the source answered. -/
theorem taken_iff_of_fills {answer : Except Fault Unit} (hle : buffer.length ≤ g.limit)
    (hne : buffer ≠ []) (hstatus : ¬∃ v < 0, .status v ∈ calls events)
    (hfills : fills events = [(zeros buffer.length, answer)]) (exit : Exit) :
    exit.Taken g buffer events ↔ exit = ofAnswer answer := by
  cases exit with
  | oversized => exact iff_of_false (Nat.not_lt.2 hle) (by cases answer <;> exact nofun)
  | empty => exact iff_of_false hne (by cases answer <;> exact nofun)
  | malformed => exact iff_of_false hstatus (by cases answer <;> exact nofun)
  | failed => cases answer <;> simp [Taken, hfills, ofAnswer]
  | filled => cases answer <;> simp [Taken, hfills, ofAnswer]

end Exit

/-- A request that finishes ends in exactly one of the five ways, and leaves behind
    what it should. -/
theorem existsUnique_exit (g : Generator σ ι) (fuel : Nat) (buffer : Bytes) (s : σ)
    (hfinished : (g.tryRandom fuel buffer s).ending ≠ .unfinished) :
    ∃ exit : Exit, exit.Leaves g buffer s (g.tryRandom fuel buffer s) ∧
      ∀ other : Exit, other.Taken g buffer (g.tryRandom fuel buffer s).events ↔ other = exit := by
  have h := attempt_tryRandom g fuel buffer s
  generalize g.tryRandom fuel buffer s = run at h hfinished ⊢
  cases h with
  | oversized hlt =>
    -- No limit is less than nothing, so that the request is not empty.
    have hne : buffer ≠ [] := by
      intro hempty
      simp [hempty] at hlt
    refine ⟨.oversized, ⟨rfl, rfl, rfl, rfl⟩, fun other => ?_⟩
    cases other <;> simp [Exit.Taken, fills, hlt, hne]
  | empty hempty =>
    subst hempty
    refine ⟨.empty, ⟨rfl, rfl, rfl, rfl⟩, fun other => ?_⟩
    cases other <;> simp [Exit.Taken, fills]
  | cut => exact absurd rfl hfinished
  | malformed hle hne hpoll =>
    -- Polling gave up, on a status that is still there to be seen.
    obtain ⟨v, hv, rfl, earlier, hcalls⟩ := hpoll.seeking.of_panicked
    have hmem : .status v ∈ calls _ := hcalls ▸ List.mem_concat_self
    have hnegative : ∃ v < 0, .status v ∈ calls _ := ⟨v, hv, hmem⟩
    have hfills := hpoll.fills_eq_nil
    refine ⟨.malformed, ⟨v, hv, hmem, rfl, rfl, hfills⟩, fun other => ?_⟩
    cases other <;> simp [Exit.Taken, hfills, hnegative, hle, hne]
  | failed hle hne hpoll hfill =>
    have hfills := hpoll.fills_filling (zeros buffer.length)
    rw [hfill] at hfills
    have htaken := Exit.taken_iff_of_fills hle hne (hpoll.not_mem_status _) hfills
    exact ⟨.failed, ⟨_, _, ⟨⟨_, hpoll.leads, hpoll.fills_eq_nil, rfl⟩, rfl⟩, hfill, rfl, rfl⟩,
      htaken⟩
  | filled hle hne hpoll hfill =>
    have hfills := hpoll.fills_filling (zeros buffer.length)
    rw [hfill] at hfills
    have htaken := Exit.taken_iff_of_fills hle hne (hpoll.not_mem_status _) hfills
    exact ⟨.filled, ⟨_, ⟨⟨_, hpoll.leads, hpoll.fills_eq_nil, rfl⟩, rfl⟩, hfill, rfl, rfl⟩, htaken⟩

/-- A source that gathers once, then soils two of three bytes and fails. -/
theorem existsUnique_exit_soiled :
    let g : Generator Replay.State Empty := ⟨Replay.source, 8⟩
    let s : Replay.State := .start [0, 1] [-1] [⟨some 2, some (.configuration "broken")⟩]
    let run := g.tryRandom 2 [7, 8, 9] s
    run.ending ≠ .unfinished ∧ ∃ exit : Exit, exit.Leaves g [7, 8, 9] s run ∧
      ∀ other : Exit, other.Taken g [7, 8, 9] run.events ↔ other = exit :=
  ⟨nofun, existsUnique_exit _ _ _ _ nofun⟩

end SeedGate
