import SeedGate.Proofs.Attempt
import SeedGate.Source.Replay

/-!
# What the kind of a fault tells

A request for random bytes that returns a fault was over the limit, and has left its buffer
alone; or it had the source fill the buffer, which failed, and has wiped it
(`Attempt.eq_error_iff`). The fault of a source is handed on as it is, whatever its kind. So
the kind of the fault need not tell which of the two it was: a source can say itself that it
was asked for too much, or that something is wrong with its configuration.

* `telling_iff_generation`: the kind tells what has become of the buffer (`Telling`) just if
  the source has failed with no other kind than that of a failed generation.
-/

namespace SeedGate

open Event Bytes

variable {σ ι : Type}

/-- The source was given a buffer to fill, and failed with this fault. -/
def Event.FillFailed (events : List (Event ι)) (fault : Fault) : Prop :=
  ∃ entry, .fill entry (.error fault) ∈ calls events

/-- The kind of the fault that a request returns tells what has become of its buffer: it is
    too large just if it is over the limit, and then it was left alone; and a generation has
    failed just if the source was asked for some bytes within the limit and failed, and then
    the buffer is all zero. There is no other kind. -/
structure Telling (g : Generator σ ι) (buffer : Bytes)
    (run : BufferRun (Except Fault Unit) σ ι) : Prop where
  tooLarge_iff :
    (∃ requested limit, run.ending = .returned (.error (.tooLarge requested limit))) ↔
      g.limit < buffer.length
  untouched : g.limit < buffer.length → run.buffer = buffer ∧ calls run.events = []
  generation_iff : (∃ reason, run.ending = .returned (.error (.generation reason))) ↔
    buffer ≠ [] ∧ buffer.length ≤ g.limit ∧ ∃ fault, FillFailed run.events fault
  blank : (∃ fault, FillFailed run.events fault) → run.buffer = zeros buffer.length
  not_configuration : ∀ reason, run.ending ≠ .returned (.error (.configuration reason))

namespace Polling

variable {source : Source σ ι} {rounds : Nat} {s t : σ} {run : Run Unit σ ι}
  {events : List (Event ι)} {fault : Fault}

theorem not_fillFailed (h : Polling source rounds s run) : ¬FillFailed run.events fault := by
  rintro ⟨entry, hmem⟩
  exact h.seeking.not_mem_fill entry _ hmem

/-- After polling it is the one fill that can fail. -/
theorem fillFailed_filling_iff (h : Polling source rounds s ⟨.returned (), t, events⟩)
    {buffer : Bytes} :
    FillFailed (events ++ source.filling buffer t) fault ↔
      (source.fill buffer t).answer = .error fault := by
  simp only [FillFailed, calls_append, Source.calls_filling, List.mem_append, List.mem_singleton,
    Call.fill.injEq]
  constructor
  · rintro ⟨entry, hmem | ⟨-, hanswer⟩⟩
    · exact absurd ⟨entry, hmem⟩ h.not_fillFailed
    · exact hanswer.symm
  · intro hanswer
    exact ⟨buffer, .inr ⟨rfl, hanswer.symm⟩⟩

end Polling

namespace Attempt

variable {g : Generator σ ι} {buffer : Bytes} {s : σ} {run : BufferRun (Except Fault Unit) σ ι}
  {fault : Fault}

/-- A request over the limit is refused, and nothing is touched. -/
theorem of_lt (h : Attempt g buffer s run) (hlt : g.limit < buffer.length) :
    run.ending = .returned (.error (.tooLarge buffer.length g.limit)) ∧ run.buffer = buffer ∧
      calls run.events = [] ∧ run.state = s := by
  cases h with
  | oversized => exact ⟨rfl, rfl, rfl, rfl⟩
  | empty hempty =>
    rw [hempty] at hlt
    exact absurd hlt (Nat.not_lt_zero _)
  | cut hle | malformed hle | failed hle | filled hle => exact absurd hlt (Nat.not_lt.2 hle)

/-- A request whose source has failed is for some bytes within the limit; it hands the fault
    on and leaves zeros behind. -/
theorem of_fillFailed (h : Attempt g buffer s run) (hfailed : FillFailed run.events fault) :
    (buffer ≠ [] ∧ buffer.length ≤ g.limit) ∧ run.ending = .returned (.error fault) ∧
      run.buffer = zeros buffer.length := by
  cases h with
  | oversized | empty =>
    obtain ⟨_, hmem⟩ := hfailed
    cases hmem
  | cut _ _ hpoll | malformed _ _ hpoll => exact absurd hfailed hpoll.not_fillFailed
  | failed hle hne hpoll hfill =>
    have hanswer := hfill.symm.trans (hpoll.fillFailed_filling_iff.1 hfailed)
    exact ⟨⟨hne, hle⟩, congrArg Ending.returned hanswer, rfl⟩
  | filled _ _ hpoll hfill =>
    cases hfill.symm.trans (hpoll.fillFailed_filling_iff.1 hfailed)

/-- A fault is that of a request over the limit, or of the source. -/
theorem of_error (h : Attempt g buffer s run) (herror : run.ending = .returned (.error fault)) :
    (g.limit < buffer.length ∧ fault = .tooLarge buffer.length g.limit) ∨
      FillFailed run.events fault := by
  cases h with
  | oversized hlt =>
    cases herror
    exact .inl ⟨hlt, rfl⟩
  | failed _ _ hpoll hfill =>
    cases herror
    exact .inr (hpoll.fillFailed_filling_iff.2 hfill)
  | empty | cut | malformed | filled => cases herror

/-- When a request returns a fault, and which. -/
theorem eq_error_iff (h : Attempt g buffer s run) :
    run.ending = .returned (.error fault) ↔
      (g.limit < buffer.length ∧ fault = .tooLarge buffer.length g.limit) ∨
        (buffer ≠ [] ∧ buffer.length ≤ g.limit ∧ FillFailed run.events fault) := by
  constructor
  · intro herror
    refine (h.of_error herror).imp_right fun hfailed => ?_
    obtain ⟨⟨hne, hle⟩, -⟩ := h.of_fillFailed hfailed
    exact ⟨hne, hle, hfailed⟩
  · rintro (⟨hlt, rfl⟩ | ⟨-, -, hfailed⟩)
    · exact (h.of_lt hlt).1
    · exact (h.of_fillFailed hfailed).2.1

/-- If the source fails with no other kind, the kind is telling. -/
theorem telling (h : Attempt g buffer s run)
    (hgeneration : ∀ fault, FillFailed run.events fault → ∃ reason, fault = .generation reason) :
    Telling g buffer run where
  tooLarge_iff := by
    constructor
    · rintro ⟨requested, limit, herror⟩
      rcases h.of_error herror with ⟨hlt, -⟩ | hfailed
      · exact hlt
      · obtain ⟨_, hkind⟩ := hgeneration _ hfailed
        cases hkind
    · intro hlt
      exact ⟨_, _, (h.of_lt hlt).1⟩
  untouched hlt := ⟨(h.of_lt hlt).2.1, (h.of_lt hlt).2.2.1⟩
  generation_iff := by
    constructor
    · rintro ⟨reason, herror⟩
      rcases h.eq_error_iff.1 herror with ⟨-, hkind⟩ | ⟨hne, hle, hfailed⟩
      · cases hkind
      · exact ⟨hne, hle, _, hfailed⟩
    · rintro ⟨-, -, fault, hfailed⟩
      obtain ⟨reason, rfl⟩ := hgeneration fault hfailed
      exact ⟨reason, (h.of_fillFailed hfailed).2.1⟩
  blank := fun ⟨_, hfailed⟩ => (h.of_fillFailed hfailed).2.2
  not_configuration reason herror := by
    rcases h.of_error herror with ⟨-, hkind⟩ | hfailed
    · cases hkind
    · obtain ⟨_, hkind⟩ := hgeneration _ hfailed
      cases hkind

/-- Any other kind would tell something else than that the source has failed. -/
theorem generation_of_telling (h : Attempt g buffer s run) (htelling : Telling g buffer run)
    (hfailed : FillFailed run.events fault) : ∃ reason, fault = .generation reason := by
  obtain ⟨⟨-, hle⟩, herror, -⟩ := h.of_fillFailed hfailed
  cases fault with
  | tooLarge requested limit =>
    exact absurd (htelling.tooLarge_iff.1 ⟨requested, limit, herror⟩) (Nat.not_lt.2 hle)
  | generation reason => exact ⟨reason, rfl⟩
  | configuration reason => exact absurd herror (htelling.not_configuration reason)

end Attempt

/-- A request returns a fault in two cases: it is over the limit, and then its buffer is as it
    was and the source was not called; or the source failed to fill the buffer, and then the
    fault is that of the source, whatever its kind, and the buffer is all zero. The kind of
    the fault tells which just if the source has failed with no other kind than that of a
    failed generation. -/
theorem telling_iff_generation (g : Generator σ ι) (fuel : Nat) (buffer : Bytes) (s : σ) :
    let run := g.tryRandom fuel buffer s
    (∀ fault, run.ending = .returned (.error fault) ↔
      (g.limit < buffer.length ∧ fault = .tooLarge buffer.length g.limit) ∨
        (buffer ≠ [] ∧ buffer.length ≤ g.limit ∧ FillFailed run.events fault)) ∧
    (g.limit < buffer.length →
      run.buffer = buffer ∧ calls run.events = [] ∧ run.state = s) ∧
    (∀ fault, FillFailed run.events fault → run.buffer = zeros buffer.length) ∧
    (Telling g buffer run ↔
      ∀ fault, FillFailed run.events fault → ∃ reason, fault = .generation reason) := by
  intro run
  have h : Attempt g buffer s run := attempt_tryRandom g fuel buffer s
  exact ⟨fun _ => h.eq_error_iff, fun hlt => (h.of_lt hlt).2,
    fun _ hfailed => (h.of_fillFailed hfailed).2.2,
    fun htelling _ => h.generation_of_telling htelling, h.telling⟩

/-- A request for four bytes, of eight that are allowed, is refused as too large: the source
    says so, and the buffer is all zero. -/
theorem not_telling_within_limit :
    let g : Generator Replay.State Empty := ⟨Replay.source, 8⟩
    let buffer : Bytes := [7, 7, 7, 7]
    let run := g.tryRandom 1 buffer (.start [1] [] [⟨none, some (.tooLarge 4 2)⟩])
    run.ending = .returned (.error (.tooLarge 4 2)) ∧ buffer.length ≤ g.limit ∧
      run.buffer = [0, 0, 0, 0] ∧ ¬Telling g buffer run := by
  intro g buffer run
  have hle : buffer.length ≤ g.limit := by decide
  refine ⟨rfl, hle, rfl, fun htelling => ?_⟩
  exact absurd (htelling.tooLarge_iff.1 ⟨4, 2, rfl⟩) (Nat.not_lt.2 hle)

end SeedGate
