import SeedGate.Proofs.Draws
import SeedGate.Proofs.Termination

/-!
# What the seeded flag tells

The entropy of the operating system says that it is seeded once a probe has succeeded
(`Probed`). Fills are draws as well, and one that succeeds (`Filled`) shows no less that the
kernel delivers; but they leave the flag alone. So whatever calls were made, the flag is
set just if a probe has succeeded (`seeded_iff_of_leads`), whereas some draw has succeeded
just if a probe has or a fill of some bytes (`drew_iff_of_leads`).

`Kernel.Takes` says which attempts one draw takes: any number that are interrupted, and one
that is not and decides.

* `status_iff_of_leads`: the status is one just if a probe has succeeded, and so it tells
  whether a draw has succeeded just if no fill has succeeded without a probe. A successful
  request need not set it, and if it does not, the next request makes the probe again.
-/

namespace SeedGate

open Event Bytes

variable {σ ι : Type}

/-! ## Attempts at one draw -/

namespace Kernel

/-- The attempts that a draw takes: some that are interrupted, and one that is not. It decides
    whether the draw is refused, and with what error number. -/
inductive Takes (length : Nat) : (refusal? : Option Nat) → List Draw → Prop
  | settled {refusal? : Option Nat} (h : refusal? ≠ some ErrorNumber.interrupted) :
      Takes length refusal? [⟨length, refusal?⟩]
  | again {refusal? : Option Nat} {attempts : List Draw} (h : Takes length refusal? attempts) :
      Takes length refusal? (⟨length, some ErrorNumber.interrupted⟩ :: attempts)

/-- The error number in the answer to a draw that was refused. -/
def refusalOf? : Except Nat Bytes → Option Nat
  | .ok _ => none
  | .error errno => some errno

theorem takes_attempt (stream : Nat → UInt8) (length delivered : Nat) (outcomes : List Nat) :
    let reply := attempt stream length delivered outcomes
    Takes length (refusalOf? reply.answer) reply.record := by
  dsimp only
  have hdelivered : Takes length none [⟨length, none⟩] := .settled (Option.some_ne_none _).symm
  induction outcomes with
  | nil => exact hdelivered
  | cons errno outcomes ih =>
    rw [attempt]
    split_ifs with hzero hinterrupted
    · exact hdelivered
    · subst hinterrupted
      exact .again ih
    · refine .settled fun hsome => hinterrupted ?_
      exact Option.some.inj hsome

theorem takes_draw (stream : Nat → UInt8) {length : Nat} (h : length ≠ 0) (k : Kernel) :
    Takes length (refusalOf? (k.draw stream length).answer) (k.draw stream length).record := by
  rw [draw, if_neg h]
  exact takes_attempt stream length k.delivered k.outcomes

/-- An attempt has succeeded just if the draw has. -/
theorem Takes.exists_iff {length : Nat} {refusal? : Option Nat} {attempts : List Draw}
    (h : Takes length refusal? attempts) :
    (∃ draw ∈ attempts, draw.refusal? = none) ↔ refusal? = none := by
  induction h with
  | settled => simp
  | again _ ih => simpa using ih

end Kernel

/-! ## What has succeeded -/

/-- A pass of gathering has made progress. -/
def Probed (events : List (Event ι)) : Prop := ∃ progress ≠ 0, .gather progress ∈ calls events

/-- A buffer of some bytes has been filled. -/
def Filled (events : List (Event ι)) : Prop := ∃ entry ≠ [], .fill entry (.ok ()) ∈ calls events

theorem probed_append {a b : List (Event ι)} : Probed (a ++ b) ↔ Probed a ∨ Probed b := by
  simp only [Probed, calls_append, List.mem_append, and_or_left, exists_or]

theorem filled_append {a b : List (Event ι)} : Filled (a ++ b) ↔ Filled a ∨ Filled b := by
  simp only [Filled, calls_append, List.mem_append, and_or_left, exists_or]

namespace Source

variable {source : Source σ ι} {s : σ} {buffer : Bytes}

@[simp] theorem not_probed_asking : ¬Probed (source.asking s) := by simp [Probed]

@[simp] theorem probed_gathering_iff :
    Probed (source.gathering s) ↔ (source.gather s).answer ≠ 0 := by simp [Probed]

@[simp] theorem not_probed_filling : ¬Probed (source.filling buffer s) := by simp [Probed]

@[simp] theorem not_filled_asking : ¬Filled (source.asking s) := by simp [Filled]

@[simp] theorem not_filled_gathering : ¬Filled (source.gathering s) := by simp [Filled]

@[simp] theorem filled_filling_iff :
    Filled (source.filling buffer s) ↔ buffer ≠ [] ∧ (source.fill buffer s).answer = .ok () := by
  simp [Filled, eq_comm]

end Source

/-- There are bytes to hand out only if the source has filled a buffer. -/
theorem Attempt.filled_of_handedOut {g : Generator σ ι} {buffer : Bytes} {s : σ}
    {run : BufferRun (Except Fault Unit) σ ι} (h : Attempt g buffer s run)
    (hout : run.handedOut ≠ []) : Filled run.events := by
  cases h with
  | filled _ hne _ hfill =>
    refine filled_append.2 (.inr (Source.filled_filling_iff.2 ⟨fun hempty => hne ?_, hfill⟩))
    rw [← List.length_eq_zero_iff, ← length_zeros buffer.length, hempty, List.length_nil]
  | _ => exact absurd rfl hout

/-- Bytes are handed out only if the source has filled them in. -/
theorem filled_of_handedOut {g : Generator σ ι} {fuel : Nat} {request : Request} {s : σ}
    (hout : (g.serve fuel request s).handedOut request ≠ []) :
    Filled (g.serve fuel request s).events := by
  cases htarget : request.target? with
  | none => exact absurd (Step.handedOut_of_target?_eq_none htarget _) hout
  | some buffer =>
    have hserves := serves_serve htarget g fuel s
    rw [hserves.handedOut] at hout
    rw [Filled, hserves.calls]
    exact (attempt_tryRandom g fuel buffer s).filled_of_handedOut hout

/-! ## Who gathers -/

/-- The source was told to gather. -/
def Gathered (events : List (Event ι)) : Prop := ∃ progress, .gather progress ∈ calls events

/-- Polling that ends gathers just if the status is zero at first. -/
theorem Polling.gathered_iff {source : Source σ ι} {rounds : Nat} {s : σ} {run : Run Unit σ ι}
    (h : Polling source rounds s run) (hfinished : run.ending ≠ .unfinished) :
    Gathered run.events ↔ (source.status s).answer = 0 := by
  cases h with
  | cut => exact absurd rfl hfinished
  | malformed hneg => simp [Gathered, Int.ne_of_lt hneg]
  | seeded hpos => simp [Gathered, Int.ne_of_gt hpos]
  | stalled hzero => simp [Gathered, hzero]
  | again hzero => simp [Gathered, hzero]

/-- So does a request for some bytes within the limit: its fill is no gathering. -/
theorem Attempt.gathered_iff {g : Generator σ ι} {buffer : Bytes} {s : σ}
    {run : BufferRun (Except Fault Unit) σ ι} (h : Attempt g buffer s run)
    (hpos : 0 < buffer.length) (hle : buffer.length ≤ g.limit)
    (hfinished : run.ending ≠ .unfinished) :
    Gathered run.events ↔ (g.source.status s).answer = 0 := by
  have hfilling {events : List (Event ι)} {buffer : Bytes} {t : σ} :
      Gathered (events ++ g.source.filling buffer t) ↔ Gathered events := by simp [Gathered]
  cases h with
  | oversized hlt => exact absurd hlt (Nat.not_lt.2 hle)
  | empty hempty =>
    subst hempty
    exact absurd hpos (Nat.lt_irrefl 0)
  | cut => exact absurd rfl hfinished
  | malformed _ _ hpoll => exact hpoll.gathered_iff nofun
  | failed _ _ hpoll => rw [hfilling, hpoll.gathered_iff nofun]
  | filled _ _ hpoll => rw [hfilling, hpoll.gathered_iff nofun]

/-- Whoever polls gathers just if the status is zero at first. -/
theorem gathered_serve_iff {g : Generator σ ι} {request : Request}
    (h : request.Polls g.limit) {fuel : Nat} {s : σ}
    (hfinished : (g.serve fuel request s).ending ≠ .unfinished) :
    Gathered (g.serve fuel request s).events ↔ (g.source.status s).answer = 0 := by
  rcases request.target?_cases with ⟨buffer, htarget⟩ | rfl | rfl
  · have hserves := serves_serve htarget g fuel s
    obtain ⟨hpos, hle⟩ := Request.within_of_counts h.2 htarget
    rw [Ne, hserves.unfinished] at hfinished
    rw [Gathered, hserves.calls]
    exact (attempt_tryRandom g fuel buffer s).gathered_iff hpos hle hfinished
  · have hpoll : (g.poll fuel s).ending ≠ .unfinished := mt Ending.map_eq_unfinished_iff.2 hfinished
    exact (polling_poll g fuel s).gathered_iff hpoll
  · exact absurd rfl h.1

namespace SystemEntropy

open Kernel

variable {stream : Nat → UInt8} {s t : State} {events : List (Event Happening)}

/-- A draw from the kernel has succeeded. -/
def Drew (events : List (Event Happening)) : Prop := ∃ draw ∈ draws events, draw.refusal? = none

theorem drew_append {a b : List (Event Happening)} : Drew (a ++ b) ↔ Drew a ∨ Drew b := by
  simp only [Drew, draws_append, List.mem_append, or_and_right, exists_or]

/-! ## One call -/

/-- A pass of gathering makes progress just if its probe succeeds. -/
theorem answer_gather_ne_zero_iff :
    ((source stream).gather s).answer ≠ 0 ↔
      refusalOf? (s.kernel.draw stream 1).answer = none := by
  simp only [source, gather]
  cases (s.kernel.draw stream 1).answer <;> simp [refusalOf?]

/-- A pass that makes progress sets the flag, and any other leaves it alone. -/
theorem seeded_gather_iff :
    ((source stream).gather s).state.seeded = true ↔
      s.seeded = true ∨ ((source stream).gather s).answer ≠ 0 := by
  simp only [source, gather]
  cases (s.kernel.draw stream 1).answer <;> simp

/-- A fill leaves the flag alone. -/
theorem seeded_fill (buffer : Bytes) (s : State) :
    ((source stream).fill buffer s).state.seeded = s.seeded := by
  rw [fill_eq]

theorem not_drew_asking : ¬Drew ((source stream).asking s) := by simp [Drew]

theorem drew_gathering_iff :
    Drew ((source stream).gathering s) ↔ ((source stream).gather s).answer ≠ 0 := by
  rw [Drew, draws_gathering, (takes_draw stream Nat.one_ne_zero s.kernel).exists_iff,
    answer_gather_ne_zero_iff]

theorem drew_filling_iff {buffer : Bytes} :
    Drew ((source stream).filling buffer s) ↔
      buffer ≠ [] ∧ ((source stream).fill buffer s).answer = .ok () := by
  rw [Drew, draws_filling, fill_eq]
  by_cases hempty : buffer = []
  · subst hempty
    simp [Kernel.draw]
  · have hlength : buffer.length ≠ 0 := mt List.length_eq_zero_iff.1 hempty
    rw [(takes_draw stream hlength s.kernel).exists_iff]
    cases (s.kernel.draw stream buffer.length).answer <;> simp [hempty, refusalOf?, answerOf]

/-! ## Any calls -/

/-- The flag is set by a probe that succeeds, and by nothing else. -/
theorem seeded_iff_of_leads (h : (source stream).Leads s events t) :
    t.seeded = true ↔ s.seeded = true ∨ Probed events := by
  induction h with
  | refl => simp [Probed]
  | note _ _ ih => exact ih
  | status _ ih =>
    rw [ih, probed_append, or_iff_right Source.not_probed_asking]
    rfl
  | gather _ ih => rw [ih, probed_append, seeded_gather_iff, Source.probed_gathering_iff, or_assoc]
  | fill buffer _ ih =>
    rw [ih, probed_append, seeded_fill, or_iff_right Source.not_probed_filling]

/-- A draw that succeeds is a probe or a fill of some bytes. -/
theorem drew_iff_of_leads (h : (source stream).Leads s events t) :
    Drew events ↔ Probed events ∨ Filled events := by
  induction h with
  | refl => simp [Drew, Probed, Filled, draws]
  | note _ _ ih => exact ih
  | status _ ih =>
    rw [drew_append, ih, probed_append, filled_append, or_iff_right not_drew_asking,
      or_iff_right Source.not_probed_asking, or_iff_right Source.not_filled_asking]
  | gather _ ih =>
    rw [drew_append, ih, probed_append, filled_append, drew_gathering_iff,
      Source.probed_gathering_iff, or_iff_right Source.not_filled_gathering, or_assoc]
  | fill buffer _ ih =>
    rw [drew_append, ih, probed_append, filled_append, drew_filling_iff,
      Source.filled_filling_iff, or_iff_right Source.not_probed_filling, or_left_comm]

theorem status_eq_one_iff {s : State} : (status s).answer = 1 ↔ s.seeded = true := by
  cases hs : s.seeded <;> simp [status, hs]

/-- A generator takes the source for seeded exactly if its flag is set. -/
theorem isSeeded_iff {limit : Nat} {s : State} :
    (Generator.isSeeded ⟨source stream, limit⟩ s).ending = .returned true ↔ s.seeded = true := by
  cases hs : s.seeded <;> simp [Generator.isSeeded, source, status, hs]

/-- The status of the source is one just if a probe has succeeded. So it tells whether a draw
    has succeeded, probe or not, just if a fill has succeeded at most where a probe has. In
    particular a request that hands out bytes need not set it, however they were drawn: the
    generator is seeded after it, and the next request makes no probe, just if a probe has
    succeeded by then. -/
theorem status_iff_of_leads (stream : Nat → UInt8) {outcomes : List Nat}
    (h : (source stream).Leads (.fresh outcomes) events t) :
    (((source stream).status t).answer = 1 ↔ Probed events) ∧
    ((((source stream).status t).answer = 1 ↔ Drew events) ↔ (Filled events → Probed events)) ∧
    ∀ (limit fuel : Nat) (request : Request), rounds ≤ fuel →
      let g : Generator State Happening := ⟨source stream, limit⟩
      let step := g.serve fuel request t
      let later := events ++ step.events
      step.handedOut request ≠ [] →
        Drew later ∧ ((g.isSeeded step.state).ending = .returned true ↔ Probed later) ∧
        ∀ next : Request, next.Polls limit →
          (Gathered (g.serve fuel next step.state).events ↔ ¬Probed later) := by
  have hprobed {events : List (Event Happening)} {t : State}
      (h : (source stream).Leads (.fresh outcomes) events t) :
      t.seeded = true ↔ Probed events := by
    rw [seeded_iff_of_leads h, or_iff_right (nofun : ¬(State.fresh outcomes).seeded = true)]
  have hstatus : ((source stream).status t).answer = 1 ↔ Probed events :=
    status_eq_one_iff.trans (hprobed h)
  refine ⟨hstatus, ?_, ?_⟩
  · rw [hstatus, drew_iff_of_leads h, iff_self_or]
  · intro limit fuel request hfuel g step later hout
    have hlater : (source stream).Leads (.fresh outcomes) later step.state :=
      h.trans (leads_serve g fuel request t)
    refine ⟨(drew_iff_of_leads hlater).2 (.inr ?_), isSeeded_iff.trans (hprobed hlater), ?_⟩
    · exact filled_append.2 (.inr (filled_of_handedOut hout))
    · intro next hnext
      have hfinished := finished_serve (finished_poll stream hfuel limit step.state) next
      rw [gathered_serve_iff hnext hfinished, ← hprobed hlater, Bool.not_eq_true]
      exact status_eq_zero_iff

/-- The probe is refused and the fill is not; then the source is told to gather, and from then
    on it is seeded. -/
theorem status_iff_of_leads_regathered :
    let stream : Nat → UInt8 := fun i => .ofNat (i + 1)
    let g : Generator State Happening := ⟨source stream, 4⟩
    let run := g.tryRandom 2 [7, 7] (.fresh [5])
    let t := (g.source.gather run.state).state
    let events := run.events ++ g.source.gathering run.state
    let step := g.serve 2 (.randomVec 3) t
    g.source.Leads (.fresh [5]) events t ∧ (g.source.status t).answer = 1 ∧
      (rounds ≤ 2 ∧ step.handedOut (.randomVec 3) = [4, 5, 6] ∧ Request.poll.Polls 4) ∧
      (g.isSeeded step.state).ending = .returned true ∧
      ¬Gathered (g.serve 2 .poll step.state).events := by
  intro stream g run t events step
  have h : g.source.Leads (.fresh [5]) events t :=
    (leads_tryRandom g 2 [7, 7] (.fresh [5])).trans (.gathering run.state)
  obtain ⟨hstatus, -, hlater⟩ := status_iff_of_leads stream h
  have hprobed : Probed events := hstatus.1 rfl
  have hbytes : step.handedOut (.randomVec 3) = [4, 5, 6] := by decide +kernel
  obtain ⟨-, hseeded, hnext⟩ := hlater 4 2 (.randomVec 3) (Nat.le_refl 2) (hbytes ▸ nofun)
  have hpolls : Request.poll.Polls 4 := by decide
  have hstill : Probed (events ++ step.events) := probed_append.2 (.inl hprobed)
  exact ⟨h, hstatus.2 hprobed, ⟨Nat.le_refl 2, hbytes, hpolls⟩, hseeded.2 hstill,
    fun hgathered => (hnext .poll hpolls).1 hgathered hstill⟩

/-- The probe is refused and two bytes are delivered; and still the status is zero, and the
    next request makes the probe again. -/
theorem status_eq_zero_of_drew :
    let stream : Nat → UInt8 := fun i => .ofNat (i + 1)
    let g : Generator State Happening := ⟨source stream, 4⟩
    let run := g.tryRandom 2 [7, 7] (.fresh [5])
    g.source.Leads (.fresh [5]) run.events run.state ∧
      run.ending = .returned (.ok ()) ∧ run.buffer = [1, 2] ∧ Drew run.events ∧
      (g.source.status run.state).answer = 0 ∧
      (g.isSeeded run.state).ending = .returned false ∧
      Gathered (g.tryRandom 2 [7] run.state).events := by
  intro stream g run
  have hdraws : draws run.events = [⟨1, some 5⟩, ⟨2, none⟩] := by decide +kernel
  have hdrew : Drew run.events := by
    rw [Drew, hdraws]
    exact ⟨⟨2, none⟩, .tail _ (.head _), rfl⟩
  have hstatus : (g.source.status run.state).answer = 0 := by decide +kernel
  have hfinished (s : State) : (g.tryRandom 2 [7] s).ending ≠ .unfinished :=
    finished_tryRandom (finished_poll stream (Nat.le_refl 2) 4 s) [7]
  have hagain : Gathered (g.tryRandom 2 [7] run.state).events :=
    ((attempt_tryRandom g 2 [7] run.state).gathered_iff (by decide) (by decide) (hfinished _)).2
      hstatus
  exact ⟨leads_tryRandom g 2 [7, 7] (.fresh [5]), rfl, by decide +kernel, hdrew, hstatus, rfl,
    hagain⟩

end SystemEntropy

end SeedGate
