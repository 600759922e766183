import Mathlib.Data.List.Basic
import Mathlib.Logic.Function.Iterate
import SeedGate.Proofs.Polling
import SeedGate.Source.Replay

/-!
# The round in which polling stops

Let a source be asked for its status and gather in turn, without end. In the round after
`n` others it reports a status (`Source.statusAfter`) and makes some progress
(`Source.progressAfter`). Polling goes along with that and stops in the first round in
which the status is not zero or there is no progress (`Source.FirstStop`); in that round
it gathers only if the status is zero.

* `Polling.exists_course`: polling that ends is the `Source.course` to that round, event
  by event;
* `finished_pollFrom`: it ends as soon as it is allowed that round;
* `poll_stopped`: with which calls, notes and ending it stops there, and that the round can
  be any.
-/

namespace SeedGate

open Event

variable {σ ι : Type}

/-- The note that an event is, if it is one. -/
def Event.note? : Event ι → Option Log.Note
  | .note n => some n
  | _ => none

/-- The notes among events, in their order; not those made inside the source. -/
def Event.notes (events : List (Event ι)) : List Log.Note := events.filterMap note?

@[simp] theorem notes_append (a b : List (Event ι)) : notes (a ++ b) = notes a ++ notes b :=
  List.filterMap_append

/-- A call of the source is no note, and neither is what happens inside. -/
theorem notes_events {α : Type} (reply : Reply α σ ι) {call : Event ι} (h : call.call?.isSome) :
    notes (reply.events call) = [] := by
  refine List.filterMap_eq_nil_iff.2 fun event hevent => ?_
  rcases List.mem_append.1 hevent with hinside | hcall
  · obtain ⟨_, _, rfl⟩ := List.mem_map.1 hinside
    rfl
  · obtain rfl := List.mem_singleton.1 hcall
    cases event with
    | inside | note => cases h
    | _ => rfl

namespace Source

variable (source : Source σ ι)

@[simp] theorem notes_asking (s : σ) : notes (source.asking s) = [] := notes_events _ rfl

@[simp] theorem notes_gathering (s : σ) : notes (source.gathering s) = [] := notes_events _ rfl

/-! ## Rounds without end -/

/-- The state after a round: the source was asked for its status, and gathered. -/
def pass (s : σ) : σ := (source.gather (source.status s).state).state

/-- The status in the round after `n` others. -/
def statusAfter (s : σ) (n : Nat) : Int := (source.status (source.pass^[n] s)).answer

/-- The progress in the round after `n` others. -/
def progressAfter (s : σ) (n : Nat) : Int :=
  (source.gather (source.status (source.pass^[n] s)).state).answer

/-- The round after `n` others is one to stop in. -/
def Stops (s : σ) (n : Nat) : Prop := source.statusAfter s n ≠ 0 ∨ source.progressAfter s n = 0

/-- The round after `n` others is the first to stop in. -/
def FirstStop (s : σ) (n : Nat) : Prop := source.Stops s n ∧ ∀ i < n, ¬source.Stops s i

instance (s : σ) (n : Nat) : Decidable (source.Stops s n) :=
  inferInstanceAs (Decidable (_ ∨ _))

instance (s : σ) (n : Nat) : Decidable (source.FirstStop s n) :=
  inferInstanceAs (Decidable (_ ∧ ∀ i < n, ¬source.Stops s i))

variable {source} {s : σ} {n : Nat}

/-- There is but one such round. -/
theorem FirstStop.unique {m : Nat} (h : source.FirstStop s n) (h' : source.FirstStop s m) :
    n = m := by
  rcases Nat.lt_trichotomy n m with hlt | heq | hlt
  · exact absurd h.1 (h'.2 n hlt)
  · exact heq
  · exact absurd h'.1 (h.2 m hlt)

theorem FirstStop.zero (h : source.Stops s 0) : source.FirstStop s 0 :=
  ⟨h, fun i hi => absurd hi (Nat.not_lt_zero i)⟩

/-- After a round to go on in, the rounds are those of the state that it leads to. -/
theorem FirstStop.succ (h : source.FirstStop (source.pass s) n) (hgo : ¬source.Stops s 0) :
    source.FirstStop s (n + 1) := by
  refine ⟨h.1, fun i hi => ?_⟩
  cases i with
  | zero => exact hgo
  | succ i => exact h.2 i (Nat.lt_of_succ_lt_succ hi)

/-- A round before the first to stop in has a status of zero. -/
theorem FirstStop.statusAfter_eq (h : source.FirstStop s n) {i : Nat} (hi : i < n) :
    source.statusAfter s i = 0 := by
  by_contra hstatus
  exact h.2 i hi (.inl hstatus)

/-! ## The course of polling -/

variable (source)

/-- What happens in `n` rounds that go on, the first of which is numbered `rounds + 1`. -/
def passing (rounds : Nat) (s : σ) (n : Nat) : List (Event ι) :=
  (List.range n).flatMap fun i =>
    source.asking (source.pass^[i] s) ++ (source.gathering (source.status (source.pass^[i] s)).state
      ++ [.note (.gathered (rounds + i + 1) (source.progressAfter s i))])

/-- Polling that stops in the round after `n` others, the first of which is numbered
    `rounds + 1`. -/
def course (rounds : Nat) (s : σ) (n : Nat) : Run Unit σ ι :=
  let t := source.pass^[n] s
  let v := source.statusAfter s n
  if v = 0 then
    ⟨.returned (), source.pass t, source.passing rounds s n ++ (source.asking t ++
      (source.gathering (source.status t).state ++ [.note (.stalled (rounds + n + 1))]))⟩
  else
    ⟨if v < 0 then .panicked (.malformedStatus v) else .returned (), (source.status t).state,
      source.passing rounds s n ++ source.asking t⟩

/-- The first of so many rounds, and then the others from the state that it leads to. -/
theorem passing_succ (rounds : Nat) (s : σ) (n : Nat) :
    source.passing rounds s (n + 1) =
      source.asking s ++ (source.gathering (source.status s).state ++
        .note (.gathered (rounds + 1) (source.progressAfter s 0)) ::
          source.passing (rounds + 1) (source.pass s) n) := by
  rw [passing, List.range_succ_eq_map, List.flatMap_cons, List.flatMap_map]
  simp only [passing, Nat.succ_eq_add_one, Function.iterate_succ_apply, List.append_assoc,
    Nat.add_right_comm rounds, ← Nat.add_assoc]
  rfl

/-- A course that goes on for a round is that round, and then the course of the others. -/
theorem course_succ (rounds : Nat) (s : σ) (n : Nat) :
    let later := source.course (rounds + 1) (source.pass s) n
    source.course rounds s (n + 1) =
      ⟨later.ending, later.state, source.asking s ++
        (source.gathering (source.status s).state ++
          .note (.gathered (rounds + 1) (source.progressAfter s 0)) :: later.events)⟩ := by
  have hstatus : source.statusAfter s (n + 1) = source.statusAfter (source.pass s) n := rfl
  simp only [course, hstatus, passing_succ, Function.iterate_succ_apply]
  split_ifs <;> simp [Nat.add_right_comm rounds, Nat.add_assoc]

variable {source} {rounds : Nat}

theorem course_of_neg (h : source.statusAfter s n < 0) :
    source.course rounds s n =
      ⟨.panicked (.malformedStatus (source.statusAfter s n)),
        (source.status (source.pass^[n] s)).state,
        source.passing rounds s n ++ source.asking (source.pass^[n] s)⟩ := by
  rw [course, if_neg (Int.ne_of_lt h), if_pos h]

theorem course_of_pos (h : 0 < source.statusAfter s n) :
    source.course rounds s n =
      ⟨.returned (), (source.status (source.pass^[n] s)).state,
        source.passing rounds s n ++ source.asking (source.pass^[n] s)⟩ := by
  rw [course, if_neg (Int.ne_of_gt h), if_neg (Int.not_lt.2 (Int.le_of_lt h))]

theorem course_of_eq_zero (h : source.statusAfter s n = 0) :
    source.course rounds s n =
      ⟨.returned (), source.pass (source.pass^[n] s),
        source.passing rounds s n ++ (source.asking (source.pass^[n] s) ++
          (source.gathering (source.status (source.pass^[n] s)).state ++
            [.note (.stalled (rounds + n + 1))]))⟩ := by
  rw [course, if_pos h]

end Source

/-- Polling that ends stops in the first round to stop in. -/
theorem Polling.exists_course {source : Source σ ι} {rounds : Nat} {s : σ} {run : Run Unit σ ι}
    (h : Polling source rounds s run) (hfinished : run.ending ≠ .unfinished) :
    ∃ n, source.FirstStop s n ∧ run = source.course rounds s n := by
  induction h with
  | cut => exact absurd rfl hfinished
  | @malformed _ s hneg =>
    have hstatus : source.statusAfter s 0 < 0 := hneg
    exact ⟨0, .zero (.inl (Int.ne_of_lt hneg)), (Source.course_of_neg hstatus).symm⟩
  | @seeded _ s hpos =>
    have hstatus : 0 < source.statusAfter s 0 := hpos
    exact ⟨0, .zero (.inl (Int.ne_of_gt hpos)), (Source.course_of_pos hstatus).symm⟩
  | @stalled _ s _ hzero ht hg =>
    subst ht
    have hstatus : source.statusAfter s 0 = 0 := hzero
    exact ⟨0, .zero (.inr hg), (Source.course_of_eq_zero hstatus).symm⟩
  | again hzero ht hg _ ih =>
    subst ht
    -- The rounds to come are numbered on, and start from the state after this one.
    obtain ⟨n, hfirst, rfl⟩ := ih hfinished
    refine ⟨n + 1, hfirst.succ ?_, (source.course_succ _ _ n).symm⟩
    rintro (hstatus | hprogress)
    · exact hstatus hzero
    · exact hg hprogress

/-- Polling ends as soon as it is allowed a round to stop in. -/
theorem finished_pollFrom {g : Generator σ ι} {s : σ} {n : Nat} (h : g.source.Stops s n)
    {fuel : Nat} (hfuel : n < fuel) (rounds : Nat) (past : List (Event ι)) :
    (g.pollFrom fuel rounds s past).ending ≠ .unfinished := by
  induction n generalizing fuel rounds s past with
  | zero =>
    obtain ⟨fuel, rfl⟩ := Nat.exists_eq_succ_of_ne_zero (Nat.ne_zero_of_lt hfuel)
    rw [pollFrom_succ]
    dsimp only
    split_ifs with _ hstatus hprogress
    · simp
    · simp
    · simp
    · -- This round is one to stop in, and has not been stopped in.
      rcases h with hne | hzero
      · exact absurd hne hstatus
      · exact absurd hzero hprogress
  | succ n ih =>
    obtain ⟨fuel, rfl⟩ := Nat.exists_eq_succ_of_ne_zero (Nat.ne_zero_of_lt hfuel)
    rw [pollFrom_succ]
    dsimp only
    split_ifs
    · simp
    · simp
    · simp
    · exact ih h (Nat.lt_of_succ_lt_succ hfuel) _ _

/-! ## Calls and notes -/

namespace Source

section

variable (source : Source σ ι) (s : σ) (n : Nat)

/-- The calls of `n` rounds that go on: a status of zero in each, and a pass of gathering. -/
def callsPassing : List Call :=
  (List.range n).flatMap fun i => [.status 0, .gather (source.progressAfter s i)]

/-- The notes of `n` rounds that go on: one in each, with its number and its progress. -/
def notesPassing : List Log.Note :=
  (List.range n).map fun i => .gathered (i + 1) (source.progressAfter s i)

/-- The notes are these, and the levels that they are on those. -/
def NotesAre (events : List (Event ι)) (ns : List Log.Note) (levels : List Log.Level) : Prop :=
  notes events = ns ∧ ns.map Log.Note.level = levels

/-- The run has stopped in the round after `n` others, whose status decides how. If that is
    negative, the panic says which it was. -/
structure Stopped (run : Run Unit σ ι) : Prop where
  seeded : 0 < source.statusAfter s n →
    run.ending = .returned () ∧ run.state = (source.status (source.pass^[n] s)).state ∧
      calls run.events = source.callsPassing s n ++ [.status (source.statusAfter s n)] ∧
      NotesAre run.events (source.notesPassing s n) (.replicate n .trace)
  stalled : source.statusAfter s n = 0 →
    run.ending = .returned () ∧ run.state = source.pass^[n + 1] s ∧
      calls run.events = source.callsPassing s n ++ [.status 0, .gather 0] ∧
      NotesAre run.events (source.notesPassing s n ++ [.stalled (n + 1)])
        (.replicate n .trace ++ [.warn])
  malformed : source.statusAfter s n < 0 →
    run.ending = .panicked (.malformedStatus (source.statusAfter s n)) ∧
      (Panic.malformedStatus (source.statusAfter s n)).message =
        s!"entropy source reported malformed status {source.statusAfter s n}" ∧
      run.state = (source.status (source.pass^[n] s)).state ∧
      calls run.events = source.callsPassing s n ++ [.status (source.statusAfter s n)] ∧
      NotesAre run.events (source.notesPassing s n) (.replicate n .trace)

end

variable {source : Source σ ι} {s : σ} {n : Nat}

/-- Rounds before the first to stop in have a status of zero, so that all of them gather. -/
theorem calls_passing (h : source.FirstStop s n) (rounds : Nat) :
    calls (source.passing rounds s n) = source.callsPassing s n := by
  rw [calls, passing, List.filterMap_flatMap]
  refine List.flatMap_congr fun i hi => ?_
  have hstatus : (source.status (source.pass^[i] s)).answer = 0 :=
    h.statusAfter_eq (List.mem_range.1 hi)
  rw [← calls, calls_append, calls_append, calls_asking, calls_gathering, hstatus]
  rfl

/-- Each of the rounds is noted once, and numbered from one on. -/
theorem notes_passing (s : σ) (n : Nat) :
    notes (source.passing 0 s n) = source.notesPassing s n := by
  rw [notes, passing, List.filterMap_flatMap, notesPassing, ← List.flatMap_pure_eq_map]
  refine List.flatMap_congr fun i _ => ?_
  rw [← notes, notes_append, notes_append, notes_asking, notes_gathering, Nat.zero_add]
  rfl

theorem level_notesPassing (s : σ) (n : Nat) :
    (source.notesPassing s n).map Log.Note.level = .replicate n .trace := by
  simp [notesPassing, List.eq_replicate_iff, Log.Note.level]

/-- What is noted up to a status that is not zero. -/
theorem notesAre_asking (s t : σ) (n : Nat) :
    NotesAre (source.passing 0 s n ++ source.asking t) (source.notesPassing s n)
      (.replicate n .trace) := by
  refine ⟨?_, level_notesPassing s n⟩
  rw [notes_append, notes_passing, notes_asking, List.append_nil]

/-- What is noted up to a pass without progress. -/
theorem notesAre_gathering (s t u : σ) (n : Nat) :
    NotesAre (source.passing 0 s n ++
        (source.asking t ++ (source.gathering u ++ [.note (.stalled (0 + n + 1))])))
      (source.notesPassing s n ++ [.stalled (n + 1)]) (.replicate n .trace ++ [.warn]) := by
  refine ⟨?_, ?_⟩
  · rw [notes_append, notes_append, notes_append, notes_passing, notes_asking, notes_gathering,
      Nat.zero_add]
    rfl
  · rw [List.map_append, level_notesPassing]
    rfl

/-- The course to the first round to stop in has stopped there. -/
theorem FirstStop.stopped (h : source.FirstStop s n) :
    source.Stopped s n (source.course 0 s n) where
  seeded hpos := by
    rw [course_of_pos hpos]
    refine ⟨rfl, rfl, ?_, notesAre_asking s _ n⟩
    rw [calls_append, calls_passing h, calls_asking]
    rfl
  stalled hzero := by
    -- The status is not what stops this round, so it is the progress.
    have hprogress : source.progressAfter s n = 0 := h.1.resolve_left (not_not.2 hzero)
    rw [course_of_eq_zero hzero]
    refine ⟨rfl, (Function.iterate_succ_apply' source.pass n s).symm, ?_,
      notesAre_gathering s _ _ n⟩
    rw [statusAfter] at hzero
    rw [progressAfter] at hprogress
    rw [calls_append, calls_passing h, calls_append, calls_asking, calls_append,
      calls_gathering, hzero, hprogress]
    rfl
  malformed hneg := by
    rw [course_of_neg hneg]
    refine ⟨rfl, rfl, rfl, ?_, notesAre_asking s _ n⟩
    rw [calls_append, calls_passing h, calls_asking]
    rfl

end Source

/-! ## Any round can be the first to stop in -/

namespace Replay

/-- A script that is unseeded `n` times and then seeded, and makes the given progress
    again and again. -/
def State.seededAfter (n : Nat) (progress : Int) : State :=
  ⟨.ofList (List.replicate n 0 ++ [1]), ⟨[], progress⟩, [], 0⟩

theorem pass_seededAfter (n : Nat) (progress : Int) :
    source.pass (.seededAfter (n + 1) progress) = .seededAfter n progress := rfl

theorem statusAfter_seededAfter (n : Nat) (progress : Int) :
    source.statusAfter (.seededAfter n progress) n = 1 := by
  induction n with
  | zero => rfl
  | succ n ih =>
    rw [Source.statusAfter, Function.iterate_succ_apply, pass_seededAfter]
    exact ih

/-- A progress that nothing follows in the script is made in every round. -/
theorem progressAfter_eq {t : State} {progress : Int} (h : t.progress = ⟨[], progress⟩) (n : Nat) :
    source.progressAfter t n = progress := by
  induction n generalizing t with
  | zero =>
    change t.progress.next.1 = progress
    rw [h]
    rfl
  | succ n ih =>
    refine ih (t := source.pass t) ?_
    change t.progress.next.2 = _
    rw [h]
    rfl

theorem firstStop_seededAfter {progress : Int} (h : progress ≠ 0) (n : Nat) :
    source.FirstStop (.seededAfter n progress) n := by
  induction n with
  | zero => exact .zero (.inl Int.one_ne_zero)
  | succ n ih =>
    refine .succ (by rwa [pass_seededAfter]) ?_
    rintro (hstatus | hprogress)
    · exact hstatus rfl
    · exact h hprogress

end Replay

/-- Polling that ends stops in the first round whose status is not zero or which makes no
    progress. That round can be any, and any progress but none counts. -/
theorem poll_stopped {g : Generator σ ι} {fuel : Nat} {s : σ}
    (h : (g.poll fuel s).ending ≠ .unfinished) :
    (∃ n, g.source.FirstStop s n) ∧
    (∀ n, g.source.FirstStop s n → g.source.Stopped s n (g.poll fuel s)) ∧
    ∀ (n limit : Nat) (progress : Int), progress ≠ 0 →
      ∃ t : Replay.State, Replay.source.FirstStop t n ∧
        (∀ i, Replay.source.progressAfter t i = progress) ∧
        (Generator.poll ⟨Replay.source, limit⟩ (n + 1) t).ending = .returned () := by
  obtain ⟨n, hfirst, hcourse⟩ := (polling_poll g fuel s).exists_course h
  refine ⟨⟨n, hfirst⟩, fun m hm => ?_, fun n limit progress hprogress => ?_⟩
  · rw [hcourse, hfirst.unique hm]
    exact hm.stopped
  · let replayed : Generator Replay.State Empty := ⟨Replay.source, limit⟩
    let t := Replay.State.seededAfter n progress
    have ht : Replay.source.FirstStop t n := Replay.firstStop_seededAfter hprogress n
    refine ⟨t, ht, Replay.progressAfter_eq rfl, ?_⟩
    have hfinished : (replayed.poll (n + 1) t).ending ≠ .unfinished :=
      finished_pollFrom (g := replayed) ht.1 (Nat.lt_succ_self n) 0 []
    obtain ⟨m, hm, hrun⟩ := (polling_poll replayed (n + 1) t).exists_course hfinished
    have hstatus : 0 < Replay.source.statusAfter t n := by
      rw [Replay.statusAfter_seededAfter]
      exact Int.one_pos
    rw [hrun, hm.unique ht]
    exact (ht.stopped.seeded hstatus).1

/-- A source that never becomes seeded, and makes no progress in the third round. -/
theorem poll_stopped_stalled :
    let g : Generator Replay.State Empty := ⟨Replay.source, 16⟩
    let s := Replay.State.start [0] [5, -2, 0] []
    (g.poll 3 s).ending ≠ .unfinished ∧ (g.poll 3 s).ending = .returned () ∧
      calls (g.poll 3 s).events =
        [.status 0, .gather 5, .status 0, .gather (-2), .status 0, .gather 0] ∧
      notes (g.poll 3 s).events = [.gathered 1 5, .gathered 2 (-2), .stalled 3] := by
  intro g s
  have hfinished : (g.poll 3 s).ending ≠ .unfinished := nofun
  have hfirst : g.source.FirstStop s 2 := by decide
  obtain ⟨hreturned, -, hcalls, hnotes, -⟩ :=
    ((poll_stopped hfinished).2.1 2 hfirst).stalled rfl
  exact ⟨hfinished, hreturned, hcalls, hnotes⟩

end SeedGate
