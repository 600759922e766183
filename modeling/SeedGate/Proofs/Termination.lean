import SeedGate.Proofs.Omission

/-!
# When polling ends

Polling need not end, and neither need a request that polls (`Request.Polls`): one for
some bytes within the limit, or for polling and nothing else. A request *ends* if it is
finished as soon as it is allowed enough rounds (`Generator.Ends`). Rounds without end, one
after the other, are what `Source.Stops` is about; so many rounds are enough just if one of
them is a round to stop in (`finished_poll_iff`, `finished_serve_iff`).

A source *recites* two lists if its statuses are the answers of the one and its progress
those of the other, in whatever state it is in the middle of them, the last answer taken
staying in force at the end of a list (`Source.Recites`). Once both lists are at their end
all rounds are alike, so that any round to stop in has come by then.

* `ends_iff_exists_stops`: a request that polls ends just if there is a round to stop in;
  with recited answers it ends within so many rounds as the longer list has answers left,
  or it never does.
-/

namespace SeedGate

variable {σ ι : Type}

/-- The request is finished if it is allowed enough rounds of polling. -/
def Generator.Ends (g : Generator σ ι) (request : Request) (s : σ) : Prop :=
  ∃ fuel, (g.serve fuel request s).ending ≠ .unfinished

/-- The request has the source polled: it is for some bytes within the limit, or for
    polling alone. -/
def Request.Polls (limit : Nat) (request : Request) : Prop :=
  request ≠ .isSeeded ∧ request.counts limit = true

instance (limit : Nat) (request : Request) : Decidable (request.Polls limit) :=
  inferInstanceAs (Decidable (_ ∧ _))

/-! ## Rounds enough -/

/-- Polling that is finished has come to a round to stop in. -/
theorem exists_stops_of_finished {g : Generator σ ι} {fuel rounds : Nat} {s : σ}
    {past : List (Event ι)} (h : (g.pollFrom fuel rounds s past).ending ≠ .unfinished) :
    ∃ n < fuel, g.source.Stops s n := by
  induction fuel generalizing rounds s past with
  | zero => exact absurd rfl h
  | succ fuel ih =>
    rw [pollFrom_succ] at h
    dsimp only at h
    split_ifs at h with hneg hne hprogress
    · exact ⟨0, Nat.succ_pos fuel, .inl (Int.ne_of_lt hneg)⟩
    · exact ⟨0, Nat.succ_pos fuel, .inl hne⟩
    · exact ⟨0, Nat.succ_pos fuel, .inr hprogress⟩
    · -- The rounds after this one are those of the state that it leads to.
      obtain ⟨n, hn, hstops⟩ := ih h
      exact ⟨n + 1, Nat.succ_lt_succ hn, hstops⟩

/-- So many rounds are enough just if one of them is a round to stop in. -/
theorem finished_poll_iff {g : Generator σ ι} {fuel : Nat} {s : σ} :
    (g.poll fuel s).ending ≠ .unfinished ↔ ∃ n < fuel, g.source.Stops s n :=
  ⟨exists_stops_of_finished, fun ⟨_, hn, hstops⟩ => finished_pollFrom hstops hn 0 []⟩

/-- A request for some bytes within the limit is cut short if polling is. -/
theorem unfinished_tryRandom {g : Generator σ ι} {fuel : Nat} {buffer : Bytes} {s : σ}
    (hle : buffer.length ≤ g.limit) (hpos : 0 < buffer.length)
    (h : (g.poll fuel s).ending = .unfinished) :
    (g.tryRandom fuel buffer s).ending = .unfinished := by
  have hempty : ¬buffer.isEmpty = true := by
    rw [List.isEmpty_iff, ← List.length_eq_zero_iff]
    exact Nat.ne_of_gt hpos
  rw [Generator.tryRandom, if_neg (Nat.not_lt.2 hle)]
  dsimp only
  rw [if_neg hempty, h]

/-- Whoever polls is finished when polling is. -/
theorem finished_serve_iff {g : Generator σ ι} {request : Request} (h : request.Polls g.limit)
    {fuel : Nat} {s : σ} :
    (g.serve fuel request s).ending ≠ .unfinished ↔ ∃ n < fuel, g.source.Stops s n := by
  obtain ⟨hasks, hcounts⟩ := h
  rw [← finished_poll_iff]
  refine ⟨fun hserve hcut => hserve ?_, fun hpoll => finished_serve hpoll request⟩
  rcases request.target?_cases with ⟨buffer, htarget⟩ | rfl | rfl
  · obtain ⟨hpos, hle⟩ := Request.within_of_counts hcounts htarget
    exact (serves_serve htarget g fuel s).unfinished.2 (unfinished_tryRandom hle hpos hcut)
  · exact Ending.map_eq_unfinished_iff.2 hcut
  · exact absurd rfl hasks

theorem ends_iff {g : Generator σ ι} {request : Request} (h : request.Polls g.limit) {s : σ} :
    g.Ends request s ↔ ∃ n, g.source.Stops s n := by
  constructor
  · rintro ⟨fuel, hfinished⟩
    obtain ⟨n, -, hstops⟩ := (finished_serve_iff h).1 hfinished
    exact ⟨n, hstops⟩
  · rintro ⟨n, hstops⟩
    exact ⟨n + 1, (finished_serve_iff h).2 ⟨n, Nat.lt_succ_self n, hstops⟩⟩

/-! ## Recited answers -/

namespace Replay.Answers

/-- The answer that comes after `n` others: the last of so many and itself that the list
    still has, or the last one taken if it has none. -/
def after (answers : Answers) (n : Nat) : Int :=
  (answers.pending.take (n + 1)).getLastD answers.last

theorem after_zero (answers : Answers) : answers.after 0 = answers.next.1 := by
  obtain ⟨_ | ⟨answer, pending⟩, last⟩ := answers <;> rfl

theorem after_succ (answers : Answers) (n : Nat) :
    answers.after (n + 1) = answers.next.2.after n := by
  obtain ⟨_ | ⟨answer, pending⟩, last⟩ := answers
  · rfl
  · rw [after, List.take_succ_cons, List.getLastD_cons]
    rfl

/-- At the end of the list all answers are alike. -/
theorem after_eq_after {answers : Answers} {m n : Nat} (hm : answers.pending.length ≤ m + 1)
    (hn : answers.pending.length ≤ n + 1) : answers.after m = answers.after n := by
  rw [after, after, List.take_of_length_le hm, List.take_of_length_le hn]

end Replay.Answers

open Replay (Answers)

/-- The statuses of the source and its progress are the answers of two lists, whatever else
    there is to its states. -/
structure Source.Recites (source : Source σ ι) (statuses progress : σ → Answers) : Prop where
  status : ∀ s, (source.status s).answer = (statuses s).next.1
  statuses_status : ∀ s, statuses (source.status s).state = (statuses s).next.2
  progress_status : ∀ s, progress (source.status s).state = progress s
  gather : ∀ s, (source.gather s).answer = (progress s).next.1
  statuses_gather : ∀ s, statuses (source.gather s).state = statuses s
  progress_gather : ∀ s, progress (source.gather s).state = (progress s).next.2

/-- A source that follows a script recites it. -/
theorem Replay.recites :
    Replay.source.Recites Replay.State.statuses Replay.State.progress :=
  ⟨fun _ => rfl, fun _ => rfl, fun _ => rfl, fun _ => rfl, fun _ => rfl, fun _ => rfl⟩

namespace Source.Recites

variable {source : Source σ ι} {statuses progress : σ → Answers}
  (h : source.Recites statuses progress)
include h

theorem statuses_pass (s : σ) : statuses (source.pass s) = (statuses s).next.2 := by
  rw [pass, h.statuses_gather, h.statuses_status]

theorem progress_pass (s : σ) : progress (source.pass s) = (progress s).next.2 := by
  rw [pass, h.progress_gather, h.progress_status]

theorem statusAfter_eq (s : σ) (n : Nat) : source.statusAfter s n = (statuses s).after n := by
  induction n generalizing s with
  | zero => exact (h.status s).trans (statuses s).after_zero.symm
  | succ n ih =>
    rw [Answers.after_succ, ← h.statuses_pass]
    exact ih (source.pass s)

theorem progressAfter_eq (s : σ) (n : Nat) : source.progressAfter s n = (progress s).after n := by
  induction n generalizing s with
  | zero =>
    rw [Answers.after_zero, ← h.progress_status]
    exact h.gather (source.status s).state
  | succ n ih =>
    rw [Answers.after_succ, ← h.progress_pass]
    exact ih (source.pass s)

theorem stops_iff {s : σ} {n : Nat} :
    source.Stops s n ↔ (statuses s).after n ≠ 0 ∨ (progress s).after n = 0 := by
  rw [Stops, h.statusAfter_eq, h.progressAfter_eq]

/-- Any round to stop in has come when both lists are at their end. -/
theorem exists_stops_lt {s : σ} {rounds n : Nat} (hpos : 0 < rounds)
    (hstatuses : (statuses s).pending.length ≤ rounds)
    (hprogress : (progress s).pending.length ≤ rounds) (hstops : source.Stops s n) :
    ∃ m < rounds, source.Stops s m := by
  rcases Nat.lt_or_ge n rounds with hlt | hge
  · exact ⟨n, hlt, hstops⟩
  · -- A later round is like the last of them.
    obtain ⟨last, rfl⟩ := Nat.exists_eq_add_one.2 hpos
    refine ⟨last, Nat.lt_succ_self last, ?_⟩
    rw [h.stops_iff] at hstops ⊢
    rwa [Answers.after_eq_after hstatuses (by omega : _ ≤ n + 1),
      Answers.after_eq_after hprogress (by omega : _ ≤ n + 1)]

end Source.Recites

/-- A request that polls ends just if its source comes, asked for its status and gathering in
    turn, to a round whose status is not zero or which makes no progress. If the source
    recites two lists, then the request ends within as many rounds as the longer one has
    answers left, and one round at least, or it never ends; and these rounds of the two lists
    decide which. -/
theorem ends_iff_exists_stops {g : Generator σ ι} {request : Request}
    (h : request.Polls g.limit) (s : σ) :
    (g.Ends request s ↔ ∃ n, g.source.Stops s n) ∧
    ∀ statuses progress : σ → Answers, g.source.Recites statuses progress →
      let rounds := max 1 (max (statuses s).pending.length (progress s).pending.length)
      (g.Ends request s ↔ (g.serve rounds request s).ending ≠ .unfinished) ∧
      ((g.serve rounds request s).ending = .unfinished →
        ∀ fuel, (g.serve fuel request s).ending = .unfinished) ∧
      (g.Ends request s ↔
        ∃ n < rounds, (statuses s).after n ≠ 0 ∨ (progress s).after n = 0) := by
  refine ⟨ends_iff h, fun statuses progress hrecites => ?_⟩
  intro rounds
  have hdecides : g.Ends request s ↔ ∃ n < rounds, g.source.Stops s n := by
    rw [ends_iff h]
    constructor
    · rintro ⟨n, hstops⟩
      exact hrecites.exists_stops_lt (by omega) (by omega) (by omega) hstops
    · rintro ⟨n, -, hstops⟩
      exact ⟨n, hstops⟩
  have hfinished : g.Ends request s ↔ (g.serve rounds request s).ending ≠ .unfinished :=
    hdecides.trans (finished_serve_iff h).symm
  refine ⟨hfinished, fun hcut fuel => ?_, ?_⟩
  · by_contra hends
    exact hfinished.1 ⟨fuel, hends⟩ hcut
  · simp only [hdecides, hrecites.stops_iff]

/-- Polling ends in the second round, in which the source is seeded; but in the state that
    it leaves the source is never seeded again and always makes progress. -/
theorem ends_iff_exists_stops_once :
    let g : Generator Replay.State Empty := ⟨Replay.source, 4⟩
    let s : Replay.State := .start [0, 1, 0] [3, -2] []
    let t := (g.poll 3 s).state
    (Request.Polls g.limit .poll ∧ Request.Polls g.limit (.randomVec 2) ∧
      g.source.Recites Replay.State.statuses Replay.State.progress) ∧
    t.statuses.pending = [0] ∧ t.progress.pending = [-2] ∧
    g.Ends .poll s ∧ (g.serve 3 .poll s).ending = .returned .done ∧
    ¬g.Ends (.randomVec 2) t ∧ ∀ fuel, (g.serve fuel (.randomVec 2) t).ending = .unfinished := by
  intro g s t
  have hpoll : Request.Polls g.limit .poll := by decide
  have hvec : Request.Polls g.limit (.randomVec 2) := by decide
  obtain ⟨-, -, hfirst⟩ := (ends_iff_exists_stops hpoll s).2 _ _ Replay.recites
  obtain ⟨hfinished, hforever, -⟩ := (ends_iff_exists_stops hvec t).2 _ _ Replay.recites
  have hcut : (g.serve 1 (.randomVec 2) t).ending = .unfinished := rfl
  exact ⟨⟨hpoll, hvec, Replay.recites⟩, rfl, rfl, hfirst.2 (by decide), rfl,
    fun hends => hfinished.1 hends hcut, hforever hcut⟩

end SeedGate
