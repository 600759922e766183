import SeedGate.Proofs.Accounting
import SeedGate.Proofs.OldContents

/-!
# Leaving requests out

A request for no bytes, or for more than the limit, is answered without the source:
nothing reaches it, and it stays in its state (`idle_serve`). All other requests count
(`Request.counts`), and a request that counts for some limit is served alike for any
larger one (`serve_limit`). So the others can be left out of a session:

* `play_filter_counts`: if only those requests of a session are played that count, and
  on a generator with a larger limit at that, each of them takes the same step as in
  the whole session, and the source ends in the same state.
-/

namespace SeedGate

open Event Bytes

variable {σ ι : Type}

/-- The request is for some bytes and within the limit, if it is for bytes at all. -/
def Request.counts (limit : Nat) (request : Request) : Bool :=
  request.length?.all fun n => 0 < n ∧ n ≤ limit

theorem Request.counts_eq_false_iff {limit : Nat} {request : Request} :
    request.counts limit = false ↔
      ∃ buffer, request.target? = some buffer ∧ ¬(0 < buffer.length ∧ buffer.length ≤ limit) := by
  rw [counts, length?]
  cases request.target? with
  | none => simp
  | some buffer => simp [imp_iff_not_or]

theorem Request.within_of_counts {limit : Nat} {request : Request} {buffer : Bytes}
    (h : request.counts limit = true) (htarget : request.target? = some buffer) :
    0 < buffer.length ∧ buffer.length ≤ limit := by
  by_contra hnot
  rw [counts_eq_false_iff.2 ⟨buffer, htarget, hnot⟩] at h
  cases h

/-! ## Requests that do not count -/

/-- An attempt that does not count calls nothing and leaves the source as it is. -/
theorem idle_tryRandom {g : Generator σ ι} {buffer : Bytes}
    (h : ¬(0 < buffer.length ∧ buffer.length ≤ g.limit)) (fuel : Nat) (s : σ) :
    let run := g.tryRandom fuel buffer s
    run.ending ≠ .unfinished ∧ run.state = s ∧ calls run.events = [] := by
  have hattempt := attempt_tryRandom g fuel buffer s
  dsimp only
  generalize g.tryRandom fuel buffer s = run at hattempt ⊢
  -- Whatever comes to polling is for some bytes and within the limit.
  cases hattempt with
  | oversized | empty => exact ⟨nofun, rfl, rfl⟩
  | cut hle hne | malformed hle hne | failed hle hne | filled hle hne =>
    exact absurd ⟨List.length_pos_iff.2 hne, hle⟩ h

/-- A request that does not count is over at once. Nothing of it reaches the source. -/
theorem idle_serve {g : Generator σ ι} {request : Request} (h : request.counts g.limit = false)
    (fuel : Nat) (s : σ) :
    let step := g.serve fuel request s
    step.ending ≠ .unfinished ∧ step.state = s ∧ calls step.events = [] := by
  obtain ⟨buffer, htarget, hnot⟩ := Request.counts_eq_false_iff.1 h
  have hserves := serves_serve htarget g fuel s
  obtain ⟨hfinished, hstate, hcalls⟩ := idle_tryRandom hnot fuel s
  refine ⟨?_, hserves.state.trans hstate, hserves.calls.trans hcalls⟩
  rwa [Ne, hserves.unfinished]

/-! ## Requests that count -/

section

variable {source : Source σ ι} {limit limit' : Nat}

theorem pollFrom_limit (source : Source σ ι) (limit limit' fuel rounds : Nat) (s : σ)
    (past : List (Event ι)) :
    Generator.pollFrom ⟨source, limit⟩ fuel rounds s past =
      Generator.pollFrom ⟨source, limit'⟩ fuel rounds s past := by
  induction fuel generalizing rounds s past with
  | zero => rfl
  | succ fuel ih => simp only [pollFrom_succ, ih]

/-- Within both limits, an attempt is the same under either. -/
theorem tryRandom_limit {buffer : Bytes} (hle : buffer.length ≤ limit)
    (hle' : buffer.length ≤ limit') (fuel : Nat) (s : σ) :
    Generator.tryRandom ⟨source, limit⟩ fuel buffer s =
      Generator.tryRandom ⟨source, limit'⟩ fuel buffer s := by
  rw [Generator.tryRandom, Generator.tryRandom, if_neg (Nat.not_lt.2 hle),
    if_neg (Nat.not_lt.2 hle'), Generator.poll, Generator.poll, pollFrom_limit source limit limit']

/-- A request that counts does not depend on how much more the limit allows. -/
theorem serve_limit (source : Source σ ι) (hlimit : limit ≤ limit') {request : Request}
    (h : request.counts limit = true) (fuel : Nat) (s : σ) :
    Generator.serve ⟨source, limit⟩ fuel request s =
      Generator.serve ⟨source, limit'⟩ fuel request s := by
  rcases request.target?_cases with ⟨buffer, htarget⟩ | rfl | rfl
  · have hle := (Request.within_of_counts h htarget).2
    have hshows := shows_serve htarget ⟨source, limit⟩ fuel s
    rw [tryRandom_limit hle (Nat.le_trans hle hlimit)] at hshows
    refine (hshows.of_le (fun n hn => ?_) hlimit).unique
      (shows_serve htarget ⟨source, limit'⟩ fuel s)
    rw [Request.length?, htarget] at hn
    exact Option.some.inj hn ▸ hle
  · rw [Generator.serve, Generator.poll, pollFrom_limit source limit limit']
    rfl
  · rfl

/-! ## Sessions -/

/-- The steps of the requests that count are those of a session of these alone, on a
    generator with a larger limit. -/
theorem play_filter (source : Source σ ι) (hlimit : limit ≤ limit') (fuel : Nat)
    (requests : List Request) (s : σ) :
    let steps := Session.play fuel (requests.map (⟨source, limit⟩, ·)) s
    let kept := Session.play fuel
      ((requests.filter (Request.counts limit)).map (⟨source, limit'⟩, ·)) s
    kept = ((requests.zip steps).filter fun served => served.1.counts limit).map Prod.snd ∧
      Session.last s kept = Session.last s steps := by
  dsimp only
  induction requests generalizing s with
  | nil => exact ⟨rfl, rfl⟩
  | cons request rest ih =>
    rw [List.map_cons]
    cases hcounts : request.counts limit with
    | false =>
      -- The whole session goes on from the same state as if the request were not there.
      have hskip : ¬request.counts limit = true := by simp [hcounts]
      obtain ⟨hfinished, hstate, -⟩ := idle_serve (g := ⟨source, limit⟩) hcounts fuel s
      rw [Session.play_cons_of_finished hfinished, hstate, List.filter_cons_of_neg hskip,
        List.zip_cons_cons, List.filter_cons_of_neg (by exact hskip), Session.last_cons, hstate]
      exact ih s
    | true =>
      -- The two sessions take the same step, and stop there or go on from the same state.
      have hserve := serve_limit source hlimit hcounts fuel s
      rw [List.filter_cons_of_pos hcounts, List.map_cons]
      by_cases hcut : (Generator.serve ⟨source, limit⟩ fuel request s).ending = .unfinished
      · rw [Session.play_cons_of_cut hcut, Session.play_cons_of_cut (hserve ▸ hcut), ← hserve,
          List.zip_cons_cons, List.zip_nil_right, List.filter_cons_of_pos (by exact hcounts)]
        exact ⟨rfl, rfl⟩
      · obtain ⟨hsteps, hlast⟩ := ih (Generator.serve ⟨source, limit⟩ fuel request s).state
        rw [Session.play_cons_of_finished hcut, Session.play_cons_of_finished (hserve ▸ hcut),
          ← hserve, List.zip_cons_cons, List.filter_cons_of_pos (by exact hcounts),
          Session.last_cons, Session.last_cons]
        exact ⟨congrArg _ hsteps, hlast⟩

/-- Leaving out what does not count, and raising the limit, changes nothing for the
    other requests of a session, nor for the source; and nothing of what is left out had
    reached the source. -/
theorem play_filter_counts (source : Source σ ι) (hlimit : limit ≤ limit') (fuel : Nat)
    (requests : List Request) (s : σ) :
    let steps := Session.play fuel (requests.map (⟨source, limit⟩, ·)) s
    let kept := Session.play fuel
      ((requests.filter (Request.counts limit)).map (⟨source, limit'⟩, ·)) s
    kept = ((requests.zip steps).filter fun served => served.1.counts limit).map Prod.snd ∧
      Session.last s kept = Session.last s steps ∧
      List.Forall₂ (fun request step => request.counts limit = false → calls step.events = [])
        (requests.take steps.length) steps := by
  obtain ⟨hsteps, hlast⟩ := play_filter source hlimit fuel requests s
  have hidle := Session.forall₂_play
    (P := fun call step => call.2.counts call.1.limit = false → calls step.events = [])
    (fun g request t hskip => (idle_serve (g := g) hskip fuel t).2.2)
    (requests.map (⟨source, limit⟩, ·)) s
  rw [← List.map_take] at hidle
  exact ⟨hsteps, hlast, List.forall₂_map_left_iff.1 hidle⟩

/-- A source that is seeded in its second round, with an empty request and one over the
    limit before the request that polls it, and another after that. -/
theorem play_filter_counts_raised :
    let s : Replay.State := .start [0, 1] [3] []
    let requests : List Request :=
      [.random [], .tryRandom [1, 2, 3], .isSeeded, .randomVec 3, .randomArray 2, .random [4]]
    let steps := Session.play 2 (requests.map (⟨Replay.source, 2⟩, ·)) s
    let kept := Session.play 2
      ((requests.filter (Request.counts 2)).map (⟨Replay.source, 5⟩, ·)) s
    2 ≤ 5 ∧ requests.filter (Request.counts 2) = [.isSeeded, .randomArray 2, .random [4]] ∧
      kept = ((requests.zip steps).filter fun served => served.1.counts 2).map Prod.snd ∧
      Session.last s kept = Session.last s steps ∧
      List.Forall₂ (fun request step => request.counts 2 = false → calls step.events = [])
        (requests.take steps.length) steps :=
  ⟨by decide, by decide, play_filter_counts _ (by decide) _ _ _⟩

end

end SeedGate
