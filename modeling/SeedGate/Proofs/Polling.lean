import Mathlib.Logic.Basic
import Mathlib.Tactic.SplitIfs
import SeedGate.Generator
import SeedGate.Proofs.Calls

/-!
# Polling

Polling goes through rounds: the status is asked for, and while it is zero a pass
of gathering is made, until a status is not zero or a pass makes no progress.
`Polling source rounds s run` says so in one rule for each way a round can go;
it holds of whatever `pollFrom` does (`exists_polling_pollFrom`), for any number
of rounds allowed, so that everything about polling follows by induction on it.

* `Seeking`: the calls that polling makes, as a language, with the ending that
  goes with each of its words (`Polling.seeking`);
* `pollFrom_add`: once polling ends, allowing it more rounds changes nothing.
-/

namespace SeedGate

open Event

variable {σ ι : Type}

/-- Polling from a state, after so many rounds: what becomes of it. -/
inductive Polling (source : Source σ ι) : (rounds : Nat) → σ → Run Unit σ ι → Prop
  /-- No more rounds are allowed. -/
  | cut {rounds : Nat} {s : σ} : Polling source rounds s ⟨.unfinished, s, []⟩
  /-- The status is malformed. -/
  | malformed {rounds : Nat} {s : σ} (h : (source.status s).answer < 0) :
      Polling source rounds s
        ⟨.panicked (.malformedStatus (source.status s).answer), (source.status s).state,
          source.asking s⟩
  /-- The source is seeded. -/
  | seeded {rounds : Nat} {s : σ} (h : 0 < (source.status s).answer) :
      Polling source rounds s ⟨.returned (), (source.status s).state, source.asking s⟩
  /-- The source is unseeded, and gathering makes no progress. -/
  | stalled {rounds : Nat} {s t : σ} (h : (source.status s).answer = 0)
      (ht : (source.status s).state = t) (hg : (source.gather t).answer = 0) :
      Polling source rounds s
        ⟨.returned (), (source.gather t).state,
          source.asking s ++ (source.gathering t ++ [.note (.stalled (rounds + 1))])⟩
  /-- The source is unseeded, and gathering makes progress. -/
  | again {rounds : Nat} {s t : σ} {run : Run Unit σ ι} (h : (source.status s).answer = 0)
      (ht : (source.status s).state = t) (hg : (source.gather t).answer ≠ 0)
      (hrun : Polling source (rounds + 1) (source.gather t).state run) :
      Polling source rounds s
        ⟨run.ending, run.state,
          source.asking s ++ (source.gathering t ++
            .note (.gathered (rounds + 1) (source.gather t).answer) :: run.events)⟩

theorem events_isSeeded (g : Generator σ ι) (s : σ) :
    (g.isSeeded s).events = g.source.asking s := by
  rw [Generator.isSeeded]
  split <;> rfl

theorem state_isSeeded (g : Generator σ ι) (s : σ) :
    (g.isSeeded s).state = (g.source.status s).state := by
  rw [Generator.isSeeded]
  split <;> rfl

/-- One round of polling on, all its cases side by side. -/
theorem pollFrom_succ (g : Generator σ ι) (fuel rounds : Nat) (s : σ) (past : List (Event ι)) :
    g.pollFrom (fuel + 1) rounds s past =
      let v := (g.source.status s).answer
      let t := (g.source.status s).state
      let progress := (g.source.gather t).answer
      let u := (g.source.gather t).state
      if v < 0 then ⟨.panicked (.malformedStatus v), t, past.reverse ++ g.source.asking s⟩
      else if v ≠ 0 then ⟨.returned (), t, past.reverse ++ g.source.asking s⟩
      else if progress = 0 then
        ⟨.returned (), u, past.reverse ++ (g.source.asking s ++ (g.source.gathering t ++
          [.note (.stalled (rounds + 1))]))⟩
      else
        g.pollFrom fuel (rounds + 1) u (.note (.gathered (rounds + 1) progress) ::
          ((g.source.gathering t).reverse ++ ((g.source.asking s).reverse ++ past))) := by
  rw [Generator.pollFrom]
  by_cases hneg : (g.source.status s).answer < 0
  · simp [Generator.isSeeded, Source.asking, hneg]
  by_cases hzero : (g.source.status s).answer = 0
  · simp [Generator.isSeeded, Source.asking, Source.gathering, hzero]
  · have hne : ((g.source.status s).answer != 0) = true := bne_iff_ne.2 hzero
    simp [Generator.isSeeded, Source.asking, hneg, hzero, hne]

/-- What polling on from any past does is a polling, put after that past. -/
theorem exists_polling_pollFrom (g : Generator σ ι) (fuel rounds : Nat) (s : σ)
    (past : List (Event ι)) :
    ∃ run, Polling g.source rounds s run ∧
      g.pollFrom fuel rounds s past = ⟨run.ending, run.state, past.reverse ++ run.events⟩ := by
  induction fuel generalizing rounds s past with
  | zero => exact ⟨_, .cut, by rw [Generator.pollFrom, List.append_nil]⟩
  | succ fuel ih =>
    rw [pollFrom_succ]
    dsimp only
    split_ifs with hneg hne hg
    · exact ⟨_, .malformed hneg, rfl⟩
    · exact ⟨_, .seeded (by omega), rfl⟩
    · exact ⟨_, .stalled (not_not.1 hne) rfl hg, rfl⟩
    · -- The events of this round are the past of the rounds to come.
      obtain ⟨run, hrun, hpoll⟩ := ih (rounds + 1)
        (g.source.gather (g.source.status s).state).state _
      refine ⟨_, .again (not_not.1 hne) rfl hg hrun, hpoll.trans ?_⟩
      simp only [List.reverse_cons, List.reverse_append, List.reverse_reverse, List.append_assoc,
        List.singleton_append]

theorem polling_poll (g : Generator σ ι) (fuel : Nat) (s : σ) :
    Polling g.source 0 s (g.poll fuel s) := by
  obtain ⟨run, hrun, hpoll⟩ := exists_polling_pollFrom g fuel 0 s []
  rw [Generator.poll, hpoll]
  exact hrun

/-- Once polling ends, allowing it more rounds changes nothing. -/
theorem pollFrom_add {g : Generator σ ι} {fuel rounds : Nat} {s : σ} {past : List (Event ι)}
    (h : (g.pollFrom fuel rounds s past).ending ≠ .unfinished) (extra : Nat) :
    g.pollFrom (fuel + extra) rounds s past = g.pollFrom fuel rounds s past := by
  induction fuel generalizing rounds s past with
  | zero => exact absurd rfl h
  | succ fuel ih =>
    rw [pollFrom_succ] at h
    rw [Nat.add_right_comm, pollFrom_succ, pollFrom_succ]
    dsimp only at h ⊢
    split_ifs at h ⊢
    · rfl
    · rfl
    · rfl
    · exact ih h

/-! ## The calls of polling -/

/-- The calls that polling makes, with the way it ends. -/
inductive Seeking : List Call → Ending Unit → Prop
  | cut : Seeking [] .unfinished
  | malformed {v : Int} (h : v < 0) : Seeking [.status v] (.panicked (.malformedStatus v))
  | seeded {v : Int} (h : 0 < v) : Seeking [.status v] (.returned ())
  | stalled : Seeking [.status 0, .gather 0] (.returned ())
  | again {progress : Int} {calls : List Call} {ending : Ending Unit} (h : progress ≠ 0)
      (hcalls : Seeking calls ending) : Seeking (.status 0 :: .gather progress :: calls) ending

namespace Polling

variable {source : Source σ ι} {rounds : Nat} {s : σ} {run : Run Unit σ ι}

theorem seeking (h : Polling source rounds s run) : Seeking (calls run.events) run.ending := by
  induction h with
  | cut => exact .cut
  | malformed h => rw [Source.calls_asking]; exact .malformed h
  | seeded h => rw [Source.calls_asking]; exact .seeded h
  | stalled h _ hg =>
    simp only [calls_append, Source.calls_asking, Source.calls_gathering, h, hg, calls_note]
    exact .stalled
  | again h _ hg _ ih =>
    simp only [calls_append, Source.calls_asking, Source.calls_gathering, h, calls_note]
    exact .again hg ih

/-- What happens in the course of polling comes of calling the source. -/
theorem leads (h : Polling source rounds s run) : source.Leads s run.events run.state := by
  induction h with
  | cut => exact .refl _
  | malformed => exact .asking _
  | seeded => exact .asking _
  | stalled _ ht _ =>
    subst ht
    exact .status (.gather (.note _ (.refl _)))
  | again _ ht _ _ ih =>
    subst ht
    exact .status (.gather (.note _ ih))

end Polling

namespace Seeking

variable {cs : List Call} {ending : Ending Unit}

/-- Polling fills no buffer. -/
theorem not_mem_fill (h : Seeking cs ending) (entry : Bytes) (answer : Except Fault Unit) :
    .fill entry answer ∉ cs := by
  induction h with
  | again _ _ ih => simpa using ih
  | _ => simp

/-- Polling gives up for good only on a negative status, the last thing it asked for. -/
theorem of_panicked {panic : Panic} (h : Seeking cs (.panicked panic)) :
    ∃ v < 0, panic = .malformedStatus v ∧ ∃ earlier, cs = earlier ++ [.status v] := by
  generalize he : Ending.panicked panic = ending at h
  induction h with
  | malformed hv =>
    cases he
    exact ⟨_, hv, rfl, [], rfl⟩
  | @again progress _ _ _ _ ih =>
    obtain ⟨v, hv, hpanic, earlier, rfl⟩ := ih he
    exact ⟨v, hv, hpanic, .status 0 :: .gather progress :: earlier, rfl⟩
  | _ => cases he

/-- Polling that returns has seen no negative status. -/
theorem nonneg_of_returned (h : Seeking cs (.returned ())) {v : Int} (hv : .status v ∈ cs) :
    0 ≤ v := by
  generalize he : Ending.returned () = ending at h
  induction h with
  | cut | malformed => cases he
  | seeded hpos =>
    obtain rfl : v = _ := by simpa using hv
    exact Int.le_of_lt hpos
  | stalled =>
    obtain rfl : v = 0 := by simpa using hv
    exact Int.le_refl 0
  | again _ _ ih =>
    obtain rfl | hv : v = 0 ∨ Call.status v ∈ _ := by simpa using hv
    · exact Int.le_refl 0
    · exact ih hv he

/-- Polling returns after a positive status, or after a pass without progress that
    followed a status of zero. -/
theorem of_returned (h : Seeking cs (.returned ())) :
    (∃ earlier, ∃ v > 0, cs = earlier ++ [.status v]) ∨
      ∃ earlier, cs = earlier ++ [.status 0, .gather 0] := by
  generalize he : Ending.returned () = ending at h
  induction h with
  | cut | malformed => cases he
  | seeded hpos => exact .inl ⟨[], _, hpos, rfl⟩
  | stalled => exact .inr ⟨[], rfl⟩
  | @again progress _ _ _ _ ih =>
    rcases ih he with ⟨earlier, v, hv, rfl⟩ | ⟨earlier, rfl⟩
    · exact .inl ⟨.status 0 :: .gather progress :: earlier, v, hv, rfl⟩
    · exact .inr ⟨.status 0 :: .gather progress :: earlier, rfl⟩

end Seeking

end SeedGate
