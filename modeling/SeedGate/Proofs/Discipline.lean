import SeedGate.Proofs.Exits
import SeedGate.Proofs.Sessions

/-!
# The discipline of seeding

A source is never asked for bytes out of turn. `Disciplined limit request cs` says
what that means for the calls `cs` that one request makes: when it may gather, when
and how it may have a buffer filled, and when it has to stop.

* `play_disciplined`: in a session of any length on one generator, whatever the
  source answers and whatever fails on the way, each request is disciplined.

The calls of a request are a word of `Seeking`, or such a word that ends well with a
fill after it, or a single status; each of the three is disciplined.
-/

namespace SeedGate

open Event Bytes

variable {σ ι : Type}

/-- The calls that a request makes are in order. -/
structure Disciplined (limit : Nat) (request : Request) (cs : List Call) : Prop where
  /-- Gathering comes directly after a status of zero. -/
  gather : ∀ earlier progress later, cs = earlier ++ .gather progress :: later →
    ∃ first, earlier = first ++ [.status 0]
  /-- A fill comes directly after a positive status, or after gathering without
      progress that came directly after a status of zero. -/
  fill : ∀ earlier entry answer later, cs = earlier ++ .fill entry answer :: later →
    (∃ first, ∃ v > 0, earlier = first ++ [.status v]) ∨
      ∃ first, earlier = first ++ [.status 0, .gather 0]
  /-- A fill is the last call. -/
  fill_last : ∀ earlier entry answer later, cs = earlier ++ .fill entry answer :: later →
    later = []
  /-- There is one fill at most. -/
  fill_once : (cs.filterMap Call.fill?).length ≤ 1
  /-- A fill is for as many bytes as were asked for, at least one and no more than the
      limit, and starts from zeros. -/
  fill_entry : ∀ entry answer, .fill entry answer ∈ cs →
    request.length? = some entry.length ∧ 1 ≤ entry.length ∧ entry.length ≤ limit ∧
      entry = zeros entry.length
  /-- Nothing comes after a negative status. -/
  status : ∀ earlier v later, cs = earlier ++ .status v :: later → v < 0 → later = []
  /-- Polling and asking fill nothing. -/
  fill_none : request = .poll ∨ request = .isSeeded → cs.filterMap Call.fill? = []

/-! ## The words of a request -/

/-- Where a call can stand among a round and the calls after it. -/
theorem round_eq_append_cons {progress : Int} {cs earlier later : List Call} {call : Call}
    (h : .status 0 :: .gather progress :: cs = earlier ++ call :: later) :
    (earlier = [] ∧ call = .status 0) ∨
      (earlier = [.status 0] ∧ call = .gather progress) ∨
      ∃ rest, earlier = .status 0 :: .gather progress :: rest ∧ cs = rest ++ call :: later := by
  rcases earlier with _ | ⟨first, _ | ⟨second, rest⟩⟩
  · cases h
    exact .inl ⟨rfl, rfl⟩
  · cases h
    exact .inr (.inl ⟨rfl, rfl⟩)
  · cases h
    exact .inr (.inr ⟨rest, rfl, rfl⟩)

/-- Where a call can stand among calls and a last one. -/
theorem concat_eq_append_cons {cs earlier later : List Call} {call last : Call}
    (h : cs ++ [last] = earlier ++ call :: later) :
    (earlier = cs ∧ call = last ∧ later = []) ∨
      ∃ rest, later = rest ++ [last] ∧ cs = earlier ++ call :: rest := by
  rcases List.eq_nil_or_concat later with rfl | ⟨rest, call', rfl⟩
  · obtain ⟨rfl, hlast⟩ := List.append_inj' h rfl
    cases hlast
    exact .inl ⟨rfl, rfl, rfl⟩
  · rw [List.concat_eq_append, ← List.cons_append, ← List.append_assoc] at h
    obtain ⟨rfl, hlast⟩ := List.append_inj' h rfl
    cases hlast
    exact .inr ⟨rest, List.concat_eq_append, rfl⟩

theorem singleton_eq_append_cons {earlier later : List Call} {call only : Call}
    (h : [only] = earlier ++ call :: later) : earlier = [] ∧ call = only ∧ later = [] := by
  rcases concat_eq_append_cons ((List.nil_append [only]).trans h) with
    ⟨rfl, rfl, rfl⟩ | ⟨rest, _, hnil⟩
  · exact ⟨rfl, rfl, rfl⟩
  · simp at hnil

namespace Seeking

variable {cs earlier later : List Call} {ending : Ending Unit}

theorem gather_after {progress : Int} (h : Seeking cs ending)
    (hcs : cs = earlier ++ .gather progress :: later) :
    ∃ first, earlier = first ++ [.status 0] := by
  induction h generalizing earlier with
  | cut => simp at hcs
  | malformed | seeded => cases (singleton_eq_append_cons hcs).2.1
  | stalled =>
    rcases round_eq_append_cons hcs with ⟨_, hcall⟩ | ⟨rfl, _⟩ | ⟨rest, rfl, hrest⟩
    · cases hcall
    · exact ⟨[], rfl⟩
    · simp at hrest
  | again _ _ ih =>
    rcases round_eq_append_cons hcs with ⟨_, hcall⟩ | ⟨rfl, _⟩ | ⟨rest, rfl, hrest⟩
    · cases hcall
    · exact ⟨[], rfl⟩
    · obtain ⟨first, rfl⟩ := ih hrest
      exact ⟨.status 0 :: .gather _ :: first, rfl⟩

theorem status_last {v : Int} (h : Seeking cs ending) (hcs : cs = earlier ++ .status v :: later)
    (hv : v < 0) : later = [] := by
  induction h generalizing earlier with
  | cut => simp at hcs
  | malformed | seeded => exact (singleton_eq_append_cons hcs).2.2
  | stalled =>
    rcases round_eq_append_cons hcs with ⟨_, hcall⟩ | ⟨_, hcall⟩ | ⟨rest, _, hrest⟩
    · cases hcall
      exact absurd hv (Int.lt_irrefl 0)
    · cases hcall
    · simp at hrest
  | again _ _ ih =>
    rcases round_eq_append_cons hcs with ⟨_, hcall⟩ | ⟨_, hcall⟩ | ⟨rest, _, hrest⟩
    · cases hcall
      exact absurd hv (Int.lt_irrefl 0)
    · cases hcall
    · exact ih hrest

theorem ne_append_fill {entry : Bytes} {answer : Except Fault Unit} (h : Seeking cs ending) :
    cs ≠ earlier ++ .fill entry answer :: later := by
  intro hcs
  refine h.not_mem_fill entry answer ?_
  rw [hcs]
  exact List.mem_append_cons_self

/-- Polling alone is in order, whatever it is part of. -/
theorem disciplined (h : Seeking cs ending) (limit : Nat) (request : Request) :
    Disciplined limit request cs where
  gather _ _ _ := h.gather_after
  fill _ _ _ _ hcs := absurd hcs h.ne_append_fill
  fill_last _ _ _ _ hcs := absurd hcs h.ne_append_fill
  fill_once := by simp [h.filterMap_fill?]
  fill_entry entry answer hmem := absurd hmem (h.not_mem_fill entry answer)
  status _ _ _ := h.status_last
  fill_none _ := h.filterMap_fill?

/-- Polling that returns is in order with a fill after it, of as many bytes as were
    asked for. -/
theorem disciplined_fill (h : Seeking cs (.returned ())) {limit n : Nat} {request : Request}
    (hrequest : request.length? = some n) (hpos : 1 ≤ n) (hle : n ≤ limit)
    (answer : Except Fault Unit) :
    Disciplined limit request (cs ++ [.fill (zeros n) answer]) where
  gather earlier progress later hcs := by
    rcases concat_eq_append_cons hcs with ⟨_, hcall, _⟩ | ⟨rest, _, hcs⟩
    · cases hcall
    · exact h.gather_after hcs
  fill earlier entry answer' later hcs := by
    rcases concat_eq_append_cons hcs with ⟨rfl, _, _⟩ | ⟨rest, _, hcs⟩
    · -- All that came before is the polling, and that has returned.
      exact h.of_returned
    · exact absurd hcs h.ne_append_fill
  fill_last earlier entry answer' later hcs := by
    rcases concat_eq_append_cons hcs with ⟨_, _, hlater⟩ | ⟨rest, _, hcs⟩
    · exact hlater
    · exact absurd hcs h.ne_append_fill
  fill_once := by
    rw [List.filterMap_append, h.filterMap_fill?]
    exact Nat.le_refl 1
  fill_entry entry answer' hmem := by
    rcases List.mem_append.1 hmem with hmem | hmem
    · exact absurd hmem (h.not_mem_fill entry answer')
    · cases List.mem_singleton.1 hmem
      rw [length_zeros]
      exact ⟨hrequest, hpos, hle, rfl⟩
  status earlier v later hcs hv := by
    rcases concat_eq_append_cons hcs with ⟨_, hcall, _⟩ | ⟨rest, _, hcs'⟩
    · cases hcall
    · -- Polling has returned, so that none of its statuses was negative.
      have hmem : Call.status v ∈ cs := hcs' ▸ List.mem_append_cons_self
      exact absurd (h.nonneg_of_returned hmem) (Int.not_le.2 hv)
  fill_none hnone := by rcases hnone with rfl | rfl <;> cases hrequest

end Seeking

/-- Asking for the status alone is in order, whatever it is part of. -/
theorem disciplined_status (v : Int) (limit : Nat) (request : Request) :
    Disciplined limit request [.status v] where
  gather _ _ _ hcs := by cases (singleton_eq_append_cons hcs).2.1
  fill _ _ _ _ hcs := by cases (singleton_eq_append_cons hcs).2.1
  fill_last _ _ _ _ hcs := (singleton_eq_append_cons hcs).2.2
  fill_once := Nat.zero_le 1
  fill_entry _ _ hmem := by cases List.mem_singleton.1 hmem
  status _ _ _ hcs _ := (singleton_eq_append_cons hcs).2.2
  fill_none _ := rfl

/-- An attempt makes its calls in order, and none after one that decides. -/
theorem Attempt.disciplined {g : Generator σ ι} {request : Request} {buffer : Bytes} {s : σ}
    {run : BufferRun (Except Fault Unit) σ ι} (h : Attempt g buffer s run)
    (hrequest : request.target? = some buffer) :
    Disciplined g.limit request (calls run.events) := by
  have hlength : request.length? = some buffer.length := by rw [Request.length?, hrequest]; rfl
  cases h with
  | oversized => exact Seeking.cut.disciplined _ _
  | empty => exact Seeking.cut.disciplined _ _
  | cut _ _ hpoll => exact hpoll.seeking.disciplined _ _
  | malformed _ _ hpoll => exact hpoll.seeking.disciplined _ _
  | failed hle hne hpoll _ =>
    rw [calls_append, Source.calls_filling]
    exact hpoll.seeking.disciplined_fill hlength (List.length_pos_iff.2 hne) hle _
  | filled hle hne hpoll _ =>
    rw [calls_append, Source.calls_filling]
    exact hpoll.seeking.disciplined_fill hlength (List.length_pos_iff.2 hne) hle _

/-- One step: the calls of a request, whatever its entry point, are those of its attempt. -/
theorem disciplined_serve (g : Generator σ ι) (fuel : Nat) (request : Request) (s : σ) :
    Disciplined g.limit request (calls (g.serve fuel request s).events) := by
  rcases request.target?_cases with ⟨buffer, htarget⟩ | rfl | rfl
  · rw [(serves_serve htarget g fuel s).calls]
    exact (attempt_tryRandom g fuel buffer s).disciplined htarget
  · exact (polling_poll g fuel s).seeking.disciplined _ _
  · rw [Generator.serve, Run.step, events_isSeeded, Source.calls_asking]
    exact disciplined_status _ _ _

/-- In a session of one generator, played to its end or to a request that does not
    finish, every request makes its calls in order, and they are the calls that reach
    the source. -/
theorem play_disciplined (g : Generator σ ι) (fuel : Nat) (requests : List Request) (s : σ) :
    let steps := Session.play fuel (requests.map (g, ·)) s
    List.Forall₂ (fun request step => Disciplined g.limit request (calls step.events))
        (requests.take steps.length) steps ∧
      (steps.length = requests.length ∨
        ∃ step ∈ steps.getLast?, step.ending = .unfinished) ∧
      ∃ t, g.source.Leads s (steps.flatMap (·.events)) t := by
  have hlength : (Session.play fuel (requests.map (g, ·)) s).length = _ ∨ _ :=
    Session.length_play _ s
  rw [List.length_map] at hlength
  refine ⟨?_, hlength, Session.leads_play g requests s⟩
  have h := Session.forall₂_play
    (P := fun call step => Disciplined call.1.limit call.2 (calls step.events))
    (fun g request s => disciplined_serve g fuel request s) (requests.map (g, ·)) s
  rw [← List.map_take] at h
  exact List.forall₂_map_left_iff.1 h

end SeedGate
