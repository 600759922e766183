import SeedGate.Proofs.Polling

/-!
# Attempts at filling a buffer

`Attempt g buffer s run` says what can become of a request for random bytes: it
is refused, or over at once, or polls and then has the source fill the wiped
buffer. Whatever `tryRandom` does is such an attempt (`attempt_tryRandom`), and
an attempt is all that later proofs need to know of it.

Once a request has finished, allowing it more rounds of polling changes nothing
(`tryRandom_add`), so that to finish with some number of rounds is to finish.
-/

namespace SeedGate

open Event Bytes

variable {σ ι : Type}

/-- What can become of a request to fill a buffer. -/
inductive Attempt (g : Generator σ ι) (buffer : Bytes) (s : σ) :
    BufferRun (Except Fault Unit) σ ι → Prop
  /-- It is larger than the limit. -/
  | oversized (h : g.limit < buffer.length) : Attempt g buffer s
      ⟨⟨.returned (.error (.tooLarge buffer.length g.limit)), s,
        [.note (.oversized buffer.length g.limit)]⟩, buffer⟩
  /-- It asks for nothing. -/
  | empty (h : buffer = []) : Attempt g buffer s ⟨⟨.returned (.ok ()), s, []⟩, []⟩
  /-- It is still polling. -/
  | cut {t : σ} {events : List (Event ι)} (hle : buffer.length ≤ g.limit) (hne : buffer ≠ [])
      (hpoll : Polling g.source 0 s ⟨.unfinished, t, events⟩) :
      Attempt g buffer s ⟨⟨.unfinished, t, events⟩, zeros buffer.length⟩
  /-- Polling gives up for good. -/
  | malformed {panic : Panic} {t : σ} {events : List (Event ι)} (hle : buffer.length ≤ g.limit)
      (hne : buffer ≠ []) (hpoll : Polling g.source 0 s ⟨.panicked panic, t, events⟩) :
      Attempt g buffer s ⟨⟨.panicked panic, t, events⟩, zeros buffer.length⟩
  /-- The fill fails. -/
  | failed {fault : Fault} {t : σ} {events : List (Event ι)} (hle : buffer.length ≤ g.limit)
      (hne : buffer ≠ []) (hpoll : Polling g.source 0 s ⟨.returned (), t, events⟩)
      (hfill : (g.source.fill (zeros buffer.length) t).answer = .error fault) :
      Attempt g buffer s
        ⟨⟨.returned (.error fault), (g.source.fill (zeros buffer.length) t).state,
          events ++ g.source.filling (zeros buffer.length) t⟩, zeros buffer.length⟩
  /-- The fill succeeds. -/
  | filled {t : σ} {events : List (Event ι)} (hle : buffer.length ≤ g.limit)
      (hne : buffer ≠ []) (hpoll : Polling g.source 0 s ⟨.returned (), t, events⟩)
      (hfill : (g.source.fill (zeros buffer.length) t).answer = .ok ()) :
      Attempt g buffer s
        ⟨⟨.returned (.ok ()), (g.source.fill (zeros buffer.length) t).state,
          events ++ g.source.filling (zeros buffer.length) t⟩,
          (g.source.fill (zeros buffer.length) t).buffer⟩

theorem attempt_tryRandom (g : Generator σ ι) (fuel : Nat) (buffer : Bytes) (s : σ) :
    Attempt g buffer s (g.tryRandom fuel buffer s) := by
  rw [Generator.tryRandom]
  split
  · exact .oversized ‹_›
  rename_i hle
  rw [Nat.not_lt] at hle
  dsimp only
  split
  · obtain rfl := List.isEmpty_iff.1 ‹_›
    exact .empty rfl
  rename_i hne
  rw [List.isEmpty_iff] at hne
  have hpoll := polling_poll g fuel s
  generalize g.poll fuel s = polled at hpoll ⊢
  obtain ⟨ending, t, events⟩ := polled
  cases ending with
  | unfinished => exact .cut hle hne hpoll
  | panicked panic => exact .malformed hle hne hpoll
  | returned =>
    dsimp only [wipe]
    split
    · exact .filled hle hne hpoll ‹_›
    · rw [Source.fill_length, length_zeros]
      exact .failed hle hne hpoll ‹_›

/-- A request for nothing is over at once. -/
@[simp] theorem tryRandom_nil (g : Generator σ ι) (fuel : Nat) (s : σ) :
    g.tryRandom fuel [] s = ⟨⟨.returned (.ok ()), s, []⟩, []⟩ := by
  rw [Generator.tryRandom, List.length_nil, if_neg (Nat.not_lt_zero _)]
  rfl

/-- Once a request has finished, allowing it more rounds of polling changes nothing. -/
theorem tryRandom_add {g : Generator σ ι} {fuel : Nat} {buffer : Bytes} {s : σ}
    (h : (g.tryRandom fuel buffer s).ending ≠ .unfinished) (extra : Nat) :
    g.tryRandom (fuel + extra) buffer s = g.tryRandom fuel buffer s := by
  have hpoll : (g.poll fuel s).ending ≠ .unfinished →
      g.poll (fuel + extra) s = g.poll fuel s := fun h => pollFrom_add h extra
  rw [Generator.tryRandom] at h
  rw [Generator.tryRandom, Generator.tryRandom]
  by_cases hlimit : g.limit < buffer.length
  · rw [if_pos hlimit, if_pos hlimit]
  rw [if_neg hlimit] at h
  rw [if_neg hlimit, if_neg hlimit]
  dsimp only at h ⊢
  by_cases hempty : buffer.isEmpty
  · rw [if_pos hempty, if_pos hempty]
  rw [if_neg hempty] at h
  rw [if_neg hempty, if_neg hempty, hpoll]
  -- Had polling been cut short, so would have been the request.
  intro hcut
  rw [hcut] at h
  exact h rfl

/-- A request finishes if polling does. -/
theorem finished_tryRandom {g : Generator σ ι} {fuel : Nat} {s : σ}
    (h : (g.poll fuel s).ending ≠ .unfinished) (buffer : Bytes) :
    (g.tryRandom fuel buffer s).ending ≠ .unfinished := by
  rw [Generator.tryRandom]
  split
  · simp
  dsimp only
  split
  · simp
  generalize g.poll fuel s = polled at h ⊢
  obtain ⟨ending, t, events⟩ := polled
  cases ending with
  | unfinished => exact absurd rfl h
  | panicked => simp
  | returned =>
    dsimp only
    split <;> simp

namespace Attempt

variable {g : Generator σ ι} {buffer : Bytes} {s : σ} {run : BufferRun (Except Fault Unit) σ ι}

/-- What happens in the course of an attempt comes of calling the source. -/
theorem leads (h : Attempt g buffer s run) : g.source.Leads s run.events run.state := by
  cases h with
  | oversized => exact .note _ (.refl _)
  | empty => exact .refl _
  | cut _ _ hpoll => exact hpoll.leads
  | malformed _ _ hpoll => exact hpoll.leads
  | failed _ _ hpoll _ => exact hpoll.leads.trans (.filling _ _)
  | filled _ _ hpoll _ => exact hpoll.leads.trans (.filling _ _)

end Attempt

end SeedGate
