import SeedGate.Proofs.Accounting

/-!
# What is drawn from the kernel

Polling the entropy of the operating system makes at most one draw, the probe, and only
if the source is unseeded; `State.probed` is the kernel after it, with the attempts that
it took. The probe decides nothing else: whatever its outcome, a request makes one more
draw, of as many bytes as its buffer has, and ends as this one does (`Draws`).

* `draws_polling`: what polling draws;
* `draws_tryRandom`, `draws_randomVec`: what a request within the limit draws, and how it
  ends.
-/

namespace SeedGate

open Event Bytes

namespace SystemEntropy

variable {stream : Nat → UInt8} {s : State}

@[simp] theorem draws_append (a b : List (Event Happening)) :
    draws (a ++ b) = draws a ++ draws b :=
  List.filterMap_append

@[simp] theorem draws_note (note : Log.Note) (events : List (Event Happening)) :
    draws (.note note :: events) = draws events := rfl

/-- A call makes the draws that its reply begins with, if there are but notes after them. -/
theorem draws_events {α : Type} {reply : Reply α State Happening} {call : Event Happening}
    (hcall : call.call?.isSome) {record : List Kernel.Draw} {rest : List Happening}
    (hrecord : reply.record = record.map .draw ++ rest)
    (hrest : ∀ what ∈ rest, drawOf? (.inside what) = none) : draws (reply.events call) = record := by
  have hlast : draws [call] = [] := by
    cases call with
    | inside => cases hcall
    | _ => rfl
  have hdrawn : draws ((record.map Happening.draw).map .inside) = record := by
    rw [draws, List.map_map, List.filterMap_map]
    exact List.filterMap_some
  have hnoted : draws (rest.map .inside) = [] := by
    rw [draws, List.filterMap_map]
    exact List.filterMap_eq_nil_iff.2 hrest
  rw [Reply.events, hrecord, List.map_append, draws_append, draws_append, hlast, hdrawn, hnoted,
    List.append_nil, List.append_nil]

@[simp] theorem draws_asking (s : State) : draws ((source stream).asking s) = [] :=
  draws_events rfl rfl (List.forall_mem_nil _)

@[simp] theorem draws_gathering (s : State) :
    draws ((source stream).gathering s) = (s.kernel.draw stream 1).record := by
  simp only [Source.gathering, source, gather]
  split <;> exact draws_events rfl rfl (List.forall_mem_singleton.2 rfl)

@[simp] theorem draws_filling (buffer : Bytes) (s : State) :
    draws ((source stream).filling buffer s) = (s.kernel.draw stream buffer.length).record := by
  simp only [Source.filling, source, fill]
  split <;> exact draws_events rfl (List.append_nil _).symm (List.forall_mem_nil _)

/-! ## The probe -/

/-- The kernel after the probe that polling makes, if it makes one, with the attempts that
    it took. -/
def State.probed (stream : Nat → UInt8) (s : State) : Kernel × List Kernel.Draw :=
  if s.seeded then (s.kernel, [])
  else ((s.kernel.draw stream 1).state, (s.kernel.draw stream 1).record)

theorem probed_of_seeded (h : s.seeded = true) : s.probed stream = (s.kernel, []) := if_pos h

/-- A source that is not seeded is probed for one byte. -/
theorem probed_of_unseeded (h : s.seeded = false) :
    s.probed stream = ((s.kernel.draw stream 1).state, (s.kernel.draw stream 1).record) := by
  rw [State.probed, h]
  rfl

theorem kernel_gather (s : State) :
    ((source stream).gather s).state.kernel = (s.kernel.draw stream 1).state := by
  simp only [source, gather]
  split <;> rfl

/-- Polling that ends has made the probe, if there was one to make, and returned. -/
theorem draws_polling {rounds : Nat} {run : Run Unit State Happening}
    (h : Polling (source stream) rounds s run) (hfinished : run.ending ≠ .unfinished) :
    run.ending = .returned () ∧ run.state.kernel = (s.probed stream).1 ∧
      draws run.events = (s.probed stream).2 := by
  induction h with
  | cut => exact absurd rfl hfinished
  | malformed hneg => exact absurd hneg (Int.not_lt.2 status_nonneg)
  | seeded hpos =>
    have hseeded := mt status_eq_zero_iff.2 (Int.ne_of_gt hpos)
    rw [probed_of_seeded (Bool.not_eq_false _ ▸ hseeded)]
    exact ⟨rfl, rfl, draws_asking _⟩
  | stalled hzero ht _ =>
    subst ht
    rw [probed_of_unseeded (status_eq_zero_iff.1 hzero)]
    refine ⟨rfl, kernel_gather _, ?_⟩
    rw [draws_append, draws_append, draws_asking, draws_gathering]
    exact List.append_nil _
  | again hzero ht hg _ ih =>
    -- A probe that succeeds seeds the source, so that no other is made after it.
    subst ht
    obtain ⟨hreturned, hkernel, hdraws⟩ := ih hfinished
    rw [probed_of_seeded (seeded_gather hg)] at hkernel hdraws
    rw [probed_of_unseeded (status_eq_zero_iff.1 hzero)]
    refine ⟨hreturned, hkernel.trans (kernel_gather _), ?_⟩
    rw [draws_append, draws_append, draws_asking, draws_gathering, draws_note, hdraws]
    exact List.append_nil _

/-! ## Requests -/

/-- The draw that a request for `n` bytes makes, after the probe. -/
def State.drawn (stream : Nat → UInt8) (n : Nat) (s : State) :
    Reply (Except Nat Bytes) Kernel Kernel.Draw :=
  (s.probed stream).1.draw stream n

/-- What a fill answers whose draw has this answer. -/
def answerOf : Except Nat Bytes → Except Fault Unit
  | .ok _ => .ok ()
  | .error errno => .error (.generation (ErrorNumber.name errno))

/-- An attempt that draws from the kernel, after the probe if there is one, as many bytes as
    its buffer has; they decide how it ends. -/
structure Draws (stream : Nat → UInt8) (s : State) (n : Nat)
    (run : BufferRun (Except Fault Unit) State Happening) : Prop where
  draws : draws run.events = (s.probed stream).2 ++ (s.drawn stream n).record
  kernel : run.state.kernel = (s.drawn stream n).state
  ending : run.ending = .returned (answerOf (s.drawn stream n).answer)
  buffer : run.buffer = (s.drawn stream n).answer.toOption.getD (zeros n)

/-- The bytes are handed over, or the number of the error that the kernel gave is named. -/
theorem Draws.ending_handOver {n : Nat} {run : BufferRun (Except Fault Unit) State Happening}
    (h : Draws stream s n run) :
    run.handOver.ending = .returned
      ((s.drawn stream n).answer.mapError fun errno => .generation (ErrorNumber.name errno)) := by
  dsimp only [BufferRun.handOver]
  rw [h.ending, h.buffer]
  cases (s.drawn stream n).answer <;> rfl

/-- All that a fill does is its draw. -/
theorem fill_eq (stream : Nat → UInt8) (buffer : Bytes) (s : State) :
    let drawn := s.kernel.draw stream buffer.length
    (source stream).fill buffer s =
      ⟨⟨answerOf drawn.answer, ⟨drawn.state, s.seeded⟩, drawn.record.map .draw⟩,
        drawn.answer.toOption.getD buffer⟩ := by
  simp only [source, fill]
  cases (s.kernel.draw stream buffer.length).answer <;> rfl

/-- The fill after polling makes the draw after the probe. -/
theorem fill_of_polling {t : State} {events : List (Event Happening)}
    (hpoll : Polling (source stream) 0 s ⟨.returned (), t, events⟩) (n : Nat) :
    draws (events ++ (source stream).filling (zeros n) t) =
        (s.probed stream).2 ++ (s.drawn stream n).record ∧
      (source stream).fill (zeros n) t =
        ⟨⟨answerOf (s.drawn stream n).answer, ⟨(s.drawn stream n).state, t.seeded⟩,
          (s.drawn stream n).record.map .draw⟩,
          (s.drawn stream n).answer.toOption.getD (zeros n)⟩ := by
  obtain ⟨-, hkernel, hdraws⟩ := draws_polling hpoll nofun
  have hdrawn : t.kernel.draw stream (zeros n).length = s.drawn stream n := by
    rw [hkernel, length_zeros]
    rfl
  refine ⟨?_, ?_⟩
  · rw [draws_append, hdraws, draws_filling, hdrawn]
  · rw [fill_eq, hdrawn]

/-- Within the limit, a request for at least one byte draws them from the kernel, whatever
    has become of the probe. -/
theorem draws_tryRandom (stream : Nat → UInt8) {limit : Nat} {buffer : Bytes}
    (hle : buffer.length ≤ limit) (hne : buffer ≠ []) {fuel : Nat}
    (hfuel : SystemEntropy.rounds ≤ fuel) (s : State) :
    Draws stream s buffer.length (Generator.tryRandom ⟨source stream, limit⟩ fuel buffer s) := by
  have hattempt := attempt_tryRandom ⟨source stream, limit⟩ fuel buffer s
  have hfinished := finished_tryRandom (finished_poll stream hfuel limit s) buffer
  generalize Generator.tryRandom ⟨source stream, limit⟩ fuel buffer s = run at *
  cases hattempt with
  | oversized hlt => exact absurd hlt (Nat.not_lt.2 hle)
  | empty hempty => exact absurd hempty hne
  | cut => exact absurd rfl hfinished
  | malformed _ _ hpoll => cases (draws_polling hpoll nofun).1
  | @failed fault _ _ _ _ hpoll hfill =>
    obtain ⟨hdraws, hfilling⟩ := fill_of_polling hpoll buffer.length
    have hanswer : answerOf (s.drawn stream buffer.length).answer = .error fault := by
      rw [hfilling] at hfill
      exact hfill
    refine ⟨hdraws, by rw [hfilling], congrArg Ending.returned hanswer.symm, ?_⟩
    -- The draw was refused, so that it has no bytes for the buffer.
    cases hdrawn : (s.drawn stream buffer.length).answer with
    | ok b =>
      rw [hdrawn] at hanswer
      cases hanswer
    | error errno => rfl
  | filled _ _ hpoll hfill =>
    obtain ⟨hdraws, hfilling⟩ := fill_of_polling hpoll buffer.length
    have hanswer : answerOf (s.drawn stream buffer.length).answer = .ok () := by
      rw [hfilling] at hfill
      exact hfill
    exact ⟨hdraws, by rw [hfilling], congrArg Ending.returned hanswer.symm, by rw [hfilling]⟩

/-- So does a request for a new vector of them. -/
theorem draws_randomVec (stream : Nat → UInt8) {limit n : Nat} (hle : n ≤ limit) (hne : n ≠ 0)
    {fuel : Nat} (hfuel : SystemEntropy.rounds ≤ fuel) (s : State) :
    let run := Generator.randomVec ⟨source stream, limit⟩ fuel n s
    run.ending = .returned
        ((s.drawn stream n).answer.mapError fun errno => .generation (ErrorNumber.name errno)) ∧
      draws run.events = (s.probed stream).2 ++ (s.drawn stream n).record := by
  have hlength : (zeros n).length = n := length_zeros n
  have hnonempty : zeros n ≠ [] := fun hempty => hne (hlength ▸ congrArg List.length hempty)
  have hdraws := draws_tryRandom stream (hlength.symm ▸ hle) hnonempty hfuel s
  rw [hlength] at hdraws
  dsimp only
  rw [Generator.randomVec_eq, if_neg (Nat.not_lt.2 hle)]
  exact ⟨hdraws.ending_handOver, hdraws.draws⟩

end SystemEntropy

end SeedGate
