import SeedGate.Proofs.WordRefinement

/-!
# Words and buffers out of one stream

A kernel is *willing* if no draw to come is refused, though attempts at it may be
interrupted (`Kernel.Willing`). Over a willing kernel every request to words within the
limit succeeds, and what it hands out begins where the last one left off:
`State.position` is the place in the stream that the next byte to be handed out comes
from, the byte of the probe being passed over as long as it is still to come.

* `delivers_tryRandom`: an attempt is given the stretch at the position, and moves the
  position by its length;
* `handedOut_play_eq`: whatever words and buffers are asked for, the bytes that are handed
  out are the same for the same count of them; a word of 64 bits is what two of 32 bits
  would have been, the first one the lower half.
-/

namespace SeedGate

open Event Bytes

/-! ## Numbers of stretches -/

theorem decode_lt (b : Bytes) : LittleEndian.decode b < 256 ^ b.length := by
  have hdigits : ∀ d ∈ b.map UInt8.toNat, d < 256 := by
    intro d hd
    obtain ⟨byte, -, rfl⟩ := List.mem_map.1 hd
    exact byte.toNat_lt
  have hbound := Nat.ofDigits_lt_base_pow_length (by decide) hdigits
  rwa [← decode_eq_ofDigits, List.length_map] at hbound

/-- The number of a stretch is made of the numbers of its two parts. -/
theorem decode_stretch_add (stream : Nat → UInt8) (start m n : Nat) :
    LittleEndian.decode (Kernel.stretch stream start (m + n)) =
      LittleEndian.decode (Kernel.stretch stream start m) +
        256 ^ m * LittleEndian.decode (Kernel.stretch stream (start + m) n) := by
  simp only [decode_eq_ofDigits]
  rw [Kernel.stretch_add, List.map_append, Nat.ofDigits_append, List.length_map,
    Kernel.length_stretch]

/-! ## Willing kernels -/

namespace Kernel

variable {stream : Nat → UInt8}

/-- No draw to come is refused. -/
def Willing (k : Kernel) : Prop :=
  ∀ errno ∈ k.outcomes, errno = 0 ∨ errno = ErrorNumber.interrupted

instance (k : Kernel) : Decidable k.Willing :=
  inferInstanceAs (Decidable (∀ errno ∈ k.outcomes, _))

theorem willing_attempt {delivered : Nat} {outcomes : List Nat}
    (h : Willing ⟨outcomes, delivered⟩) (length : Nat) :
    (∃ b, (attempt stream length delivered outcomes).answer = .ok b) ∧
      (attempt stream length delivered outcomes).state.Willing := by
  induction outcomes with
  | nil => exact ⟨⟨_, rfl⟩, nofun⟩
  | cons errno outcomes ih =>
    have hrest : Willing ⟨outcomes, delivered⟩ := fun later hlater =>
      h later (List.mem_cons_of_mem _ hlater)
    rw [attempt]
    rcases h errno List.mem_cons_self with hzero | hinterrupted
    · rw [if_pos hzero]
      exact ⟨⟨_, rfl⟩, hrest⟩
    · have hne : errno ≠ 0 := hinterrupted ▸ by decide
      rw [if_neg hne, if_pos hinterrupted]
      exact ih hrest

theorem Willing.draw {k : Kernel} (h : k.Willing) (stream : Nat → UInt8) (length : Nat) :
    (∃ b, (k.draw stream length).answer = .ok b) ∧ (k.draw stream length).state.Willing := by
  rw [Kernel.draw]
  split
  · exact ⟨⟨_, rfl⟩, h⟩
  · exact willing_attempt h length

end Kernel

/-- How many bytes a request asks for, none if it is not for bytes. -/
def Request.size (request : Request) : Nat := request.length?.getD 0

/-- A request to words, for no more bytes than the limit. -/
def Request.Allowed (limit : Nat) (request : Request) : Prop :=
  ∃ buffer, request.Demands buffer ∧ buffer.length ≤ limit

/-- A step that has succeeded: it ends as the request does when its buffer was filled with
    the bytes handed out, and they are as many as it asks for. -/
structure Step.Succeeded {σ ι : Type} (request : Request) (step : Step σ ι) : Prop where
  ending : step.ending = request.closing (.ok ()) (step.handedOut request)
  buffer : step.buffer? = request.ownBuffer?.map fun _ => step.handedOut request
  length : (step.handedOut request).length = request.size

/-- All bytes handed out in the steps of a session, in their order. -/
def Session.handedOut {σ ι : Type} (served : List (Request × Step σ ι)) : Bytes :=
  served.flatMap fun (request, step) => step.handedOut request

theorem Session.handedOut_cons {σ ι : Type} (request : Request) (step : Step σ ι)
    (served : List (Request × Step σ ι)) :
    Session.handedOut ((request, step) :: served) =
      step.handedOut request ++ Session.handedOut served := rfl

namespace SystemEntropy

open Kernel

variable {stream : Nat → UInt8} {s : State}

/-- The place in the stream that the next byte to be handed out comes from. -/
def State.position (s : State) : Nat := s.kernel.delivered + if s.seeded then 0 else 1

theorem willing_gather (h : s.kernel.Willing) :
    ((source stream).gather s).answer ≠ 0 ∧ ((source stream).gather s).state.kernel.Willing := by
  obtain ⟨⟨b, hanswer⟩, hstate⟩ := h.draw stream 1
  simp only [source, gather, hanswer]
  exact ⟨by decide, hstate⟩

theorem willing_fill (h : s.kernel.Willing) (stream : Nat → UInt8) (buffer : Bytes) :
    let filling := (source stream).fill buffer s
    filling.answer = .ok () ∧ filling.state.kernel.Willing ∧ filling.state.seeded = s.seeded := by
  obtain ⟨⟨b, hanswer⟩, hstate⟩ := h.draw stream buffer.length
  simp only [source, fill, hanswer]
  exact ⟨trivial, hstate, trivial⟩

/-- Over a willing kernel polling that ends has seeded the source. -/
theorem seeded_polling {rounds : Nat} {run : Run Unit State Happening}
    (h : Polling (source stream) rounds s run) (hs : s.kernel.Willing)
    (hfinished : run.ending ≠ .unfinished) :
    run.ending = .returned () ∧ run.state.kernel.Willing ∧ run.state.seeded = true := by
  induction h with
  | cut => exact absurd rfl hfinished
  | malformed hneg => exact absurd hneg (Int.not_lt.2 status_nonneg)
  | seeded hpos =>
    have hseeded := mt status_eq_zero_iff.2 (Int.ne_of_gt hpos)
    exact ⟨rfl, hs, Bool.not_eq_false _ ▸ hseeded⟩
  | stalled _ ht hg =>
    -- The probe of a willing kernel makes progress.
    subst ht
    exact absurd hg (willing_gather hs).1
  | again _ ht _ _ ih =>
    subst ht
    exact ih (willing_gather hs).2 hfinished

/-- In an account that leaves the source seeded, the bytes are handed out from the
    position on. -/
theorem Accounts.at_position {t : State} {n : Nat} {out : Bytes}
    (h : Accounts stream s t n out) (ht : t.seeded = true) :
    out = stretch stream s.position out.length ∧ t.position = s.position + out.length := by
  have hseeded := h.seeded
  -- The account has a probe exactly if the source was unseeded, and then the position has
  -- passed over its byte already.
  have hstart : s.kernel.delivered + n = s.position := by
    rw [State.position]
    cases hs : s.seeded <;> simp [hs, ht] at hseeded ⊢ <;> omega
  refine ⟨hstart ▸ h.handedOut, ?_⟩
  rw [← hstart, ← h.delivered, State.position, if_pos ht]
  rfl

/-! ## One attempt -/

/-- An attempt that is given the next bytes of the stream, so many of them. -/
structure Delivers (stream : Nat → UInt8) (s : State) (n : Nat)
    (run : BufferRun (Except Fault Unit) State Happening) : Prop where
  ending : run.ending = .returned (.ok ())
  buffer : run.buffer = stretch stream s.position n
  position : run.state.position = s.position + n
  willing : run.state.kernel.Willing

/-- Within the limit, and over a willing kernel, an attempt is given the next bytes. -/
theorem delivers_tryRandom (stream : Nat → UInt8) (hs : s.kernel.Willing) {limit : Nat} {buffer : Bytes}
    (hle : buffer.length ≤ limit) {fuel : Nat} (hfuel : SystemEntropy.rounds ≤ fuel) :
    Delivers stream s buffer.length
      (Generator.tryRandom ⟨source stream, limit⟩ fuel buffer s) := by
  have hattempt := attempt_tryRandom ⟨source stream, limit⟩ fuel buffer s
  have hfinished := finished_tryRandom (finished_poll stream hfuel limit s) buffer
  have haccounts := accounts_attempt hattempt
  have hlength := hattempt.length_buffer
  generalize Generator.tryRandom ⟨source stream, limit⟩ fuel buffer s = run at *
  cases hattempt with
  | oversized hlt => exact absurd hlt (Nat.not_lt.2 hle)
  | empty hempty =>
    subst hempty
    exact ⟨rfl, rfl, rfl, hs⟩
  | cut => exact absurd rfl hfinished
  | malformed _ _ hpoll => cases (seeded_polling hpoll hs nofun).1
  | failed _ _ hpoll hfill =>
    obtain ⟨-, ht, -⟩ := seeded_polling hpoll hs nofun
    cases hfill.symm.trans (willing_fill ht stream _).1
  | filled _ _ hpoll hfill =>
    obtain ⟨-, ht, hseeded⟩ := seeded_polling hpoll hs nofun
    obtain ⟨-, hwilling, hsame⟩ := willing_fill ht stream (zeros buffer.length)
    obtain ⟨hbuffer, hposition⟩ := haccounts.at_position (hsame.trans hseeded)
    exact ⟨rfl, hbuffer.trans (congrArg (stretch stream s.position) hlength),
      hposition.trans (congrArg (s.position + ·) hlength), hwilling⟩

/-! ## Requests -/

/-- The step of a request that is handed the next bytes, as many as it asks for. -/
structure Hands (stream : Nat → UInt8) (request : Request) (s : State)
    (step : Step State Happening) : Prop where
  succeeded : step.Succeeded request
  handedOut : step.handedOut request = stretch stream s.position request.size
  position : step.state.position = s.position + request.size
  willing : step.state.kernel.Willing

/-- The word that a request for one is handed is the number of the next bytes. -/
theorem Hands.word {request : Request} {step : Step State Happening}
    (h : Hands stream request s step) (hword : request = .nextU32 ∨ request = .nextU64) :
    step.ending =
      .returned (.word (LittleEndian.decode (stretch stream s.position request.size))) := by
  rw [h.succeeded.ending, h.handedOut, decode_eq_ofDigits]
  rcases hword with rfl | rfl <;> rfl

section

variable (stream) {fuel : Nat} (hfuel : SystemEntropy.rounds ≤ fuel) {limit : Nat}
include hfuel

theorem hands_serve (hs : s.kernel.Willing) {request : Request} (h : request.Allowed limit) :
    Hands stream request s (Generator.serve ⟨source stream, limit⟩ fuel request s) := by
  obtain ⟨buffer, hdemands, hle⟩ := h
  have hdelivers := delivers_tryRandom stream hs hle hfuel
  have hshows := hdemands.shows ⟨source stream, limit⟩ fuel s
  have hsize : request.size = buffer.length := by rw [Request.size, hdemands.length?_eq]; rfl
  have hlength := congrArg List.length hdelivers.buffer
  rw [length_stretch] at hlength
  have hrun : (Generator.tryRandom ⟨source stream, limit⟩ fuel buffer s).handedOut =
      (Generator.tryRandom ⟨source stream, limit⟩ fuel buffer s).buffer := by
    rw [BufferRun.handedOut, hdelivers.ending]
  have hbytes := (hshows.handedOut_eq (hdemands.length?_eq.trans (congrArg some hlength.symm))).trans
    hrun
  refine ⟨⟨?_, ?_, ?_⟩, ?_, ?_, ?_⟩
  · rw [hbytes, hshows.ending, hdelivers.ending]
    rfl
  · rw [hbytes, hshows.buffer]
  · rw [hbytes, hlength, hsize]
  · rw [hbytes, hdelivers.buffer, hsize]
  · rw [hshows.state, hdelivers.position, hsize]
  · rw [hshows.state]
    exact hdelivers.willing

/-- All requests of a session succeed, and together they are handed the next bytes. -/
theorem handedOut_play (hs : s.kernel.Willing) {requests : List Request}
    (h : ∀ request ∈ requests, request.Allowed limit) :
    let steps := Session.play fuel (requests.map (⟨source stream, limit⟩, ·)) s
    List.Forall₂ (fun request step => step.Succeeded request) requests steps ∧
      Session.handedOut (requests.zip steps) =
        stretch stream s.position (requests.map Request.size).sum := by
  dsimp only
  induction requests generalizing s with
  | nil => exact ⟨.nil, rfl⟩
  | cons request rest ih =>
    obtain ⟨hrequest, hrest⟩ := List.forall_mem_cons.1 h
    have hands := hands_serve stream hfuel hs hrequest
    obtain ⟨hsteps, hbytes⟩ := ih hands.willing hrest
    have hfinished := finished_serve (finished_poll stream hfuel limit s) request
    rw [List.map_cons, Session.play_cons_of_finished hfinished]
    refine ⟨.cons hands.succeeded hsteps, ?_⟩
    -- The rest is handed what comes after the bytes of the first request.
    rw [List.zip_cons_cons, Session.handedOut_cons, hbytes, hands.handedOut, hands.position,
      List.map_cons, List.sum_cons, stretch_add]

/-- A word of 64 bits is made of two of 32 bits, the first one the lower half. -/
theorem nextU64_eq_nextU32_add (hs : s.kernel.Willing) (hlimit : 8 ≤ limit) :
    let g : Generator State Happening := ⟨source stream, limit⟩
    ∃ a b : Nat, a < 2 ^ 32 ∧ b < 2 ^ 32 ∧
      (Session.play fuel [(g, .nextU32), (g, .nextU32)] s).map (·.ending) =
        [.returned (.word a), .returned (.word b)] ∧
      (Session.play fuel [(g, .nextU64)] s).map (·.ending) =
        [.returned (.word (a + 2 ^ 32 * b))] := by
  intro g
  have h32 : Request.Allowed limit .nextU32 :=
    ⟨zeros 4, .nextU32 (length_zeros 4), by rw [length_zeros]; omega⟩
  have h64 : Request.Allowed limit .nextU64 :=
    ⟨zeros 8, .nextU64 (length_zeros 8), by rwa [length_zeros]⟩
  have hlower := hands_serve stream hfuel hs h32
  have hupper := hands_serve stream hfuel hlower.willing h32
  have hwhole := hands_serve stream hfuel hs h64
  have hlt (start : Nat) : LittleEndian.decode (stretch stream start 4) < 2 ^ 32 := by
    have hbound := decode_lt (stretch stream start 4)
    rwa [length_stretch] at hbound
  have hparts : LittleEndian.decode (stretch stream s.position 8) =
      LittleEndian.decode (stretch stream s.position 4) +
        2 ^ 32 * LittleEndian.decode (stretch stream (s.position + 4) 4) :=
    decode_stretch_add stream s.position 4 4
  refine ⟨_, _, hlt s.position, hlt (s.position + 4), ?_, ?_⟩
  · -- The second of the two words begins where the first one has left off.
    have hfirst := hlower.word (.inl rfl)
    have hsecond := hupper.word (.inl rfl)
    rw [hlower.position] at hsecond
    rw [Session.play_cons_of_finished (hfirst ▸ nofun),
      Session.play_cons_of_finished (hsecond ▸ nofun)]
    exact congrArg₂ (fun a b => [a, b]) hfirst hsecond
  · have hword := hwhole.word (.inr rfl)
    rw [Session.play_cons_of_finished (hword ▸ nofun), ← hparts]
    exact congrArg (fun a => [a]) hword

/-- Over a kernel that refuses nothing, words and buffers within the limit are one stream:
    every request succeeds, and whatever is asked for, so many bytes are the same bytes, in
    words the least significant first. So a word of 64 bits is made of the two words of 32
    bits that might have been asked for instead, the first one the lower half. -/
theorem handedOut_play_eq (hlimit : 8 ≤ limit) (hs : s.kernel.Willing)
    {requests others : List Request} (hrequests : ∀ request ∈ requests, request.Allowed limit)
    (hothers : ∀ request ∈ others, request.Allowed limit)
    (htotal : (requests.map Request.size).sum = (others.map Request.size).sum) :
    let g : Generator State Happening := ⟨source stream, limit⟩
    let steps := Session.play fuel (requests.map (g, ·)) s
    let otherSteps := Session.play fuel (others.map (g, ·)) s
    List.Forall₂ (fun request step => step.Succeeded request) requests steps ∧
      Session.handedOut (requests.zip steps) = Session.handedOut (others.zip otherSteps) ∧
      Session.handedOut (requests.zip steps) =
        stretch stream s.position (requests.map Request.size).sum ∧
      ∃ a b : Nat, a < 2 ^ 32 ∧ b < 2 ^ 32 ∧
        (Session.play fuel [(g, .nextU32), (g, .nextU32)] s).map (·.ending) =
          [.returned (.word a), .returned (.word b)] ∧
        (Session.play fuel [(g, .nextU64)] s).map (·.ending) =
          [.returned (.word (a + 2 ^ 32 * b))] := by
  intro g steps otherSteps
  obtain ⟨hsteps, hbytes⟩ := handedOut_play stream hfuel hs hrequests
  obtain ⟨-, hotherBytes⟩ := handedOut_play stream hfuel hs hothers
  refine ⟨hsteps, hbytes.trans ?_, hbytes, nextU64_eq_nextU32_add stream hfuel hs hlimit⟩
  rw [htotal, ← hotherBytes]

end

/-- A word, a buffer of three bytes and a longer word, with an interruption on the way,
    next to one buffer for all. -/
theorem handedOut_play_eq_fill :
    let stream : Nat → UInt8 := fun i => .ofNat (7 * i + 1)
    let g : Generator State Happening := ⟨source stream, 16⟩
    let s : State := .fresh [4, 0, 0, 4]
    let requests : List Request := [.nextU32, .tryFillBytes [9, 9, 9], .nextU64]
    let others : List Request := [.fillBytes (zeros 15)]
    let steps := Session.play 2 (requests.map (g, ·)) s
    let otherSteps := Session.play 2 (others.map (g, ·)) s
    (SystemEntropy.rounds ≤ 2 ∧ 8 ≤ g.limit ∧ s.kernel.Willing ∧
      (∀ request ∈ requests, request.Allowed g.limit) ∧
      (∀ request ∈ others, request.Allowed g.limit) ∧
      (requests.map Request.size).sum = (others.map Request.size).sum) ∧
    List.Forall₂ (fun request step => step.Succeeded request) requests steps ∧
    Session.handedOut (requests.zip steps) = Session.handedOut (others.zip otherSteps) ∧
    Session.handedOut (requests.zip steps) = stretch stream 1 15 := by
  intro stream g s requests others steps otherSteps
  have hs : s.kernel.Willing := by decide
  have hrequests : ∀ request ∈ requests, request.Allowed g.limit := by
    intro request h
    rcases List.mem_cons.1 h with rfl | h
    · exact ⟨zeros 4, .nextU32 rfl, by decide⟩
    rcases List.mem_cons.1 h with rfl | h
    · exact ⟨[9, 9, 9], .tryFillBytes _, by decide⟩
    obtain rfl := List.mem_singleton.1 h
    exact ⟨zeros 8, .nextU64 rfl, by decide⟩
  have hothers : ∀ request ∈ others, request.Allowed g.limit := by
    intro request h
    obtain rfl := List.mem_singleton.1 h
    exact ⟨zeros 15, .fillBytes _, by decide⟩
  obtain ⟨hsteps, heq, hbytes, -⟩ :=
    handedOut_play_eq stream (by decide : SystemEntropy.rounds ≤ 2) (by decide : 8 ≤ 16) hs
      hrequests hothers rfl
  exact ⟨⟨by decide, by decide, hs, hrequests, hothers, rfl⟩, hsteps, heq, hbytes⟩

end SystemEntropy

end SeedGate
