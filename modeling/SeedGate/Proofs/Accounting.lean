import SeedGate.Proofs.Rounds
import SeedGate.Proofs.Sessions
import SeedGate.Proofs.Sharing
import SeedGate.Source.SystemEntropy

/-!
# The bytes of the kernel, accounted for

The kernel delivers the bytes of its stream one after the other (`Kernel.output`).
Whoever shares the entropy of the operating system gets them in that order, and
gets all of them but one: the byte of the probe that has seeded the source, which
is thrown away.

`Accounts stream s t probes out` is the account of whatever leads the source from
one state to another: with so many probes that succeeded, and these bytes handed
out after them. Polling has such an account (`accounts_polling`), and so have an
attempt and a request (`accounts_serve`); the account of a session is theirs, one
after the other (`output_share`).

* `share_balanced`: the account of any session of any holders, in which every
  request finishes.
-/

namespace SeedGate

open Event Bytes

/-! ## What a draw delivers -/

namespace Kernel

variable (stream : Nat → UInt8)

/-- A stretch of a stream. -/
def stretch (start length : Nat) : Bytes := (List.range length).map fun i => stream (start + i)

/-- The bytes delivered so far, in their order. -/
def output (k : Kernel) : Bytes := stretch stream 0 k.delivered

theorem stretch_add (start m n : Nat) :
    stretch stream start (m + n) = stretch stream start m ++ stretch stream (start + m) n := by
  rw [stretch, List.range_add, List.map_append, List.map_map]
  simp only [stretch, Function.comp_def, Nat.add_assoc]

@[simp] theorem length_stretch (start length : Nat) :
    (stretch stream start length).length = length := by simp [stretch]

/-- A part of a stretch from the start is a stretch itself. -/
theorem eq_stretch_of_append {n : Nat} {a b c : Bytes}
    (h : stretch stream 0 n = a ++ (b ++ c)) : b = stretch stream a.length b.length := by
  have hn := congrArg List.length h
  rw [length_stretch, List.length_append, List.length_append] at hn
  rw [hn, stretch_add, stretch_add, Nat.zero_add] at h
  have htail := (List.append_inj h (length_stretch _ _ _)).2
  exact (List.append_inj htail (length_stretch _ _ _)).1.symm

/-- What becomes of a draw: the next stretch of the stream is delivered, or nothing. -/
inductive Drawn (length delivered : Nat) : Reply (Except Nat Bytes) Kernel Draw → Prop
  | delivered {k : Kernel} {record : List Draw} (hk : k.delivered = delivered + length) :
      Drawn length delivered ⟨.ok (stretch stream delivered length), k, record⟩
  | refused {errno : Nat} {k : Kernel} {record : List Draw} (hk : k.delivered = delivered) :
      Drawn length delivered ⟨.error errno, k, record⟩

theorem drawn_attempt (length delivered : Nat) (outcomes : List Nat) :
    Drawn stream length delivered (attempt stream length delivered outcomes) := by
  induction outcomes with
  | nil => exact .delivered rfl
  | cons errno outcomes ih =>
    rw [attempt]
    split
    · exact .delivered rfl
    · split
      · -- An interrupted attempt leaves its trace on whatever comes of the next.
        generalize attempt stream length delivered outcomes = later at ih ⊢
        cases ih with
        | delivered hk => exact .delivered hk
        | refused hk => exact .refused hk
      · exact .refused rfl

theorem drawn_draw (length : Nat) (k : Kernel) :
    Drawn stream length k.delivered (k.draw stream length) := by
  rw [draw]
  split
  · rename_i hzero
    subst hzero
    exact .delivered rfl
  · exact drawn_attempt stream length k.delivered k.outcomes

end Kernel

/-! ## What is counted -/

/-- How many probes succeeded. -/
def probes (cs : List Call) : Nat := cs.countP fun
  | .gather progress => progress ≠ 0
  | _ => false

@[simp] theorem probes_nil : probes [] = 0 := rfl

@[simp] theorem probes_append (a b : List Call) : probes (a ++ b) = probes a + probes b :=
  List.countP_append

@[simp] theorem probes_status (v : Int) : probes [.status v] = 0 := rfl

@[simp] theorem probes_fill (entry : Bytes) (answer : Except Fault Unit) :
    probes [.fill entry answer] = 0 := rfl

/-- The bytes that a fill hands out: none if it failed. -/
def Filling.handedOut {σ ι : Type} (filling : Filling σ ι) : Bytes :=
  match filling.answer with
  | .ok () => filling.buffer
  | .error _ => []

/-- How many probes succeeded in a step. -/
def Step.probes {σ ι : Type} (step : Step σ ι) : Nat := SeedGate.probes (calls step.events)

/-- All that was taken from the kernel in the steps of a session: what each request
    hands out, with one more byte, the given one, before it if its probe succeeded. -/
def Session.taken {σ ι : Type} (byte : UInt8) (served : List (Request × Step σ ι)) : Bytes :=
  served.flatMap fun (request, step) =>
    List.replicate step.probes byte ++ step.handedOut request

theorem Session.taken_append_cons {σ ι : Type} (byte : UInt8)
    (before after : List (Request × Step σ ι)) (request : Request) (step : Step σ ι) :
    Session.taken byte (before ++ (request, step) :: after) =
      Session.taken byte before ++ (List.replicate step.probes byte ++
        (step.handedOut request ++ Session.taken byte after)) := by
  rw [Session.taken, List.flatMap_append, List.flatMap_cons, List.append_assoc]
  rfl

namespace SystemEntropy

open Kernel

variable {stream : Nat → UInt8} {r s t : State} {m n : Nat} {out : Bytes}

/-! ## The account of a stretch of events -/

/-- What leads from one state to another: the source is seeded once a probe has
    succeeded, and the kernel has delivered a byte for each such probe, and after it
    the bytes that are handed out. -/
structure Accounts (stream : Nat → UInt8) (s t : State) (probes : Nat) (out : Bytes) : Prop where
  seeded : t.seeded.toNat = s.seeded.toNat + probes
  delivered : t.kernel.delivered = s.kernel.delivered + probes + out.length
  handedOut : out = stretch stream (s.kernel.delivered + probes) out.length

namespace Accounts

theorem refl (s : State) : Accounts stream s s 0 [] := ⟨rfl, rfl, rfl⟩

/-- Two accounts make one if nothing is handed out in the first. -/
theorem trans (h : Accounts stream r s m []) (hlater : Accounts stream s t n out) :
    Accounts stream r t (m + n) out where
  seeded := by rw [hlater.seeded, h.seeded, Nat.add_assoc]
  delivered := by
    rw [hlater.delivered, h.delivered, List.length_nil, Nat.add_zero, Nat.add_assoc _ m n]
  handedOut := by
    -- The later stretch begins where the first account has left the kernel.
    have hout := hlater.handedOut
    rwa [h.delivered, List.length_nil, Nat.add_zero, Nat.add_assoc _ m n] at hout

/-- No probe succeeds, or the one that seeds the source. -/
theorem unprobed_or_probed (h : Accounts stream s t n out) :
    (n = 0 ∧ t.seeded = s.seeded) ∨ (n = 1 ∧ s.seeded = false ∧ t.seeded = true) := by
  have hseeded := h.seeded
  have hle := Bool.toNat_le t.seeded
  cases hs : s.seeded with
  | true =>
    rw [hs, Bool.toNat_true] at hseeded
    exact .inl ⟨by omega, Bool.toNat_eq_one.1 (by omega)⟩
  | false =>
    rw [hs, Bool.toNat_false] at hseeded
    cases ht : t.seeded with
    | false => exact .inl ⟨by rw [ht, Bool.toNat_false] at hseeded; omega, rfl⟩
    | true => exact .inr ⟨by rw [ht, Bool.toNat_true] at hseeded; omega, rfl, rfl⟩

/-- What the kernel has delivered meanwhile. -/
theorem output (h : Accounts stream s t n out) :
    t.kernel.output stream =
      s.kernel.output stream ++ (stretch stream s.kernel.delivered n ++ out) := by
  rw [Kernel.output, h.delivered, stretch_add, stretch_add, Nat.zero_add, Nat.zero_add,
    ← h.handedOut, List.append_assoc, Kernel.output]

end Accounts

/-- A probe that succeeds delivers a byte and seeds the source, which had not been
    seeded before; one that fails does neither. -/
theorem accounts_gather (hs : s.seeded = false) :
    Accounts stream s ((source stream).gather s).state
      (probes [.gather ((source stream).gather s).answer]) [] := by
  have hdrawn := drawn_draw stream 1 s.kernel
  simp only [source, gather]
  generalize s.kernel.draw stream 1 = probe at hdrawn ⊢
  cases hdrawn with
  | delivered hk => exact ⟨by rw [hs]; rfl, hk, rfl⟩
  | refused hk => exact ⟨rfl, hk, rfl⟩

/-- A fill that succeeds delivers what it fills in; one that fails delivers nothing. -/
theorem accounts_fill (buffer : Bytes) (s : State) :
    Accounts stream s ((source stream).fill buffer s).state 0
      ((source stream).fill buffer s).handedOut := by
  have hdrawn := drawn_draw stream buffer.length s.kernel
  simp only [source, fill]
  generalize s.kernel.draw stream buffer.length = drawn at hdrawn ⊢
  cases hdrawn with
  | delivered hk =>
    exact ⟨rfl, by rw [hk]; simp [Filling.handedOut], by simp [Filling.handedOut]⟩
  | refused hk => exact ⟨rfl, hk, rfl⟩

/-! ## Polling, attempts and requests -/

theorem status_eq_zero_iff {s : State} :
    ((source stream).status s).answer = 0 ↔ s.seeded = false := by
  cases hs : s.seeded <;> simp [source, status, hs]

theorem status_nonneg : 0 ≤ ((source stream).status s).answer := by
  cases hs : s.seeded <;> simp [source, status, hs]

/-- Polling hands out nothing. -/
theorem accounts_polling {rounds : Nat} {run : Run Unit State Happening}
    (h : Polling (source stream) rounds s run) :
    Accounts stream s run.state (probes (calls run.events)) [] := by
  induction h with
  | cut => exact .refl _
  | malformed | seeded =>
    rw [Source.calls_asking]
    exact .refl _
  | stalled hs ht _ =>
    subst ht
    simp only [calls_append, Source.calls_asking, Source.calls_gathering, calls_note, calls_nil,
      probes_append, probes_status, probes_nil, Nat.zero_add, Nat.add_zero]
    exact accounts_gather (status_eq_zero_iff.1 hs)
  | again hs ht _ _ ih =>
    subst ht
    simp only [calls_append, Source.calls_asking, Source.calls_gathering, calls_note,
      probes_append, probes_status, Nat.zero_add]
    exact (accounts_gather (status_eq_zero_iff.1 hs)).trans ih

/-- The account of polling that returns, with a fill after it. -/
theorem accounts_filling {events : List (Event Happening)}
    (hpoll : Polling (source stream) 0 s ⟨.returned (), t, events⟩) (buffer : Bytes) :
    Accounts stream s ((source stream).fill buffer t).state
      (probes (calls (events ++ (source stream).filling buffer t)))
      ((source stream).fill buffer t).handedOut := by
  rw [calls_append, Source.calls_filling, probes_append, probes_fill]
  exact (accounts_polling hpoll).trans (accounts_fill buffer t)

/-- An attempt hands out what its buffer was filled with. -/
theorem accounts_attempt {limit : Nat} {buffer : Bytes}
    {run : BufferRun (Except Fault Unit) State Happening}
    (h : Attempt ⟨source stream, limit⟩ buffer s run) :
    Accounts stream s run.state (probes (calls run.events)) run.handedOut := by
  cases h with
  | oversized => exact .refl s
  | empty hempty =>
    subst hempty
    exact .refl s
  | cut _ _ hpoll => exact accounts_polling hpoll
  | malformed _ _ hpoll => exact accounts_polling hpoll
  | failed _ _ hpoll hfill =>
    have h := accounts_filling hpoll (zeros buffer.length)
    rwa [Filling.handedOut, hfill] at h
  | filled _ _ hpoll hfill =>
    have h := accounts_filling hpoll (zeros buffer.length)
    rwa [Filling.handedOut, hfill] at h

/-- The account of a request. -/
theorem accounts_serve (stream : Nat → UInt8) (limit fuel : Nat) (request : Request) (s : State) :
    let step := Generator.serve ⟨source stream, limit⟩ fuel request s
    Accounts stream s step.state step.probes (step.handedOut request) := by
  dsimp only
  rcases request.target?_cases with ⟨buffer, htarget⟩ | rfl | rfl
  · have hserves := serves_serve htarget ⟨source stream, limit⟩ fuel s
    rw [hserves.state, hserves.handedOut, Step.probes, hserves.calls]
    exact accounts_attempt (attempt_tryRandom _ fuel buffer s)
  · rw [Step.handedOut_of_target?_eq_none rfl]
    exact accounts_polling (polling_poll ⟨source stream, limit⟩ fuel s)
  · rw [Step.handedOut_of_target?_eq_none rfl, Generator.serve, Run.step, Step.probes,
      events_isSeeded, state_isSeeded, Source.calls_asking]
    exact .refl s

/-! ## Finishing -/

theorem seeded_gather (h : ((source stream).gather s).answer ≠ 0) :
    ((source stream).gather s).state.seeded = true := by
  simp only [source, gather] at h ⊢
  generalize s.kernel.draw stream 1 = probe at h ⊢
  obtain ⟨_ | _, k, record⟩ := probe
  · exact absurd rfl h
  · rfl

/-- If the first probe succeeds, the source is seeded in the second round. -/
theorem stops_zero_or_one (stream : Nat → UInt8) (s : State) :
    (source stream).Stops s 0 ∨ (source stream).Stops s 1 := by
  by_cases hstops : (source stream).Stops s 0
  · exact .inl hstops
  · obtain ⟨_, hprogress⟩ := not_or.1 hstops
    have hseeded : ((source stream).pass s).seeded = true := seeded_gather hprogress
    refine .inr (.inl fun hstatus => ?_)
    have hunseeded : ((source stream).pass s).seeded = false := status_eq_zero_iff.1 hstatus
    cases hseeded.symm.trans hunseeded

/-- So two rounds are enough. -/
theorem finished_poll (stream : Nat → UInt8) {fuel : Nat} (hfuel : SystemEntropy.rounds ≤ fuel)
    (limit : Nat) (s : State) :
    (Generator.poll ⟨source stream, limit⟩ fuel s).ending ≠ .unfinished := by
  rcases stops_zero_or_one stream s with hstops | hstops
  · exact finished_pollFrom hstops (Nat.lt_of_lt_of_le Nat.zero_lt_two hfuel) 0 []
  · exact finished_pollFrom hstops (Nat.lt_of_lt_of_le Nat.one_lt_two hfuel) 0 []

/-! ## Sessions -/

section

variable {fuel : Nat} (hfuel : SystemEntropy.rounds ≤ fuel)
include hfuel

/-- Every request finishes, so that the session goes on after it. -/
theorem share_cons (holder : Holder) (request : Request) (rest : List (Holder × Request))
    (s : State) :
    let step := Generator.serve ⟨source stream, holder.limit⟩ fuel request s
    Session.share (source stream) fuel ((holder, request) :: rest) s =
      step :: Session.share (source stream) fuel rest step.state := by
  have hfinished := finished_serve (finished_poll stream hfuel holder.limit s) request
  rw [Session.share_eq_play, List.map_cons]
  rcases Session.play_cons ⟨source stream, holder.limit⟩ request (rest.map _) s with
    ⟨hcut, _⟩ | ⟨_, hplay⟩
  · exact absurd hcut hfinished
  · rw [hplay, ← Session.share_eq_play]

theorem forall₂_share {P : Holder × Request → Step State Happening → Prop}
    (h : ∀ holder request s,
      P (holder, request) (Generator.serve ⟨source stream, holder.limit⟩ fuel request s))
    (session : List (Holder × Request)) (s : State) :
    List.Forall₂ P session (Session.share (source stream) fuel session s) := by
  induction session generalizing s with
  | nil => exact .nil
  | cons call rest ih =>
    rw [share_cons hfuel]
    exact .cons (h _ _ s) (ih _)

/-- The account of a session: the source is seeded once a probe has succeeded. -/
theorem seeded_share (stream : Nat → UInt8) (session : List (Holder × Request)) (s : State) :
    let steps := Session.share (source stream) fuel session s
    (Session.last s steps).seeded.toNat =
      s.seeded.toNat + probes (calls (steps.flatMap (·.events))) := by
  induction session generalizing s with
  | nil => rfl
  | cons call rest ih =>
    obtain ⟨holder, request⟩ := call
    dsimp only at ih ⊢
    rw [share_cons hfuel, List.flatMap_cons, calls_append, probes_append, ← Nat.add_assoc]
    rw [← Step.probes, ← (accounts_serve stream holder.limit fuel request s).seeded]
    exact ih _

/-- The account of a session: what is taken is what the kernel delivers. The byte of
    the probe is any byte if there is no probe to come. -/
theorem output_share (stream : Nat → UInt8) (session : List (Holder × Request)) (s : State) :
    let steps := Session.share (source stream) fuel session s
    ∃ first, ∀ byte, s.seeded = true ∨ byte = first →
      (Session.last s steps).kernel.output stream =
        s.kernel.output stream ++ Session.taken byte ((session.map Prod.snd).zip steps) := by
  induction session generalizing s with
  | nil => exact ⟨0, fun _ _ => (List.append_nil _).symm⟩
  | cons call rest ih =>
    obtain ⟨holder, request⟩ := call
    have hserve := accounts_serve stream holder.limit fuel request s
    dsimp only at hserve ih ⊢
    rw [share_cons hfuel]
    generalize Generator.serve ⟨source stream, holder.limit⟩ fuel request s = step at hserve ⊢
    obtain ⟨first, hrest⟩ := ih step.state
    have hcons (byte : UInt8) (hbyte : step.state.seeded = true ∨ byte = first)
        (hprobes : stretch stream s.kernel.delivered step.probes =
          List.replicate step.probes byte) := by
      have houtput := hrest byte hbyte
      rw [hserve.output, hprobes, List.append_assoc] at houtput
      exact houtput
    -- Without a probe in the first step the rest says which byte it is. With one, the
    -- source is seeded from then on, and the rest has no say in it.
    rcases hserve.unprobed_or_probed with ⟨hnone, hsame⟩ | ⟨hone, hs, ht⟩
    · refine ⟨first, fun byte hbyte => hcons byte (hsame ▸ hbyte) ?_⟩
      rw [hnone]
      rfl
    · refine ⟨stream s.kernel.delivered, fun byte hbyte => hcons byte (.inl ht) ?_⟩
      rcases hbyte with hbyte | rfl
      · rw [hs] at hbyte
        cases hbyte
      · rw [hone]
        rfl

end

/-- The accounts of a session are balanced, with the kernel as it is at its end. -/
structure Balanced (stream : Nat → UInt8) (session : List (Holder × Request))
    (steps : List (Step State Happening)) (k : Kernel) : Prop where
  /-- Every request finishes; one that fails leaves none of the kernel's bytes in its
      buffer. -/
  served : List.Forall₂ (fun call step => step.ending ≠ .unfinished ∧
    (step.handedOut call.2 = [] → step.KeepsBack call.1.limit call.2)) session steps
  /-- There is one probe at most that succeeds. -/
  probes : probes (calls (steps.flatMap (·.events))) ≤ 1
  /-- What was taken is all that the kernel has delivered, in the same order, and each
      request has got the stretch after all that was taken before. -/
  output : ∃ byte, k.output stream = Session.taken byte ((session.map Prod.snd).zip steps) ∧
    ∀ before request step after,
      (session.map Prod.snd).zip steps = before ++ (request, step) :: after →
        step.handedOut request = stretch stream ((Session.taken byte before).length + step.probes)
          (step.handedOut request).length

/-- However many holders share the entropy of the operating system, by whatever chains
    of handles and with whatever limits, and in whatever order they make requests: the
    accounts are balanced. -/
theorem share_balanced (stream : Nat → UInt8) (outcomes : List Nat) {fuel : Nat}
    (hfuel : SystemEntropy.rounds ≤ fuel) (session : List (Holder × Request)) :
    let steps := Session.share (source stream) fuel session (.fresh outcomes)
    Balanced stream session steps (Session.last (.fresh outcomes) steps).kernel where
  served := forall₂_share hfuel (fun holder request s =>
    ⟨finished_serve (finished_poll stream hfuel holder.limit s) request,
      keepsBack_serve ⟨source stream, holder.limit⟩ fuel request s⟩) session _
  probes := by
    have hseeded := seeded_share hfuel stream session (.fresh outcomes)
    have hle := Bool.toNat_le (Session.last (.fresh outcomes)
      (Session.share (source stream) fuel session (.fresh outcomes))).seeded
    dsimp only at hseeded
    rw [hseeded] at hle
    exact Nat.le_trans (Nat.le_add_left _ _) hle
  output := by
    obtain ⟨byte, hbyte⟩ := output_share hfuel stream session (.fresh outcomes)
    have houtput : _ = Session.taken byte _ := hbyte byte (.inr rfl)
    refine ⟨byte, houtput, fun before request step after hserved => ?_⟩
    -- What the request hands out stands in the output after the byte of its own probe.
    rw [hserved, Session.taken_append_cons, ← List.append_assoc] at houtput
    have hstretch := eq_stretch_of_append stream houtput
    rwa [List.length_append, List.length_replicate] at hstretch

/-- A probe that fails and a fill that fails after it, then a probe that succeeds; a
    request over the limit, and one more that is served. -/
theorem share_balanced_reseeded :
    let stream : Nat → UInt8 := fun i => .ofNat i
    let first : Holder := ⟨[.shared], 4⟩
    let second : Holder := ⟨[.boxed, .reference], 2⟩
    let session : List (Holder × Request) := [(first, .tryRandom [7, 7]), (second, .random [8, 8]),
      (second, .tryRandom [9, 9, 9]), (first, .randomVec 3)]
    let s : State := .fresh [5, 5, 4]
    let steps := Session.share (source stream) 2 session s
    SystemEntropy.rounds ≤ 2 ∧
      List.zipWith (fun call step => Step.handedOut call.2 step) session steps =
        [[], [1, 2], [], [3, 4, 5]] ∧
      Balanced stream session steps (Session.last s steps).kernel :=
  ⟨by decide, by decide +kernel, share_balanced _ _ (by decide) _⟩

end SystemEntropy

end SeedGate
