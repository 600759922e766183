import SeedGate.Proofs.Sessions
import SeedGate.Source.Replay

/-!
# Old contents of buffers

What a buffer held before a request matters to nobody. Two requests are `Alike` if
they differ at most in that; their steps are then `Indistinct`: they have the same
ending, the same events — each fill with the buffer that the source was given — and
leave the source in the same state. The buffers they leave are the same as well,
unless the requests were over the limit: then each is as it was.

* `play_alike`: so it is, step by step, in two sessions of requests that are alike,
  whatever the source reads of a buffer and however little it writes to it.
-/

namespace SeedGate

open Bytes

variable {σ ι : Type}

/-- The requests are the same but for the contents of their buffers. -/
inductive Request.Alike : Request → Request → Prop
  | refl (request : Request) : Alike request request
  | random {a b : Bytes} (h : a.length = b.length) : Alike (.random a) (.random b)
  | tryRandom {a b : Bytes} (h : a.length = b.length) : Alike (.tryRandom a) (.tryRandom b)
  | fillBytes {a b : Bytes} (h : a.length = b.length) : Alike (.fillBytes a) (.fillBytes b)
  | tryFillBytes {a b : Bytes} (h : a.length = b.length) :
      Alike (.tryFillBytes a) (.tryFillBytes b)

/-- The steps of two requests differ at most in the buffers they leave, and in these
    only if the requests were over the limit and left them alone. -/
structure Indistinct (limit : Nat) (request₁ request₂ : Request) (step₁ step₂ : Step σ ι) :
    Prop where
  toRun : step₁.toRun = step₂.toRun
  within : (∀ n ∈ request₁.length?, n ≤ limit) → step₁.buffer? = step₂.buffer?
  beyond : (∃ n ∈ request₁.length?, limit < n) →
    step₁.buffer? = request₁.ownBuffer? ∧ step₂.buffer? = request₂.ownBuffer?

/-! ## One request -/

section

variable {g : Generator σ ι} {fuel : Nat} {a b : Bytes} {s : σ}

theorem tryRandom_of_lt (h : g.limit < b.length) :
    g.tryRandom fuel b s = ⟨⟨.returned (.error (.tooLarge b.length g.limit)), s,
      [.note (.oversized b.length g.limit)]⟩, b⟩ := by
  rw [Generator.tryRandom, if_pos h]

/-- Within the limit a request does not depend on what its buffer held: the first
    thing it does is to wipe it. -/
theorem tryRandom_congr (hlength : a.length = b.length) (hle : a.length ≤ g.limit) :
    g.tryRandom fuel a s = g.tryRandom fuel b s := by
  have hempty : a.isEmpty = b.isEmpty := by
    rw [Bool.eq_iff_iff, List.isEmpty_iff_length_eq_zero, List.isEmpty_iff_length_eq_zero, hlength]
  rw [Generator.tryRandom, Generator.tryRandom, if_neg (Nat.not_lt.2 hle),
    if_neg (Nat.not_lt.2 (hlength ▸ hle)), hempty, wipe_congr hlength]

/-- All but the buffer never depends on what the buffer held. -/
theorem toRun_tryRandom (hlength : a.length = b.length) :
    (g.tryRandom fuel a s).toRun = (g.tryRandom fuel b s).toRun := by
  rcases Nat.lt_or_ge g.limit a.length with hlt | hle
  · rw [tryRandom_of_lt hlt, tryRandom_of_lt (hlength ▸ hlt), hlength]
  · rw [tryRandom_congr hlength hle]

end

/-- Apart from the buffer that is brought along, alike requests have the same step. -/
theorem toRun_serve {request₁ request₂ : Request} (h : request₁.Alike request₂)
    (g : Generator σ ι) (fuel : Nat) (s : σ) :
    (g.serve fuel request₁ s).toRun = (g.serve fuel request₂ s).toRun := by
  cases h with
  | refl => rfl
  | random h =>
    simp only [Generator.serve, Generator.random, BufferRun.step, toRun_tryRandom h, h]
    split <;> rfl
  | tryRandom h => simp only [Generator.serve, BufferRun.step, toRun_tryRandom h]
  | fillBytes h =>
    simp only [Generator.serve, Words.fillBytes, Words.tryFillBytes, Words.ofGenerator,
      BufferRun.step, toRun_tryRandom h]
  | tryFillBytes h =>
    simp only [Generator.serve, Words.tryFillBytes, Words.ofGenerator, BufferRun.step,
      toRun_tryRandom h]

theorem Request.Alike.length?_eq {request₁ request₂ : Request} (h : request₁.Alike request₂) :
    request₁.length? = request₂.length? := by
  cases h with
  | refl => rfl
  | random h | tryRandom h | fillBytes h | tryFillBytes h => exact congrArg some h

theorem Request.Alike.eq_or_ownBuffer? {request₁ request₂ : Request}
    (h : request₁.Alike request₂) :
    request₁ = request₂ ∨ ∃ a b, request₁.ownBuffer? = some a ∧ request₂.ownBuffer? = some b ∧
      a.length = b.length := by
  cases h with
  | refl => exact .inl rfl
  | random h | tryRandom h | fillBytes h | tryFillBytes h => exact .inr ⟨_, _, rfl, rfl, h⟩

theorem buffer?_serve {request : Request} {buffer : Bytes}
    (h : request.ownBuffer? = some buffer) (g : Generator σ ι) (fuel : Nat) (s : σ) :
    (g.serve fuel request s).buffer? = some (g.tryRandom fuel buffer s).buffer := by
  rw [(serves_serve (Request.target?_of_ownBuffer? h) g fuel s).buffer, h, Option.map_some]

/-- A request over the limit leaves its buffer alone. -/
theorem buffer?_serve_of_lt {request : Request} {g : Generator σ ι}
    (h : ∃ n ∈ request.length?, g.limit < n) (fuel : Nat) (s : σ) :
    (g.serve fuel request s).buffer? = request.ownBuffer? := by
  obtain ⟨n, hn, hlt⟩ := h
  obtain ⟨buffer, htarget, rfl⟩ := Option.map_eq_some_iff.1 hn
  rw [(serves_serve htarget g fuel s).buffer, tryRandom_of_lt hlt]
  cases hown : request.ownBuffer? with
  | none => rfl
  | some own =>
    rw [Request.target?_of_ownBuffer? hown] at htarget
    exact htarget.symm

/-- One step: alike requests cannot be told apart in the same state. -/
theorem indistinct_serve {request₁ request₂ : Request} (h : request₁.Alike request₂)
    (g : Generator σ ι) (fuel : Nat) (s : σ) :
    Indistinct g.limit request₁ request₂ (g.serve fuel request₁ s) (g.serve fuel request₂ s) where
  toRun := toRun_serve h g fuel s
  within hle := by
    rcases h.eq_or_ownBuffer? with rfl | ⟨a, b, ha, hb, hlength⟩
    · rfl
    · have hlimit : a.length ≤ g.limit := hle _ <| by
        rw [Request.length?, Request.target?_of_ownBuffer? ha]
        rfl
      rw [buffer?_serve ha, buffer?_serve hb, tryRandom_congr hlength hlimit]
  beyond hlt := ⟨buffer?_serve_of_lt hlt fuel s, buffer?_serve_of_lt (h.length?_eq ▸ hlt) fuel s⟩

/-! ## Sessions -/

/-- In two sessions of requests that are alike, all is the same step by step, but for
    the buffers of requests over the limit: these are left alone. -/
theorem play_alike (g : Generator σ ι) (fuel : Nat) {requests₁ requests₂ : List Request}
    (h : List.Forall₂ Request.Alike requests₁ requests₂) (s : σ) :
    let steps₁ := Session.play fuel (requests₁.map (g, ·)) s
    let steps₂ := Session.play fuel (requests₂.map (g, ·)) s
    steps₁.map (·.toRun) = steps₂.map (·.toRun) ∧
      List.Forall₂ (fun a b => Indistinct g.limit a.1 b.1 a.2 b.2)
        (requests₁.zip steps₁) (requests₂.zip steps₂) := by
  dsimp only
  induction h generalizing s with
  | nil => exact ⟨rfl, .nil⟩
  | @cons request₁ request₂ rest₁ rest₂ halike _ ih =>
    have hstep := indistinct_serve halike g fuel s
    have hending := congrArg Run.ending hstep.toRun
    have hstate := congrArg Run.state hstep.toRun
    rw [List.map_cons, List.map_cons]
    -- The two requests end alike, so that both sessions stop here or both go on, from
    -- one and the same state.
    rcases Session.play_cons g request₁ (rest₁.map (g, ·)) s with ⟨hcut₁, h₁⟩ | ⟨hgo₁, h₁⟩ <;>
      rcases Session.play_cons g request₂ (rest₂.map (g, ·)) s with ⟨hcut₂, h₂⟩ | ⟨hgo₂, h₂⟩
    · rw [h₁, h₂]
      refine ⟨congrArg (· :: []) hstep.toRun, .cons hstep ?_⟩
      rw [List.zipWith_nil_right, List.zipWith_nil_right]
      exact .nil
    · exact absurd (hending.symm.trans hcut₁) hgo₂
    · exact absurd (hending.trans hcut₂) hgo₁
    · obtain ⟨hruns, hsteps⟩ := ih (g.serve fuel request₁ s).state
      rw [h₁, h₂, ← hstate]
      exact ⟨congrArg₂ List.cons hstep.toRun hruns, .cons hstep hsteps⟩

/-- A source that writes one byte of a buffer and calls it filled, and a request over
    the limit after that. -/
theorem play_alike_unwritten :
    let g : Generator Replay.State Empty := ⟨Replay.source, 4⟩
    let s : Replay.State := .start [1] [] [⟨some 1, none⟩]
    let requests₁ : List Request := [.random [1, 2, 3], .tryRandom [4, 5, 6, 7, 8]]
    let requests₂ : List Request := [.random [9, 9, 9], .tryRandom [0, 0, 0, 0, 0]]
    let steps₁ := Session.play 1 (requests₁.map (g, ·)) s
    let steps₂ := Session.play 1 (requests₂.map (g, ·)) s
    List.Forall₂ Request.Alike requests₁ requests₂ ∧
      steps₁.map (·.toRun) = steps₂.map (·.toRun) ∧
      List.Forall₂ (fun a b => Indistinct g.limit a.1 b.1 a.2 b.2)
        (requests₁.zip steps₁) (requests₂.zip steps₂) :=
  have h : List.Forall₂ Request.Alike [.random [1, 2, 3], .tryRandom [4, 5, 6, 7, 8]]
      [.random [9, 9, 9], .tryRandom [0, 0, 0, 0, 0]] :=
    .cons (.random rfl) (.cons (.tryRandom rfl) .nil)
  ⟨h, play_alike _ 1 h _⟩

end SeedGate
