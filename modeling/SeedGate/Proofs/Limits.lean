import SeedGate.Proofs.Discipline

/-!
# Limits

A generator is built, given another limit, or taken apart and built anew around its
source, and between all that requests are made of it, some of which fail or give up for
good. `Reached source last g s` says that this can lead to the generator `g` with its
source in the state `s`, and that `last` is how it was built last; giving it a limit is
one way of building it.

* `limit_of_reached`: the generator has the limit that the last way of building it says
  (`Build.limit`), whatever came before and whatever has been asked of it since; it has
  its source fill no buffer beyond that limit, and makes no vector beyond it.

What vectors are made shows if whoever makes them keeps a ledger of their sizes
(`Bytes.allocate`); `Generator.randomVec` is the same procedure (`randomVecVia`) without one.
-/

namespace SeedGate

open Event Bytes

variable {σ ι : Type}

/-! ## Building -/

/-- The limit of a generator that is built like this. -/
def Build.limit : Build → Nat
  | .plain => platformMax
  | .limited n => min n platformMax
  | .configured config => config.maxRequestLen

/-- The way in which a command builds a generator, if it does. -/
def Command.build? : Command → Option Build
  | .setLimit n => some (.limited n)
  | .rebuild build => some build
  | _ => none

/-- What a configuration makes, if it is valid, has the very limit it says: cutting that
    down to the largest limit changes nothing. -/
theorem ofConfig_eq (source : Source σ ι) (config : Config) :
    Generator.ofConfig source config =
      config.validate.map fun () => ⟨source, config.maxRequestLen⟩ := by
  cases h : config.validate with
  | error fault =>
    rw [Generator.ofConfig, h]
    rfl
  | ok => exact Generator.ofConfig_of_valid h source

/-- A configuration makes a generator exactly if its limit is none too large. -/
theorem ofConfig_eq_ok_iff {source : Source σ ι} {config : Config} {g : Generator σ ι} :
    Generator.ofConfig source config = .ok g ↔
      config.maxRequestLen ≤ platformMax ∧ g = ⟨source, config.maxRequestLen⟩ := by
  rw [ofConfig_eq, ← Config.validate_eq_ok_iff]
  cases config.validate with
  | error fault => simp [Except.map]
  | ok => simp [Except.map, eq_comm]

theorem eq_of_build {build : Build} {source : Source σ ι} {g : Generator σ ι}
    (h : build.generator source = .ok g) :
    g = ⟨source, build.limit⟩ ∧ build.limit ≤ platformMax := by
  cases build with
  | plain =>
    cases h
    exact ⟨rfl, Nat.le_refl _⟩
  | limited n =>
    cases h
    exact ⟨rfl, Nat.min_le_right n _⟩
  | configured config =>
    obtain ⟨hle, rfl⟩ := ofConfig_eq_ok_iff.1 h
    exact ⟨rfl, hle⟩

/-! ## Commands -/

/-- The generator to go on with has the source that it had, and another limit only if it
    was built anew. -/
theorem eq_of_perform {serve : Generator σ ι → Request → σ → Step σ ι} {g g' : Generator σ ι}
    {command : Command} {s : σ} (h : (Session.perform serve g command s).2 = some g') :
    g' = ⟨g.source, (command.build?.map Build.limit).getD g.limit⟩ ∧
      ∀ build ∈ command.build?, build.limit ≤ platformMax := by
  cases command with
  | setLimit n =>
    cases h
    refine ⟨rfl, fun build hbuild => ?_⟩
    cases hbuild
    exact Nat.min_le_right n _
  | rebuild build =>
    rw [Session.perform] at h
    -- A generator that cannot be built is none to go on with.
    split at h
    · rename_i hmade
      cases h
      obtain ⟨rfl, hle⟩ := eq_of_build hmade
      refine ⟨rfl, fun build hbuild => ?_⟩
      cases hbuild
      exact hle
    · cases h
  | _ =>
    cases h
    exact ⟨rfl, nofun⟩

/-- A generator that is not built anew goes on as it is. -/
theorem perform_of_build?_eq_none {command : Command} (h : command.build? = none)
    (serve : Generator σ ι → Request → σ → Step σ ι) (g : Generator σ ι) (s : σ) :
    (Session.perform serve g command s).2 = some g := by
  cases command with
  | setLimit | rebuild => cases h
  | _ => rfl

/-- Whatever a generator has its source fill is within the limit. -/
theorem length_le_of_fill_mem {g : Generator σ ι} {fuel : Nat} {command : Command} {s : σ}
    (hown : ∀ buffer, command ≠ .sourceFill buffer) {entry : Bytes} {answer : Except Fault Unit}
    (h : .fill entry answer ∈
      calls (Session.perform (·.serve fuel) g command s).1.events) : entry.length ≤ g.limit := by
  cases command with
  | request request =>
    exact ((disciplined_serve g fuel request s).fill_entry entry answer h).2.2.1
  | sourceStatus | sourceGather =>
    rw [Session.perform, Session.call, calls_events] at h
    cases List.mem_singleton.1 h
  | sourceFill buffer => exact absurd rfl (hown buffer)
  | limit | describe | setLimit | intoWords => cases h
  | rebuild build =>
    rw [Session.perform] at h
    split at h <;> cases h

/-! ## Making vectors -/

/-- A ledger changes nothing, and all that is put down in it is within the limit. -/
theorem randomVecVia_allocate (g : Generator σ ι) (fuel n : Nat) (s : σ) :
    let made := (g.randomVecVia Bytes.allocate fuel n s).run []
    made.1 = g.randomVec fuel n s ∧ ∀ size ∈ made.2, size ≤ g.limit := by
  dsimp only
  rw [Generator.randomVec, Generator.randomVecVia, Generator.randomVecVia]
  by_cases hlt : g.limit < n
  · rw [if_pos hlt, if_pos hlt]
    exact ⟨rfl, fun size hsize => absurd hsize List.not_mem_nil⟩
  · rw [if_neg hlt, if_neg hlt]
    refine ⟨rfl, fun size hsize => ?_⟩
    obtain rfl : size = n := List.mem_singleton.1 hsize
    exact Nat.not_lt.1 hlt

/-! ## Whatever can be reached -/

/-- Building a generator around the source and performing commands, with any number of
    rounds of polling allowed in each, can lead here; and this is how the generator was
    built last. -/
inductive Reached (source : Source σ ι) : (last : Build) → Generator σ ι → σ → Prop
  | built {build : Build} {g : Generator σ ι} (h : build.generator source = .ok g) (s : σ) :
      Reached source build g s
  | performed {last : Build} {g g' : Generator σ ι} {s : σ} (h : Reached source last g s)
      (fuel : Nat) (command : Command)
      (hnext : (Session.perform (·.serve fuel) g command s).2 = some g') :
      Reached source (command.build?.getD last) g'
        (Session.perform (·.serve fuel) g command s).1.state

/-- The generator reached is the one that would have been built last. -/
theorem Reached.eq {source : Source σ ι} {last : Build} {g : Generator σ ι} {s : σ}
    (h : Reached source last g s) : g = ⟨source, last.limit⟩ ∧ last.limit ≤ platformMax := by
  induction h with
  | built hbuild => exact eq_of_build hbuild
  | performed _ fuel command hnext ih =>
    obtain ⟨rfl, hle⟩ := ih
    obtain ⟨rfl, hbuilt⟩ := eq_of_perform hnext
    -- Either the command has built the generator anew, or it is the one that was there.
    cases hbuild : command.build? with
    | some build => exact ⟨rfl, hbuilt build hbuild⟩
    | none => exact ⟨rfl, hle⟩

/-- Whatever has been done to a generator, it has the limit that it was built with last,
    which is none above the largest; a valid configuration is built with the very limit
    it says. Only building the generator anew changes the limit, and neither a vector nor
    a buffer for the source to fill is made beyond it. -/
theorem limit_of_reached {source : Source σ ι} {last : Build} {g : Generator σ ι} {s : σ}
    (h : Reached source last g s) :
    (g.limit = last.limit ∧ g.limit ≤ platformMax) ∧
    (∀ config : Config,
      ((∃ g', Generator.ofConfig source config = .ok g') ↔ config.maxRequestLen ≤ platformMax) ∧
      ∀ g', Generator.ofConfig source config = .ok g' →
        g' = (Generator.ofSource source).withLimit config.maxRequestLen ∧
          g'.limit = config.maxRequestLen) ∧
    (∀ (fuel : Nat) (command : Command), command.build? = none →
      (Session.perform (·.serve fuel) g command s).2 = some g) ∧
    (∀ (fuel : Nat) (command : Command), (∀ buffer, command ≠ .sourceFill buffer) →
      ∀ entry answer,
        .fill entry answer ∈ calls (Session.perform (·.serve fuel) g command s).1.events →
          entry.length ≤ g.limit) ∧
    ∀ fuel n : Nat,
      let made := (g.randomVecVia Bytes.allocate fuel n s).run []
      made.1 = g.randomVec fuel n s ∧ ∀ size ∈ made.2, size ≤ g.limit := by
  obtain ⟨heq, hle⟩ := h.eq
  have hlimit : g.limit = last.limit := heq ▸ rfl
  refine ⟨⟨hlimit, hlimit ▸ hle⟩, fun config => ⟨?_, fun g' hg' => ?_⟩,
    fun fuel _ hnone => perform_of_build?_eq_none hnone (·.serve fuel) g s,
    fun _ _ hown _ _ => length_le_of_fill_mem hown, fun fuel n => randomVecVia_allocate g fuel n s⟩
  · constructor
    · rintro ⟨g', hg'⟩
      exact (ofConfig_eq_ok_iff.1 hg').1
    · intro hconfig
      exact ⟨_, ofConfig_eq_ok_iff.2 ⟨hconfig, rfl⟩⟩
  · obtain ⟨hconfig, rfl⟩ := ofConfig_eq_ok_iff.1 hg'
    rw [Generator.withLimit, Nat.min_eq_left hconfig]
    exact ⟨rfl, rfl⟩

/-- Built from a configuration, given a limit that is far too large, polled in vain until
    it gave up, and built anew for five bytes. -/
theorem limit_of_reached_rebuilt :
    let s : Replay.State := .start [-1] [] []
    let g : Generator Replay.State Empty := ⟨Replay.source, 5⟩
    ∃ t : Replay.State, Reached Replay.source (.limited 5) g t ∧ g.limit = (Build.limited 5).limit ∧
      (Session.perform (·.serve 1) ⟨Replay.source, platformMax⟩ (.request .nextU32) s).1.ending =
        .panicked (.malformedStatus (-1)) ∧
      ((g.randomVecVia Bytes.allocate 1 (2 ^ 64 - 1) t).run []).2 = [] ∧
      ((g.randomVecVia Bytes.allocate 1 5 t).run []).2 = [5] := by
  intro s g
  have hbuilt : Reached g.source (.configured ⟨8⟩) ⟨g.source, 8⟩ s := .built rfl s
  have hraised := hbuilt.performed 1 (.setLimit (2 ^ 64 - 1)) rfl
  have hgiven := hraised.performed 1 (.request .nextU32) rfl
  have hrebuilt := hgiven.performed 1 (.rebuild (.limited 5)) rfl
  exact ⟨_, hrebuilt, (limit_of_reached hrebuilt).1.1, rfl, rfl, rfl⟩

end SeedGate
