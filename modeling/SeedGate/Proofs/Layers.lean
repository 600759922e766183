import Mathlib.Control.Monad.Basic
import Mathlib.Tactic.SplitIfs
import SeedGate.Config.Load
import SeedGate.Generator

/-!
# What decides the limit

Of the layers of a configuration the first that says something decides. `Decided` says
which it is: the variables if one of them sets the limit, and the last of those that do;
or else the file; or nothing. A loading that is not given up and finds no fault with the
file goes by what is decided (`Decided.layered_eq`, `exists_decided`), and only what
decides is checked.

* `checked_of_load`: what has been loaded is valid just if what decides is not too
  large, and then makes a generator with that very limit; but the only integers that are
  refused in loading are those that 64 bits cannot hold (`Checked`).
-/

namespace SeedGate

namespace Config

namespace Load

variable {tree : FileTree} {directory : Place} {env : Environment} {v : Environment.Variable}

/-! ## What the variables say -/

/-- The variables can all be read, as far as they configure something. -/
def Legible (env : Environment) : Prop := ∀ v ∈ env, (settingOf? v).isOk = true

instance : DecidablePred Legible := fun env =>
  inferInstanceAs (Decidable (∀ v ∈ env, (settingOf? v).isOk = true))

/-- What a variable sets the limit to, if it does and can be read. -/
def limitSetting? (v : Environment.Variable) : Option Setting := (settingOf? v).toOption.join

/-- All that variables set the limit to, one after the other. -/
def limitSettings (env : Environment) : List Setting := env.filterMap limitSetting?

/-- The name is that of the limit, but for blanks and case, or goes on after it with a
    point. -/
def setsLimit (name : List Char) : Bool := (configured? name).bind List.head? == some limitName

/-- Only variables with such names set the limit. -/
theorem setsLimit_of_limitSetting? {setting : Setting} (h : limitSetting? v = some setting) :
    setsLimit v.name = true := by
  rw [limitSetting?, settingOf?] at h
  rw [setsLimit]
  cases hparts : configured? v.name with
  | none => simp [hparts, Except.toOption] at h
  | some parts =>
    rw [hparts] at h
    cases hread : Setting.ofText v.value.shown with
    | error cut => simp [hread, Except.map, Except.toOption] at h
    | ok setting =>
      -- The name sets the limit as a whole or by its first part, and else nothing does.
      simp only [hread, Except.map, Except.toOption, Option.join_some] at h
      split at h
      · split at h
        · rename_i hname
          simp [hname]
        · cases h
      · split at h
        · rename_i hname
          simp [hname]
        · cases h
      · cases h

theorem isOk_of_eq_ok {setting? : Option Setting} (h : settingOf? v = .ok setting?) :
    (settingOf? v).isOk = true := by
  rw [h]
  rfl

theorem limitSetting?_of_eq_ok {setting? : Option Setting} (h : settingOf? v = .ok setting?) :
    limitSetting? v = setting? := by
  rw [limitSetting?, h]
  cases setting? <;> rfl

theorem settingOf?_of_isOk (h : (settingOf? v).isOk = true) :
    settingOf? v = .ok (limitSetting? v) := by
  rw [limitSetting?]
  cases hv : settingOf? v with
  | ok setting? => cases setting? <;> rfl
  | error cut => simp [hv, Except.isOk, Except.toBool] at h

theorem mapM_settingOf? (h : Legible env) : env.mapM settingOf? = .ok (env.map limitSetting?) := by
  induction env with
  | nil => rfl
  | cons v rest ih =>
    rw [List.mapM_cons, settingOf?_of_isOk (h v List.mem_cons_self),
      ih fun u hu => h u (List.mem_cons_of_mem v hu)]
    rfl

theorem legible_of_mapM {settings : List (Option Setting)}
    (h : env.mapM settingOf? = .ok settings) : Legible env := by
  induction env generalizing settings with
  | nil => exact fun v hv => absurd hv List.not_mem_nil
  | cons u rest ih =>
    rw [List.mapM_cons] at h
    cases hu : settingOf? u with
    | error cut => simp [hu, bind, Except.bind] at h
    | ok setting? =>
      cases hrest : rest.mapM settingOf? with
      | error cut => simp [hu, hrest, bind, Except.bind] at h
      | ok others =>
        intro v hv
        rcases List.mem_cons.1 hv with rfl | hv
        · rw [hu]
          rfl
        · exact ih hrest v hv

/-- If they can be read, the last that sets the limit has the last word. -/
theorem fromVariables_eq_ok_iff {setting? : Option Setting} :
    fromVariables env = .ok setting? ↔
      Legible env ∧ (limitSettings env).getLast? = setting? := by
  rw [fromVariables]
  constructor
  · intro h
    cases hmap : env.mapM settingOf? with
    | error cut => simp [hmap, Except.map] at h
    | ok settings =>
      have hlegible := legible_of_mapM hmap
      rw [mapM_settingOf? hlegible] at h
      simp only [Except.map, Except.ok.injEq, List.filterMap_map, Function.id_comp] at h
      exact ⟨hlegible, h⟩
  · rintro ⟨hlegible, rfl⟩
    rw [mapM_settingOf? hlegible]
    simp only [Except.map, List.filterMap_map, Function.id_comp]
    rfl

/-- If a single variable sets the limit, it has the last word. -/
theorem getLast?_limitSettings {setting : Setting} (hv : v ∈ env)
    (hsets : limitSetting? v = some setting)
    (hothers : ∀ u ∈ env, u = v ∨ limitSetting? u = none) :
    (limitSettings env).getLast? = some setting := by
  cases hlast : (limitSettings env).getLast? with
  | none =>
    have hmem : setting ∈ limitSettings env := List.mem_filterMap.2 ⟨v, hv, hsets⟩
    rw [List.getLast?_eq_none_iff.1 hlast] at hmem
    cases hmem
  | some last =>
    obtain ⟨u, hu, hlast⟩ := List.mem_filterMap.1 (List.mem_of_getLast? hlast)
    rcases hothers u hu with rfl | hnone
    · exact hlast.symm.trans hsets
    · rw [hnone] at hlast
      cases hlast

/-! ## What decides -/

/-- What loading goes by, with its origin: the variables if they set the limit, else the
    file if there is one that does. -/
inductive Decided (tree : FileTree) (directory : Place) (env : Environment) :
    Option (Setting × Origin) → Prop
  | ofVariables {setting : Setting} {inFile? : Option (Setting × Origin)}
      (hvariables : fromVariables env = .ok (some setting))
      (hfile : fromFile? tree directory env = .ok inFile?) :
      Decided tree directory env (some (setting, .variables))
  | ofFile {inFile? : Option (Setting × Origin)} (hvariables : fromVariables env = .ok none)
      (hfile : fromFile? tree directory env = .ok inFile?) : Decided tree directory env inFile?

/-- The configuration that comes of what is decided: the standard one if nothing is. -/
def settle : Option (Setting × Origin) → Except Failure Config
  | some (setting, origin) => ofSetting setting origin
  | none => .ok standard

/-- What is decided is what comes out. -/
theorem Decided.layered_eq {decision? : Option (Setting × Origin)}
    (h : Decided tree directory env decision?) :
    layered tree directory env = .ok (settle decision?) := by
  cases h with
  | ofVariables hvariables hfile =>
    rw [layered, hvariables, hfile]
    rfl
  | ofFile hvariables hfile =>
    rw [layered, hvariables, hfile]
    cases decision? <;> rfl

/-- Nothing comes out that was not decided. -/
theorem exists_decided {config : Config} (h : layered tree directory env = .ok (.ok config)) :
    ∃ decision?, Decided tree directory env decision? ∧ settle decision? = .ok config := by
  rw [layered] at h
  cases hvariables : fromVariables env with
  | error cut =>
    rw [hvariables] at h
    cases h
  | ok inVariables? =>
    cases hfile : fromFile? tree directory env with
    | error failure =>
      rw [hvariables, hfile] at h
      cases h
    | ok inFile? =>
      have hdecided : ∃ decision?, Decided tree directory env decision? := by
        cases inVariables? with
        | none => exact ⟨_, .ofFile hvariables hfile⟩
        | some setting => exact ⟨_, .ofVariables hvariables hfile⟩
      obtain ⟨decision?, hdecided⟩ := hdecided
      refine ⟨decision?, hdecided, ?_⟩
      have hlayered := hdecided.layered_eq
      rw [layered, h] at hlayered
      exact (Except.ok.inj hlayered).symm

/-- An integer that 64 bits can hold is the limit, and any other is refused. -/
theorem settle_integer (n : Int) (origin : Origin) :
    settle (some (.integer n, origin)) =
      if 0 ≤ n ∧ n < UInt64.size then .ok ⟨n.toNat⟩
      else .error (.misfit (.outOfRange (.integer n)) origin) := by
  rw [settle, ofSetting, Setting.limit]
  split_ifs <;> rfl

/-- A setting is loaded as a limit just if it is that integer. -/
theorem settle_eq_ok_iff {setting : Setting} {origin : Origin} {n : Nat} (hn : n < UInt64.size) :
    settle (some (setting, origin)) = .ok ⟨n⟩ ↔ setting = .integer n := by
  constructor
  · intro h
    cases setting with
    | integer m =>
      rw [settle_integer] at h
      split_ifs at h with hrange
      cases h
      rw [Int.toNat_of_nonneg hrange.1]
    | _ => cases h
  · rintro rfl
    rw [settle_integer, if_pos ⟨Int.natCast_nonneg n, Int.ofNat_lt.2 hn⟩, Int.toNat_natCast]

/-- Only an integer becomes the limit. -/
theorem of_settle_eq_ok {decision? : Option (Setting × Origin)} {config : Config}
    (h : settle decision? = .ok config) :
    (decision? = none ∧ config = standard) ∨
      ∃ origin, decision? = some (.integer config.maxRequestLen, origin) := by
  cases decision? with
  | none =>
    cases h
    exact .inl ⟨rfl, rfl⟩
  | some decision =>
    obtain ⟨setting, origin⟩ := decision
    cases setting with
    | integer n =>
      rw [settle_integer] at h
      split_ifs at h with hrange
      cases h
      refine .inr ⟨origin, ?_⟩
      rw [Int.toNat_of_nonneg hrange.1]
    | _ => cases h

/-! ## Loading -/

/-- Loading returns what the layers say, unless an assignment cannot be made. -/
theorem load_eq_ok_iff {result : Except Failure Config} :
    (load tree directory env).result = .ok result ↔
      (prepared tree directory env).unsettable? = none ∧
        layered tree directory (prepared tree directory env).environment = .ok result := by
  rw [load]
  cases (prepared tree directory env).unsettable? with
  | none => simp
  | some unsettable => simp

end Load

open Load

/-- How far the limit is checked in loading, when so much is loaded. -/
structure Checked (tree : FileTree) (directory : Place) (env : Environment)
    (result : Except Failure Config) : Prop where
  /-- What has been loaded is valid, and makes a generator with that very limit, just if
      no integer above the largest signed 32-bit number decides. -/
  valid_iff : ∀ config, result = .ok config →
    ((config.validate = .ok () ∧ ∀ (σ ι : Type) (source : Source σ ι),
        Generator.ofConfig source config = .ok ⟨source, config.maxRequestLen⟩) ↔
      ∀ n origin, Decided tree directory env (some (.integer n, origin)) → n ≤ platformMax)
  /-- Of the integers that decide, only those are refused that 64 bits cannot hold. -/
  refused_iff : ∀ n origin, Decided tree directory env (some (.integer n, origin)) →
    ((∃ failure, result = .error failure) ↔ n < 0 ∨ (UInt64.size : Int) ≤ n)

/-- Whatever loading returns has been checked just so far. -/
theorem checked_of_load {tree : FileTree} {directory : Place} {env : Environment}
    {result : Except Failure Config} (h : (load tree directory env).result = .ok result) :
    Checked tree directory (prepared tree directory env).environment result := by
  obtain ⟨-, hlayered⟩ := load_eq_ok_iff.1 h
  -- What decides is what has been loaded.
  have hsettle {n : Int} {origin : Origin} (hdecided : Decided tree directory
      (prepared tree directory env).environment (some (.integer n, origin))) :
      result = settle (some (.integer n, origin)) :=
    Except.ok.inj (hlayered.symm.trans hdecided.layered_eq)
  refine ⟨?_, ?_⟩
  · rintro config rfl
    constructor
    · rintro ⟨hvalid, -⟩ n origin hdecided
      have hloaded := hsettle hdecided
      rw [settle_integer] at hloaded
      split_ifs at hloaded
      obtain rfl := Except.ok.inj hloaded
      have hle : n.toNat ≤ platformMax := validate_eq_ok_iff.1 hvalid
      omega
    · intro hle
      obtain ⟨decision?, hdecided, hconfig⟩ := exists_decided hlayered
      have hvalid : config.validate = .ok () := by
        rcases of_settle_eq_ok hconfig with ⟨_, rfl⟩ | ⟨origin, rfl⟩
        · exact validate_eq_ok_iff.2 (Nat.le_refl platformMax)
        · exact validate_eq_ok_iff.2 (Int.ofNat_le.1 (hle _ origin hdecided))
      exact ⟨hvalid, fun _ _ => Generator.ofConfig_of_valid hvalid⟩
  · intro n origin hdecided
    rw [hsettle hdecided, settle_integer]
    split_ifs
    · exact iff_of_false nofun (by omega)
    · exact iff_of_true ⟨_, rfl⟩ (by omega)

/-- A limit that fits 64 bits and is too large by one. -/
theorem checked_of_load_oversized :
    let env : Environment := [⟨"RANDOM_MAX_REQUEST_LEN".toList, .text "2147483648".toList⟩]
    (load ⟨[]⟩ [] env).result = .ok (.ok ⟨2147483648⟩) ∧
      Checked ⟨[]⟩ [] (prepared ⟨[]⟩ [] env).environment (.ok ⟨2147483648⟩) :=
  have h : (load ⟨[]⟩ [] [⟨"RANDOM_MAX_REQUEST_LEN".toList, .text "2147483648".toList⟩]).result =
      .ok (.ok ⟨2147483648⟩) := by decide +kernel
  ⟨h, checked_of_load h⟩

/-- Not everything that is loaded is valid: this is not, and makes no generator. -/
theorem load_invalid :
    let env : Environment := [⟨"RANDOM_MAX_REQUEST_LEN".toList, .text "2147483648".toList⟩]
    let config : Config := ⟨2147483648⟩
    (load ⟨[]⟩ [] env).result = .ok (.ok config) ∧ config.validate ≠ .ok () ∧
      ∀ (σ ι : Type) (source : Source σ ι) (g : Generator σ ι),
        Generator.ofConfig source config ≠ .ok g :=
  ⟨by decide +kernel, by decide, fun _ _ _ _ => nofun⟩

end Config

end SeedGate
