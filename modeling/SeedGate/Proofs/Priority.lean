import SeedGate.Proofs.Decimals
import SeedGate.Proofs.EnvFiles
import SeedGate.Proofs.Layers

/-!
# Which layer comes first

The environment file is no layer of its own. What it assigns becomes variables, which
come after all others (`supplied_prepared`) and are read like them. Of the variables
that set the limit the last counts, and before the TOML file
(`load_eq_iff_of_getLast?`). But whether a variable is there already goes by its very
name, while several names set the limit. So, about every tree of files and every
environment:

* `load_eq_assigned`: what the environment file sets the limit to counts before the TOML
  file;
* `load_eq_variable_iff`: it even counts before a variable that sets the limit, if it is
  by another of the names.
-/

namespace SeedGate

open EnvFile Environment

namespace Config

namespace Load

variable {tree : FileTree} {directory : Place} {env : Environment} {v : Environment.Variable}

/-- The variable that sets the limit. -/
def limitVariable : List Char := "RANDOM_MAX_REQUEST_LEN".toList

theorem configured?_limitVariable : configured? limitVariable = some [limitName] := by decide

theorem settingOf?_limitVariable (value : Environment.Value) :
    settingOf? ⟨limitVariable, value⟩ = (Setting.ofText value.shown).map some := by
  simp [settingOf?, configured?_limitVariable]

/-- The variable that sets the limit is not silent. -/
theorem settingOf?_ne_ok_none (hname : v.name = limitVariable) : settingOf? v ≠ .ok none := by
  obtain ⟨_, value⟩ := v
  subst hname
  rw [settingOf?_limitVariable]
  cases Setting.ofText value.shown <;> nofun

/-- The assignments of the nearest environment file. -/
def assigned (tree : FileTree) (directory : Place) (env : Environment) : Assignments :=
  match tree.nearest? directory envFileName with
  | some found => assignments env [] (lines found.contents)
  | none => []

theorem prepared_eq : prepared tree directory env = supply env (assigned tree directory env) := by
  rw [prepared, assigned]
  cases tree.nearest? directory envFileName with
  | none => rfl
  | some found => exact follow_eq env [] (lines found.contents)

theorem supplied_prepared (tree : FileTree) (directory : Place) (env : Environment) :
    Supplied (assigned tree directory env) env (prepared tree directory env).environment := by
  rw [prepared_eq]
  exact supplied_supply env _

/-- Where a single variable sets the limit, and new ones come after it, these have the
    last word if they set it too. -/
theorem getLast?_limitSettings_of_supplied {given : Assignments} {after : Environment}
    {name text : List Char} {setting : Setting} (h : Supplied given env after)
    (hset : ⟨name, .text text⟩ ∈ env) (hsets : limitSetting? ⟨name, .text text⟩ = some setting)
    (hothers : ∀ v ∈ env, setsLimit v.name = true → v = ⟨name, .text text⟩) :
    (limitSettings after).getLast? =
      (limitSettings (after.drop env.length)).getLast?.or (some setting) := by
  -- Of the variables that were there before, the one that could be read says what it said.
  have hkept : (limitSettings (after.take env.length)).getLast? = some setting := by
    obtain ⟨v, hv, hkept⟩ := h.exists_mem_take_of_mem hset
    obtain rfl := hkept.eq_of_text
    refine getLast?_limitSettings hv hsets fun u hu => ?_
    cases hu' : limitSetting? u with
    | none => exact .inr rfl
    | some other =>
      obtain ⟨w, hw, hkept⟩ := h.exists_mem_of_mem_take hu
      have hname := setsLimit_of_limitSetting? hu'
      rw [hkept.name_eq] at hname
      obtain rfl := hothers w hw hname
      exact .inl hkept.eq_of_text
  rw [← hkept, ← List.getLast?_append, limitSettings, limitSettings, limitSettings,
    ← List.filterMap_append, List.take_append_drop]

/-- Where variables set the limit, the last of them alone says what is loaded. -/
theorem load_eq_iff_of_getLast? {setting : Setting} {n : Nat}
    {inFile? : Option (Setting × Origin)} (hn : n < UInt64.size)
    (hfile : fromFile? tree directory (prepared tree directory env).environment = .ok inFile?)
    (hlast : (limitSettings (prepared tree directory env).environment).getLast? = some setting) :
    (load tree directory env).result = .ok (.ok ⟨n⟩) ↔
      (prepared tree directory env).unsettable? = none ∧
        Legible (prepared tree directory env).environment ∧ setting = .integer n := by
  rw [load_eq_ok_iff]
  refine and_congr_right fun _ => ?_
  constructor
  · intro hlayered
    obtain ⟨decision?, hdecided, hsettle⟩ := exists_decided hlayered
    cases hdecided with
    | ofVariables hvariables _ =>
      obtain ⟨hlegible, hsays⟩ := fromVariables_eq_ok_iff.1 hvariables
      obtain rfl := Option.some.inj (hlast.symm.trans hsays)
      exact ⟨hlegible, (settle_eq_ok_iff hn).1 hsettle⟩
    | ofFile hvariables _ =>
      -- The file is asked only if no variable sets the limit.
      obtain ⟨_, hsays⟩ := fromVariables_eq_ok_iff.1 hvariables
      cases hlast.symm.trans hsays
  · rintro ⟨hlegible, hsetting⟩
    have hvariables := fromVariables_eq_ok_iff.2 ⟨hlegible, hlast⟩
    rw [(Decided.ofVariables hvariables hfile).layered_eq, (settle_eq_ok_iff hn).2 hsetting]

end Load

open Load

/-- Where no variable sets the limit, the environment file does, whatever the TOML file
    says; so that over a TOML file that sets it to something else, it is not as if the
    TOML file came first. -/
theorem load_eq_assigned {tree : FileTree} {directory : Place} {env : Environment}
    {value : List Char} {n : Nat} {inFile? : Option (Setting × Origin)} (hn : n < UInt64.size)
    (henv : ∀ v ∈ env, settingOf? v = .ok none)
    (hfirst : (assigned tree directory env).lookup limitVariable = some value)
    (hvalue : Setting.ofText value = .ok (.integer n))
    (hothers : ∀ a ∈ assigned tree directory env,
      a.1 = limitVariable ∨ settingOf? ⟨a.1, .text a.2⟩ = .ok none)
    (hsettable : (prepared tree directory env).unsettable? = none)
    (hfile : fromFile? tree directory (prepared tree directory env).environment = .ok inFile?) :
    (load tree directory env).result = .ok (.ok ⟨n⟩) ∧
      ((load tree directory env).result =
          .ok (settle (inFile?.or (some (.integer n, .variables)))) ↔
        ∀ setting origin, inFile? = some (setting, origin) → setting = .integer n) := by
  have hsays : settingOf? ⟨limitVariable, .text value⟩ = .ok (some (.integer n)) := by
    rw [settingOf?_limitVariable, Environment.Value.shown, hvalue]
    rfl
  -- The variable is not there before, so that it is the first assignment of it that counts.
  have honly : Only (prepared tree directory env).environment limitVariable value := by
    rw [prepared_eq] at hsettable ⊢
    refine only_supply (fun v hv hname => ?_) hfirst hsettable
    exact settingOf?_ne_ok_none hname (henv v hv)
  -- All other variables say nothing, whether they were there or have been assigned.
  have hrest : ∀ v ∈ (prepared tree directory env).environment,
      v = ⟨limitVariable, .text value⟩ ∨ settingOf? v = .ok none := by
    intro v hv
    rcases (supplied_prepared tree directory env).mem_or_assigned hv with hold | hassigned
    · exact .inr (henv v hold)
    · obtain ⟨name, _⟩ := v
      obtain ⟨text, hmem, rfl⟩ := hassigned
      exact (hothers _ hmem).imp_left fun hname => honly.eq_of_name _ hv hname
  have hlegible : Legible (prepared tree directory env).environment := by
    intro v hv
    rcases hrest v hv with rfl | hnone
    · exact isOk_of_eq_ok hsays
    · exact isOk_of_eq_ok hnone
  have hlast := getLast?_limitSettings honly.mem (limitSetting?_of_eq_ok hsays)
    fun v hv => (hrest v hv).imp_right limitSetting?_of_eq_ok
  have hload := (load_eq_iff_of_getLast? hn hfile hlast).2 ⟨hsettable, hlegible, rfl⟩
  refine ⟨hload, ?_⟩
  -- With the file first the same comes out only if the file is silent or says `n` itself.
  rw [hload, Except.ok.injEq, eq_comm]
  cases inFile? with
  | none => simp [settle_eq_ok_iff hn]
  | some decision =>
    obtain ⟨setting, origin⟩ := decision
    simp [settle_eq_ok_iff hn]

/-- A variable says where the TOML file is, and the file sets the limit to the same. -/
theorem load_eq_assigned_same :
    let env : Environment := [⟨pathVariable, .text "limits.toml".toList⟩]
    let tree : FileTree := ⟨[
      ([".env".toList], .file (Utf8.encode "A=1\nRANDOM_MAX_REQUEST_LEN=64\n".toList)),
      (["limits.toml".toList], .file (Utf8.encode "max_request_len = 64".toList))]⟩
    let inFile? := some (Setting.integer 64, Origin.file "limits.toml".toList)
    fromFile? tree [] (prepared tree [] env).environment = .ok inFile? ∧
      (load tree [] env).result = .ok (.ok ⟨64⟩) ∧
      (load tree [] env).result = .ok (settle (inFile?.or (some (.integer 64, .variables)))) := by
  intro env tree inFile?
  have hfile : fromFile? tree [] (prepared tree [] env).environment = .ok inFile? := by
    decide +kernel
  obtain ⟨hload, hsame⟩ := load_eq_assigned (n := 64) (by decide) (by decide +kernel)
    (by decide +kernel : (assigned tree [] env).lookup limitVariable = some "64".toList)
    (by decide +kernel) (by decide +kernel) (by decide +kernel) hfile
  exact ⟨hfile, hload, hsame.2 (by simp [inFile?])⟩

/-- The environment file sets the limit to 64, the TOML file to 1024; and 64 is loaded. -/
theorem load_over_file :
    let env : Environment := [⟨"PATH".toList, .text "/bin".toList⟩]
    let tree : FileTree := ⟨[
      ([".env".toList], .file (Utf8.encode "RANDOM_MAX_REQUEST_LEN=64\n".toList)),
      (["config".toList, "random.toml".toList],
        .file (Utf8.encode "max_request_len = 1024\n".toList))]⟩
    (∀ v ∈ env, configured? v.name = none) ∧
      assigned tree [] env = [(limitVariable, "64".toList)] ∧
      (prepared tree [] env).unsettable? = none ∧
      fromFile? tree [] (prepared tree [] env).environment =
        .ok (some (.integer 1024, .file standardPath)) ∧
      (load tree [] env).result = .ok (.ok ⟨64⟩) := by
  decide +kernel

/-- A variable that sets the limit, as no other does, is what counts, just if nothing
    that the environment file adds sets the limit to something else; provided that the
    file's assignments can be made, and that afterwards all variables can be read. -/
theorem load_eq_variable_iff {tree : FileTree} {directory : Place} {env : Environment} {n : Nat}
    {inFile? : Option (Setting × Origin)} (hn : n < UInt64.size)
    (hset : ⟨limitVariable, .text (Nat.toDigits 10 n)⟩ ∈ env)
    (hothers : ∀ v ∈ env, setsLimit v.name = true → v = ⟨limitVariable, .text (Nat.toDigits 10 n)⟩)
    (hfile : fromFile? tree directory (prepared tree directory env).environment = .ok inFile?) :
    let prepared := prepared tree directory env
    let added := prepared.environment.drop env.length
    (load tree directory env).result = .ok (.ok ⟨n⟩) ↔
      prepared.unsettable? = none ∧ Legible prepared.environment ∧
        ∀ setting ∈ (limitSettings added).getLast?, setting = .integer n := by
  dsimp only
  have hsays : settingOf? ⟨limitVariable, .text (Nat.toDigits 10 n)⟩ =
      .ok (some (.integer n)) := by
    rw [settingOf?_limitVariable, Environment.Value.shown, Setting.ofText_toDigits hn]
    rfl
  have hlast := getLast?_limitSettings_of_supplied (supplied_prepared tree directory env) hset
    (limitSetting?_of_eq_ok hsays) hothers
  -- Either nothing that was added sets the limit, or the last that does decides.
  cases hadded : (limitSettings
      ((prepared tree directory env).environment.drop env.length)).getLast? with
  | none =>
    rw [hadded, Option.none_or] at hlast
    simp [load_eq_iff_of_getLast? hn hfile hlast]
  | some setting =>
    rw [hadded, Option.some_or] at hlast
    simp [load_eq_iff_of_getLast? hn hfile hlast]

/-- The environment file assigns another value to the variable, which keeps its own. -/
theorem load_eq_variable_iff_kept :
    let env : Environment := [⟨limitVariable, .text (Nat.toDigits 10 64)⟩]
    let tree : FileTree := ⟨[
      ([".env".toList], .file (Utf8.encode "RANDOM_MAX_REQUEST_LEN=333\nA=1\n".toList)),
      (["config".toList, "random.toml".toList],
        .file (Utf8.encode "max_request_len = 1024\n".toList))]⟩
    (load tree [] env).result = .ok (.ok ⟨64⟩) := by
  intro env tree
  exact (load_eq_variable_iff (n := 64) (by decide) (by decide) (by decide +kernel)
    (by decide +kernel : fromFile? tree [] (prepared tree [] env).environment =
      .ok (some (.integer 1024, .file standardPath)))).2 (by decide +kernel)

/-- A variable sets the limit to 100, the environment file sets it to 5 by its name in
    lower case; and 5 is loaded. -/
theorem load_over_variable :
    let env : Environment := [⟨limitVariable, .text "100".toList⟩]
    let tree : FileTree := ⟨[
      ([".env".toList], .file (Utf8.encode "random_max_request_len=5\n".toList))]⟩
    (∀ v ∈ env, setsLimit v.name = true → v = ⟨limitVariable, .text "100".toList⟩) ∧
      (prepared tree [] env).unsettable? = none ∧
      fromFile? tree [] (prepared tree [] env).environment = .ok none ∧
      (load tree [] env).result = .ok (.ok ⟨5⟩) := by
  decide +kernel

end Config

end SeedGate
