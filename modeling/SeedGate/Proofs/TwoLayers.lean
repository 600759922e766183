import SeedGate.Proofs.Documents
import SeedGate.Proofs.Layers

/-!
# Two layers

Where there is no environment file, a configuration is promised (`Load.promised`) that has
only two layers. The variable of the limit says what is loaded, or that there is an error if
its value is no limit; if there is no such variable, the TOML file says so; and if it
is silent, the limit is the standard one. Nothing else counts, no other variable and
no other name in the file.

`load_promised_iff` says how far this promise is kept, about every environment that has at
most one name of the limit (`Load.Sole`), and every file that is well-formed: just if
no variable whatsoever has a value that cannot even be read, and if the file has none of the
names that its reader keeps for itself where that makes a difference (`Load.Ordinary`). One
value that cannot be read makes loading give up, whatever its variable is for.
-/

namespace SeedGate

namespace Config

namespace Load

variable {tree : FileTree} {directory : Place} {env : Environment} {v : Environment.Variable}
  {name : List Char}

/-! ## Names -/

/-- What a name comes to without what the names of such variables begin with, without the
    blanks at its ends, and in lower case. -/
def key? (name : List Char) : Option (List Char) :=
  let trimmed := Text.trim name
  if Text.sameIgnoringCase (trimmed.take variableStart.length) variableStart then
    some ((Text.trim (trimmed.drop variableStart.length)).map Text.lowerAscii)
  else none

/-- Of the variables, at most one has a key that begins with the name of the limit, and its key
    is just that name. -/
structure Sole (env : Environment) (v? : Option Environment.Variable) : Prop where
  filter_eq : (env.filter fun v => (key? v.name).any limitName.isPrefixOf) = v?.toList
  key?_eq : ∀ v ∈ v?, key? v.name = some limitName

/-- The key of a variable that sets the limit begins with the name of the limit. -/
theorem any_key?_of_setsLimit (h : setsLimit name = true) :
    (key? name).any limitName.isPrefixOf = true := by
  rw [setsLimit, beq_iff_eq, Option.bind_eq_some_iff] at h
  obtain ⟨parts, hparts, hhead⟩ := h
  rw [configured?] at hparts
  dsimp only at hparts
  split_ifs at hparts with hstart hempty
  cases hparts
  rw [Bool.and_eq_true] at hstart
  rw [key?, if_pos hstart.1, Option.any_some, List.isPrefixOf_iff_prefix]
  rw [List.head?_map, Option.map_eq_some_iff] at hhead
  obtain ⟨piece, hpiece, hlimit⟩ := hhead
  rw [← hlimit]
  exact (Text.isPrefix_of_head?_split hpiece).map Text.lowerAscii

/-- And if it is that name, the variable sets the limit. -/
theorem configured?_of_key? (h : key? name = some limitName) :
    configured? name = some [limitName] := by
  rw [key?] at h
  split_ifs at h with hstart
  have hkey := Option.some.inj h
  rw [configured?]
  dsimp only
  generalize (Text.trim name).drop variableStart.length = rest at hkey
  have hpoint : '.' ∉ Text.trim rest := by
    intro hmem
    have hlower := List.mem_map_of_mem (f := Text.lowerAscii) hmem
    rw [hkey] at hlower
    exact absurd hlower (by decide)
  have hne : Text.trim rest ≠ [] := by
    intro hnil
    rw [hnil] at hkey
    cases hkey
  -- The name of the limit is longer than what would say where the file is.
  have hpath : Text.sameIgnoringCase rest pathName = false := by
    rw [Text.sameIgnoringCase, beq_eq_false_iff_ne]
    intro hsame
    have hlength : rest.length = pathName.length := by
      rw [← List.length_map Text.lowerAscii, hsame, List.length_map]
    have htrimmed : (Text.trim rest).length = limitName.length := by
      rw [← hkey, List.length_map]
    have hle := Text.length_trim_le rest
    rw [hlength, htrimmed] at hle
    exact absurd hle (by decide)
  rw [Text.split_of_not_mem hpoint]
  simp [hstart, hpath, hne.symm, hkey]

/-- What the variable of the limit says. -/
theorem settingOf?_of_key? (h : key? v.name = some limitName) :
    settingOf? v = (Setting.ofText v.value.shown).map some := by
  rw [settingOf?, configured?_of_key? h]
  simp

/-- The variable of the limit has the last word, if there is one. -/
theorem Sole.getLast?_limitSettings {v? : Option Environment.Variable} (h : Sole env v?) :
    (limitSettings env).getLast? = v?.bind limitSetting? := by
  -- All that sets the limit has a key that begins with its name.
  have hlimit : limitSettings env = v?.toList.filterMap limitSetting? := by
    rw [← h.filter_eq, List.filterMap_filter, limitSettings]
    refine congrArg (List.filterMap · env) (funext fun u => ?_)
    cases hsets : limitSetting? u with
    | none => simp
    | some setting => simp [any_key?_of_setsLimit (setsLimit_of_limitSetting? hsets)]
  rw [hlimit]
  cases v? with
  | none => rfl
  | some v => cases hv : limitSetting? v <;> simp [hv]

/-! ## What is promised -/

/-- The configuration whose limit something has been set to, if that is a number that 64 bits
    can hold. -/
def configOf : Setting → Option Config
  | .integer n => if 0 ≤ n ∧ n < UInt64.size then some ⟨n.toNat⟩ else none
  | _ => none

theorem toOption_settle (setting : Setting) (origin : Origin) :
    (settle (some (setting, origin))).toOption = configOf setting := by
  cases setting with
  | integer n =>
    rw [settle_integer, configOf]
    split_ifs <;> rfl
  | _ => rfl

/-- The configuration, if there is to be one, that a variable and what the TOML file has under
    the name of the limit are to lead to. -/
def promised (v? : Option Environment.Variable) (node? : Option Toml.Node) : Option Config :=
  match v?, node? with
  | some v, _ => (Setting.ofText v.value.shown).toOption.bind configOf
  | none, some (.value (.integer n)) => if 0 ≤ n then some ⟨n.toNat⟩ else none
  | none, some _ => none
  | none, none => some standard

/-- The document in the TOML file, if there is one; the file is well-formed. -/
def Reads (tree : FileTree) (directory : Place) (env : Environment) (table? : Option Toml.Table) :
    Prop :=
  (file? tree directory env).map (fun found => (Utf8.decode? found.contents).bind Toml.read) =
    table?.map some

/-- Nothing in the document that has a name of its reader's own changes what is promised:
    there is no mark in it, unless there is to be no configuration anyway; and the limit is not
    wrapped, unless what is wrapped is no limit either or is not asked for. -/
def Ordinary (v? : Option Environment.Variable) (table : Toml.Table) : Prop :=
  if table.isMarked then promised v? (table.lookup limitName) = none
  else v? = none → ∀ kind entries, table.lookup limitName = some (.table kind entries) →
    ∀ n ≥ 0, Toml.wrapped? entries ≠ some (.integer n)

/-- An integer that is not negative is a limit, if 64 bits with a sign can hold it. -/
theorem configOf_integer {n : Int} (h : (Setting.integer n).Fits) :
    configOf (.integer n) = if 0 ≤ n then some ⟨n.toNat⟩ else none := by
  have hlt : n < UInt64.size := Int.lt_of_lt_of_le (h n rfl).2 (by decide)
  simp only [configOf, hlt, and_true]

/-- A setting in a document counts as promised, unless it is wrapped and a limit. -/
theorem configOf_setting_iff {node : Toml.Node} (h : node.Fits) :
    configOf node.setting = promised none (some node) ↔
      ∀ kind entries, node = .table kind entries →
        ∀ n ≥ 0, Toml.wrapped? entries ≠ some (.integer n) := by
  cases node with
  | value setting =>
    refine iff_of_true ?_ (by simp)
    cases setting with
    | integer n => exact configOf_integer h.setting
    | _ => rfl
  | array | tables => exact iff_of_true rfl (by simp)
  | table kind entries =>
    have hfits := h.setting
    rw [Toml.Node.setting] at hfits ⊢
    -- A table is no limit, but what it wraps can be one.
    have hpromised : promised none (some (.table kind entries)) = none := rfl
    simp only [hpromised, Toml.Node.table.injEq, and_imp, forall_eq', forall_apply_eq_imp_iff]
    cases hwrapped : Toml.wrapped? entries with
    | none => exact iff_of_true rfl (by simp)
    | some setting =>
      rw [hwrapped, Option.getD_some] at hfits
      rw [Option.getD_some]
      cases setting with
      | integer n =>
        rw [configOf_integer hfits]
        constructor
        · rintro hnone m hm ⟨⟩
          rw [if_pos hm] at hnone
          cases hnone
        · intro hunlimited
          exact if_neg fun hn => hunlimited n hn rfl
      | _ => exact iff_of_true rfl (by simp)

/-- What the file sets the limit to. -/
theorem fromFile?_of_reads {table? : Option Toml.Table} (h : Reads tree directory env table?) :
    ∃ origin failure, fromFile? tree directory env =
      if table?.any (·.isMarked) then .error failure
      else .ok ((table?.bind (·.setting? limitName)).map (·, origin)) := by
  rw [Reads] at h
  rw [fromFile?]
  cases hfile : file? tree directory env with
  | none =>
    rw [hfile] at h
    obtain rfl := Option.map_eq_none_iff.1 h.symm
    exact ⟨.variables, .notText [], rfl⟩
  | some found =>
    rw [hfile] at h
    obtain ⟨table, rfl, htable⟩ := Option.map_eq_some_iff.1 h.symm
    obtain ⟨text, htext, hread⟩ := Option.bind_eq_some_iff.1 htable.symm
    let path := Path.shownFrom directory found.path
    refine ⟨.file path, .malformed path, ?_⟩
    dsimp only
    rw [fromFile, htext]
    dsimp only
    rw [hread]
    dsimp only [Option.any_some]
    split_ifs <;> rfl

theorem fits_of_reads {table : Toml.Table} (h : Reads tree directory env (some table)) :
    table.Fits := by
  obtain ⟨found, -, hread⟩ := Option.map_eq_some_iff.1 h
  obtain ⟨text, -, hread⟩ := Option.bind_eq_some_iff.1 hread
  exact Toml.fits_of_read hread

/-- If the variables can be read, the last that sets the limit decides, or else the file. -/
theorem result_of_legible (hnone : tree.nearest? directory envFileName = none)
    (hlegible : Legible env) :
    (load tree directory env).result = .ok (do
      let inFile? ← fromFile? tree directory env
      settle (((limitSettings env).getLast?.map (·, Origin.variables)).or inFile?)) := by
  rw [load, prepared, hnone]
  dsimp only
  rw [layered, fromVariables_eq_ok_iff.2 ⟨hlegible, rfl⟩]
  rfl

/-- If one of them cannot be read, loading gives up. -/
theorem result_of_not_legible (hnone : tree.nearest? directory envFileName = none)
    (h : ¬Legible env) : ∃ cut, (load tree directory env).result = .error (.cut cut) := by
  rw [load, prepared, hnone]
  dsimp only
  rw [layered]
  cases hvariables : fromVariables env with
  | error cut => exact ⟨cut, rfl⟩
  | ok setting? => exact absurd (fromVariables_eq_ok_iff.1 hvariables).1 h

/-- The variable of the limit is there, and says something if it can be read. -/
theorem Sole.exists_setting (h : Sole env (some v)) (hlegible : Legible env) :
    ∃ setting, Setting.ofText v.value.shown = .ok setting ∧ limitSetting? v = some setting := by
  have hmem : v ∈ env := by
    have hfilter : v ∈ env.filter fun v => (key? v.name).any limitName.isPrefixOf := by
      rw [h.filter_eq]
      exact List.mem_singleton_self v
    exact (List.mem_filter.1 hfilter).1
  have hread := settingOf?_of_isOk (hlegible v hmem)
  rw [settingOf?_of_key? (h.key?_eq v rfl)] at hread
  cases hsetting : Setting.ofText v.value.shown with
  | error cut =>
    rw [hsetting] at hread
    cases hread
  | ok setting =>
    rw [hsetting] at hread
    exact ⟨setting, rfl, (Except.ok.inj hread).symm⟩

/-- What the two layers lead to, if all variables can be read and there is no fault with the
    file. -/
def layers (v? : Option Environment.Variable) (setting? : Option Setting) : Option Config :=
  match v? with
  | some v => promised (some v) none
  | none => setting?.elim (some standard) configOf

theorem map_toOption_of_legible {v? : Option Environment.Variable} {setting? : Option Setting}
    {origin : Origin} (hnone : tree.nearest? directory envFileName = none) (hsole : Sole env v?)
    (hlegible : Legible env)
    (hfile : fromFile? tree directory env = .ok (setting?.map (·, origin))) :
    (load tree directory env).result.map Except.toOption = .ok (layers v? setting?) := by
  rw [result_of_legible hnone hlegible, hsole.getLast?_limitSettings, hfile, Except.map,
    Except.ok.injEq]
  cases v? with
  | none => cases setting? with
    | none => rfl
    | some setting => exact toOption_settle setting origin
  | some v =>
    obtain ⟨setting, hread, hsets⟩ := hsole.exists_setting hlegible
    have hpromised : promised (some v) none = configOf setting := by
      rw [promised, hread]
      rfl
    rw [Option.bind_some, hsets, layers, hpromised]
    exact toOption_settle setting .variables

/-- The layers lead to what is promised, but for what is wrapped. -/
theorem layers_eq_promised_iff {v? : Option Environment.Variable} {table : Toml.Table}
    (h : table.Fits) :
    layers v? (table.setting? limitName) = promised v? (table.lookup limitName) ↔
      (v? = none → ∀ kind entries, table.lookup limitName = some (.table kind entries) →
        ∀ n ≥ 0, Toml.wrapped? entries ≠ some (.integer n)) := by
  cases v? with
  | some v => exact iff_of_true rfl (by simp)
  | none =>
    rw [Toml.Table.setting?, forall_prop_of_true rfl]
    cases hnode : table.lookup limitName with
    | none => exact iff_of_true rfl (by simp)
    | some node =>
      simp only [Option.some.injEq]
      exact configOf_setting_iff (h.lookup hnode)

end Load

open Load

/-- Without an environment file, loading leaves the environment as it is. It keeps what is
    promised about the variables and the file just if all variables can be read, as far as
    they configure something, and the file has only ordinary names; and if some variable
    cannot be read, it does not even return an error. -/
theorem load_promised_iff {tree : FileTree} {directory : Place} {env : Environment}
    {v? : Option Environment.Variable} {table? : Option Toml.Table}
    (hnone : tree.nearest? directory envFileName = none) (hsole : Sole env v?)
    (hfile : Reads tree directory env table?) :
    (load tree directory env).environment = env ∧
      ((load tree directory env).result.map Except.toOption =
          .ok (promised v? (table?.bind (·.lookup Load.limitName))) ↔
        Legible env ∧ ∀ table ∈ table?, Ordinary v? table) ∧
      (¬Legible env → ∃ cut, (load tree directory env).result = .error (.cut cut)) := by
  refine ⟨?_, ?_, result_of_not_legible hnone⟩
  · rw [load, prepared, hnone]
  by_cases hlegible : Legible env
  · obtain ⟨origin, failure, hfromFile⟩ := fromFile?_of_reads hfile
    rw [and_iff_right hlegible]
    cases table? with
    | none =>
      have hsilent : fromFile? tree directory env = .ok ((none : Option Setting).map (·, origin)) :=
        hfromFile
      rw [map_toOption_of_legible hnone hsole hlegible hsilent]
      exact iff_of_true (by cases v? <;> rfl) (by simp)
    | some table =>
      simp only [Option.any_some, Option.bind_some] at hfromFile ⊢
      simp only [Option.mem_some, forall_eq', Ordinary]
      split_ifs at hfromFile ⊢
      · have hresult : (load tree directory env).result = .ok (.error failure) := by
          rw [result_of_legible hnone hlegible, hfromFile]
          rfl
        rw [hresult]
        exact ⟨fun h => (Except.ok.inj h).symm, fun h => congrArg Except.ok h.symm⟩
      · rw [map_toOption_of_legible hnone hsole hlegible hfromFile, Except.ok.injEq]
        exact layers_eq_promised_iff (fits_of_reads hfile)
  · obtain ⟨cut, hcut⟩ := result_of_not_legible hnone hlegible
    rw [hcut]
    exact iff_of_false (by simp [Except.map]) fun h => hlegible h.1

/-- A variable sets the limit by another name, over a file in which it is a text. -/
theorem load_promised_iff_renamed :
    let v : Environment.Variable := ⟨" random_Max_Request_Len".toList, .text "64".toList⟩
    let env : Environment := [⟨"MAX_REQUEST_LEN".toList, .text "7".toList⟩,
      ⟨pathVariable, .text "limits.toml".toList⟩, v, ⟨"RANDOM_LIMIT".toList, .text "[8".toList⟩]
    let text := "max_request_len = 'few'\n".toList
    let tree : FileTree := ⟨[(["limits.toml".toList], .file (Utf8.encode text))]⟩
    let table := (Toml.read text).getD []
    tree.nearest? [] envFileName = none ∧ Sole env (some v) ∧ Reads tree [] env (some table) ∧
      table.setting? Load.limitName = some (.text "few".toList) ∧
      (load tree [] env).environment = env ∧
      (load tree [] env).result.map Except.toOption = .ok (some ⟨64⟩) := by
  intro v env text tree table
  have hnone : tree.nearest? [] envFileName = none := by decide +kernel
  have hsole : Sole env (some v) := ⟨by decide +kernel, by rintro _ ⟨⟩; decide +kernel⟩
  have hfound : file? tree [] env = some ⟨"/limits.toml".toList, Utf8.encode text⟩ := by
    decide +kernel
  have htext : Utf8.decode? (Utf8.encode text) = some text := by decide +kernel
  have hread : Toml.read text = some table := by
    have hsome : (Toml.read text).isSome = true := by decide +kernel
    obtain ⟨t, ht⟩ := Option.isSome_iff_exists.1 hsome
    simp [table, ht]
  have hfile : Reads tree [] env (some table) := by
    rw [Reads, hfound, Option.map_some, htext, Option.bind_some, hread, Option.map_some]
  have hordinary : ∀ t ∈ some table, Ordinary (some v) t := by
    rintro _ ⟨⟩
    rw [Ordinary, if_neg (by decide +kernel)]
    simp
  obtain ⟨hsame, hpromised, -⟩ := load_promised_iff hnone hsole hfile
  exact ⟨hnone, hsole, hfile, by decide +kernel, hsame,
    (hpromised.2 ⟨by decide +kernel, hordinary⟩).trans (by decide +kernel)⟩

/-- A variable that has nothing to do with the limit makes loading give up: its value is a
    string with an escape after a character of two bytes. -/
theorem load_cut_of_other :
    let v : Environment.Variable := ⟨"RANDOM_MAX_REQUEST_LEN".toList, .text "5".toList⟩
    let env : Environment := [⟨"RANDOM_OTHER".toList, .text "\"é\\n\"".toList⟩, v]
    let tree : FileTree := ⟨[]⟩
    tree.nearest? [] envFileName = none ∧ Sole env (some v) ∧ Reads tree [] env none ∧
      promised (some v) none = some ⟨5⟩ ∧ (load tree [] env).result = .error (.cut ⟨1, 'é', 0⟩) :=
  ⟨by decide +kernel, ⟨by decide +kernel, by rintro _ ⟨⟩; decide +kernel⟩, rfl, by decide +kernel,
    by decide +kernel⟩

end Config

end SeedGate
