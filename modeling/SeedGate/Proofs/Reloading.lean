import SeedGate.Proofs.Priority

/-!
# Loading again

Loading adds to the environment, so that the next loading finds another one: names in
the values of the environment file may denote something else, the path of the TOML file
may be set, values that could not be read may have been replaced. None of this matters.
Whether a line is malformed, and which name it assigns to, does not depend on what names
denote (`map_name?_read`); and after a loading that returns, every name that was assigned
can be read (`readable_supply`), so that the same lines change nothing any more
(`follow_of_readable`).

* `Environment.Grown`: what may become of an environment, variable by variable;
* `load_load`: whenever loading returns, the environment has grown by what the
  environment file assigns before its first malformed line, and loading again leads to the
  very same.
-/

namespace SeedGate

open Environment

namespace EnvFile

variable {env env' : Environment} {assigned : Assigned}

/-! ## What does not depend on the meaning of names -/

/-- The name that a line assigns to, if it does. -/
def Line.name? : Line → Option (List Char)
  | .blank => none
  | .assignment name _ => some name

/-- The line is not malformed. -/
def WellFormed (line : List Char) : Prop := (Line.read (fun _ => []) line).isSome

/-- Whether a value is malformed does not depend on what the names in it denote. -/
theorem isSome_valueFrom (m m' : List Char → List Char) (mode : Mode) (double : Bool)
    (cs : List Char) :
    (valueFrom m mode double cs).isSome = (valueFrom m' mode double cs).isSome := by
  induction cs generalizing mode double with
  | nil => cases mode <;> cases double <;> rfl
  | cons c cs ih =>
    cases mode with
    | escape =>
      simp only [valueFrom]
      cases escaped? c <;> simp [ih _ _]
    | text | single | name | braced | ended =>
      simp only [valueFrom]
      split_ifs <;> simp only [Option.isSome_map, ih _ _]

theorem isSome_value (m m' : List Char → List Char) (cs : List Char) :
    (value m cs).isSome = (value m' cs).isSome := by
  rw [value, value]
  split
  · rfl
  · exact isSome_valueFrom m m' .text false cs

/-- Nor does it depend on that whether a line is malformed, and which name it assigns to. -/
theorem map_name?_read (m m' : List Char → List Char) (line : List Char) :
    (Line.read m line).map Line.name? = (Line.read m' line).map Line.name? := by
  rw [Line.read, Line.read]
  dsimp only
  split
  · rfl
  cases target (Text.trimLeft (Text.trimRight line)) with
  | none => rfl
  | some found =>
    obtain ⟨name, rest⟩ := found
    have hvalue := isSome_value m m' (Text.trimLeft rest)
    simp only [Option.bind_eq_bind, Option.bind_some]
    cases hm : value m (Text.trimLeft rest) <;> cases hm' : value m' (Text.trimLeft rest) <;>
      simp_all [Line.name?]

section

variable {m : List Char → List Char} {line name value : List Char} (m' : List Char → List Char)

theorem read_eq_none (h : Line.read m line = none) : Line.read m' line = none := by
  have hname := map_name?_read m m' line
  rw [h] at hname
  exact Option.map_eq_none_iff.1 hname.symm

theorem read_eq_blank (h : Line.read m line = some .blank) : Line.read m' line = some .blank := by
  have hname := map_name?_read m m' line
  rw [h] at hname
  obtain ⟨said, hsaid, hnone⟩ := Option.map_eq_some_iff.1 hname.symm
  cases said with
  | blank => exact hsaid
  | assignment => cases hnone

theorem exists_read_eq_assignment (h : Line.read m line = some (.assignment name value)) :
    ∃ value', Line.read m' line = some (.assignment name value') := by
  have hname := map_name?_read m m' line
  rw [h] at hname
  obtain ⟨said, hsaid, hsome⟩ := Option.map_eq_some_iff.1 hname.symm
  cases said with
  | blank => cases hsome
  | assignment name' value' =>
    obtain rfl : name' = name := Option.some.inj hsome
    exact ⟨value', hsaid⟩

end

theorem wellFormed_of_read {m : List Char → List Char} {line : List Char} {said : Line}
    (h : Line.read m line = some said) : WellFormed line := by
  rw [WellFormed, Option.isSome_iff_ne_none]
  intro hnone
  cases h.symm.trans (read_eq_none m hnone)

/-! ## Where assignments come from -/

/-- Every assignment is made by a line before which none is malformed, with what names
    denote after the lines before it. -/
theorem exists_line_of_mem_assignments {a : List Char × List Char} {lines : List (List Char)}
    (h : a ∈ assignments env assigned lines) :
    ∃ before line after, lines = before ++ line :: after ∧
      (∀ earlier ∈ before, WellFormed earlier) ∧
      Line.read (meaning (follow env assigned before).environment
        ((assignments env assigned before).reverse ++ assigned)) line =
          some (.assignment a.1 a.2) := by
  have hfollowing := following_follow env assigned lines
  generalize assignments env assigned lines = given at h hfollowing
  generalize follow env assigned lines = loaded at hfollowing
  induction hfollowing with
  | done => cases h
  | malformed => cases h
  | @unsettable env assigned line rest name value u hread _ =>
    obtain rfl := List.mem_singleton.1 h
    exact ⟨[], line, rest, rfl, List.forall_mem_nil _, hread⟩
  | @blank env assigned line rest _ _ hread _ ih =>
    obtain ⟨before, found, after, rfl, hbefore, hfound⟩ := ih h
    refine ⟨line :: before, found, after, rfl,
      List.forall_mem_cons.2 ⟨wellFormed_of_read hread, hbefore⟩, ?_⟩
    rwa [follow, assignments, hread]
  | @assignment env env₁ assigned line rest name value _ _ hread hprovide _ ih =>
    rcases List.mem_cons.1 h with rfl | h
    · exact ⟨[], line, rest, rfl, List.forall_mem_nil _, hread⟩
    · obtain ⟨before, found, after, rfl, hbefore, hfound⟩ := ih h
      refine ⟨line :: before, found, after, rfl,
        List.forall_mem_cons.2 ⟨wellFormed_of_read hread, hbefore⟩, ?_⟩
      simpa [follow, assignments, hread, hprovide] using hfound

/-! ## Following the same lines again -/

/-- Once every name that lines assign to can be read, they change nothing. -/
theorem follow_of_readable {lines : List (List Char)}
    (hsettable : (follow env assigned lines).unsettable? = none)
    (hread : ∀ a ∈ assignments env assigned lines, (env'.read? a.1).isSome)
    (assigned' : Assigned) : follow env' assigned' lines = ⟨env', none⟩ := by
  have hfollowing := following_follow env assigned lines
  generalize assignments env assigned lines = given at hread hfollowing
  generalize follow env assigned lines = loaded at hsettable hfollowing
  induction hfollowing generalizing assigned' with
  | done => rfl
  | malformed hline => rw [follow, read_eq_none _ hline]
  | blank hline _ ih =>
    rw [follow, read_eq_blank _ hline]
    exact ih assigned' hread hsettable
  | unsettable => cases hsettable
  | assignment hline _ _ ih =>
    -- The value may be another one, but the name can be read, so that it stays unused.
    obtain ⟨value', hline'⟩ := exists_read_eq_assignment (meaning env' assigned') hline
    obtain ⟨hhere, hrest⟩ := List.forall_mem_cons.1 hread
    rw [follow, hline']
    dsimp only
    rw [provide, if_pos hhere]
    exact ih _ hrest hsettable

end EnvFile

open EnvFile

namespace Environment

variable {env after : Environment} {given : Assignments}

/-! ## What may become of an environment -/

/-- The environment has only grown: variables have kept their places and whatever could be
    read of them, and all that is new or changed is of the kind. -/
structure Grown (New : Variable → Prop) (env after : Environment) : Prop where
  names : env.map (·.name) <+: after.map (·.name)
  kept : ∀ (i : Nat) (name text : List Char),
    env[i]? = some ⟨name, .text text⟩ → after[i]? = some ⟨name, .text text⟩
  new : ∀ (i : Nat) (v : Variable), after[i]? = some v → env[i]? = some v ∨ New v

theorem Supplied.grown (h : Supplied given env after) : Grown (·.Assigned given) env after := by
  induction h with
  | @added added h =>
    exact ⟨List.nil_prefix, nofun, fun i v hv => .inr (h v (List.mem_of_getElem? hv))⟩
  | @kept u v env after hkept _ ih =>
    refine ⟨?_, fun i name text hi => ?_, fun i w hi => ?_⟩
    · rw [List.map_cons, List.map_cons, hkept.name_eq]
      exact (List.prefix_cons_inj _).2 ih.names
    · cases i with
      | zero =>
        obtain rfl : u = ⟨name, .text text⟩ := Option.some.inj hi
        exact congrArg some hkept.eq_of_text
      | succ i => exact ih.kept i name text hi
    · cases i with
      | zero =>
        obtain rfl : v = w := Option.some.inj hi
        exact hkept.eq_or_assigned.imp_left fun heq => congrArg some heq.symm
      | succ i => exact ih.new i w hi

theorem Grown.mono {New New' : Variable → Prop} (h : Grown New env after)
    (hnew : ∀ v, New v → New' v) : Grown New' env after :=
  ⟨h.names, h.kept, fun i v hv => (h.new i v hv).imp_right (hnew v)⟩

/-! ## What can be read afterwards -/

/-- A value that could be read can still be read. -/
theorem Supplied.read?_eq (h : Supplied given env after) {name text : List Char}
    (hread : env.read? name = some text) : after.read? name = some text := by
  induction h with
  | added => cases hread
  | @kept u v _ _ hkept _ ih =>
    by_cases hname : u.name = name
    · obtain ⟨_, value⟩ := u
      subst hname
      cases value with
      | raw bytes => simp [read?, get?] at hread
      | text t =>
        obtain rfl := hkept.eq_of_text
        simpa [read?, get?] using hread
    · have hname' : v.name ≠ name := by rwa [hkept.name_eq]
      simp only [read?, get?, List.find?_cons, decide_eq_false hname] at hread
      simp only [read?, get?, List.find?_cons, decide_eq_false hname']
      exact ih hread

/-- If all assignments can be made, every name that is assigned can be read afterwards. -/
theorem readable_supply (hsettable : (supply env given).unsettable? = none) :
    ∀ a ∈ given, ((supply env given).environment.read? a.1).isSome := by
  induction given generalizing env with
  | nil => exact nofun
  | cons assignment rest ih =>
    obtain ⟨name, value⟩ := assignment
    rw [supply] at hsettable ⊢
    split at hsettable
    · cases hsettable
    rename_i env₁ hprovide
    refine List.forall_mem_cons.2 ⟨?_, ih hsettable⟩
    have hnow : (env₁.read? name).isSome := by
      rcases provide_eq_ok hprovide with ⟨hsome, rfl⟩ | ⟨_, rfl⟩
      · exact hsome
      · simp [read?]
    -- Whatever is assigned later, it stays.
    obtain ⟨text, htext⟩ := Option.isSome_iff_exists.1 hnow
    exact Option.isSome_iff_exists.2 ⟨text, (supplied_supply env₁ rest).read?_eq htext⟩

end Environment

namespace Config

open Load

namespace Load

/-- The nearest environment file assigns its value to the variable, in a line before which
    none is malformed, with what names denote after the lines before it. -/
def AssignedByFile (tree : FileTree) (directory : Place) (env : Environment)
    (v : Environment.Variable) : Prop :=
  ∃ found before line after text, tree.nearest? directory envFileName = some found ∧
    lines found.contents = before ++ line :: after ∧ (∀ earlier ∈ before, WellFormed earlier) ∧
    Line.read (meaning (follow env [] before).environment (assignments env [] before).reverse)
      line = some (.assignment v.name text) ∧
    v.value = .text text

variable {tree : FileTree} {directory : Place} {env : Environment}

theorem assignedByFile_of_assigned {v : Environment.Variable}
    (h : v.Assigned (assigned tree directory env)) : AssignedByFile tree directory env v := by
  obtain ⟨text, hmem, hvalue⟩ := h
  rw [assigned] at hmem
  cases hfound : tree.nearest? directory envFileName with
  | none =>
    rw [hfound] at hmem
    cases hmem
  | some found =>
    rw [hfound] at hmem
    obtain ⟨before, line, after, hlines, hbefore, hline⟩ := exists_line_of_mem_assignments hmem
    rw [List.append_nil] at hline
    exact ⟨found, before, line, after, text, hfound, hlines, hbefore, hline, hvalue⟩

/-- Preparing the environment again changes nothing. -/
theorem prepared_prepared (h : (prepared tree directory env).unsettable? = none) :
    prepared tree directory (prepared tree directory env).environment =
      prepared tree directory env := by
  have hread : ∀ a ∈ assigned tree directory env,
      ((prepared tree directory env).environment.read? a.1).isSome := by
    rw [prepared_eq] at h ⊢
    exact readable_supply h
  have heta : prepared tree directory env = ⟨(prepared tree directory env).environment, none⟩ := by
    rw [← h]
  rw [heta]
  generalize (prepared tree directory env).environment = after at hread
  rw [assigned] at hread
  rw [prepared] at h ⊢
  cases hfound : tree.nearest? directory envFileName with
  | none => rfl
  | some found =>
    rw [hfound] at h hread
    exact follow_of_readable h hread []

end Load

/-- Whenever loading returns, the environment has grown by what the environment file assigns
    before its first malformed line, and nothing else has become of it; and loading again
    returns the same, and leaves the environment as it is. -/
theorem load_load {tree : FileTree} {directory : Place} {env : Environment}
    {result : Except Failure Config} (h : (load tree directory env).result = .ok result) :
    Grown (AssignedByFile tree directory env) env (load tree directory env).environment ∧
      load tree directory (load tree directory env).environment = load tree directory env := by
  obtain ⟨hsettable, -⟩ := load_eq_ok_iff.1 h
  have hafter : (load tree directory env).environment =
      (prepared tree directory env).environment := by
    rw [load, hsettable]
  rw [hafter]
  refine ⟨(supplied_prepared tree directory env).grown.mono fun v => assignedByFile_of_assigned, ?_⟩
  rw [load, load, prepared_prepared hsettable]

/-- A value that could not be read is replaced, by a name that will denote something else
    by then; the path of the TOML file is set; and a malformed line ends it all. -/
theorem load_load_replaced :
    let env : Environment :=
      [⟨"A".toList, .raw [0xFF]⟩, ⟨"HOME".toList, .text "/root".toList⟩]
    let tree : FileTree := ⟨[
      ([".env".toList], .file (Utf8.encode
        "A=$B$HOME\nB=1\nHOME=2\nRANDOM_CONFIG_PATH=limits.toml\n?\nC=3\n".toList)),
      (["limits.toml".toList], .file (Utf8.encode "max_request_len = 7".toList))]⟩
    let after : Environment := [⟨"A".toList, .text "/root".toList⟩,
      ⟨"HOME".toList, .text "/root".toList⟩, ⟨"B".toList, .text "1".toList⟩,
      ⟨pathVariable, .text "limits.toml".toList⟩]
    (load tree [] env).result = .ok (.ok ⟨7⟩) ∧ (load tree [] env).environment = after ∧
      Grown (AssignedByFile tree [] env) env after ∧
      (load tree [] after).result = .ok (.ok ⟨7⟩) ∧ (load tree [] after).environment = after := by
  intro env tree after
  have hresult : (load tree [] env).result = .ok (.ok ⟨7⟩) := by decide +kernel
  have hafter : (load tree [] env).environment = after := by decide +kernel
  obtain ⟨hgrown, hagain⟩ := load_load hresult
  rw [hafter] at hgrown hagain
  exact ⟨hresult, hafter, hgrown, hagain ▸ hresult, hagain ▸ hafter⟩

end Config

end SeedGate
