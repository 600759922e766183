import SeedGate.EnvFile

/-!
# What environment files add

An environment file is a list of assignments (`EnvFile.assignments`), up to its first
malformed line, and what comes of it is what comes of these one after the other
(`follow_eq`). `EnvFile.Following` has a rule for each thing that a line can say. No
assignment takes a value away:

* `Environment.Supplied`: the environment afterwards has the variables it had before, in
  their order, but for values that could not be read, and after them new variables; all
  that is new is among the assignments (`supplied_supply`);
* `Environment.Only`: a variable that was there once with a value keeps it
  (`Only.supply`), and one that was not there has the value that was assigned to it
  first (`only_supply`).
-/

namespace SeedGate

/-- Names with the values assigned to them, in the order of the assignments. -/
abbrev EnvFile.Assignments := List (List Char × List Char)

namespace EnvFile

/-- The assignments that lines make, up to the first malformed line or the first
    assignment that cannot be made. -/
def assignments (env : Environment) (assigned : Assigned) : List (List Char) → Assignments
  | [] => []
  | line :: rest =>
    match Line.read (meaning env assigned) line with
    | none => []
    | some .blank => assignments env assigned rest
    | some (.assignment name value) =>
      (name, value) ::
        match provide env name value with
        | .error _ => []
        | .ok env => assignments env ((name, value) :: assigned) rest

/-- What comes of assignments, one after the other. -/
def supply (env : Environment) : Assignments → Loaded
  | [] => ⟨env, none⟩
  | (name, value) :: rest =>
    match provide env name value with
    | .error unsettable => ⟨env, some unsettable⟩
    | .ok env => supply env rest

/-- Following lines, with the assignments that they make and what comes of them: one rule
    for each thing that a line can say. -/
inductive Following : Environment → Assigned → List (List Char) → Assignments → Loaded → Prop
  /-- There are no more lines. -/
  | done {env : Environment} {assigned : Assigned} : Following env assigned [] [] ⟨env, none⟩
  /-- The line is malformed. -/
  | malformed {env : Environment} {assigned : Assigned} {line : List Char}
      {rest : List (List Char)} (h : Line.read (meaning env assigned) line = none) :
      Following env assigned (line :: rest) [] ⟨env, none⟩
  /-- The line says nothing. -/
  | blank {env : Environment} {assigned : Assigned} {line : List Char} {rest : List (List Char)}
      {given : Assignments} {loaded : Loaded}
      (h : Line.read (meaning env assigned) line = some .blank)
      (hrest : Following env assigned rest given loaded) :
      Following env assigned (line :: rest) given loaded
  /-- The line makes an assignment that cannot be made. -/
  | unsettable {env : Environment} {assigned : Assigned} {line : List Char}
      {rest : List (List Char)} {name value : List Char} {u : Unsettable}
      (h : Line.read (meaning env assigned) line = some (.assignment name value))
      (hprovide : provide env name value = .error u) :
      Following env assigned (line :: rest) [(name, value)] ⟨env, some u⟩
  /-- The line makes an assignment. -/
  | assignment {env env₁ : Environment} {assigned : Assigned} {line : List Char}
      {rest : List (List Char)} {name value : List Char} {given : Assignments} {loaded : Loaded}
      (h : Line.read (meaning env assigned) line = some (.assignment name value))
      (hprovide : provide env name value = .ok env₁)
      (hrest : Following env₁ ((name, value) :: assigned) rest given loaded) :
      Following env assigned (line :: rest) ((name, value) :: given) loaded

/-- Lines are followed in order, up to one that is malformed or cannot be carried out. -/
theorem following_follow (env : Environment) (assigned : Assigned) (lines : List (List Char)) :
    Following env assigned lines (assignments env assigned lines) (follow env assigned lines) := by
  induction lines generalizing env assigned with
  | nil => exact .done
  | cons line rest ih =>
    rw [follow, assignments]
    cases hread : Line.read (meaning env assigned) line with
    | none => exact .malformed hread
    | some said =>
      cases said with
      | blank => exact .blank hread (ih env assigned)
      | assignment name value =>
        cases hprovide : provide env name value with
        | error u => simpa only [hprovide] using .unsettable hread hprovide
        | ok env₁ => simpa only [hprovide] using .assignment hread hprovide (ih env₁ _)

/-- What comes of lines is what comes of their assignments. -/
theorem follow_eq (env : Environment) (assigned : Assigned) (lines : List (List Char)) :
    follow env assigned lines = supply env (assignments env assigned lines) := by
  have h := following_follow env assigned lines
  generalize assignments env assigned lines = given at h ⊢
  generalize follow env assigned lines = loaded at h ⊢
  induction h with
  | done => rfl
  | malformed => rfl
  | blank _ _ ih => exact ih
  | unsettable _ hprovide => rw [supply, hprovide]
  | assignment _ hprovide _ ih => rw [supply, hprovide, ih]

/-- An assignment is passed over if the variable can be read, and sets it if not. -/
theorem provide_eq_ok {env env' : Environment} {name value : List Char}
    (h : provide env name value = .ok env') :
    ((env.read? name).isSome ∧ env' = env) ∨
      (env.read? name = none ∧ env' = env.set name value) := by
  rw [provide] at h
  split at h
  · cases h
    exact .inl ⟨‹_›, rfl⟩
  rename_i hnone
  split at h
  · cases h
  · cases h
    exact .inr ⟨by simpa using hnone, rfl⟩

end EnvFile

open EnvFile

/-! ## Nothing is taken away -/

namespace Environment

variable {given : Assignments} {env env₁ env₂ : Environment} {u v w : Variable}
  {name text : List Char}

/-- The variable has a value that was assigned to it. -/
def Variable.Assigned (given : Assignments) (v : Variable) : Prop :=
  ∃ text, (v.name, text) ∈ given ∧ v.value = .text text

/-- The variable is as it was; or it could not be read, and has an assigned value. -/
inductive Kept (given : Assignments) : Variable → Variable → Prop
  | same (v : Variable) : Kept given v v
  | replaced {name text : List Char} {bytes : Bytes} (h : (name, text) ∈ given) :
      Kept given ⟨name, .raw bytes⟩ ⟨name, .text text⟩

/-- The second environment is the first with assigned values: in place of unreadable
    ones, and in new variables after all others. -/
inductive Supplied (given : Assignments) : Environment → Environment → Prop
  | added {added : Environment} (h : ∀ v ∈ added, v.Assigned given) : Supplied given [] added
  | kept {u v : Variable} {env env₁ : Environment} (h : Kept given u v)
      (hrest : Supplied given env env₁) : Supplied given (u :: env) (v :: env₁)

namespace Kept

theorem name_eq (h : Kept given u v) : v.name = u.name := by
  cases h with
  | same => rfl
  | replaced => rfl

/-- A variable that could be read is as it was. -/
theorem eq_of_text (h : Kept given ⟨name, .text text⟩ v) : v = ⟨name, .text text⟩ := by
  cases h with
  | same => rfl

theorem eq_or_assigned (h : Kept given u v) : v = u ∨ v.Assigned given := by
  cases h with
  | same => exact .inl rfl
  | replaced h => exact .inr ⟨_, h, rfl⟩

theorem trans (h : Kept given u v) (hlater : Kept given v w) : Kept given u w := by
  cases h with
  | same => exact hlater
  | replaced h =>
    -- What has been assigned is text, and stays.
    cases hlater with
    | same => exact .replaced h

end Kept

namespace Supplied

theorem refl (given : Assignments) (env : Environment) : Supplied given env env := by
  induction env with
  | nil => exact .added fun v hv => absurd hv List.not_mem_nil
  | cons v rest ih => exact .kept (.same v) ih

/-- Whatever is there afterwards was there before, or was assigned. -/
theorem mem_or_assigned (h : Supplied given env env₁) (hv : v ∈ env₁) :
    v ∈ env ∨ v.Assigned given := by
  induction h with
  | added h => exact .inr (h v hv)
  | kept hkept _ ih =>
    rcases List.mem_cons.1 hv with rfl | hv
    · rcases hkept.eq_or_assigned with rfl | hassigned
      · exact .inl List.mem_cons_self
      · exact .inr hassigned
    · exact (ih hv).imp_left (List.mem_cons_of_mem _)

theorem trans (h : Supplied given env env₁) (hlater : Supplied given env₁ env₂) :
    Supplied given env env₂ := by
  induction h generalizing env₂ with
  | added h =>
    refine .added fun v hv => ?_
    rcases hlater.mem_or_assigned hv with hv | hassigned
    · exact h v hv
    · exact hassigned
  | kept hkept _ ih =>
    cases hlater with
    | kept hkept₁ hrest₁ => exact .kept (hkept.trans hkept₁) (ih hrest₁)

/-- A variable that cannot be read and is set has a new value in its place, or comes
    after all others. -/
theorem set (hnone : env.read? name = none) (hmem : (name, text) ∈ given) :
    Supplied given env (env.set name text) := by
  induction env with
  | nil =>
    refine .added fun v hv => ?_
    obtain rfl := List.mem_singleton.1 hv
    exact ⟨text, hmem, rfl⟩
  | cons u rest ih =>
    rw [Environment.set]
    split
    · rename_i hname
      obtain ⟨other, value⟩ := u
      subst hname
      -- The variable is there, and if its value were text it could be read.
      cases value with
      | raw bytes => exact .kept (.replaced hmem) (refl given rest)
      | text value => simp [read?, get?] at hnone
    · rename_i hname
      exact .kept (.same u) (ih (by simpa [read?, get?, hname] using hnone))

end Supplied

/-- What comes of assignments takes no value away. -/
theorem supplied_supply (env : Environment) (given : Assignments) :
    Supplied given env (supply env given).environment := by
  -- The induction is on the assignments that are left; all that is new stays among those given.
  suffices h : ∀ rest, rest ⊆ given → Supplied given env (supply env rest).environment from
    h given (List.Subset.refl given)
  intro rest hrest
  induction rest generalizing env with
  | nil => exact .refl given env
  | cons assignment rest ih =>
    obtain ⟨name, value⟩ := assignment
    obtain ⟨hmem, hrest⟩ := List.cons_subset.1 hrest
    rw [supply]
    split
    · exact .refl given env
    · rename_i env₁ hprovide
      rcases provide_eq_ok hprovide with ⟨_, rfl⟩ | ⟨hnone, rfl⟩
      · exact ih env₁ hrest
      · exact (Supplied.set hnone hmem).trans (ih _ hrest)

/-- The variables that were there before come first, and each is kept. -/
theorem Supplied.exists_mem_of_mem_take (h : Supplied given env env₁)
    (hv : v ∈ env₁.take env.length) : ∃ u ∈ env, Kept given u v := by
  induction h with
  | added => cases hv
  | @kept u v _ _ hkept _ ih =>
    rcases List.mem_cons.1 hv with rfl | hv
    · exact ⟨u, List.mem_cons_self, hkept⟩
    · obtain ⟨w, hw, hkept⟩ := ih hv
      exact ⟨w, List.mem_cons_of_mem u hw, hkept⟩

theorem Supplied.exists_mem_take_of_mem (h : Supplied given env env₁) (hu : u ∈ env) :
    ∃ v ∈ env₁.take env.length, Kept given u v := by
  induction h with
  | added => cases hu
  | @kept _ v _ _ hkept _ ih =>
    rcases List.mem_cons.1 hu with rfl | hu
    · exact ⟨v, List.mem_cons_self, hkept⟩
    · obtain ⟨w, hw, hkept⟩ := ih hu
      exact ⟨w, List.mem_cons_of_mem v hw, hkept⟩

/-! ## The first value counts -/

/-- There is the variable with this value, and with no other. -/
structure Only (env : Environment) (name text : List Char) : Prop where
  mem : ⟨name, .text text⟩ ∈ env
  eq_of_name : ∀ v ∈ env, v.name = name → v = ⟨name, .text text⟩

namespace Only

theorem read?_eq (h : Only env name text) : env.read? name = some text := by
  have hfind : env.find? (·.name = name) = some ⟨name, .text text⟩ := by
    cases hv : env.find? (·.name = name) with
    | none => exact absurd (List.find?_eq_none.1 hv _ h.mem) (by simp)
    | some v =>
      have hname := List.find?_some hv
      rw [h.eq_of_name v (List.mem_of_find?_eq_some hv) (by simpa using hname)]
  simp [read?, get?, hfind]

/-- Such a variable is there to stay. -/
theorem supply (h : Only env name text) (given : Assignments) :
    Only (supply env given).environment name text := by
  induction given generalizing env with
  | nil => exact h
  | cons assignment rest ih =>
    obtain ⟨other, value⟩ := assignment
    rw [EnvFile.supply]
    split
    · exact h
    rename_i env₁ hprovide
    refine ih ?_
    rcases provide_eq_ok hprovide with ⟨_, rfl⟩ | ⟨hnone, rfl⟩
    · exact h
    -- It can be read, so that what is set is another.
    have hne : name ≠ other := by
      rintro rfl
      rw [h.read?_eq] at hnone
      cases hnone
    refine ⟨mem_set_of_mem_of_ne h.mem hne value, fun v hv hname => ?_⟩
    rcases mem_of_mem_set hv with rfl | hv
    · exact absurd hname.symm hne
    · exact h.eq_of_name v hv hname

end Only

theorem ne_of_read?_isSome (habsent : ∀ v ∈ env, v.name ≠ name) {other : List Char}
    (h : (env.read? other).isSome) : name ≠ other := by
  rintro rfl
  have hfind : env.find? (·.name = name) = none :=
    List.find?_eq_none.2 fun v hv => by simpa using habsent v hv
  simp [read?, get?, hfind] at h

/-- A variable that was not there has the value that was assigned to it first. -/
theorem only_supply (habsent : ∀ v ∈ env, v.name ≠ name) (hfirst : given.lookup name = some text)
    (hsettable : (supply env given).unsettable? = none) :
    Only (supply env given).environment name text := by
  induction given generalizing env with
  | nil => cases hfirst
  | cons assignment rest ih =>
    obtain ⟨other, value⟩ := assignment
    rw [supply] at hsettable ⊢
    split at hsettable
    · cases hsettable
    rename_i env₁ hprovide
    have hlater (hne : name ≠ other) : rest.lookup name = some text := by
      rwa [List.lookup_cons, beq_false_of_ne hne] at hfirst
    rcases provide_eq_ok hprovide with ⟨hsome, rfl⟩ | ⟨_, rfl⟩
    · -- What is passed over can be read, so that it is another variable.
      exact ih habsent (hlater (ne_of_read?_isSome habsent hsome)) hsettable
    by_cases hother : name = other
    · subst hother
      obtain rfl : value = text := by simpa using hfirst
      refine Only.supply ⟨mem_set_self env name value, fun v hv hname => ?_⟩ rest
      rcases mem_of_mem_set hv with rfl | hv
      · rfl
      · exact absurd hname (habsent v hv)
    · refine ih (fun v hv => ?_) (hlater hother) hsettable
      rcases mem_of_mem_set hv with rfl | hv
      · exact Ne.symm hother
      · exact habsent v hv

end Environment

end SeedGate
