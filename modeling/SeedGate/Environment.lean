import SeedGate.Text.Utf8

/-!
# Environments

An environment is a list of variables, in the order in which they came. A
variable can be read if its value is text; a value that is not text is kept but
counts as unreadable. `set` gives a variable a readable value, in its place if it
has one and at the end otherwise; no operation removes a variable or moves one.
-/

namespace SeedGate

/-- The value of a variable: a text, or bytes that are none. -/
inductive Environment.Value where
  | text (text : List Char)
  | raw (bytes : Bytes)
  deriving DecidableEq, Repr

/-- The value that consists of the given bytes. -/
def Environment.Value.ofBytes (bytes : Bytes) : Environment.Value :=
  match Utf8.decode? bytes with
  | some t => .text t
  | none => .raw bytes

/-- The value as text, with replacement characters where it is none. -/
def Environment.Value.shown : Environment.Value → List Char
  | .text t => t
  | .raw b => Utf8.lossy b

/-- The value as bytes. -/
def Environment.Value.bytes : Environment.Value → Bytes
  | .text t => Utf8.encode t
  | .raw b => b

/-- A variable of an environment. -/
structure Environment.Variable where
  /-- What it is called. -/
  name : List Char
  /-- What it holds. -/
  value : Environment.Value
  deriving DecidableEq, Repr

/-- The variable as bytes, with an equals sign between its name and its value. -/
def Environment.Variable.entry (v : Environment.Variable) : Bytes :=
  Utf8.encode v.name ++ 0x3D :: v.value.bytes

/-- The variables of a process, in order. -/
abbrev Environment := List Environment.Variable

namespace Environment

/-- The value of a variable, whether readable or not. -/
def get? (env : Environment) (name : List Char) : Option Value :=
  (env.find? (·.name = name)).map (·.value)

/-- The value of a variable, if it exists and can be read. -/
def read? (env : Environment) (name : List Char) : Option (List Char) :=
  match env.get? name with
  | some (.text text) => some text
  | _ => none

/-- What follows the given name and an equals sign in the first variable that begins with
    them, if it can be read. So a name with an equals sign in it reaches into a value.
    Nothing is called by the empty name. -/
def search? (env : Environment) (name : List Char) : Option (List Char) :=
  let start := Utf8.encode name ++ [0x3D]
  if name.isEmpty then none
  else
    (env.find? fun v => start.isPrefixOf v.entry).bind fun v =>
      Utf8.decode? (v.entry.drop start.length)

/-- The environment with a variable set to a text. -/
def set (env : Environment) (name text : List Char) : Environment :=
  match env with
  | [] => [⟨name, .text text⟩]
  | v :: rest => if v.name = name then ⟨name, .text text⟩ :: rest else v :: set rest name text

/-- A variable that was set has that value. -/
@[simp] theorem get?_set_self (env : Environment) (name text : List Char) :
    (env.set name text).get? name = some (.text text) := by
  induction env with
  | nil => simp [set, get?]
  | cons v rest ih =>
    rw [set]
    split
    · simp [get?]
    · rename_i h
      simpa [get?, h] using ih

theorem mem_set_self (env : Environment) (name text : List Char) :
    ⟨name, .text text⟩ ∈ env.set name text := by
  induction env with
  | nil => simp [set]
  | cons v rest ih =>
    rw [set]
    split
    · exact List.mem_cons_self
    · exact List.mem_cons_of_mem v ih

/-- Setting a variable brings in nothing else. -/
theorem mem_of_mem_set {env : Environment} {name text : List Char} {v : Variable}
    (h : v ∈ env.set name text) : v = ⟨name, .text text⟩ ∨ v ∈ env := by
  induction env with
  | nil => simpa [set] using h
  | cons u rest ih =>
    rw [set] at h
    split at h
    · rcases List.mem_cons.1 h with rfl | h
      · exact .inl rfl
      · exact .inr (List.mem_cons_of_mem u h)
    · rcases List.mem_cons.1 h with rfl | h
      · exact .inr List.mem_cons_self
      · exact (ih h).imp_right (List.mem_cons_of_mem u)

theorem mem_set_of_mem_of_ne {env : Environment} {name : List Char} {v : Variable} (h : v ∈ env)
    (hne : v.name ≠ name) (text : List Char) : v ∈ env.set name text := by
  induction env with
  | nil => cases h
  | cons u rest ih =>
    rw [set]
    split
    · rcases List.mem_cons.1 h with rfl | h
      · exact absurd ‹_› hne
      · exact List.mem_cons_of_mem _ h
    · rcases List.mem_cons.1 h with rfl | h
      · exact List.mem_cons_self
      · exact List.mem_cons_of_mem u (ih h)

end Environment

end SeedGate
