import SeedGate.Source

/-!
# Sources behind handles

A generator may be given a source itself or something that leads to it: a
reference, a box of its own, or a handle shared with others. `Source.through` is
the source at the far end of one handle, `Source.behind` at the end of a chain of
them. A handle passes every call on and changes nothing else.
-/

namespace SeedGate

/-- The ways of holding on to a source. -/
inductive Handle where
  /-- It is owned by someone else. -/
  | reference
  /-- It is owned by this handle alone. -/
  | boxed
  /-- It is owned by all its handles together. -/
  | shared
  deriving DecidableEq, Repr

/-- A state with the handle that leads to it. -/
structure Held (σ : Type) where
  /-- How the state is held. -/
  handle : Handle
  /-- The state itself. -/
  content : σ

variable {α σ ι : Type}

/-- The reply of a call that was passed on through a handle. -/
def Reply.through (handle : Handle) (reply : Reply α σ ι) : Reply α (Held σ) ι :=
  ⟨reply.answer, ⟨handle, reply.state⟩, reply.record⟩

/-- The source at the far end of one handle. -/
def Source.through (source : Source σ ι) : Source (Held σ) ι where
  status s := (source.status s.content).through s.handle
  gather s := (source.gather s.content).through s.handle
  fill buffer s :=
    let filling := source.fill buffer s.content
    ⟨filling.toReply.through s.handle, filling.buffer⟩
  describe s := source.describe s.content
  fill_length buffer s := source.fill_length buffer s.content

/-- The states at the end of a chain of so many handles. -/
def Nest (σ : Type) : Nat → Type
  | 0 => σ
  | depth + 1 => Held (Nest σ depth)

/-- The source at the end of a chain of so many handles. -/
def Source.behind (source : Source σ ι) : (depth : Nat) → Source (Nest σ depth) ι
  | 0 => source
  | depth + 1 => (source.behind depth).through

/-- A state put behind a chain of handles, the outermost first. -/
def Nest.hold (state : σ) : (handles : List Handle) → Nest σ handles.length
  | [] => state
  | handle :: handles => (⟨handle, hold state handles⟩ : Held (Nest σ handles.length))

end SeedGate
