/-!
# Splitting

A text is split at every occurrence of a character into the pieces between
them. Joining the pieces with that character gives the text back
(`join_split`), so the pieces say exactly what the text says. Lines are pieces too,
but for the carriage return that may end them (`lines`).
-/

namespace SeedGate.Text

/-- The pieces of a text between the occurrences of a character, one more than
    there are occurrences. -/
def split (mark : Char) : List Char → List (List Char)
  | [] => [[]]
  | c :: cs =>
    if c = mark then [] :: split mark cs
    else
      match split mark cs with
      | [] => [[c]]
      | piece :: pieces => (c :: piece) :: pieces

/-- A line without the carriage return that may end it. -/
def withoutReturn : List Char → List Char
  | [] => []
  | ['\r'] => []
  | c :: cs => c :: withoutReturn cs

/-- The lines of a text. A line feed, or a carriage return and a line feed, stands
    between each and the next, and after the last. -/
def lines (s : String) : List String :=
  (split '\n' s.toList).map fun line => String.ofList (withoutReturn line)

/-- The pieces with a character between each and the next. -/
def join (between : Char) : List (List Char) → List Char
  | [] => []
  | [piece] => piece
  | piece :: pieces => piece ++ between :: join between pieces

theorem split_ne_nil (c : Char) (cs : List Char) : split c cs ≠ [] := by
  cases cs with
  | nil => simp [split]
  | cons a as =>
    rw [split]
    split
    · simp
    · split <;> simp

/-- Joining the pieces of a text gives it back. -/
@[simp] theorem join_split (c : Char) (cs : List Char) : join c (split c cs) = cs := by
  induction cs with
  | nil => rfl
  | cons a as ih =>
    rw [split]
    split
    · rename_i h
      cases hs : split c as with
      | nil => exact absurd hs (split_ne_nil c as)
      | cons piece pieces =>
        rw [hs] at ih
        simp [join, ih, h]
    · cases hs : split c as with
      | nil => exact absurd hs (split_ne_nil c as)
      | cons piece pieces =>
        rw [hs] at ih
        cases pieces with
        | nil => simpa [join] using ih
        | cons next pieces => simpa [join] using ih

/-- The first piece is what the text begins with. -/
theorem isPrefix_of_head?_split {mark : Char} {cs piece : List Char}
    (h : (split mark cs).head? = some piece) : piece <+: cs := by
  rw [← join_split mark cs]
  cases hpieces : split mark cs with
  | nil => exact absurd hpieces (split_ne_nil mark cs)
  | cons first pieces =>
    rw [hpieces] at h
    obtain rfl := Option.some.inj h
    cases pieces with
    | nil => exact List.prefix_refl _
    | cons => exact List.prefix_append _ _

/-- Without the mark there is one piece. -/
theorem split_of_not_mem {mark : Char} {cs : List Char} (h : mark ∉ cs) : split mark cs = [cs] := by
  induction cs with
  | nil => rfl
  | cons c cs ih =>
    rw [List.mem_cons, not_or] at h
    rw [split, if_neg (Ne.symm h.1), ih h.2]

end SeedGate.Text
