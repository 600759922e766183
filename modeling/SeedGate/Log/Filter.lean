import SeedGate.Log.Pattern
import SeedGate.Log.Record
import SeedGate.Text.Alphanumeric
import SeedGate.Text.Blank
import SeedGate.Text.Split
import SeedGate.Text.Utf8

/-!
# Filters

Which records of a log are shown is decided by a list of `Directive`s, each of
which sets a threshold for the topics that begin in some way and, possibly, for
records with a certain field. Of the directives that concern a record the most
specific one counts (`Filter.admits`); what none concerns is not shown.

In text, directives are separated by commas (`Filter.ofText?`). A directive is a
level, a topic, or a topic and a level with an equals sign between them. Brackets
after the topic restrict it to a span of time, or to a field in braces, perhaps with
what its value has to be like; there are no spans, and only these have values, so a
directive about one or the other says nothing.

The program only passes on what its variable says. The directives, and the patterns in
them, are those of the package that writes its log.
-/

namespace SeedGate.Log

open Text

/-- What is shown: nothing, or levels up to some level. -/
inductive Threshold where
  | off
  | upTo (level : Level)
  deriving DecidableEq, Repr

namespace Threshold

/-- A level lies within a threshold. -/
def admits : Threshold → Level → Bool
  | .off, _ => false
  | .upTo most, level => level.rank ≤ most.rank

/-- All thresholds, each with its name, in the order of their numbers. -/
def named : List (String × Threshold) :=
  [("off", .off), ("error", .upTo .error), ("warn", .upTo .warn), ("info", .upTo .info),
    ("debug", .upTo .debug), ("trace", .upTo .trace)]

/-- The threshold of a number, which a plus sign may precede. -/
def ofNumber? (cs : List Char) : Option Threshold :=
  let digits := match cs with
    | '+' :: rest => rest
    | _ => cs
  if digits.isEmpty || !digits.all isDigit then none
  else (named[digits.foldl (fun n c => n * 10 + (c.toNat - '0'.toNat)) 0]?).map (·.2)

/-- The threshold of a name or a number. -/
def ofText? (cs : List Char) : Option Threshold :=
  match ofNumber? cs with
  | some t => some t
  | none => (named.find? fun (name, _) => sameIgnoringCase name.toList cs).map (·.2)

end Threshold

/-- A threshold for some records. -/
structure Directive where
  /-- What the topics begin with. -/
  topic? : Option (List Char)
  /-- A field that the records have. -/
  field? : Option (List Char)
  /-- What is shown of them. -/
  threshold : Threshold
  deriving DecidableEq, Repr

namespace Directive

/-- The directive is about such a record. -/
def concerns (d : Directive) (r : Record) : Bool :=
  (d.topic?.all fun topic => startsWith r.topic.toList topic) &&
    d.field?.all fun field => r.fields.contains (String.ofList field)

/-- A directive is at least as specific as another if its topic is longer or, the
    topics being equally long, its field is not of lower order. -/
def isAsSpecificAs (d e : Directive) : Bool :=
  let size (topic? : Option (List Char)) : Nat := topic?.elim 0 fun topic => topic.length + 1
  let a := size d.topic?
  let b := size e.topic?
  if a = b then
    match d.field?, e.field? with
    | _, none => true
    | none, some _ => false
    | some f, some g => decide (String.ofList g ≤ String.ofList f)
  else b < a

/-! ## Reading -/

/-- A character with which a directive can begin, other than a bracket. -/
def canBegin (c : Char) : Bool := c == '-' || c == ':' || c == '_' || isAlphanumeric c

/-- How many bytes a text takes. -/
def size (cs : List Char) : Nat := (Utf8.encode cs).length

/-- The text between two positions of a directive, in bytes, if characters end there. -/
def slice? (directive : List Char) (first last : Nat) : Option (List Char) :=
  Utf8.decode? (((Utf8.encode directive).take last).drop first)

/-- The threshold that stands in a directive from a position on; the greatest if
    nothing does. -/
def thresholdFrom (directive : List Char) (position : Nat) : Option Threshold := do
  match ← slice? directive position (size directive) with
  | [] => some (.upTo .trace)
  | cs => Threshold.ofText? cs

/-- The name of a field, unless a value is required of it; nothing if it is malformed. -/
def readField (field : List Char) : Option (Option (List Char)) :=
  match split '=' field with
  | _ :: value :: _ => if Pattern.isComparable value then some none else none
  | _ => some (some field)

/-- Reads a directive with brackets, the position being that after the opening one and
    `rest` what follows it. A span, or a field with a value, is nothing that a record
    could have. -/
def readBracketed (directive : List Char) (topic? : Option (List Char)) (position : Nat)
    (rest : List Char) : Option (Option Directive) := do
  let (span, rest) := rest.span fun c => c != ']' && c != '{'
  let opened := position + size span + 1
  let (field?, closed, rest) ← match rest with
    | ']' :: rest => some (none, opened, rest)
    | '{' :: rest =>
      let (field, rest) := rest.span (· != '}')
      match field, rest with
      | [], _ => none
      | _, '}' :: ']' :: rest => do
        let field? ← readField (← slice? directive opened (opened + size field))
        some (field?, opened + size field + 2, rest)
      | _, _ => none
    | _ => none
  let threshold ← match rest with
    | [] => some (.upTo .trace)
    | '=' :: _ => thresholdFrom directive (closed + 1)
    | _ => none
  match span, field? with
  | [], some field => return some ⟨topic?, some field, threshold⟩
  | _, _ => return none

/-- Reads a directive. Blanks around it do not count in finding its parts, but the
    parts are taken from where they would be without the leading ones. Nothing if
    it is malformed, and no directive if it is about spans. -/
def read (directive : List Char) : Option (Option Directive) :=
  match trim directive with
  | [] => none
  | '[' :: rest => readBracketed directive none 1 rest
  | c :: cs =>
    if !canBegin c then none
    else do
      let (name, rest) := (c :: cs).span fun c => c != '=' && c != '['
      match rest with
      | [] =>
        match Threshold.ofText? directive with
        | some threshold => return some ⟨none, none, threshold⟩
        | none => return some ⟨some directive, none, .upTo .trace⟩
      | mark :: rest =>
        let topic ← slice? directive 0 (size name)
        if mark = '=' then
          let threshold ← thresholdFrom directive (size name + 1)
          return some ⟨some topic, none, threshold⟩
        else readBracketed directive (some topic) (size name + 1) rest

end Directive

/-- Directives, in the order in which they were given. -/
abbrev Filter := List Directive

namespace Filter

/-- Errors and warnings of all topics. -/
def standard : Filter := [⟨none, none, .upTo .warn⟩]

/-- The directive that counts for a record: the most specific one, and the last of
    several equally specific ones. -/
def decisive? (filter : Filter) (r : Record) : Option Directive :=
  (filter.filter (·.concerns r)).foldl
    (fun best? d =>
      match best? with
      | some best => if d.isAsSpecificAs best then some d else best?
      | none => some d)
    none

/-- A record is shown. -/
def admits (filter : Filter) (r : Record) : Bool :=
  (filter.decisive? r).any fun d => d.threshold.admits r.level

/-- Reads a filter; nothing if one of its directives is malformed. -/
def ofText? (cs : List Char) : Option Filter :=
  (((split ',' cs).filter (!·.isEmpty)).mapM Directive.read).map fun ds => ds.filterMap id

end Filter

end SeedGate.Log
