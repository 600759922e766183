import SeedGate.Json.Scan

/-!
# The grammar of JSON

What a JSON text denotes is a `Value`, and a value has many spellings: blanks stand
wherever they may, characters of a string may be escaped in several ways, and members of
an object come in any order, each as often as it likes. `Spells` says which texts spell
which values, with one rule for each way in which a text may go on. Of a number not the
value is kept but the parts of its literal, as `5`, `5.0` and `5e0` are different literals.

The rules are about whole texts and know nothing of scanning. Surrogates that are
written as escapes always come in pairs, and nothing limits how deep values lie inside
one another.
-/

namespace SeedGate.Json

/-- A value; numbers are literals, with or without a minus sign. -/
inductive Value where
  | null
  | boolean (b : Bool)
  | number (negative : Bool) (parts : Parts)
  | string (text : List Char)
  | array (elements : List Value)
  | object (members : List (List Char × Value))

/-- The text consists of blanks. -/
def Blanks (cs : List Char) : Prop := ∀ c ∈ cs, isBlank c = true

/-! ## Strings -/

/-- The short escapes: the character after the backslash, and the one it stands for. -/
def escapes : List (Char × Char) :=
  [('"', '"'), ('\\', '\\'), ('/', '/'), ('b', '\x08'), ('f', '\x0c'), ('n', '\n'), ('r', '\r'),
    ('t', '\t')]

/-- The text spells a character of a string. -/
inductive SpellsChar : List Char → Char → Prop
  /-- The character stands for itself. -/
  | plain {c : Char} (hcontrol : 0x20 ≤ c.toNat) (hquote : c ≠ '"') (hslash : c ≠ '\\') :
      SpellsChar [c] c
  /-- A short escape. -/
  | escape {c e : Char} (h : (c, e) ∈ escapes) : SpellsChar ['\\', c] e
  /-- An escape by the number of the character. -/
  | code {a b c d : Char} {n : Nat} (h : Hex.number? [a, b, c, d] = some n)
      (hn : n < 0xD800 ∨ 0xDFFF < n) : SpellsChar ['\\', 'u', a, b, c, d] (Char.ofNat n)
  /-- Two escapes by the numbers of the surrogates of the character. -/
  | surrogates {a b c d a' b' c' d' : Char} {m n : Nat} (hhigh : Hex.number? [a, b, c, d] = some m)
      (hm : 0xD800 ≤ m ∧ m < 0xDC00) (hlow : Hex.number? [a', b', c', d'] = some n)
      (hn : 0xDC00 ≤ n ∧ n ≤ 0xDFFF) :
      SpellsChar ['\\', 'u', a, b, c, d, '\\', 'u', a', b', c', d']
        (Char.ofNat (0x10000 + (m - 0xD800) * 0x400 + (n - 0xDC00)))

/-- What stands between the quotes spells the text. -/
inductive SpellsText : List Char → List Char → Prop
  | nil : SpellsText [] []
  | cons {cs rest text : List Char} {c : Char} (h : SpellsChar cs c)
      (hrest : SpellsText rest text) : SpellsText (cs ++ rest) (c :: text)

/-! ## Numbers -/

/-- Digits, one at least. -/
structure Digits (ds : List Char) : Prop where
  ne_nil : ds ≠ []
  all_isDigit : ∀ d ∈ ds, Text.isDigit d = true

/-- Digits of which the first is not zero, or a single zero. -/
inductive Whole : List Char → Prop
  | zero : Whole ['0']
  | digits {d : Char} {ds : List Char} (h : Digits (d :: ds)) (hzero : d ≠ '0') : Whole (d :: ds)

/-- A point and the digits after it, or nothing. -/
inductive SpellsFraction : List Char → Option (List Char) → Prop
  | absent : SpellsFraction [] none
  | present {ds : List Char} (h : Digits ds) : SpellsFraction ('.' :: ds) (some ds)

/-- The sign of an exponent; it tells whether the exponent is negative. -/
inductive SpellsSign : List Char → Bool → Prop
  | absent : SpellsSign [] false
  | plus : SpellsSign ['+'] false
  | minus : SpellsSign ['-'] true

/-- The exponent after its letter, or nothing. -/
inductive SpellsExponent : List Char → Option (Bool × List Char) → Prop
  | absent : SpellsExponent [] none
  | present {mark : Char} {sign ds : List Char} {down : Bool} (hmark : mark = 'e' ∨ mark = 'E')
      (hsign : SpellsSign sign down) (h : Digits ds) :
      SpellsExponent (mark :: sign ++ ds) (some (down, ds))

/-- The literal of a number without its minus sign. -/
inductive SpellsParts : List Char → Parts → Prop
  | intro {whole fraction exponent : List Char} {fraction? : Option (List Char)}
      {exponent? : Option (Bool × List Char)} (hwhole : Whole whole)
      (hfraction : SpellsFraction fraction fraction?)
      (hexponent : SpellsExponent exponent exponent?) :
      SpellsParts (whole ++ fraction ++ exponent) ⟨whole, fraction?, exponent?⟩

/-! ## Values -/

/-- What a stretch of text can spell. -/
inductive Phrase where
  /-- A value without blanks around it. -/
  | value (v : Value)
  /-- A value with blanks around it. -/
  | item (v : Value)
  /-- The elements of an array, with the commas between them. -/
  | elements (vs : List Value)
  /-- A member of an object. -/
  | member (name : List Char) (v : Value)
  /-- The members of an object, with the commas between them. -/
  | members (ms : List (List Char × Value))

/-- The text spells the phrase. -/
inductive Spells : List Char → Phrase → Prop
  | null : Spells ['n', 'u', 'l', 'l'] (.value .null)
  | true : Spells ['t', 'r', 'u', 'e'] (.value (.boolean true))
  | false : Spells ['f', 'a', 'l', 's', 'e'] (.value (.boolean false))
  | natural {cs : List Char} {p : Parts} (h : SpellsParts cs p) :
      Spells cs (.value (.number false p))
  | negative {cs : List Char} {p : Parts} (h : SpellsParts cs p) :
      Spells ('-' :: cs) (.value (.number true p))
  | string {cs text : List Char} (h : SpellsText cs text) :
      Spells ('"' :: cs ++ ['"']) (.value (.string text))
  | noElements {blanks : List Char} (h : Blanks blanks) :
      Spells ('[' :: blanks ++ [']']) (.value (.array []))
  | array {cs : List Char} {vs : List Value} (h : Spells cs (.elements vs)) :
      Spells ('[' :: cs ++ [']']) (.value (.array vs))
  | noMembers {blanks : List Char} (h : Blanks blanks) :
      Spells ('{' :: blanks ++ ['}']) (.value (.object []))
  | object {cs : List Char} {ms : List (List Char × Value)} (h : Spells cs (.members ms)) :
      Spells ('{' :: cs ++ ['}']) (.value (.object ms))
  | item {before cs after : List Char} {v : Value} (hbefore : Blanks before)
      (h : Spells cs (.value v)) (hafter : Blanks after) : Spells (before ++ cs ++ after) (.item v)
  | lastElement {cs : List Char} {v : Value} (h : Spells cs (.item v)) : Spells cs (.elements [v])
  | element {cs rest : List Char} {v : Value} {vs : List Value} (h : Spells cs (.item v))
      (hrest : Spells rest (.elements vs)) : Spells (cs ++ ',' :: rest) (.elements (v :: vs))
  | member {before name text after cs : List Char} {v : Value} (hbefore : Blanks before)
      (hname : SpellsText name text) (hafter : Blanks after) (h : Spells cs (.item v)) :
      Spells (before ++ '"' :: name ++ '"' :: after ++ ':' :: cs) (.member text v)
  | lastMember {cs name : List Char} {v : Value} (h : Spells cs (.member name v)) :
      Spells cs (.members [(name, v)])
  | members {cs rest name : List Char} {v : Value} {ms : List (List Char × Value)}
      (h : Spells cs (.member name v)) (hrest : Spells rest (.members ms)) :
      Spells (cs ++ ',' :: rest) (.members ((name, v) :: ms))

end SeedGate.Json
