import Mathlib.Data.List.TakeWhile
import SeedGate.Json.Grammar
import SeedGate.Proofs.Decimals

/-!
# Scanning what is spelled

A scanner that meets a spelling of what it looks for takes exactly this spelling and says
what it denotes, whatever text comes after it; only after a number the text must not go
on as if it were part of the number (`Parted`).

* `string_of_spells`: a string is read as the text it spells, however its characters are
  escaped;
* `parts_of_spells`: a number is read in its parts;
* `passes_of_spells`: a value of any depth is passed over. Every round of passing over
  is paid for by a character, so that the rounds there are suffice (`skip_of_spells`).
-/

namespace SeedGate.Json

open Text

variable {cs rest text : List Char}

/-! ## Blanks -/

/-- Blanks are passed over, however many. -/
theorem skipBlanks_append {blanks : List Char} (h : Blanks blanks) (rest : List Char) :
    skipBlanks (blanks ++ rest) = skipBlanks rest :=
  List.dropWhile_append_of_pos h

/-- Passing over blanks ends at the first character that is none. -/
theorem skipBlanks_cons {c : Char} (h : isBlank c = false) (rest : List Char) :
    skipBlanks (c :: rest) = c :: rest :=
  List.dropWhile_cons_of_neg (by simp [h])

/-! ## Strings -/

/-- Every short escape is read as what it stands for, and none is taken for that of a code. -/
theorem escape?_of_mem {c e : Char} (h : (c, e) ∈ escapes) : escape? c = some e ∧ c ≠ 'u' := by
  have hall : ∀ p ∈ escapes, escape? p.1 = some p.2 ∧ p.1 ≠ 'u' := by decide
  exact hall _ h

/-- A spelling of a character is read as one or two units, and these denote it. -/
theorem units_of_spellsChar {c : Char} (h : SpellsChar cs c) :
    ∃ spelled : List StringUnit,
      (∀ rest us after, units rest = some (us, after) →
        units (cs ++ rest) = some (spelled ++ us, after)) ∧
      ∀ us text, characters us = some text → characters (spelled ++ us) = some (c :: text) := by
  cases h with
  | plain hcontrol hquote hslash =>
    refine ⟨[.char c], fun rest us after hrest => ?_, fun us text hus => ?_⟩
    · rw [List.singleton_append, units, if_neg (Nat.not_lt.2 hcontrol), hrest]
      · rfl
      · exact hquote
      · exact fun _ _ _ _ _ hc => absurd hc hslash
      · exact fun _ _ hc => absurd hc hslash
    · rw [List.singleton_append, characters, hus]
      rfl
  | @escape d e hmem =>
    obtain ⟨hescape, hu⟩ := escape?_of_mem hmem
    refine ⟨[.char c], fun rest us after hrest => ?_, fun us text hus => ?_⟩
    · rw [List.cons_append, List.singleton_append, units, hescape]
      · simp [hrest]
      · exact fun _ _ _ _ _ hd => absurd hd hu
    · rw [List.singleton_append, characters, hus]
      rfl
  | @code a b c d n hn hrange =>
    refine ⟨[.code n], fun rest us after hrest => ?_, fun us text hus => ?_⟩
    · simp [units, hn, hrest]
    · rw [List.singleton_append, characters.eq_def]
      dsimp only
      rw [if_pos hrange, hus]
      rfl
  | @surrogates a b c d a' b' c' d' m n hhigh hm hlow hn =>
    refine ⟨[.code m, .code n], fun rest us after hrest => ?_, fun us text hus => ?_⟩
    · simp [units, hhigh, hlow, hrest]
    · have hsurrogate : ¬(m < 0xD800 ∨ 0xDFFF < m) := by omega
      rw [List.cons_append, List.singleton_append, characters, if_neg hsurrogate,
        if_pos ⟨hm.2, hn⟩, hus]
      rfl

/-- A string is read up to its quote, into units that denote the text. -/
theorem units_of_spells (h : SpellsText cs text) :
    ∃ us, (∀ rest, units (cs ++ '"' :: rest) = some (us, rest)) ∧ characters us = some text := by
  induction h with
  | nil => exact ⟨[], fun rest => by simp [units], rfl⟩
  | cons h _ ih =>
    obtain ⟨us, hunits, hcharacters⟩ := ih
    obtain ⟨spelled, hspelled, hdenoted⟩ := units_of_spellsChar h
    refine ⟨spelled ++ us, fun rest => ?_, hdenoted us _ hcharacters⟩
    rw [List.append_assoc]
    exact hspelled _ _ _ (hunits rest)

/-- A string is read as the text that it spells. -/
theorem string_of_spells (h : SpellsText cs text) (rest : List Char) :
    string (cs ++ '"' :: rest) = some (text, rest) := by
  obtain ⟨us, hunits, hcharacters⟩ := units_of_spells h
  rw [string, hunits]
  simp [hcharacters]

/-! ## Numbers -/

/-- The text does not go on like a number. -/
def Parted (rest : List Char) : Prop :=
  ∀ c ∈ rest.head?, isDigit c = false ∧ c ≠ '.' ∧ c ≠ 'e' ∧ c ≠ 'E'

theorem parted_cons {c : Char} (rest : List Char) (h : isDigit c = false := by decide)
    (hne : c ≠ '.' ∧ c ≠ 'e' ∧ c ≠ 'E' := by decide) : Parted (c :: rest) := by
  intro d hd
  obtain rfl := Option.some.inj hd
  exact ⟨h, hne⟩

/-- With blanks before it, a text does not go on like a number any more than without. -/
theorem parted_append {blanks : List Char} (h : Blanks blanks) (hrest : Parted rest) :
    Parted (blanks ++ rest) := by
  cases blanks with
  | nil => exact hrest
  | cons c blanks =>
    have hblank := h c List.mem_cons_self
    simp only [isBlank, Bool.or_eq_true, beq_iff_eq] at hblank
    rcases hblank with ((rfl | rfl) | rfl) | rfl <;> exact parted_cons _

theorem Digits.exists_cons {ds : List Char} (h : Digits ds) :
    ∃ d tail, ds = d :: tail ∧ isDigit d = true := by
  obtain ⟨d, tail, rfl⟩ := List.exists_cons_of_ne_nil h.ne_nil
  exact ⟨d, tail, rfl, h.all_isDigit d List.mem_cons_self⟩

theorem digits_of_whole {ds : List Char} (h : Whole ds) : Digits ds := by
  cases h with
  | zero => exact ⟨List.cons_ne_nil _ _, List.all_eq_true.1 rfl⟩
  | digits h => exact h

/-- A number begins with a digit. -/
theorem SpellsParts.exists_cons {p : Parts} (h : SpellsParts cs p) :
    ∃ d tail, cs = d :: tail ∧ isDigit d = true := by
  obtain ⟨hwhole⟩ := h
  obtain ⟨d, tail, rfl, hd⟩ := (digits_of_whole hwhole).exists_cons
  exact ⟨d, _, rfl, hd⟩

/-- Digits are taken off up to the first character that is none. -/
theorem span_digits {ds : List Char} (hds : Digits ds)
    (hrest : ∀ c ∈ rest.head?, isDigit c = false) : (ds ++ rest).span isDigit = (ds, rest) := by
  have hstop : rest.takeWhile isDigit = [] ∧ rest.dropWhile isDigit = rest := by
    cases rest with
    | nil => exact ⟨rfl, rfl⟩
    | cons c rest =>
      have hc : isDigit c = false := hrest c rfl
      simp [hc]
  rw [List.span_eq_takeWhile_dropWhile, List.takeWhile_append_of_pos hds.all_isDigit,
    List.dropWhile_append_of_pos hds.all_isDigit, hstop.1, hstop.2, List.append_nil]

/-- An exponent is read with its sign, which may be left out, and with all of its digits. -/
theorem exponent_of_spells {sign ds : List Char} {down : Bool} (hsign : SpellsSign sign down)
    (hds : Digits ds) (hrest : ∀ c ∈ rest.head?, isDigit c = false) :
    exponent (sign ++ ds ++ rest) = some ((down, ds), rest) := by
  -- After the sign there are the digits, and then something else.
  have hspan := span_digits hds hrest
  cases hsign with
  | absent =>
    obtain ⟨d, tail, rfl, hd⟩ := hds.exists_cons
    have hne (c : Char) (hc : isDigit c = false) : d ≠ c := by
      rintro rfl
      cases hd.symm.trans hc
    rw [List.cons_append] at hspan
    simp [exponent, hne '+' rfl, hne '-' rfl, hspan, -List.span_eq_takeWhile_dropWhile]
  | plus | minus => simp [exponent, hspan, hds.ne_nil, -List.span_eq_takeWhile_dropWhile]

/-- An exponent is read if there is one, and none is made out of what comes after the number. -/
theorem scale_of_spells {exponent? : Option (Bool × List Char)} (h : SpellsExponent cs exponent?)
    (hrest : Parted rest) : scale (cs ++ rest) = some (exponent?, rest) := by
  cases h with
  | absent =>
    rw [List.nil_append, scale.eq_def]
    split
    · exact absurd rfl (hrest _ rfl).2.2.1
    · exact absurd rfl (hrest _ rfl).2.2.2
    · rfl
  | present hmark hsign hds =>
    have hexponent := exponent_of_spells hsign hds fun c hc => (hrest c hc).1
    rw [List.cons_append, List.cons_append]
    rcases hmark with rfl | rfl <;> rw [scale, hexponent] <;> rfl

/-- With an exponent or without, what follows a fraction cannot be taken for more of it. -/
theorem head?_exponent {exponent? : Option (Bool × List Char)} (h : SpellsExponent cs exponent?)
    (hrest : Parted rest) : ∀ c ∈ (cs ++ rest).head?, isDigit c = false ∧ c ≠ '.' := by
  cases h with
  | absent => exact fun c hc => ⟨(hrest c hc).1, (hrest c hc).2.1⟩
  | present hmark =>
    intro c hc
    obtain rfl := Option.some.inj hc
    rcases hmark with rfl | rfl <;> decide

/-- A fraction is read if there is one, and all of its digits. -/
theorem fraction_of_spells {fraction? : Option (List Char)} (h : SpellsFraction cs fraction?)
    (hrest : ∀ c ∈ rest.head?, isDigit c = false ∧ c ≠ '.') :
    fraction (cs ++ rest) = some (fraction?, rest) := by
  cases h with
  | absent =>
    rw [List.nil_append, fraction.eq_def]
    split
    · exact absurd rfl (hrest _ rfl).2
    · rfl
  | present hds =>
    rw [List.cons_append, fraction, span_digits hds fun c hc => (hrest c hc).1]
    simp [hds.ne_nil]

/-- With a fraction or without, what follows the whole digits is no further one. -/
theorem head?_fraction {fraction? : Option (List Char)} (h : SpellsFraction cs fraction?)
    (hrest : ∀ c ∈ rest.head?, isDigit c = false) :
    ∀ c ∈ (cs ++ rest).head?, isDigit c = false := by
  cases h with
  | absent => exact hrest
  | present =>
    intro c hc
    obtain rfl := Option.some.inj hc
    rfl

/-- A number is read in the parts that it spells. -/
theorem parts_of_spells {p : Parts} (h : SpellsParts cs p) (hrest : Parted rest) :
    parts (cs ++ rest) = some (p, rest) := by
  obtain ⟨hwhole, hfraction, hexponent⟩ := h
  -- The parts are taken off one after the other, and each ends where the next begins.
  have hscale := scale_of_spells hexponent hrest
  have hpoint := head?_exponent hexponent hrest
  have hfraction' := fraction_of_spells hfraction hpoint
  have hspan := span_digits (digits_of_whole hwhole)
    (head?_fraction hfraction fun c hc => (hpoint c hc).1)
  rw [List.append_assoc, List.append_assoc, parts, hspan]
  dsimp only
  split
  · cases hwhole
  · cases hwhole with
    | digits _ hzero => exact absurd rfl hzero
  · rw [hfraction', Option.bind_eq_bind, Option.bind_some, hscale]
    rfl

/-! ## How phrases begin -/

/-- How a phrase begins: not with what would close the brackets around it. -/
def Opens (cs : List Char) : Phrase → Prop
  | .value _ => ∃ c tail, cs = c :: tail ∧ isBlank c = false ∧ c ≠ ']'
  | .item _ | .elements _ => ∀ rest, ∃ c tail, skipBlanks (cs ++ rest) = c :: tail ∧ c ≠ ']'
  | .member .. | .members _ => ∀ rest, ∃ tail, skipBlanks (cs ++ rest) = '"' :: tail

/-- No phrase begins with what would close the brackets around it. -/
theorem opens_of_spells {phrase : Phrase} (h : Spells cs phrase) : Opens cs phrase := by
  induction h with
  | null | true | false | negative | string | noElements | array | noMembers | object =>
    exact ⟨_, _, rfl, by decide, by decide⟩
  | natural h =>
    obtain ⟨d, tail, rfl, hd⟩ := h.exists_cons
    have hall := of_isDigit (fun d => !isBlank d && d != ']') (by decide) hd
    simp only [Bool.and_eq_true, Bool.not_eq_true', bne_iff_ne] at hall
    exact ⟨d, tail, rfl, hall⟩
  | item hbefore _ hafter ih =>
    intro rest
    obtain ⟨c, tail, rfl, hblank, hne⟩ := ih
    rw [List.append_assoc, List.append_assoc, skipBlanks_append hbefore, List.cons_append,
      skipBlanks_cons hblank]
    exact ⟨c, _, rfl, hne⟩
  | member hbefore =>
    intro rest
    simp only [List.append_assoc, List.cons_append]
    rw [skipBlanks_append hbefore, skipBlanks_cons (by decide)]
    exact ⟨_, rfl⟩
  | lastElement _ ih | lastMember _ ih => exact ih
  | element _ _ ih | members _ _ ih =>
    intro rest
    rw [List.append_assoc]
    exact ih _

/-! ## Passing over -/

/-- Blanks before a value do not take a round of their own. -/
theorem skipWithin_blanks {blanks : List Char} (h : Blanks blanks) (fuel : Nat)
    (around : List Bracket) (cs : List Char) :
    skipWithin fuel around (blanks ++ cs) = skipWithin fuel around cs := by
  cases fuel with
  | zero => rfl
  | succ fuel => rw [skipWithin, skipWithin, skipBlanks_append h]

/-- Neither do those after it, before a comma or a closing bracket. -/
theorem close_blanks {blanks : List Char} (h : Blanks blanks) (fuel : Nat) (bracket : Bracket)
    (around : List Bracket) (cs : List Char) :
    skipWithin.close fuel (bracket :: around) (blanks ++ cs) =
      skipWithin.close fuel (bracket :: around) cs := by
  cases fuel with
  | zero => rfl
  | succ fuel => simp only [skipWithin.close, skipBlanks_append h]

/-- A name is passed over together with its colon, and with the blanks around it. -/
theorem skipName_of_spells {before name after : List Char} (hbefore : Blanks before)
    (hname : SpellsText name text) (hafter : Blanks after) (rest : List Char) :
    skipName (before ++ '"' :: (name ++ '"' :: (after ++ ':' :: rest))) = some rest := by
  obtain ⟨us, hunits, -⟩ := units_of_spells hname
  rw [skipName, skipBlanks_append hbefore, skipBlanks_cons (by decide)]
  simp only [hunits, Option.bind_eq_bind, Option.bind_some]
  rw [skipBlanks_append hafter, skipBlanks_cons (by decide)]
  rfl

section

variable (fuel : Nat) (around : List Bracket) (rest : List Char)

/-- A number is passed over in one round, whichever digit it begins with. -/
theorem skipWithin_number {p : Parts} (h : SpellsParts cs p) (hrest : Parted rest) :
    skipWithin (fuel + 1) around (cs ++ rest) = skipWithin.close fuel around rest := by
  have hparts := parts_of_spells h hrest
  obtain ⟨d, tail, rfl, hd⟩ := h.exists_cons
  have hmem := mem_of_isDigit hd
  simp only [List.mem_cons, List.not_mem_nil, or_false] at hmem
  rw [List.cons_append] at hparts ⊢
  -- The first character tells what sort of value it is, and so for each of the ten digits.
  rcases hmem with rfl | rfl | rfl | rfl | rfl | rfl | rfl | rfl | rfl | rfl
  all_goals
    rw [skipWithin, skipBlanks_cons (by decide)]
    simp [hparts, hd]

/-- An array with elements is opened in one round; the first element comes next. -/
theorem skipWithin_array {vs : List Value} (hopens : Opens cs (.elements vs)) :
    skipWithin (fuel + 1) around ('[' :: (cs ++ rest)) =
      skipWithin fuel (.array :: around) (cs ++ rest) := by
  obtain ⟨c, tail, hskip, hc⟩ := hopens rest
  rw [skipWithin, skipBlanks_cons (by decide)]
  simp only [hskip]
  split
  · rename_i heq
    exact absurd (List.cons.inj heq).1 hc
  · rfl

/-- An object with members is opened in one round, and the first name passed over in it. -/
theorem skipWithin_object {ms : List (List Char × Value)} (hopens : Opens cs (.members ms)) :
    skipWithin (fuel + 1) around ('{' :: (cs ++ rest)) =
      (skipName (cs ++ rest)).bind (skipWithin fuel (.object :: around)) := by
  obtain ⟨tail, hskip⟩ := hopens rest
  rw [skipWithin, skipBlanks_cons (by decide)]
  simp only [hskip]
  rfl

/-- A comma in an array takes a round, after which an element is due. -/
theorem close_array_comma :
    skipWithin.close (fuel + 1) (.array :: around) (',' :: rest) =
      skipWithin fuel (.array :: around) rest := rfl

/-- The end of an array takes a round, and then the brackets around it are gone on with. -/
theorem close_array_end :
    skipWithin.close (fuel + 1) (.array :: around) (']' :: rest) =
      skipWithin.close fuel around rest := rfl

/-- A comma in an object takes a round, after which a name and its value are due. -/
theorem close_object_comma :
    skipWithin.close (fuel + 1) (.object :: around) (',' :: rest) =
      (skipName rest).bind (skipWithin fuel (.object :: around)) := rfl

theorem close_object_end :
    skipWithin.close (fuel + 1) (.object :: around) ('}' :: rest) =
      skipWithin.close fuel around rest := rfl

end

/-- A phrase is passed over in so many rounds as it has characters, or one more if what
    closes the brackets around it is passed over too; and all else goes on after it. -/
def Passes (cs : List Char) : Phrase → Prop
  | .value _ => ∃ k ≤ cs.length, ∀ fuel around rest, Parted rest →
      skipWithin (fuel + k) around (cs ++ rest) = skipWithin.close fuel around rest
  | .item _ => ∃ k ≤ cs.length, ∀ fuel bracket around rest, Parted rest →
      skipWithin (fuel + k) (bracket :: around) (cs ++ rest) =
        skipWithin.close fuel (bracket :: around) rest
  | .elements _ => ∃ k ≤ cs.length + 1, ∀ fuel around rest,
      skipWithin (fuel + k) (.array :: around) (cs ++ ']' :: rest) =
        skipWithin.close fuel around rest
  | .member .. => ∃ k ≤ cs.length, ∀ fuel around rest, Parted rest →
      (skipName (cs ++ rest)).bind (skipWithin (fuel + k) (.object :: around)) =
        skipWithin.close fuel (.object :: around) rest
  | .members _ => ∃ k ≤ cs.length + 1, ∀ fuel around rest,
      (skipName (cs ++ '}' :: rest)).bind (skipWithin (fuel + k) (.object :: around)) =
        skipWithin.close fuel around rest

/-- Whatever is spelled can be passed over. -/
theorem passes_of_spells {phrase : Phrase} (h : Spells cs phrase) : Passes cs phrase := by
  induction h with
  | null | true | false =>
    refine ⟨1, by simp, fun fuel around rest _ => ?_⟩
    simp [skipWithin, skipBlanks, isBlank, word, startsWith]
  | natural h =>
    obtain ⟨d, tail, rfl, -⟩ := h.exists_cons
    exact ⟨1, by simp, fun fuel around rest hrest => skipWithin_number fuel around rest h hrest⟩
  | negative h =>
    refine ⟨1, by simp, fun fuel around rest hrest => ?_⟩
    rw [List.cons_append, skipWithin, skipBlanks_cons (by decide)]
    simp [parts_of_spells h hrest]
  | string h =>
    obtain ⟨us, hunits, -⟩ := units_of_spells h
    refine ⟨1, by simp, fun fuel around rest _ => ?_⟩
    rw [List.append_assoc, List.cons_append, skipWithin, skipBlanks_cons (by decide)]
    simp [hunits]
  | noElements h | noMembers h =>
    refine ⟨1, by simp, fun fuel around rest _ => ?_⟩
    rw [List.append_assoc, List.cons_append, skipWithin, skipBlanks_cons (by decide)]
    simp only [skipBlanks_append h, List.singleton_append]
    rfl
  | array h ih =>
    obtain ⟨k, hk, ih⟩ := ih
    refine ⟨k + 1, by simpa using hk, fun fuel around rest _ => ?_⟩
    rw [List.append_assoc, List.cons_append, ← Nat.add_assoc,
      skipWithin_array _ _ _ (opens_of_spells h)]
    exact ih fuel around rest
  | object h ih =>
    obtain ⟨k, hk, ih⟩ := ih
    refine ⟨k + 1, by simpa using hk, fun fuel around rest _ => ?_⟩
    rw [List.append_assoc, List.cons_append, ← Nat.add_assoc,
      skipWithin_object _ _ _ (opens_of_spells h)]
    exact ih fuel around rest
  | item hbefore _ hafter ih =>
    obtain ⟨k, hk, ih⟩ := ih
    refine ⟨k, by simp; omega, fun fuel bracket around rest hrest => ?_⟩
    rw [List.append_assoc, List.append_assoc, skipWithin_blanks hbefore,
      ih _ _ _ (parted_append hafter hrest), close_blanks hafter]
  | lastElement _ ih =>
    obtain ⟨k, hk, ih⟩ := ih
    refine ⟨1 + k, by omega, fun fuel around rest => ?_⟩
    rw [← Nat.add_assoc, ih _ _ _ _ (parted_cons _), close_array_end]
  | element _ _ ih ihrest =>
    obtain ⟨k, hk, ih⟩ := ih
    obtain ⟨l, hl, ihrest⟩ := ihrest
    refine ⟨l + 1 + k, by simp; omega, fun fuel around rest => ?_⟩
    rw [List.append_assoc, List.cons_append, ← Nat.add_assoc, ih _ _ _ _ (parted_cons _),
      ← Nat.add_assoc, close_array_comma, ihrest]
  | member hbefore hname hafter _ ih =>
    obtain ⟨k, hk, ih⟩ := ih
    refine ⟨k, by simp; omega, fun fuel around rest hrest => ?_⟩
    simp only [List.append_assoc, List.cons_append]
    rw [skipName_of_spells hbefore hname hafter]
    exact ih fuel .object around rest hrest
  | lastMember _ ih =>
    obtain ⟨k, hk, ih⟩ := ih
    refine ⟨1 + k, by omega, fun fuel around rest => ?_⟩
    rw [← Nat.add_assoc, ih _ _ _ (parted_cons _), close_object_end]
  | members _ _ ih ihrest =>
    obtain ⟨k, hk, ih⟩ := ih
    obtain ⟨l, hl, ihrest⟩ := ihrest
    refine ⟨l + 1 + k, by simp; omega, fun fuel around rest => ?_⟩
    rw [List.append_assoc, List.cons_append, ← Nat.add_assoc, ih _ _ _ (parted_cons _),
      ← Nat.add_assoc, close_object_comma, ihrest]

/-- A value is passed over, with the blanks before it. -/
theorem skip_of_spells {v : Value} {before : List Char} (hbefore : Blanks before)
    (h : Spells cs (.value v)) (hrest : Parted rest) :
    skip (before ++ (cs ++ rest)) = some rest := by
  obtain ⟨k, hk, hpass⟩ := passes_of_spells h
  obtain ⟨fuel, hfuel⟩ : ∃ fuel, 2 * (before ++ (cs ++ rest)).length + 1 = fuel + k :=
    Nat.exists_eq_add_of_le' (by simp; omega)
  rw [skip, hfuel, skipWithin_blanks hbefore, hpass _ _ _ hrest, skipWithin.close]

end SeedGate.Json
