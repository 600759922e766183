import SeedGate.Config.Reading
import SeedGate.Proofs.Scanning

/-!
# Objects that hold a limit

What is read from the text of an object depends on what the text spells, and on nothing
else. The members are read one after the other (`Config.afterMember`): one of another
name changes nothing, whatever its value; one that has the name of the limit says what
the limit is, if it is the first to do so and its value is a natural number
(`Json.Value.natural?`), one whose literal consists of digits that 64 bits can hold.

* `ofJson_of_spells`: an object is read as the configuration that its members make;
* `foldlM_afterMember_none`: they make one exactly if just one of them has the name of the
  limit, and says what it is.
-/

namespace SeedGate

open Json
open Text (isDigit mem_of_isDigit)

namespace Json

/-! ## Natural numbers -/

/-- The number that digits denote, after others that denote `n`. -/
abbrev decimalFrom (n : Nat) (digits : List Char) : Nat :=
  digits.foldl (fun n c => n * 10 + digitValue c) n

theorem le_decimalFrom (n : Nat) (digits : List Char) : n ≤ decimalFrom n digits := by
  induction digits generalizing n with
  | nil => exact Nat.le_refl n
  | cons c cs ih => exact Nat.le_trans (by omega) (ih (n * 10 + digitValue c))

/-- All digits are gathered exactly if 64 bits can hold their number. -/
theorem gather_eq_iff {s n : Nat} {digits : List Char} (hs : s < UInt64.size) :
    gather s digits = (n, []) ↔ decimalFrom s digits = n ∧ n < UInt64.size := by
  induction digits generalizing s with
  | nil =>
    rw [gather, Prod.mk.injEq]
    constructor
    · rintro ⟨rfl, -⟩
      exact ⟨rfl, hs⟩
    · rintro ⟨h, -⟩
      exact ⟨h, rfl⟩
  | cons c cs ih =>
    rw [gather]
    split
    · rename_i hlonger
      exact ih hlonger
    · rename_i hlonger
      -- The number is too large already, and more digits do not make it smaller.
      refine iff_of_false nofun ?_
      rintro ⟨rfl, hlt⟩
      exact hlonger (Nat.lt_of_le_of_lt (le_decimalFrom _ cs) hlt)

theorem digits?_eq {ds : List Char} (h : Digits ds) :
    Decimal.digits? ds = some (decimalFrom 0 ds) := by
  have hall : ds.all isDigit = true := List.all_eq_true.2 h.all_isDigit
  rw [Decimal.digits?, hall]
  simp only [h.ne_nil, List.isEmpty_iff, Bool.not_true, Bool.or_false, if_false]
  rfl

/-- The number that a value is, if its literal consists of digits alone and 64 bits can hold
    it. -/
def Value.natural? : Value → Option Nat
  | .number false ⟨digits, none, none⟩ =>
    (Decimal.digits? digits).filter fun n => n < UInt64.size
  | _ => none

theorem Value.natural?_eq_some_iff {v : Value} {n : Nat} :
    v.natural? = some n ↔ ∃ digits, v = .number false ⟨digits, none, none⟩ ∧
      Decimal.digits? digits = some n ∧ n < UInt64.size := by
  rw [natural?.eq_def]
  split
  · simp [Option.filter_eq_some_iff]
  · rename_i hother
    refine iff_of_false nofun ?_
    rintro ⟨digits, rfl, -⟩
    exact hother digits rfl

/-- With a fraction or an exponent, a number is floating point. -/
theorem exists_float_of_value {p : Parts} {negative : Bool} {x : Number}
    (hscaled : p.fraction? ≠ none ∨ p.exponent? ≠ none) (h : p.value negative = some x) :
    ∃ y, x = .float y := by
  rw [Parts.value] at h
  split at h
  rename_i significand left _
  split at h
  · rename_i hfraction hexponent
    exact absurd hscaled (by simp [hfraction, hexponent])
  · dsimp only at h
    split at h
    · obtain ⟨y, -, rfl⟩ := Option.map_eq_some_iff.1 h
      exact ⟨y, rfl⟩
    · split_ifs at h
      · obtain ⟨y, -, rfl⟩ := Option.map_eq_some_iff.1 h
        exact ⟨y, rfl⟩
      · obtain ⟨y, -, rfl⟩ := Option.map_eq_some_iff.1 h
        exact ⟨y, rfl⟩
      · cases h
        exact ⟨_, rfl⟩

/-- Only digits alone denote a natural number, and only if all of them are gathered. -/
theorem value_eq_natural_iff {p : Parts} {negative : Bool} {n : Nat} :
    p.value negative = some (.natural n) ↔
      negative = false ∧ p.fraction? = none ∧ p.exponent? = none ∧ gather 0 p.whole = (n, []) := by
  by_cases hscaled : p.fraction? ≠ none ∨ p.exponent? ≠ none
  · refine iff_of_false (fun h => ?_) fun h => ?_
    · obtain ⟨y, hy⟩ := exists_float_of_value hscaled h
      cases hy
    · exact hscaled.elim (absurd h.2.1) (absurd h.2.2.1)
  · obtain ⟨hfraction, hexponent⟩ : p.fraction? = none ∧ p.exponent? = none := by
      simpa [not_or] using hscaled
    rw [Parts.value, hfraction, hexponent]
    generalize gather 0 p.whole = gathered
    obtain ⟨significand, left⟩ := gathered
    cases left with
    | nil =>
      cases negative with
      | false => simp
      | true =>
        dsimp only [List.isEmpty_nil]
        split_ifs <;> simp
    | cons => simp

/-- A number that is spelled denotes a natural number exactly if it is one. -/
theorem value_eq_natural_iff_natural? {cs : List Char} {p : Parts} (h : SpellsParts cs p)
    {negative : Bool} {n : Nat} :
    p.value negative = some (.natural n) ↔ (Value.number negative p).natural? = some n := by
  have hdigits : Digits p.whole := by
    obtain ⟨hwhole⟩ := h
    exact digits_of_whole hwhole
  rw [value_eq_natural_iff, gather_eq_iff (by decide), Value.natural?_eq_some_iff]
  obtain ⟨whole, fraction?, exponent?⟩ := p
  constructor
  · rintro ⟨rfl, rfl, rfl, rfl, hlt⟩
    exact ⟨whole, rfl, digits?_eq hdigits, hlt⟩
  · rintro ⟨digits, heq, hdenoted, hlt⟩
    cases heq
    exact ⟨rfl, rfl, rfl, Option.some.inj ((digits?_eq hdigits).symm.trans hdenoted), hlt⟩

end Json

namespace Config

variable {cs rest text : List Char} {n : Nat}

/-! ## The limit -/

theorem readLimit_eq_ok_iff : readLimit cs = .ok (n, rest) ↔ found cs = .ok (.natural n, rest) := by
  rw [readLimit]
  cases hfound : found cs with
  | error e => exact iff_of_false nofun nofun
  | ok p =>
    obtain ⟨f, after⟩ := p
    cases f with
    | natural m => simp [bind, Except.bind]
    | _ => exact iff_of_false nofun nofun

theorem found_blanks {blanks : List Char} (h : Blanks blanks) (cs : List Char) :
    found (blanks ++ cs) = found cs := by
  rw [found, found, skipBlanks_append h]

theorem number_of_spells {p : Parts} (h : SpellsParts cs p) (hrest : Parted rest)
    (negative : Bool) : number negative (cs ++ rest) = (p.value negative).map (·, rest) := by
  rw [number, parts_of_spells h hrest]
  cases hvalue : p.value negative <;> simp [hvalue]

/-- A natural number is found exactly where a number is one. -/
theorem map_ofNumber_eq_ok_iff {x? : Option (Number × List Char)} :
    ((scanned x?).map fun (x, rest) => (Found.ofNumber x, rest)) = .ok (.natural n, rest) ↔
      x? = some (.natural n, rest) := by
  cases x? with
  | none => exact iff_of_false nofun nofun
  | some x =>
    obtain ⟨x, after⟩ := x
    cases x with
    | natural m => simp [scanned, Except.map, Found.ofNumber]
    | _ => exact iff_of_false nofun nofun

theorem found_number (d : Char) (hd : isDigit d = true) (cs : List Char) :
    found (d :: cs) =
      (scanned (number false (d :: cs))).map fun (x, rest) => (.ofNumber x, rest) := by
  have hmem := mem_of_isDigit hd
  simp only [List.mem_cons, List.not_mem_nil, or_false] at hmem
  -- The first character tells what sort of value it is, and so for each of the ten digits.
  rcases hmem with rfl | rfl | rfl | rfl | rfl | rfl | rfl | rfl | rfl | rfl <;> rfl

/-- A natural number is found exactly where one is spelled. -/
theorem found_of_spells {v : Value} (h : Spells cs (.value v)) (hrest : Parted rest)
    {after : List Char} :
    found (cs ++ rest) = .ok (.natural n, after) ↔ v.natural? = some n ∧ after = rest := by
  have hnumber {p : Parts} {negative : Bool} {cs : List Char} (h : SpellsParts cs p) :
      ((scanned (number negative (cs ++ rest))).map fun (x, rest) => (Found.ofNumber x, rest)) =
        .ok (.natural n, after) ↔ (Value.number negative p).natural? = some n ∧ after = rest := by
    rw [map_ofNumber_eq_ok_iff, number_of_spells h hrest, ← value_eq_natural_iff_natural? h]
    simp [eq_comm]
  cases h with
  | natural h =>
    rw [← hnumber h]
    obtain ⟨d, tail, rfl, hd⟩ := h.exists_cons
    rw [List.cons_append, found_number d hd]
  | negative h => exact hnumber h
  | null | true | false | noElements | array | noMembers | object => exact iff_of_false nofun nofun
  | string h =>
    refine iff_of_false ?_ nofun
    rw [List.append_assoc, List.cons_append, found, skipBlanks_cons (by decide)]
    simp [string_of_spells h, scanned, Except.map]

/-- The limit is read from a value, with the blanks before it, exactly if it is a natural
    number. -/
theorem readLimit_of_spells {v : Value} {before after : List Char} (hbefore : Blanks before)
    (h : Spells cs (.value v)) (hrest : Parted rest) :
    readLimit (before ++ (cs ++ rest)) = .ok (n, after) ↔ v.natural? = some n ∧ after = rest := by
  rw [readLimit_eq_ok_iff, found_blanks hbefore, found_of_spells h hrest]

/-! ## Members -/

theorem bind_eq_ok_iff {ε α β : Type} {x : Except ε α} {f : α → Except ε β} {b : β} :
    (x >>= f) = .ok b ↔ ∃ a, x = .ok a ∧ f a = .ok b := by
  cases x with
  | error e => exact iff_of_false nofun fun ⟨_, h, _⟩ => nomatch h
  | ok a => exact ⟨fun h => ⟨a, rfl, h⟩, fun ⟨_, rfl, h⟩ => h⟩

/-- The limit as far as it is known after another member, unless that member does not fit. -/
def afterMember (limit? : Option Nat) (m : List Char × Value) : Option (Option Nat) :=
  if m.1 = limitName then (if limit?.isSome then none else m.2.natural?.map some) else some limit?

theorem colon_append {blanks : List Char} (h : Blanks blanks) (rest : List Char) :
    readMember.colon (blanks ++ ':' :: rest) = .ok rest := by
  rw [readMember.colon, skipBlanks_append h, skipBlanks_cons (by decide)]
  rfl

/-- The member of the limit makes it known. -/
theorem limitMember_of_spells {v : Value} {before after : List Char} {limit? : Option Nat}
    (hbefore : Blanks before) (h : Spells cs (.value v)) (hrest : Parted rest) :
    (do
      let (n, rest) ← readLimit (before ++ (cs ++ rest))
      return (some n, rest)) = Except.ok (limit?, after) ↔
      v.natural?.map some = some limit? ∧ after = rest := by
  rw [bind_eq_ok_iff]
  constructor
  · rintro ⟨⟨n, left⟩, hread, heq⟩
    cases heq
    obtain ⟨hn, rfl⟩ := (readLimit_of_spells hbefore h hrest).1 hread
    exact ⟨Option.map_eq_some_iff.2 ⟨n, hn, rfl⟩, rfl⟩
  · rintro ⟨hmap, rfl⟩
    obtain ⟨n, hn, rfl⟩ := Option.map_eq_some_iff.1 hmap
    exact ⟨(n, after), (readLimit_of_spells hbefore h hrest).2 ⟨hn, rfl⟩, rfl⟩

/-- A member is read up to the blanks after it. -/
theorem readMember_of_spells {name : List Char} {v : Value} (h : Spells cs (.member name v)) :
    ∃ blanks, Blanks blanks ∧ ∀ {limit? limit'? : Option Nat} {rest after : List Char},
      Parted rest → (readMember limit? (skipBlanks (cs ++ rest)) = .ok (limit'?, after) ↔
        afterMember limit? (name, v) = some limit'? ∧ after = blanks ++ rest) := by
  cases h with
  | member hbefore hname hcolon hitem =>
  cases hitem with
  | item hspace hvalue hafter =>
  refine ⟨_, hafter, fun {limit? limit'? rest after} hrest => ?_⟩
  have hparted := parted_append hafter hrest
  simp only [List.append_assoc, List.cons_append]
  rw [skipBlanks_append hbefore, skipBlanks_cons (by decide), readMember, string_of_spells hname,
    afterMember]
  simp only [scanned, bind, Except.bind, colon_append hcolon, skip_of_spells hspace hvalue hparted]
  split_ifs with hlimit hknown
  · exact iff_of_false nofun nofun
  · exact limitMember_of_spells hspace hvalue hparted
  · simp [pure, Except.pure, eq_comm]

/-- One member, with what comes after it. -/
theorem readMembers_succ_of_spells {name : List Char} {v : Value} (h : Spells cs (.member name v))
    {c : Char} (hc : c = ',' ∨ c = '}') {fuel : Nat} {limit? : Option Nat}
    {r : Option Nat × List Char} :
    readMembers (fuel + 1) limit? (skipBlanks (cs ++ c :: rest)) = .ok r ↔
      ∃ limit'?, afterMember limit? (name, v) = some limit'? ∧
        (if c = ',' then readMembers fuel limit'? (skipBlanks rest) else .ok (limit'?, rest)) =
          .ok r := by
  obtain ⟨blanks, hblanks, hread⟩ := readMember_of_spells h
  have hparted : Parted (c :: rest) := by
    rcases hc with rfl | rfl <;> exact parted_cons _
  have hskip : skipBlanks (blanks ++ c :: rest) = c :: rest := by
    rw [skipBlanks_append hblanks, skipBlanks_cons]
    rcases hc with rfl | rfl <;> rfl
  rw [readMembers, bind_eq_ok_iff]
  constructor
  · rintro ⟨⟨limit'?, left⟩, hmember, hgo⟩
    obtain ⟨hafter, rfl⟩ := (hread hparted).1 hmember
    refine ⟨limit'?, hafter, Eq.trans ?_ hgo⟩
    simp only [hskip]
    rcases hc with rfl | rfl <;> rfl
  · rintro ⟨limit'?, hafter, hgo⟩
    refine ⟨(limit'?, _), (hread hparted).2 ⟨hafter, rfl⟩, Eq.trans ?_ hgo⟩
    simp only [hskip]
    rcases hc with rfl | rfl <;> rfl

/-- The members of an object are read up to the brace after them, if there are rounds for
    all of them. -/
theorem readMembers_of_spells {ms : List (List Char × Value)} (h : Spells cs (.members ms))
    {fuel : Nat} (hfuel : ms.length ≤ fuel) {limit? limit'? : Option Nat} {after : List Char} :
    readMembers fuel limit? (skipBlanks (cs ++ '}' :: rest)) = .ok (limit'?, after) ↔
      ms.foldlM afterMember limit? = some limit'? ∧ after = rest := by
  induction ms generalizing cs fuel limit? with
  | nil => cases h
  | cons m ms ih =>
    obtain ⟨fuel, rfl⟩ : ∃ k, fuel = k + 1 := Nat.exists_eq_add_one_of_ne_zero (by
      rw [List.length_cons] at hfuel
      omega)
    rw [List.foldlM_cons, Option.bind_eq_bind, Option.bind_eq_some_iff, ← exists_and_right]
    cases h with
    | lastMember h =>
      rw [readMembers_succ_of_spells h (.inr rfl)]
      refine exists_congr fun limit''? => ?_
      rw [and_assoc, if_neg (by decide), List.foldlM_nil]
      simp [pure, eq_comm]
    | members h hrest =>
      rw [List.append_assoc, List.cons_append, readMembers_succ_of_spells h (.inl rfl)]
      refine exists_congr fun limit''? => ?_
      rw [and_assoc, if_pos rfl, ih hrest (Nat.le_of_succ_le_succ hfuel)]

/-- A member is longer than the blanks before it. -/
theorem length_lt_of_member {name : List Char} {v : Value} (h : Spells cs (.member name v)) :
    rest.length < (skipBlanks (cs ++ rest)).length := by
  cases h with
  | member hbefore =>
    simp only [List.append_assoc, List.cons_append]
    rw [skipBlanks_append hbefore, skipBlanks_cons (by decide)]
    simp
    omega

/-- There are as many characters as members at least. -/
theorem length_le_of_members {ms : List (List Char × Value)} (h : Spells cs (.members ms)) :
    ms.length ≤ (skipBlanks (cs ++ rest)).length := by
  induction ms generalizing cs with
  | nil => exact Nat.zero_le _
  | cons m ms ih =>
    cases h with
    | lastMember h => exact Nat.lt_of_le_of_lt (Nat.zero_le _) (length_lt_of_member h)
    | @members cs rest' _ _ _ h hrest =>
      rw [List.append_assoc]
      calc ms.length + 1 ≤ (skipBlanks (rest' ++ rest)).length + 1 := Nat.succ_le_succ (ih hrest)
        _ ≤ (',' :: rest' ++ rest).length :=
          Nat.succ_le_succ (List.dropWhile_suffix isBlank).length_le
        _ ≤ (skipBlanks (cs ++ (',' :: rest' ++ rest))).length :=
          Nat.le_of_lt (length_lt_of_member h)

/-! ## Objects -/

/-- After its opening brace an object is read up to its end. -/
theorem readObject_of_spells {ms : List (List Char × Value)} (h : Spells cs (.value (.object ms))) :
    ∃ inner, cs = '{' :: inner ∧ ∀ {rest after : List Char} {n : Nat},
      readObject (inner ++ rest) = .ok (n, after) ↔
        ms.foldlM afterMember none = some (some n) ∧ after = rest := by
  cases h with
  | noMembers hblanks =>
    rename_i blanks
    refine ⟨blanks ++ ['}'], rfl, fun {rest after n} => iff_of_false (fun hread => ?_) nofun⟩
    rw [readObject, List.append_assoc, skipBlanks_append hblanks] at hread
    cases hread
  | object h =>
    rename_i cs
    refine ⟨cs ++ ['}'], rfl, fun {rest after n} => ?_⟩
    have hfuel : ms.length ≤ (skipBlanks (cs ++ '}' :: rest)).length + 1 :=
      Nat.le_succ_of_le (length_le_of_members h)
    obtain ⟨tail, hskip⟩ := opens_of_spells h ('}' :: rest)
    have hread {limit? : Option Nat} {left : List Char} :
        readMembers (('"' :: tail).length + 1) none ('"' :: tail) = .ok (limit?, left) ↔
          ms.foldlM afterMember none = some limit? ∧ left = rest := by
      rw [← hskip]
      exact readMembers_of_spells h hfuel
    rw [readObject, List.append_assoc, List.singleton_append, hskip]
    refine bind_eq_ok_iff.trans ⟨?_, ?_⟩
    · rintro ⟨⟨limit?, left⟩, hmembers, hlimit⟩
      obtain ⟨hfold, rfl⟩ := hread.1 hmembers
      cases limit? with
      | none => cases hlimit
      | some m =>
        cases hlimit
        exact ⟨hfold, rfl⟩
    · rintro ⟨hfold, rfl⟩
      exact ⟨(some n, after), hread.2 ⟨hfold, rfl⟩, rfl⟩

/-- An object is read as the configuration that its members make, whatever blanks are
    around it. -/
theorem ofJson_of_spells {ms : List (List Char × Value)} (h : Spells text (.item (.object ms))) :
    ofJson text = .ok ⟨n⟩ ↔ ms.foldlM afterMember none = some (some n) := by
  cases h with
  | @item before cs after _ hbefore h hafter =>
    obtain ⟨inner, rfl, hread⟩ := readObject_of_spells h
    have hskip : skipBlanks after = [] := by
      rw [← List.append_nil after, skipBlanks_append hafter]
      rfl
    have hfound : found (before ++ '{' :: inner ++ after) = .ok (.map, inner ++ after) := by
      rw [List.append_assoc, found_blanks hbefore]
      rfl
    rw [ofJson, hfound]
    refine (bind_eq_ok_iff (x := readObject (inner ++ after))).trans ⟨?_, ?_⟩
    · rintro ⟨⟨m, left⟩, hobject, hend⟩
      obtain ⟨hfold, rfl⟩ := hread.1 hobject
      simp only [hskip] at hend
      cases hend
      exact hfold
    · intro hfold
      refine ⟨(n, after), hread.2 ⟨hfold, rfl⟩, ?_⟩
      simp only [hskip]

/-- Once the limit is known, it stays, and no other member may have its name. -/
theorem foldlM_afterMember_some {m : Nat} {limit? : Option Nat} {ms : List (List Char × Value)} :
    ms.foldlM afterMember (some m) = some limit? ↔
      ms.filter (·.1 = limitName) = [] ∧ limit? = some m := by
  induction ms with
  | nil => simp [pure, eq_comm]
  | cons member ms ih =>
    rw [List.foldlM_cons, afterMember]
    by_cases h : member.1 = limitName <;> simp [h, ih]

/-- The members make the limit known exactly if one of them does and it is the only one of
    its name. -/
theorem foldlM_afterMember_none {ms : List (List Char × Value)} :
    ms.foldlM afterMember none = some (some n) ↔
      ∃ v, ms.filter (·.1 = limitName) = [(limitName, v)] ∧ v.natural? = some n := by
  induction ms with
  | nil => simp [pure]
  | cons member ms ih =>
    obtain ⟨name, v⟩ := member
    rw [List.foldlM_cons, afterMember]
    by_cases h : name = limitName
    · subst h
      simp [Option.bind_eq_some_iff, foldlM_afterMember_some, and_comm]
    · simp [h, ih]
end Config

end SeedGate
