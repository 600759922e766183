import SeedGate.Proofs.JsonObjects

/-!
# Configurations in JSON

Every limit that is read is a number of 64 bits, and what is written is an object with such
a number as its only member. So writing and reading lose nothing:

* `ofJson_faithful`: a configuration is read back from the text it is written as; the
  text of an object is read as a configuration exactly if just one member has the name of
  the limit, and its literal consists of digits that denote a number of 64 bits at most;
  and whatever has been read is read back.
-/

namespace SeedGate

open Json

namespace Config

variable {cs rest text : List Char} {n : Nat}

/-! ## What is read fits -/

theorem lt_of_number {negative : Bool} (h : number negative cs = some (.natural n, rest)) :
    n < UInt64.size := by
  obtain ⟨⟨p, after⟩, -, h⟩ := Option.bind_eq_some_iff.1 h
  obtain ⟨x, hvalue, h⟩ := Option.bind_eq_some_iff.1 h
  cases h
  exact ((gather_eq_iff (by decide)).1 (value_eq_natural_iff.1 hvalue).2.2.2).2

/-- A natural number that is found is one of 64 bits. -/
theorem lt_of_found (h : found cs = .ok (.natural n, rest)) : n < UInt64.size := by
  have hother {α : Type} {x? : Option α} {f : α → Found × List Char}
      (h : (scanned x?).map f = .ok (.natural n, rest)) (hf : ∀ a, (f a).1 ≠ .natural n) :
      False := by
    cases x? with
    | none => cases h
    | some a => exact hf a (congrArg Prod.fst (Except.ok.inj h))
  rw [found] at h
  split at h
  -- A number begins with a minus sign or with a digit.
  case h_7 => exact lt_of_number (map_ofNumber_eq_ok_iff.1 h)
  case h_8 =>
    split_ifs at h
    exact lt_of_number (map_ofNumber_eq_ok_iff.1 h)
  case h_5 | h_6 | h_9 => cases h
  all_goals exact (hother h (by simp)).elim

theorem lt_of_readLimit (h : readLimit cs = .ok (n, rest)) : n < UInt64.size :=
  lt_of_found (readLimit_eq_ok_iff.1 h)

/-- The limit, if it is known, is a number of 64 bits. -/
def LimitFits (limit? : Option Nat) : Prop := ∀ n ∈ limit?, n < UInt64.size

/-- A member leaves the limit one of 64 bits. -/
theorem fits_of_readMember {limit? limit'? : Option Nat} (hfits : LimitFits limit?)
    (h : readMember limit? cs = .ok (limit'?, rest)) : LimitFits limit'? := by
  rw [readMember.eq_def] at h
  split at h
  case h_2 => cases h
  obtain ⟨⟨name, left⟩, -, h⟩ := bind_eq_ok_iff.1 h
  dsimp only at h
  split_ifs at h
  · obtain ⟨_, hthrow, -⟩ := bind_eq_ok_iff.1 h
    cases hthrow
  · obtain ⟨⟨n, left⟩, hlimit, h⟩ := bind_eq_ok_iff.1 h
    obtain ⟨_, -, hlimit⟩ := bind_eq_ok_iff.1 hlimit
    cases h
    rintro _ ⟨⟩
    exact lt_of_readLimit hlimit
  · obtain ⟨_, -, h⟩ := bind_eq_ok_iff.1 h
    cases h
    exact hfits

/-- However many members are read, the limit among them is one of 64 bits. -/
theorem fits_of_readMembers {fuel : Nat} {limit? limit'? : Option Nat} (hfits : LimitFits limit?)
    (h : readMembers fuel limit? cs = .ok (limit'?, rest)) : LimitFits limit'? := by
  induction fuel generalizing limit? cs with
  | zero => cases h
  | succ fuel ih =>
    obtain ⟨⟨limit''?, left⟩, hmember, hgo⟩ := bind_eq_ok_iff.1 h
    have hfits' := fits_of_readMember hfits hmember
    dsimp only at hgo
    split at hgo
    · exact ih hfits' hgo
    · cases hgo
      exact hfits'
    · cases hgo

theorem lt_of_readElement (h : readElement cs = .ok (n, rest)) : n < UInt64.size := by
  rw [readElement] at h
  split at h
  · cases h
  · obtain ⟨⟨m, left⟩, hlimit, h⟩ := bind_eq_ok_iff.1 h
    dsimp only at h
    split at h
    · cases h
      exact lt_of_readLimit hlimit
    · cases h

theorem lt_of_readObject (h : readObject cs = .ok (n, rest)) : n < UInt64.size := by
  rw [readObject] at h
  split at h
  · cases h
  · obtain ⟨⟨limit?, left⟩, hmembers, h⟩ := bind_eq_ok_iff.1 h
    have hfits : LimitFits limit? := fits_of_readMembers (by simp [LimitFits]) hmembers
    cases limit? with
    | none => cases h
    | some m =>
      cases h
      exact hfits _ rfl

/-- Whatever is read, its limit is a number of 64 bits. -/
theorem lt_of_ofJson {c : Config} (h : ofJson text = .ok c) : c.maxRequestLen < UInt64.size := by
  obtain ⟨⟨kind, left⟩, -, h⟩ := bind_eq_ok_iff.1 h
  have hread : ∃ rest, readElement left = .ok (c.maxRequestLen, rest) ∨
      readObject left = .ok (c.maxRequestLen, rest) := by
    cases kind with
    | sequence | map =>
      obtain ⟨⟨n, rest⟩, hread, h⟩ := bind_eq_ok_iff.1 h
      dsimp only at h
      split at h
      · cases h
        simp [hread]
      · cases h
    | _ => cases h
  obtain ⟨rest, hread⟩ := hread
  exact hread.elim lt_of_readElement lt_of_readObject

end Config

namespace Json

variable {cs : List Char} {n : Nat}

/-! ## What is written -/

/-- A character that may stand for itself between quotes. -/
def isPlain (c : Char) : Bool := decide (0x20 ≤ c.toNat) && c != '"' && c != '\\'

/-- A text of characters that need no escape spells itself. -/
theorem spellsText_self (h : cs.all isPlain = true) : SpellsText cs cs := by
  induction cs with
  | nil => exact .nil
  | cons c cs ih =>
    simp only [List.all_cons, isPlain, Bool.and_eq_true, decide_eq_true_eq, bne_iff_ne] at h
    exact .cons (.plain h.1.1.1 h.1.1.2 h.1.2) (ih h.2)

/-- The first digit of a number is not zero, unless the number is. -/
theorem exists_cons_toDigits (hn : n ≠ 0) : ∃ d ds, Nat.toDigits 10 n = d :: ds ∧ d ≠ '0' := by
  induction n using Nat.strongRecOn with
  | ind n ih =>
    by_cases hlt : n < 10
    · refine ⟨Nat.digitChar n, [], Nat.toDigits_of_lt_base hlt, fun h => hn ?_⟩
      exact Nat.digitChar_eq_zero.1 h
    · obtain ⟨d, ds, hds, hd⟩ := ih (n / 10) (by omega) (by omega)
      refine ⟨d, ds ++ [Nat.digitChar (n % 10)], ?_, hd⟩
      rw [Nat.toDigits_of_base_le (by decide) (by omega), hds, List.cons_append]

theorem whole_toDigits (n : Nat) : Whole (Nat.toDigits 10 n) := by
  by_cases hn : n = 0
  · subst hn
    exact .zero
  · have hdigits : Digits (Nat.toDigits 10 n) :=
      ⟨Nat.toDigits_ne_nil, fun _ => Text.isDigit_of_mem_toDigits⟩
    obtain ⟨d, ds, hds, hd⟩ := exists_cons_toDigits hn
    rw [hds] at hdigits ⊢
    exact .digits hdigits hd

/-- Digits alone are a literal without fraction and exponent. -/
theorem spellsParts_of_whole {ds : List Char} (h : Whole ds) : SpellsParts ds ⟨ds, none, none⟩ := by
  simpa using SpellsParts.intro h .absent .absent

end Json

namespace Config

variable {n : Nat}

/-- A configuration is written as an object with one member, and without blanks. -/
theorem toList_toJson (n : Nat) :
    (toJson ⟨n⟩).toList = '{' :: '"' :: limitName ++ '"' :: ':' :: Nat.toDigits 10 n ++ ['}'] := by
  have hopen : "\x7b\"max_request_len\":".toList = '{' :: '"' :: limitName ++ ['"', ':'] := by
    decide
  have hclose : "\x7d".toList = ['}'] := by decide
  unfold toJson
  rw [String.toList_append, String.toList_append, hopen, hclose]
  rw [Nat.toString_eq_repr, Nat.toList_repr]
  simp

/-- What is written is an object with the limit as its only member. -/
theorem spells_toJson (n : Nat) :
    Spells (toJson ⟨n⟩).toList
      (.item (.object [(limitName, .number false ⟨Nat.toDigits 10 n, none, none⟩)])) := by
  have hblanks : Blanks [] := by simp [Blanks]
  have hname : SpellsText limitName limitName := spellsText_self (by decide)
  have hnumber := spellsParts_of_whole (whole_toDigits n)
  have hmember := Spells.member hblanks hname hblanks (.item hblanks (.natural hnumber) hblanks)
  rw [toList_toJson]
  simpa using Spells.item hblanks (.object (.lastMember hmember)) hblanks

/-- A configuration is read back from the text it is written as. -/
theorem ofJson_toJson_of_lt (hn : n < UInt64.size) : ofJson (toJson ⟨n⟩).toList = .ok ⟨n⟩ := by
  rw [ofJson_of_spells (spells_toJson n), foldlM_afterMember_none]
  exact ⟨_, by simp, Value.natural?_eq_some_iff.2 ⟨_, rfl, Decimal.digits?_toDigits n, hn⟩⟩

/-- Configurations survive being written and read, and what is read from an object is what
    it says: its text is read as a limit exactly if one member alone has the name of the
    limit, however the name and the rest are spelled, and the literal of its value consists
    of digits, neither a fraction nor an exponent after them, that denote this limit, a
    number of 64 bits. So whatever has been read is read back when it is written. -/
theorem ofJson_faithful :
    (∀ n < UInt64.size, ofJson (toJson ⟨n⟩).toList = .ok ⟨n⟩) ∧
    (∀ (text : List Char) (ms : List (List Char × Value)), Spells text (.item (.object ms)) →
      ∀ n, ofJson text = .ok ⟨n⟩ ↔ ∃ digits,
        ms.filter (·.1 = limitName) = [(limitName, .number false ⟨digits, none, none⟩)] ∧
          Decimal.digits? digits = some n ∧ n < UInt64.size) ∧
    ∀ (text : List Char) (c : Config), ofJson text = .ok c →
      ofJson (toJson c).toList = .ok c := by
  refine ⟨fun n => ofJson_toJson_of_lt, fun text ms h n => ?_, fun text c h => ?_⟩
  · rw [ofJson_of_spells h, foldlM_afterMember_none]
    constructor
    · rintro ⟨v, hfilter, hnatural⟩
      obtain ⟨digits, rfl, hdenoted, hlt⟩ := Value.natural?_eq_some_iff.1 hnatural
      exact ⟨digits, hfilter, hdenoted, hlt⟩
    · rintro ⟨digits, hfilter, hdenoted, hlt⟩
      exact ⟨_, hfilter, Value.natural?_eq_some_iff.2 ⟨digits, rfl, hdenoted, hlt⟩⟩
  · exact ofJson_toJson_of_lt (lt_of_ofJson h)

/-- An object with the name of the limit twice, once escaped and once further inside. -/
def sample : List Char :=
  "\x7b \"a\":[\x7b\"max_request_len\":1\x7d,\"\\uD83D\\uDE00\"],".toList ++
    "\"\\u006Dax_request_len\" : 18446744073709551615\x7d\n".toList

/-- What the members of the sample are. -/
def sampleMembers : List (List Char × Value) :=
  [(['a'], .array [.object [(limitName, .number false ⟨['1'], none, none⟩)], .string ['😀']]),
    (limitName, .number false ⟨'1' :: "8446744073709551615".toList, none, none⟩)]

theorem spells_sample : Spells sample (.item (.object sampleMembers)) := by
  have hnone : Blanks [] := by simp [Blanks]
  have hspace : Blanks [' '] := by simp [Blanks, isBlank]
  have hline : Blanks ['\n'] := by simp [Blanks, isBlank]
  have hone : SpellsParts ['1'] _ :=
    spellsParts_of_whole (.digits ⟨by decide, List.all_eq_true.1 (by decide)⟩ (by decide))
  have hlargest : SpellsParts ('1' :: "8446744073709551615".toList) _ :=
    spellsParts_of_whole (.digits ⟨by decide, List.all_eq_true.1 (by decide)⟩ (by decide))
  have hletter : SpellsText ['a'] ['a'] := spellsText_self (by decide)
  have hplain : SpellsText limitName limitName := spellsText_self (by decide)
  have hescaped : SpellsText "\\u006Dax_request_len".toList limitName :=
    .cons (.code (n := 0x6D) (by decide) (by decide)) (spellsText_self (by decide))
  have hface : SpellsText "\\uD83D\\uDE00".toList ['😀'] :=
    .cons (.surrogates (m := 0xD83D) (n := 0xDE00) (by decide) (by decide) (by decide)
      (by decide)) .nil
  have hinner := Spells.object
    (.lastMember (.member hnone hplain hnone (.item hnone (.natural hone) hnone)))
  have harray := Spells.array
    (.element (.item hnone hinner hnone) (.lastElement (.item hnone (.string hface) hnone)))
  have ha := Spells.member hspace hletter hnone (.item hnone harray hnone)
  have hlimit := Spells.member hnone hescaped hspace (.item hspace (.natural hlargest) hnone)
  have hspelled := Spells.item hnone (.object (.members ha (.lastMember hlimit))) hline
  convert hspelled using 1
  · decide
  · rfl

theorem ofJson_faithful_sample :
    0 < UInt64.size ∧ ofJson (toJson ⟨0⟩).toList = .ok ⟨0⟩ ∧
      Spells sample (.item (.object sampleMembers)) ∧
      ofJson sample = .ok ⟨18446744073709551615⟩ ∧
      ofJson (toJson ⟨18446744073709551615⟩).toList = .ok ⟨18446744073709551615⟩ := by
  have hread : ofJson sample = .ok ⟨18446744073709551615⟩ :=
    (ofJson_faithful.2.1 sample sampleMembers spells_sample _).2
      ⟨'1' :: "8446744073709551615".toList, by rfl, by decide, by decide⟩
  exact ⟨by decide, ofJson_faithful.1 0 (by decide), spells_sample, hread,
    ofJson_faithful.2.2 sample _ hread⟩

end Config

end SeedGate
