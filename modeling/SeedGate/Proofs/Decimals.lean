import Mathlib.Data.List.TakeDrop
import Mathlib.Data.List.TakeWhile
import Mathlib.Tactic.IntervalCases
import SeedGate.Setting.Reading

/-!
# Decimal digits

The decimal digits of a number are read as that number (`Decimal.digits?_toDigits`). As
the value of a variable they are an unquoted text without a point, which is scanned as a
whole and denotes an integer:

* `Setting.ofText_toDigits`: the decimal digits of a number below `2 ^ 64` are a setting, that
  number.
-/

namespace SeedGate

open Text Decimal Setting

/-! ## Digits -/

/-- There are ten digits. -/
theorem Text.mem_of_isDigit {c : Char} (h : isDigit c = true) :
    c ∈ ['0', '1', '2', '3', '4', '5', '6', '7', '8', '9'] := by
  simp only [isDigit, Bool.and_eq_true, decide_eq_true_eq] at h
  have hlow : 48 ≤ c.toNat := h.1
  have hhigh : c.toNat ≤ 57 := h.2
  obtain ⟨n, hn⟩ : ∃ n, c.toNat = n := ⟨_, rfl⟩
  rw [hn] at hlow hhigh
  rw [← Char.ofNat_toNat c, hn]
  interval_cases n <;> decide

/-- So what holds of these holds of every digit. -/
theorem Text.of_isDigit (p : Char → Bool)
    (h : ['0', '1', '2', '3', '4', '5', '6', '7', '8', '9'].all p = true) {c : Char}
    (hc : isDigit c = true) : p c = true :=
  List.all_eq_true.1 h c (mem_of_isDigit hc)

theorem Text.isDigit_of_mem_toDigits {n : Nat} {c : Char} (h : c ∈ Nat.toDigits 10 n) :
    isDigit c = true := by
  have hdigit := Nat.isDigit_of_mem_toDigits (by decide) (by decide) h
  simp only [Char.isDigit, Bool.and_eq_true, decide_eq_true_eq] at hdigit
  simp only [isDigit, Bool.and_eq_true, decide_eq_true_eq]
  exact hdigit

/-- The digits of a number denote it. -/
theorem Decimal.digits?_toDigits (n : Nat) : digits? (Nat.toDigits 10 n) = some n := by
  have hall : (Nat.toDigits 10 n).all isDigit = true :=
    List.all_eq_true.2 fun _ => isDigit_of_mem_toDigits
  have hvalue := Nat.ofDigitChars_ten_toDigits (n := n)
  simp only [Nat.ofDigitChars_eq_foldl, Nat.mul_comm 10] at hvalue
  rw [Decimal.digits?, hall, hvalue]
  simp [Nat.toDigits_ne_nil]

/-! ## Unquoted values of digits -/

section

variable {cs : List Char} (hdigits : ∀ c ∈ cs, isDigit c = true)
include hdigits

theorem Text.trim_of_digits : trim cs = cs := by
  have hblank : ∀ c ∈ cs, isBlank c = false := by
    intro c hc
    simpa using of_isDigit (fun d => !isBlank d) (by decide) (hdigits c hc)
  have hkeep {ds : List Char} (hds : ∀ d ∈ ds, isBlank d = false) : ds.dropWhile isBlank = ds := by
    cases ds with
    | nil => rfl
    | cons d ds => rw [List.dropWhile_cons_of_neg (by simp [hds d List.mem_cons_self])]
  rw [trim, trimLeft, hkeep hblank, trimRight, hkeep, List.reverse_reverse]
  exact fun c hc => hblank c (List.mem_reverse.1 hc)

/-- Digits are scanned to their end. -/
theorem Setting.span_of_digits : cs.span (fun c => !endsBare c) = (cs, []) := by
  have hgo : ∀ c ∈ cs, (!Setting.endsBare c) = true := fun c hc =>
    of_isDigit (fun d => !Setting.endsBare d) (by decide) (hdigits c hc)
  rw [List.span_eq_takeWhile_dropWhile, List.takeWhile_eq_self_iff.2 hgo,
    List.dropWhile_eq_nil_iff.2 hgo]

/-- Digits are neither a word, nor quoted, nor in brackets. -/
theorem Setting.value_of_digits (hne : cs ≠ []) (fuel : Nat) :
    Setting.value (fuel + 1) cs = .ok (Setting.ofBare cs, []) := by
  have hspan := span_of_digits hdigits
  have htrim := trim_of_digits hdigits
  obtain ⟨c, rest, rfl⟩ := List.exists_cons_of_ne_nil hne
  have hc := mem_of_isDigit (hdigits c List.mem_cons_self)
  simp only [List.mem_cons, List.not_mem_nil, or_false] at hc
  -- The first character tells what sort of value it is, and so for each of the ten digits.
  rcases hc with rfl | rfl | rfl | rfl | rfl | rfl | rfl | rfl | rfl | rfl
  all_goals
    simp [-List.span_eq_takeWhile_dropWhile, Setting.value, Setting.skipBlanks, Setting.after?,
      startsWith, isAsciiBlank, hspan, htrim]

end

/-- The decimal digits of a number that 64 bits can hold are that number. -/
theorem Setting.ofText_toDigits {n : Nat} (hn : n < UInt64.size) :
    Setting.ofText (Nat.toDigits 10 n) = .ok (.integer n) := by
  have hdigits : ∀ c ∈ Nat.toDigits 10 n, isDigit c = true := fun _ => isDigit_of_mem_toDigits
  have hread := digits?_toDigits n
  have hne : Nat.toDigits 10 n ≠ [] := Nat.toDigits_ne_nil
  generalize Nat.toDigits 10 n = cs at hdigits hread hne
  have hpoint : '.' ∉ cs := fun hmem => absurd (hdigits _ hmem) (by decide)
  have hsigned : Decimal.signed cs = (false, cs) := by
    rw [Decimal.signed.eq_def]
    split
    · exact absurd (hdigits _ List.mem_cons_self) (by decide)
    · exact absurd (hdigits _ List.mem_cons_self) (by decide)
    · rfl
  rw [Setting.ofText, value_of_digits hdigits hne]
  simp [Setting.ofBare, Setting.integer?, hpoint, hsigned, hread, hn]

end SeedGate
