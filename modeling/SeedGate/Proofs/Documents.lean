import Mathlib.Tactic.SplitIfs
import SeedGate.Setting.Wrapped
import SeedGate.Toml.Document

/-!
# What documents hold

However a document is built up from its lines, nothing comes into it but what has been
scanned, and every integer that is scanned is one of 64 bits with a sign. So it holds no
others, at whatever depth (`Toml.fits_of_read`), and none of its integers is too large
for a limit.
-/

namespace SeedGate

/-- The setting is no integer that 64 bits with a sign cannot hold. -/
def Setting.Fits (s : Setting) : Prop :=
  ∀ n, s = .integer n → -(UInt64.size / 2) ≤ n ∧ n < UInt64.size / 2

namespace Toml

/-- All settings in the node fit. -/
inductive Node.Fits : Node → Prop
  | value {setting : Setting} (h : setting.Fits) : Fits (.value setting)
  | array {elements : List Node} (h : ∀ e ∈ elements, Fits e) : Fits (.array elements)
  | table {kind : Kind} {entries : List (List Char × Node)} (h : ∀ e ∈ entries, Fits e.2) :
      Fits (.table kind entries)
  | tables {earlier : List Node} {last : List (List Char × Node)} (hearlier : ∀ e ∈ earlier, Fits e)
      (hlast : ∀ e ∈ last, Fits e.2) : Fits (.tables earlier last)

/-- All settings in the table fit. -/
def Table.Fits (table : Table) : Prop := ∀ e ∈ table, e.2.Fits

/-- What every step preserves holds in the end. -/
theorem of_foldlM {α β : Type} {P : β → Prop} {f : β → α → Option β} {xs : List α} {b b' : β}
    (hstep : ∀ b b' : β, ∀ x ∈ xs, P b → f b x = some b' → P b') (hb : P b)
    (h : xs.foldlM f b = some b') : P b' := by
  induction xs generalizing b with
  | nil =>
    cases h
    exact hb
  | cons x xs ih =>
    obtain ⟨next, hnext, hrest⟩ := Option.bind_eq_some_iff.1 h
    exact ih (fun b b' y hy => hstep b b' y (List.mem_cons_of_mem x hy))
      (hstep b next x List.mem_cons_self hb hnext) hrest

/-! ## Tables -/

namespace Table

variable {table table' : Table} {name : List Char} {node : Node} {key : Key}

theorem fits_nil : Fits [] := List.forall_mem_nil _

/-- What stands under a name in a table that fits does so, too. -/
theorem Fits.lookup (h : table.Fits) (hnode : table.lookup name = some node) : node.Fits := by
  obtain ⟨before, after, rfl, -⟩ := List.lookup_eq_some_iff.1 hnode
  exact h (name, node) (by simp)

/-- A table still fits when a name in it has been given something that does. -/
theorem Fits.assign (h : table.Fits) (hnode : node.Fits) : (assign name node table).Fits := by
  induction table with
  | nil => simpa [Table.assign, Fits] using hnode
  | cons entry rest ih =>
    obtain ⟨hentry, hrest⟩ := List.forall_mem_cons.1 h
    rw [Table.assign]
    split
    · exact List.forall_mem_cons.2 ⟨hnode, hrest⟩
    · exact List.forall_mem_cons.2 ⟨hentry, ih hrest⟩

/-- A change somewhere in a table brings in nothing that does not fit, if it does not do so
    where it takes place. -/
theorem Fits.within {made kind : Kind} {change : Kind → Table → Option Table}
    {names : List (List Char)}
    (hchange : ∀ kind table table', Fits table → change kind table = some table' → Fits table')
    (h : table.Fits) (hwithin : within made change names kind table = some table') :
    table'.Fits := by
  induction names generalizing kind table table' with
  | nil => exact hchange kind table table' h hwithin
  | cons name names ih =>
    rw [Table.within] at hwithin
    split at hwithin
    · obtain ⟨inner, hinner, rfl⟩ := Option.map_eq_some_iff.1 hwithin
      exact h.assign (.table (ih fits_nil hinner))
    · cases hwithin
    · cases hwithin
    · rename_i hlookup
      obtain ⟨inner, hinner, rfl⟩ := Option.map_eq_some_iff.1 hwithin
      cases h.lookup hlookup with
      | tables hearlier hlast => exact h.assign (.tables hearlier (ih hlast hinner))
    · rename_i hlookup
      split_ifs at hwithin
      obtain ⟨inner, hinner, rfl⟩ := Option.map_eq_some_iff.1 hwithin
      cases h.lookup hlookup with
      | table hentries => exact h.assign (.table (ih hentries hinner))

/-- A value that fits can be put under any key. -/
theorem Fits.put {kind : Kind} (h : table.Fits) (hnode : node.Fits)
    (hput : put key node kind table = some table') : table'.Fits := by
  refine h.within (fun kind table table' h hchange => ?_) hput
  split_ifs at hchange
  cases hchange
  exact h.assign hnode

/-- A header brings in nothing: its table is new and empty, or has been there before. -/
theorem Fits.begin (h : table.Fits) (hbegin : begin key table = some table') : table'.Fits := by
  refine h.within (fun kind table table' h hchange => ?_) hbegin
  split at hchange
  · cases hchange
    exact h.assign (.table fits_nil)
  · rename_i hlookup
    cases hchange
    cases h.lookup hlookup with
    | table hentries => exact h.assign (.table hentries)
  · cases hchange

/-- The header of an element brings in an empty table, next to the elements before it. -/
theorem Fits.beginElement (h : table.Fits) (hbegin : beginElement key table = some table') :
    table'.Fits := by
  refine h.within (fun kind table table' h hchange => ?_) hbegin
  split at hchange
  · cases hchange
    exact h.assign (.tables (List.forall_mem_nil _) fits_nil)
  · rename_i hlookup
    cases hchange
    cases h.lookup hlookup with
    | tables hearlier hlast =>
      refine h.assign (.tables (List.forall_mem_append.2 ⟨hearlier, ?_⟩) fits_nil)
      exact List.forall_mem_singleton.2 (.table hlast)
  · cases hchange

/-- An inline table has no values but those of its pairs. -/
theorem fits_ofPairs {pairs : List (Key × Node)} (h : ∀ p ∈ pairs, p.2.Fits)
    (hpairs : ofPairs pairs = some table) : table.Fits :=
  of_foldlM (fun _ _ p hp htable hput => htable.put (h p hp) hput) fits_nil hpairs

end Table

/-! ## Values -/

section

variable {cs rest : List Char} {setting : Setting} {node : Node}

/-- What comes of a scan fits, if it does whatever has been scanned. -/
theorem fits_of_map {α : Type} {scanned? : Option α} {f : α → Setting × List Char}
    (h : scanned?.map f = some (setting, rest)) (hf : ∀ a, (f a).1.Fits) : setting.Fits := by
  obtain ⟨a, -, h⟩ := Option.map_eq_some_iff.1 h
  obtain rfl : (f a).1 = setting := congrArg Prod.fst h
  exact hf a

/-- This is the one place where an integer comes in, and where it is checked against 64 bits. -/
theorem fits_integer {n : Int} (h : integer n = some setting) : setting.Fits := by
  rw [integer] at h
  split_ifs at h with hrange
  cases h
  rintro m ⟨⟩
  exact hrange

/-- Floating-point numbers are no integers, however large. -/
theorem fits_float {negative : Bool} {digits : List Char} {e : Int}
    (h : float negative digits e = some setting) : setting.Fits := by
  rw [float] at h
  split_ifs at h
  cases h
  exact fun _ => nofun

/-- What comes after the digits tells an integer from a floating-point number. -/
theorem fits_scaled {negative : Bool} {ws : List Char} {fraction? : Option (List Char)}
    (h : scaled negative ws fraction? cs = some (setting, rest)) : setting.Fits := by
  have hfinish {x? : Option Setting} {left : List Char} (hfits : ∀ x, x? = some x → x.Fits)
      (h : (x?.bind fun x => pure (x, left)) = some (setting, rest)) : setting.Fits := by
    obtain ⟨x, hx, h⟩ := Option.bind_eq_some_iff.1 h
    cases h
    exact hfits _ hx
  rw [scaled.eq_def] at h
  dsimp only at h
  split at h
  · obtain ⟨_, -, h⟩ := Option.bind_eq_some_iff.1 h
    exact hfinish (fun _ => fits_float) h
  · obtain ⟨_, -, h⟩ := Option.bind_eq_some_iff.1 h
    exact hfinish (fun _ => fits_float) h
  · split at h
    · exact hfinish (fun _ => fits_float) h
    · exact hfinish (fun _ => fits_integer) h

theorem fits_decimal {negative : Bool} (h : decimal negative cs = some (setting, rest)) :
    setting.Fits := by
  obtain ⟨⟨ws, left⟩, -, h⟩ := Option.bind_eq_some_iff.1 h
  obtain ⟨⟨fraction?, left⟩, -, h⟩ := Option.bind_eq_some_iff.1 h
  exact fits_scaled h

/-- Whatever the base, an integer is checked. -/
theorem fits_based {base : Nat} (h : based base cs = some (setting, rest)) : setting.Fits := by
  obtain ⟨⟨ds, left⟩, -, h⟩ := Option.bind_eq_some_iff.1 h
  obtain ⟨s, hs, h⟩ := Option.bind_eq_some_iff.1 h
  cases h
  exact fits_integer hs

/-- Of all numbers, integers alone are to be checked: infinities and the like are none. -/
theorem fits_number (h : number cs = some (setting, rest)) : setting.Fits := by
  rw [number] at h
  dsimp only at h
  split at h
  · cases h
    exact fun _ => nofun
  · cases h
    exact fun _ => nofun
  · exact fits_based h
  · exact fits_based h
  · exact fits_based h
  · exact fits_decimal h

/-- Dates and times of day count as maps, so that they are no integers. -/
theorem fits_numberOrDate (h : numberOrDate cs = some (setting, rest)) : setting.Fits := by
  rw [numberOrDate] at h
  dsimp only at h
  split at h
  · exact fits_of_map h fun _ _ => nofun
  · exact fits_of_map h fun _ _ => nofun
  · exact fits_number h

/-- Strings and truth values are no integers; any other plain value is a number or a date. -/
theorem fits_plain (h : plain cs = some (setting, rest)) : setting.Fits := by
  rw [plain.eq_def] at h
  split at h
  · exact fits_of_map h fun _ _ => nofun
  · exact fits_of_map h fun _ _ => nofun
  · cases h
    exact fun _ => nofun
  · cases h
    exact fun _ => nofun
  · exact fits_numberOrDate h

end

/-- What is scanned fits. -/
def Scans (scan : List Char → Option (Node × List Char)) : Prop :=
  ∀ cs node rest, scan cs = some (node, rest) → node.Fits

section

variable {scan : List Char → Option (Node × List Char)} (hscan : Scans scan) {cs rest : List Char}
include hscan

/-- The elements of an array fit, since each of them has been scanned. -/
theorem fits_elements {fuel : Nat} {es : List Node}
    (h : elements scan fuel cs = some (es, rest)) : ∀ e ∈ es, e.Fits := by
  induction fuel generalizing cs es rest with
  | zero => cases h
  | succ fuel ih =>
    rw [elements] at h
    split at h
    · cases h
      exact List.forall_mem_nil _
    · obtain ⟨⟨first, left⟩, hfirst, h⟩ := Option.bind_eq_some_iff.1 h
      have hfits := hscan _ _ _ hfirst
      dsimp only at h
      split at h
      · obtain ⟨⟨others, left⟩, hothers, h⟩ := Option.bind_eq_some_iff.1 h
        cases h
        exact List.forall_mem_cons.2 ⟨hfits, ih hothers⟩
      · cases h
        exact List.forall_mem_singleton.2 hfits
      · cases h

theorem fits_pair {key : Key} {node : Node} (h : pair scan cs = some ((key, node), rest)) :
    node.Fits := by
  obtain ⟨⟨k, left⟩, -, h⟩ := Option.bind_eq_some_iff.1 h
  dsimp only at h
  split at h
  · obtain ⟨⟨n, left⟩, hnode, h⟩ := Option.bind_eq_some_iff.1 h
    cases h
    exact hscan _ _ _ hnode
  · cases h

/-- And so do the values of an inline table. -/
theorem fits_pairs {fuel : Nat} {ps : List (Key × Node)}
    (h : pairs scan fuel cs = some (ps, rest)) : ∀ p ∈ ps, p.2.Fits := by
  induction fuel generalizing cs ps rest with
  | zero => cases h
  | succ fuel ih =>
    obtain ⟨⟨first, left⟩, hfirst, h⟩ := Option.bind_eq_some_iff.1 h
    have hfits := fits_pair hscan hfirst
    dsimp only at h
    split at h
    · obtain ⟨⟨others, left⟩, hothers, h⟩ := Option.bind_eq_some_iff.1 h
      cases h
      exact List.forall_mem_cons.2 ⟨hfits, ih hothers⟩
    · cases h
      exact List.forall_mem_singleton.2 hfits
    · cases h

/-- No more comes of an inline table than of its pairs. -/
theorem fits_inlineTable {table : Table} (h : inlineTable scan cs = some (table, rest)) :
    table.Fits := by
  rw [inlineTable] at h
  split at h
  · cases h
    exact Table.fits_nil
  · obtain ⟨⟨ps, left⟩, hps, h⟩ := Option.bind_eq_some_iff.1 h
    obtain ⟨t, ht, h⟩ := Option.bind_eq_some_iff.1 h
    cases h
    exact Table.fits_ofPairs (fits_pairs hscan hps) ht

end

/-- Whatever value is scanned, and however deep its brackets lie in one another, it fits. -/
theorem scans_value (depth : Nat) : Scans (value depth) := by
  have hplain {cs rest : List Char} {node : Node}
      (h : ((plain cs).map fun p => (Node.value p.1, p.2)) = some (node, rest)) : node.Fits := by
    obtain ⟨⟨setting, left⟩, hsetting, h⟩ := Option.map_eq_some_iff.1 h
    cases h
    exact .value (fits_plain hsetting)
  induction depth with
  | zero => exact fun cs node rest h => hplain h
  | succ depth ih =>
    intro cs node rest h
    rw [value.eq_def] at h
    split at h
    · rename_i heq
      cases heq
      obtain ⟨⟨es, left⟩, hes, h⟩ := Option.map_eq_some_iff.1 h
      cases h
      exact .array (fits_elements ih hes)
    · rename_i heq
      cases heq
      obtain ⟨⟨table, left⟩, htable, h⟩ := Option.map_eq_some_iff.1 h
      cases h
      exact .table (fits_inlineTable ih htable)
    · exact hplain h

/-! ## Documents -/

/-- What an expression brings in fits. -/
def Expression.Fits : Expression → Prop
  | .pair _ node => node.Fits
  | .table _ => True
  | .element _ => True

/-- A header has no value that would have to fit. -/
theorem fits_header {cs rest : List Char} {expression : Expression}
    (h : header cs = some (expression, rest)) : expression.Fits := by
  rw [header.eq_def] at h
  split at h
  all_goals
    obtain ⟨⟨k, left⟩, -, h⟩ := Option.bind_eq_some_iff.1 h
    split at h
    · cases h
      trivial
    · cases h

/-- A line has at most one value, after its equals sign, and that has been scanned. -/
theorem fits_line {cs rest : List Char} {expression : Expression}
    (h : line cs = some (some expression, rest)) : expression.Fits := by
  have hfinished {e : Expression} {left : List Char} (hfits : e.Fits)
      (h : (finishLine left).map (some e, ·) = some (some expression, rest)) :
      expression.Fits := by
    obtain ⟨_, -, h⟩ := Option.map_eq_some_iff.1 h
    cases h
    exact hfits
  rw [line] at h
  dsimp only at h
  split at h
  · obtain ⟨scanned, hscanned, h⟩ := Option.bind_eq_some_iff.1 h
    exact hfinished (fits_header hscanned) h
  · split_ifs at h
    · obtain ⟨left, -, h⟩ := Option.map_eq_some_iff.1 h
      cases h
    · obtain ⟨⟨⟨k, node⟩, left⟩, hpair, h⟩ := Option.bind_eq_some_iff.1 h
      have hnode : node.Fits := fits_pair (scans_value maxDepth) hpair
      exact hfinished (e := .pair k node) hnode h
  · cases h

theorem fits_expressions {fuel : Nat} {cs : List Char} {es : List Expression}
    (h : expressions fuel cs = some es) : ∀ e ∈ es, e.Fits := by
  induction fuel generalizing cs es with
  | zero =>
    cases cs with
    | nil =>
      cases h
      exact List.forall_mem_nil _
    | cons => cases h
  | succ fuel ih =>
    cases cs with
    | nil =>
      cases h
      exact List.forall_mem_nil _
    | cons c cs =>
      obtain ⟨⟨expression?, rest⟩, hline, h⟩ := Option.bind_eq_some_iff.1 h
      obtain ⟨others, hothers, h⟩ := Option.bind_eq_some_iff.1 h
      cases h
      refine List.forall_mem_append.2 ⟨fun e he => ?_, ih hothers⟩
      obtain rfl := Option.mem_toList.1 he
      exact fits_line hline

/-- One step of building up a document: its table still fits after one more expression. -/
theorem Draft.fits_add {draft draft' : Draft} {expression : Expression}
    (h : draft.table.Fits) (hexpression : expression.Fits)
    (hadd : draft.add expression = some draft') : draft'.table.Fits := by
  cases expression with
  | pair key node =>
    obtain ⟨table, htable, rfl⟩ := Option.map_eq_some_iff.1 hadd
    exact h.within (fun _ _ _ h hput => h.put hexpression hput) htable
  | table key =>
    obtain ⟨table, htable, rfl⟩ := Option.map_eq_some_iff.1 hadd
    exact h.begin htable
  | element key =>
    obtain ⟨table, htable, rfl⟩ := Option.map_eq_some_iff.1 hadd
    exact h.beginElement htable

/-- Every integer in a document is one of 64 bits with a sign. -/
theorem fits_of_read {text : List Char} {table : Table} (h : read text = some table) :
    table.Fits := by
  obtain ⟨es, hes, h⟩ := Option.bind_eq_some_iff.1 h
  obtain ⟨draft, hdraft, h⟩ := Option.bind_eq_some_iff.1 h
  cases h
  exact of_foldlM (P := fun draft => draft.table.Fits)
    (fun _ _ e he hdraft hadd => Draft.fits_add hdraft (fits_expressions hes e he) hadd)
    Table.fits_nil hdraft

/-- A wrapped value is a value in the table that wraps it. -/
theorem fits_of_wrapped? {entries : List (List Char × Node)} {setting : Setting}
    (hentries : ∀ e ∈ entries, e.2.setting.Fits) (h : wrapped? entries = some setting) :
    setting.Fits := by
  induction entries with
  | nil => cases h
  | cons entry rest ih =>
    obtain ⟨hentry, hrest⟩ := List.forall_mem_cons.1 hentries
    rw [wrapped?] at h
    split at h
    · cases h
      exact hentry
    · exact ih hrest h

/-- And so is every integer that something in a document is set to. -/
theorem Node.Fits.setting {node : Node} (h : node.Fits) : node.setting.Fits := by
  induction h with
  | value h => exact h
  | array | tables => exact fun _ => nofun
  | table h ih =>
    rename_i entries
    rw [Node.setting]
    cases hwrapped : wrapped? entries with
    | none => exact fun _ => nofun
    | some setting => exact fits_of_wrapped? ih hwrapped

end Toml

end SeedGate
