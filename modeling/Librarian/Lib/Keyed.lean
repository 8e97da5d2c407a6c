import Mathlib.Data.List.Sort
import Mathlib.Order.Basic

/-!
# Keyed tables as ascending lists

A table with a unique key for each row, kept as a list in strictly ascending order of keys. The three
updates are written the way a program with a vector writes them: push and sort, replace the first
row with a key, retain the rows with other keys. For each there is what it does to the order and to
the rows. A second table that is a function of the first, row by row and with the same keys, is
updated in step with it.
-/

namespace Keyed

variable {α β κ : Type} [LinearOrder κ] (key : α → κ)

/-- The keys strictly ascend. -/
def Ascending (rows : List α) : Prop := rows.Pairwise fun a b => key a < key b

/-- `windows(2)`: the pairs of neighbours of a list. -/
def windows2 (rows : List α) : List (α × α) := rows.zip rows.tail

/-- `sort_by_key`. -/
def sortByKey (rows : List α) : List α := rows.insertionSort fun a b => key a ≤ key b

/-- Replaces the first row with the new row's key; there is none when the result is. -/
def replaceFirst (row : α) : List α → Option (List α)
  | [] => none
  | a :: rows => if key a = key row then some (row :: rows) else (a :: ·) <$> replaceFirst row rows

/-- `retain`: the rows with other keys. -/
def eraseKey (k : κ) (rows : List α) : List α := rows.filter fun a => key a ≠ k

/-! ## Order -/

/-- No pair of neighbours descends exactly when the keys strictly ascend. -/
theorem windows2_any_eq_false {rows : List α} :
    (windows2 rows).any (fun pair => key pair.1 ≥ key pair.2) = false ↔ Ascending key rows := by
  have htrans : IsTrans α fun a b => key a < key b := ⟨fun _ _ _ hab hbc => lt_trans hab hbc⟩
  rw [Ascending, ← List.isChain_iff_pairwise]
  induction rows with
  | nil => simp [windows2]
  | cons a rows ih =>
    cases rows with
    | nil => simp [windows2]
    | cons b rows =>
      simp only [windows2, List.tail_cons, List.zip_cons_cons, List.any_cons, Bool.or_eq_false_iff,
        decide_eq_false_iff_not, ge_iff_le, not_le, List.isChain_cons_cons] at ih ⊢
      exact and_congr_right fun _ => ih

variable {key}

/-- In an ascending table a key determines its row. -/
theorem Ascending.eq_of_key_eq {rows : List α} (h : Ascending key rows) {a b : α} (ha : a ∈ rows)
    (hb : b ∈ rows) (hkey : key a = key b) : a = b := by
  induction rows with
  | nil => simp at ha
  | cons c rows ih =>
    obtain ⟨hc, hrows⟩ := List.pairwise_cons.mp h
    rcases List.mem_cons.mp ha with rfl | ha' <;> rcases List.mem_cons.mp hb with rfl | hb'
    · rfl
    · exact absurd hkey (hc b hb').ne
    · exact absurd hkey (hc a ha').ne'
    · exact ih hrows ha' hb'

/-- Two ascending tables with the same rows are equal. -/
theorem Ascending.ext {rows rows' : List α} (h : Ascending key rows) (h' : Ascending key rows')
    (hmem : ∀ a, a ∈ rows ↔ a ∈ rows') : rows = rows' := by
  have hirrefl : Std.Irrefl fun a b : α => key a < key b := ⟨fun a => lt_irrefl (key a)⟩
  have hasymm : Std.Antisymm fun a b : α => key a < key b :=
    ⟨fun a b hab hba => absurd hba (lt_asymm hab)⟩
  have hnodup : rows.Nodup := List.Pairwise.imp (fun hab heq => by simp [heq] at hab) h
  have hnodup' : rows'.Nodup := List.Pairwise.imp (fun hab heq => by simp [heq] at hab) h'
  exact ((List.perm_ext_iff_of_nodup hnodup hnodup').mpr hmem).eq_of_pairwise' h h'

@[simp]
theorem mem_sortByKey {rows : List α} {a : α} : a ∈ sortByKey key rows ↔ a ∈ rows := by
  simp [sortByKey]

/-- Sorting an ascending table does nothing. -/
theorem Ascending.sortByKey_eq {rows : List α} (h : Ascending key rows) :
    sortByKey key rows = rows :=
  List.Pairwise.insertionSort_eq (h.imp le_of_lt)

/-- Rows with pairwise different keys ascend after sorting. -/
theorem ascending_sortByKey {rows : List α} (h : rows.Pairwise fun a b => key a ≠ key b) :
    Ascending key (sortByKey key rows) := by
  have htotal : Std.Total fun a b : α => key a ≤ key b := ⟨fun a b => le_total (key a) (key b)⟩
  have htrans : IsTrans α fun a b => key a ≤ key b := ⟨fun _ _ _ hab hbc => le_trans hab hbc⟩
  have hsorted := List.pairwise_insertionSort (fun a b : α => key a ≤ key b) rows
  have hne : (sortByKey key rows).Pairwise fun a b => key a ≠ key b :=
    (List.perm_insertionSort _ rows).symm.pairwise h fun hab => hab.symm
  exact List.Pairwise.imp₂ (fun _ _ hle hne => lt_of_le_of_ne hle hne) hsorted hne

/-! ## The three updates -/

/-- A row with a new key is added in its place. -/
theorem Ascending.push {rows : List α} (h : Ascending key rows) {row : α}
    (hnew : ∀ a ∈ rows, key a ≠ key row) : Ascending key (sortByKey key (rows ++ [row])) := by
  apply ascending_sortByKey
  rw [List.pairwise_append]
  refine ⟨h.imp ne_of_lt, List.pairwise_singleton _ _, ?_⟩
  intro a ha b hb
  rw [List.mem_singleton.mp hb]
  exact hnew a ha

/-- A row can be replaced when its key is there. -/
theorem replaceFirst_isSome {row : α} {rows : List α} :
    (replaceFirst key row rows).isSome ↔ ∃ a ∈ rows, key a = key row := by
  induction rows with
  | nil => simp [replaceFirst]
  | cons a rows ih =>
    by_cases heq : key a = key row
    · simp [replaceFirst, heq]
    · simp [replaceFirst, heq, ih]

/-- Replacing a row keeps the keys. -/
theorem map_key_replaceFirst {row : α} {rows rows' : List α}
    (h : replaceFirst key row rows = some rows') : rows'.map key = rows.map key := by
  induction rows generalizing rows' with
  | nil => simp [replaceFirst] at h
  | cons a rows ih =>
    by_cases heq : key a = key row
    · simp only [replaceFirst, heq, if_true, Option.some.injEq] at h
      subst h
      simp [heq]
    · simp only [replaceFirst, heq, if_false, Option.map_eq_map, Option.map_eq_some_iff] at h
      obtain ⟨rows'', hrows, rfl⟩ := h
      simp [ih hrows]

/-- The order of a table is a property of its keys. -/
theorem ascending_iff_map {rows : List α} :
    Ascending key rows ↔ (rows.map key).Pairwise (· < ·) := by
  rw [Ascending, List.pairwise_map]

/-- Replacing a row keeps the table ascending. -/
theorem Ascending.replaceFirst {row : α} {rows rows' : List α} (h : Ascending key rows)
    (hrows : replaceFirst key row rows = some rows') : Ascending key rows' := by
  rw [ascending_iff_map, map_key_replaceFirst hrows, ← ascending_iff_map]
  exact h

/-- The rows after a replacement are the new row and the rows with other keys. -/
theorem Ascending.mem_replaceFirst {row : α} {rows rows' : List α} (h : Ascending key rows)
    (hrows : Keyed.replaceFirst key row rows = some rows') {a : α} :
    a ∈ rows' ↔ a = row ∨ a ∈ rows ∧ key a ≠ key row := by
  induction rows generalizing rows' with
  | nil => simp [Keyed.replaceFirst] at hrows
  | cons b rows ih =>
    obtain ⟨hb, htail⟩ := List.pairwise_cons.mp h
    by_cases heq : key b = key row
    · simp only [Keyed.replaceFirst, heq, if_true, Option.some.injEq] at hrows
      subst hrows
      have hrest : a ∈ rows → key a ≠ key row := fun ha => heq ▸ (hb a ha).ne'
      simp only [List.mem_cons]
      constructor
      · rintro (rfl | ha)
        · exact .inl rfl
        · exact .inr ⟨.inr ha, hrest ha⟩
      · rintro (rfl | ⟨rfl | ha, hne⟩)
        · exact .inl rfl
        · exact absurd heq hne
        · exact .inr ha
    · simp only [Keyed.replaceFirst, heq, if_false, Option.map_eq_map,
        Option.map_eq_some_iff] at hrows
      obtain ⟨rows'', hrows, rfl⟩ := hrows
      simp only [List.mem_cons, ih htail hrows]
      constructor
      · rintro (rfl | rfl | ⟨ha, hne⟩)
        · exact .inr ⟨.inl rfl, heq⟩
        · exact .inl rfl
        · exact .inr ⟨.inr ha, hne⟩
      · rintro (rfl | ⟨rfl | ha, hne⟩)
        · exact .inr (.inl rfl)
        · exact .inl rfl
        · exact .inr (.inr ⟨ha, hne⟩)

/-- In an ascending table the first row with a key is the only one. -/
theorem Ascending.replaceFirst_eq_map {row : α} {rows : List α} (h : Ascending key rows)
    (hrow : ∃ a ∈ rows, key a = key row) :
    Keyed.replaceFirst key row rows = some (rows.map fun a => if key a = key row then row else a) := by
  induction rows with
  | nil => simp at hrow
  | cons b rows ih =>
    obtain ⟨hb, htail⟩ := List.pairwise_cons.mp h
    by_cases heq : key b = key row
    · have hrest : rows.map (fun a => if key a = key row then row else a) = rows := by
        conv_rhs => rw [← List.map_id rows]
        refine List.map_congr_left fun a ha => if_neg ?_
        exact heq ▸ (hb a ha).ne'
      rw [Keyed.replaceFirst, if_pos heq, List.map_cons, if_pos heq, hrest]
    · have hrow' : ∃ a ∈ rows, key a = key row := by
        obtain ⟨a, ha, hkey⟩ := hrow
        rcases List.mem_cons.mp ha with rfl | ha
        · exact absurd hkey heq
        · exact ⟨a, ha, hkey⟩
      rw [Keyed.replaceFirst, if_neg heq, ih htail hrow', List.map_cons, if_neg heq]
      rfl

/-- Removing a key keeps the table ascending. -/
theorem Ascending.eraseKey {rows : List α} (h : Ascending key rows) (k : κ) :
    Ascending key (eraseKey key k rows) :=
  List.Pairwise.filter _ h

@[simp]
theorem mem_eraseKey {rows : List α} {k : κ} {a : α} :
    a ∈ eraseKey key k rows ↔ a ∈ rows ∧ key a ≠ k := by
  simp [eraseKey]

/-- A removal shortens the table when the key is there. -/
theorem eraseKey_length_lt {rows : List α} {k : κ} (h : ∃ a ∈ rows, key a = k) :
    (eraseKey key k rows).length < rows.length := by
  obtain ⟨a, ha, hk⟩ := h
  rw [eraseKey, List.length_filter_lt_length_iff_exists]
  exact ⟨a, ha, by simp [hk]⟩

/-! ## Tables in step -/

/-- A row of one of two related lists has its partner in the other. -/
theorem exists_of_forall₂ {R : α → β → Prop} {rows : List α} {rows' : List β}
    (h : List.Forall₂ R rows rows') {a : α} (ha : a ∈ rows) : ∃ b ∈ rows', R a b := by
  induction h with
  | nil => simp at ha
  | cons hab _ ih =>
    rcases List.mem_cons.mp ha with rfl | ha
    · exact ⟨_, List.mem_cons_self, hab⟩
    · obtain ⟨b, hb, hR⟩ := ih ha
      exact ⟨b, List.mem_cons_of_mem _ hb, hR⟩

section

variable {key' : β → κ} {f : α → β} (hf : ∀ a, key' (f a) = key a)
include hf

theorem map_sortByKey (rows : List α) :
    sortByKey key' (rows.map f) = (sortByKey key rows).map f := by
  refine (List.map_insertionSort _ _ f rows ?_).symm
  intro a _ b _
  rw [hf, hf]

theorem map_replaceFirst (row : α) (rows : List α) :
    replaceFirst key' (f row) (rows.map f) = (replaceFirst key row rows).map (List.map f) := by
  induction rows with
  | nil => rfl
  | cons a rows ih =>
    by_cases heq : key a = key row
    · simp [replaceFirst, hf, heq]
    · simp only [List.map_cons, replaceFirst, hf, heq, if_false, ih]
      cases replaceFirst key row rows <;> rfl

theorem map_eraseKey (k : κ) (rows : List α) :
    eraseKey key' k (rows.map f) = (eraseKey key k rows).map f := by
  simp only [eraseKey, List.filter_map, Function.comp_def, hf]

end

end Keyed
