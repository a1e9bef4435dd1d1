import Mathlib.Algebra.BigOperators.Group.List.Basic
import Mathlib.Data.List.Nodup
import Mathlib.Tactic.Abel

set_option autoImplicit false

namespace Shared

-- A table with a primary key: two rows of one key cannot be stored.
structure Table (κ ρ : Type) (key : ρ → κ) where
  rows : List ρ
  unique : (rows.map key).Nodup

-- A change to one row that leaves its key alone.
@[ext] structure RowUpdate (κ ρ : Type) (key : ρ → κ) where
  apply : ρ → ρ
  keeps : ∀ row, key (apply row) = key row := by intro _; rfl

namespace Table

variable {κ ρ : Type} [DecidableEq κ] {key : ρ → κ}

def empty : Table κ ρ key where
  rows := []
  unique := by simp

def find? (table : Table κ ρ key) (k : κ) : Option ρ :=
  table.rows.find? fun row => decide (key row = k)

def insert? (table : Table κ ρ key) (row : ρ) : Option (Table κ ρ key) :=
  if used : key row ∈ table.rows.map key then none
  else some
    { rows := table.rows ++ [row]
      unique := by
        rw [List.map_append, List.nodup_append]
        refine ⟨table.unique, by simp, ?_⟩
        intro k member k' member' same
        simp only [List.map_cons, List.map_nil, List.mem_singleton] at member'
        exact used (member' ▸ same ▸ member) }

def ensure (table : Table κ ρ key) (row : ρ) : Table κ ρ key :=
  (table.insert? row).getD table

def modify (table : Table κ ρ key) (k : κ) (update : RowUpdate κ ρ key) : Table κ ρ key where
  rows := table.rows.map fun row => if key row = k then update.apply row else row
  unique := by
    have same : key ∘ (fun row => if key row = k then update.apply row else row) = key := by
      funext row
      by_cases hit : key row = k <;> simp [hit, update.keeps]
    rw [List.map_map, same]
    exact table.unique

def erase (table : Table κ ρ key) (k : κ) : Table κ ρ key where
  rows := table.rows.filter fun row => decide (key row ≠ k)
  unique := table.unique.sublist (List.filter_sublist.map key)

-- UPDATE ... WHERE
def updateWhere (table : Table κ ρ key) (chosen : ρ → Bool) (update : RowUpdate κ ρ key) :
    Table κ ρ key where
  rows := table.rows.map fun row => if chosen row then update.apply row else row
  unique := by
    have same : key ∘ (fun row => if chosen row then update.apply row else row) = key := by
      funext row
      cases hit : chosen row <;> simp [hit, update.keeps]
    rw [List.map_map, same]
    exact table.unique

-- DELETE ... WHERE
def deleteWhere (table : Table κ ρ key) (chosen : ρ → Bool) : Table κ ρ key where
  rows := table.rows.filter fun row => ! chosen row
  unique := table.unique.sublist (List.filter_sublist.map key)

def sum {M : Type} [AddCommMonoid M] (table : Table κ ρ key) (value : ρ → M) : M :=
  (table.rows.map value).sum

omit [DecidableEq κ] in
theorem eq_of_rows {table other : Table κ ρ key} (rows : table.rows = other.rows) :
    table = other := by
  cases table
  cases other
  cases rows
  rfl

theorem find?_eq_some (table : Table κ ρ key) (k : κ) (row : ρ) :
    table.find? k = some row ↔ row ∈ table.rows ∧ key row = k := by
  constructor
  · intro found
    exact ⟨List.mem_of_find?_eq_some found, by simpa using List.find?_some found⟩
  · rintro ⟨member, rfl⟩
    cases found : table.find? (key row) with
    | none => simp [find?, List.find?_eq_none] at found; exact absurd rfl (found row member)
    | some other =>
      have stored : other ∈ table.rows := List.mem_of_find?_eq_some found
      have same : key other = key row := by simpa using List.find?_some found
      rw [List.inj_on_of_nodup_map table.unique stored member same]

theorem find?_eq_none (table : Table κ ρ key) (k : κ) :
    table.find? k = none ↔ ∀ row ∈ table.rows, key row ≠ k := by
  simp [find?]

theorem find?_key {table : Table κ ρ key} {k : κ} {row : ρ} (found : table.find? k = some row) :
    key row = k :=
  ((table.find?_eq_some k row).mp found).2

theorem find?_mem {table : Table κ ρ key} {k : κ} {row : ρ} (found : table.find? k = some row) :
    row ∈ table.rows :=
  ((table.find?_eq_some k row).mp found).1

theorem find?_of_mem {table : Table κ ρ key} {row : ρ} (member : row ∈ table.rows) :
    table.find? (key row) = some row :=
  (table.find?_eq_some _ row).mpr ⟨member, rfl⟩

theorem find?_modify (table : Table κ ρ key) (k j : κ) (update : RowUpdate κ ρ key) :
    (table.modify k update).find? j =
      if j = k then (table.find? k).map update.apply else table.find? j := by
  obtain ⟨rows, unique⟩ := table
  simp only [find?, modify]
  clear unique
  induction rows with
  | nil => simp
  | cons head rest ih =>
    by_cases hit : key head = k
    · by_cases wanted : j = k
      · simp [hit, wanted, update.keeps]
      · have other : ¬ k = j := fun same => wanted same.symm
        simpa [hit, update.keeps, other, wanted] using ih
    · by_cases wanted : j = k
      · subst wanted
        simpa [hit] using ih
      · by_cases same : key head = j
        · simp [same, wanted]
        · simpa [hit, same, wanted] using ih

theorem find?_modify_self (table : Table κ ρ key) (k : κ) (update : RowUpdate κ ρ key) :
    (table.modify k update).find? k = (table.find? k).map update.apply := by
  simp [find?_modify]

theorem find?_modify_other (table : Table κ ρ key) {k j : κ} (update : RowUpdate κ ρ key)
    (other : j ≠ k) :
    (table.modify k update).find? j = table.find? j := by
  simp [find?_modify, other]

theorem mem_modify (table : Table κ ρ key) (k : κ) (update : RowUpdate κ ρ key) (row : ρ) :
    row ∈ (table.modify k update).rows ↔
      (∃ old, table.find? k = some old ∧ update.apply old = row) ∨ (row ∈ table.rows ∧ key row ≠ k) := by
  simp only [modify, List.mem_map, find?_eq_some]
  constructor
  · rintro ⟨old, member, image⟩
    by_cases hit : key old = k
    · exact .inl ⟨old, ⟨member, hit⟩, by simpa [hit] using image⟩
    · rw [if_neg hit] at image
      exact .inr ⟨image ▸ member, image ▸ hit⟩
  · rintro (⟨old, ⟨member, hit⟩, image⟩ | ⟨member, miss⟩)
    · exact ⟨old, member, by simpa [hit] using image⟩
    · exact ⟨row, member, by simp [miss]⟩

theorem mem_erase (table : Table κ ρ key) (k : κ) (row : ρ) :
    row ∈ (table.erase k).rows ↔ row ∈ table.rows ∧ key row ≠ k := by
  simp [erase]

omit [DecidableEq κ] in
theorem mem_updateWhere (table : Table κ ρ key) (chosen : ρ → Bool) (update : RowUpdate κ ρ key)
    (row : ρ) :
    row ∈ (table.updateWhere chosen update).rows ↔
      ∃ old ∈ table.rows, (if chosen old then update.apply old else old) = row := List.mem_map

theorem find?_updateWhere (table : Table κ ρ key) (chosen : ρ → Bool) (update : RowUpdate κ ρ key)
    (k : κ) : (table.updateWhere chosen update).find? k =
      (table.find? k).map fun row => if chosen row then update.apply row else row := by
  simp only [find?, updateWhere, List.find?_map]
  congr 2
  funext row
  cases hit : chosen row <;> simp [hit, update.keeps]

omit [DecidableEq κ] in
theorem mem_deleteWhere (table : Table κ ρ key) (chosen : ρ → Bool) (row : ρ) :
    row ∈ (table.deleteWhere chosen).rows ↔ row ∈ table.rows ∧ chosen row = false := by
  simp [deleteWhere]

theorem map_modify {β : Type} (table : Table κ ρ key) (k : κ) (update : RowUpdate κ ρ key)
    (f : ρ → β) (same : ∀ row, f (update.apply row) = f row) :
    (table.modify k update).rows.map f = table.rows.map f := by
  rw [modify, List.map_map]
  refine List.map_congr_left fun row _ => ?_
  by_cases hit : key row = k <;> simp [hit, same]

theorem modify_modify (table : Table κ ρ key) (k : κ) (first second : RowUpdate κ ρ key) :
    (table.modify k first).modify k second =
      table.modify k
        { apply := fun row => second.apply (first.apply row)
          keeps := fun row => (second.keeps _).trans (first.keeps row) } := by
  simp only [modify, List.map_map, mk.injEq]
  apply List.map_congr_left
  intro row _
  by_cases hit : key row = k <;> simp [hit, first.keeps]

theorem insert?_eq_some (table grown : Table κ ρ key) (row : ρ) :
    table.insert? row = some grown ↔
      key row ∉ table.rows.map key ∧ grown.rows = table.rows ++ [row] := by
  unfold insert?
  split
  next used => simp [used]
  next unused =>
    simp only [Option.some.injEq, unused, not_false_iff, true_and]
    constructor
    · rintro rfl; rfl
    · intro same
      cases grown
      simpa using same.symm

theorem mem_insert {table grown : Table κ ρ key} {row : ρ}
    (inserted : table.insert? row = some grown) (other : ρ) :
    other ∈ grown.rows ↔ other ∈ table.rows ∨ other = row := by
  obtain ⟨-, rows⟩ := (insert?_eq_some table grown row).mp inserted
  rw [rows, List.mem_append, List.mem_singleton]

theorem find?_insert {table grown : Table κ ρ key} {row : ρ} (inserted : table.insert? row = some grown)
    (j : κ) : grown.find? j = if j = key row then some row else table.find? j := by
  obtain ⟨unused, rows⟩ := (insert?_eq_some table grown row).mp inserted
  unfold find?
  rw [rows, List.find?_append]
  by_cases same : j = key row
  · have missing : table.rows.find? (fun r => decide (key r = j)) = none := by
      rw [List.find?_eq_none]
      intro r member
      simp only [decide_eq_true_eq]
      intro hit
      exact unused (List.mem_map.mpr ⟨r, member, hit.trans same⟩)
    rw [missing]
    simp [same]
  · have other : ¬ key row = j := fun hit => same hit.symm
    simp [same, other]

theorem insert?_returns {table : Table κ ρ key} {row : ρ} (unused : ∀ old ∈ table.rows, key old ≠ key row) :
    ∃ grown, table.insert? row = some grown := by
  have free : key row ∉ table.rows.map key := by
    intro used
    obtain ⟨old, member, same⟩ := List.mem_map.mp used
    exact unused old member same
  exact ⟨_, dif_neg free⟩

theorem rows_modify_last {table : Table κ ρ key} {rows : List ρ} {row : ρ}
    (last : table.rows = rows ++ [row]) (update : RowUpdate κ ρ key) :
    (table.modify (key row) update).rows = rows ++ [update.apply row] := by
  have unique := table.unique
  rw [last, List.map_append, List.nodup_append] at unique
  simp only [modify, last, List.map_append, List.map_cons, List.map_nil, if_true]
  congr 1
  conv_rhs => rw [← List.map_id rows]
  apply List.map_congr_left
  intro old member
  have other : key old ≠ key row :=
    unique.2.2 (key old) (List.mem_map_of_mem member) (key row) (by simp)
  simp [other]

theorem ensure_of_found {table : Table κ ρ key} {row old : ρ} (found : table.find? (key row) = some old) :
    table.ensure row = table := by
  have used : key row ∈ table.rows.map key :=
    List.mem_map.mpr ⟨old, find?_mem found, find?_key found⟩
  simp only [ensure, insert?, dif_pos used, Option.getD_none]

theorem ensure_of_missing {table : Table κ ρ key} {row : ρ} (missing : table.find? (key row) = none) :
    table.insert? row = some (table.ensure row) := by
  have unused : key row ∉ table.rows.map key := by
    rw [find?_eq_none] at missing
    intro member
    obtain ⟨old, stored, same⟩ := List.mem_map.mp member
    exact missing old stored same
  simp only [ensure, insert?, dif_neg unused, Option.getD_some]

theorem find?_ensure (table : Table κ ρ key) (row : ρ) (j : κ) :
    (table.ensure row).find? j =
      if j = key row then some ((table.find? (key row)).getD row) else table.find? j := by
  cases found : table.find? (key row) with
  | some old =>
    rw [ensure_of_found found]
    split
    next same => rw [same, found]; rfl
    next => rfl
  | none => rw [find?_insert (ensure_of_missing found)]; rfl

-- The row of its key from now on: in the place of an older one, else as the last.
def put (table : Table κ ρ key) (row : ρ) : Table κ ρ key :=
  (table.ensure row).modify (key row)
    { apply := fun old => if key row = key old then row else old
      keeps := fun old => by
        split
        next same => exact same
        next => rfl }

theorem find?_put (table : Table κ ρ key) (row : ρ) (j : κ) :
    (table.put row).find? j = if j = key row then some row else table.find? j := by
  rw [put, find?_modify, find?_ensure, if_pos rfl]
  split
  next same =>
    cases found : table.find? (key row) with
    | none => exact congrArg some (if_pos rfl)
    | some old => exact congrArg some (if_pos (find?_key found).symm)
  next other => rw [find?_ensure, if_neg other]

theorem mem_put {table : Table κ ρ key} {row row' : ρ} (member : row' ∈ (table.put row).rows) :
    row' = row ∨ row' ∈ table.rows := by
  have found := find?_of_mem member
  rw [find?_put] at found
  split at found
  next => exact .inl (Option.some.inj found).symm
  next => exact .inr (find?_mem found)

theorem mem_ensure {table : Table κ ρ key} {row row' : ρ} (member : row' ∈ (table.ensure row).rows) :
    row' ∈ table.rows ∨ row' = row := by
  cases found : table.find? (key row) with
  | some old =>
    rw [ensure_of_found found] at member
    exact .inl member
  | none =>
    rw [((insert?_eq_some _ _ _).mp (ensure_of_missing found)).2] at member
    simpa using member

section Sums

variable {M : Type}

omit [DecidableEq κ] in
theorem sum_filter [AddCommMonoid M] (table : Table κ ρ key) (kept : ρ → Bool) (value : ρ → M) :
    ((table.rows.filter kept).map value).sum =
      table.sum fun row => if kept row then value row else 0 := by
  unfold sum
  induction table.rows with
  | nil => rfl
  | cons head rest ih => by_cases keep : kept head <;> simp [keep, ih]

theorem sum_insert [AddCommMonoid M] {table grown : Table κ ρ key} {row : ρ}
    (inserted : table.insert? row = some grown) (value : ρ → M) :
    grown.sum value = table.sum value + value row := by
  rw [sum, ((insert?_eq_some table grown row).mp inserted).2]
  simp [sum]

theorem sum_ensure [AddCommMonoid M] (table : Table κ ρ key) (row : ρ) (value : ρ → M)
    (zero : value row = 0) : (table.ensure row).sum value = table.sum value := by
  cases found : table.find? (key row) with
  | some old => rw [ensure_of_found found]
  | none => rw [sum_insert (ensure_of_missing found), zero, add_zero]

theorem sum_modify_same [AddCommMonoid M] (table : Table κ ρ key) (k : κ)
    (update : RowUpdate κ ρ key) (value : ρ → M)
    (same : ∀ row, table.find? k = some row → value (update.apply row) = value row) :
    (table.modify k update).sum value = table.sum value := by
  unfold sum modify
  rw [List.map_map]
  congr 1
  apply List.map_congr_left
  intro row member
  by_cases hit : key row = k
  · simp [hit, same row ((find?_eq_some table k row).mpr ⟨member, hit⟩)]
  · simp [hit]

theorem sum_modify [AddCommGroup M] (table : Table κ ρ key) (k : κ)
    (update : RowUpdate κ ρ key) (value : ρ → M) {row : ρ} (found : table.find? k = some row) :
    (table.modify k update).sum value =
      table.sum value + (value (update.apply row) - value row) := by
  obtain ⟨member, rfl⟩ := (table.find?_eq_some k row).mp found
  obtain ⟨rows, unique⟩ := table
  simp only [sum, modify] at member ⊢
  clear found
  induction rows with
  | nil => simp at member
  | cons head rest ih =>
    simp only [List.map_cons, List.nodup_cons, List.sum_cons] at unique ⊢
    rcases List.mem_cons.mp member with rfl | later
    · have tail : rest.map (fun r => if key r = key row then update.apply r else r) = rest := by
        conv_rhs => rw [← List.map_id rest]
        apply List.map_congr_left
        intro r present
        have other : key r ≠ key row := fun hit => unique.1 (List.mem_map.mpr ⟨r, present, hit⟩)
        simp [other]
      rw [tail, if_pos rfl]
      abel
    · have other : key head ≠ key row := fun hit =>
        unique.1 (List.mem_map.mpr ⟨row, later, hit.symm⟩)
      rw [if_neg other, ih unique.2 later]
      abel

omit [DecidableEq κ] in
theorem sum_only [AddCommMonoid M] (table : Table κ ρ key) (value : ρ → M) {row : ρ}
    (stored : row ∈ table.rows)
    (zero : ∀ other ∈ table.rows, key other ≠ key row → value other = 0) :
    table.sum value = value row := by
  obtain ⟨rows, unique⟩ := table
  unfold sum
  simp only at stored zero ⊢
  induction rows with
  | nil => cases stored
  | cons head rest ih =>
    simp only [List.map_cons, List.nodup_cons, List.sum_cons] at unique ⊢
    rcases List.mem_cons.mp stored with rfl | later
    · have empty : (rest.map value).sum = 0 := by
        refine List.sum_eq_zero fun term member => ?_
        obtain ⟨other, present, rfl⟩ := List.mem_map.mp member
        refine zero other (List.mem_cons_of_mem _ present) fun same => ?_
        exact unique.1 (same ▸ List.mem_map_of_mem present)
      rw [empty, add_zero]
    · have other : key head ≠ key row := fun same => unique.1 (same ▸ List.mem_map_of_mem later)
      rw [zero head List.mem_cons_self other, zero_add]
      exact ih unique.2 later fun other present => zero other (List.mem_cons_of_mem _ present)

end Sums

end Table

end Shared
