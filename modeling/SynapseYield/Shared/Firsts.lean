import Mathlib.Data.List.Basic
import Mathlib.Data.List.Nodup

set_option autoImplicit false

-- What is done once for each key, at the first item that has it.
namespace Shared.Firsts

variable {α κ : Type} [DecidableEq κ] (key : α → κ)

def marked : List κ → List α → List (α × Bool)
  | _, [] => []
  | seen, item :: rest => (item, decide (key item ∉ seen)) :: marked (key item :: seen) rest

def firsts (seen : List κ) (items : List α) : List α :=
  ((marked key seen items).filter (·.2)).map (·.1)

variable {key} {seen : List κ} {items before : List α} {item : α} {k : κ}

theorem firsts_cons_new (new : key item ∉ seen) :
    firsts key seen (item :: items) = item :: firsts key (key item :: seen) items := by
  simp [firsts, marked, new]

theorem firsts_cons_seen (old : key item ∈ seen) :
    firsts key seen (item :: items) = firsts key (key item :: seen) items := by
  simp [firsts, marked, old]

theorem marked_fst : (marked key seen items).map (·.1) = items := by
  induction items generalizing seen with
  | nil => rfl
  | cons item rest ih => rw [marked, List.map_cons, ih]

theorem marked_append :
    marked key seen (before ++ items) =
      marked key seen before ++ marked key ((before.map key).reverse ++ seen) items := by
  induction before generalizing seen with
  | nil => rfl
  | cons item rest ih =>
    rw [List.cons_append, marked, marked, ih, List.map_cons, List.reverse_cons, List.append_assoc]
    rfl

theorem firsts_snoc : firsts key [] (items ++ [item]) =
    firsts key [] items ++ if key item ∈ items.map key then [] else [item] := by
  have seen : key item ∈ (items.map key).reverse ++ [] ↔ key item ∈ items.map key := by
    rw [List.append_nil, List.mem_reverse]
  rw [firsts, marked_append, List.filter_append, List.map_append, ← firsts, marked, marked]
  by_cases old : key item ∈ items.map key
  · simp only [seen, old, not_true, decide_false, if_true]
    rfl
  · simp only [seen, old, not_false_eq_true, decide_true, if_false]
    rfl

theorem firsts_key : (firsts key seen items).filter (fun item => key item = k) =
    if k ∈ seen then [] else (items.find? fun item => key item = k).toList := by
  induction items generalizing seen with
  | nil => simp [firsts, marked]
  | cons item rest ih =>
    by_cases old : key item ∈ seen
    · rw [firsts_cons_seen old, ih]
      by_cases same : key item = k
      · subst same
        simp [old]
      · simp [same, Ne.symm same]
    · rw [firsts_cons_new old, List.filter_cons, ih]
      by_cases same : key item = k
      · subst same
        simp [old]
      · simp [same, Ne.symm same]

theorem firsts_fresh (member : item ∈ firsts key seen items) : key item ∉ seen := by
  intro old
  have kept : item ∈ (firsts key seen items).filter (fun other => key other = key item) :=
    List.mem_filter.mpr ⟨member, by simp⟩
  rw [firsts_key, if_pos old] at kept
  cases kept

theorem firsts_nodup : ((firsts key seen items).map key).Nodup := by
  induction items generalizing seen with
  | nil => exact .nil
  | cons item rest ih =>
    by_cases old : key item ∈ seen
    · rw [firsts_cons_seen old]
      exact ih
    · rw [firsts_cons_new old, List.map_cons]
      refine List.nodup_cons.mpr ⟨fun again => ?_, ih⟩
      obtain ⟨other, member, same⟩ := List.mem_map.mp again
      exact firsts_fresh member (same ▸ List.mem_cons_self)

theorem key_mem_firsts : k ∈ (firsts key [] items).map key ↔ k ∈ items.map key := by
  constructor
  · intro member
    obtain ⟨item, first, rfl⟩ := List.mem_map.mp member
    obtain ⟨entry, marks, rfl⟩ := List.mem_map.mp first
    refine List.mem_map_of_mem ?_
    rw [← @marked_fst _ _ _ key [] items]
    exact List.mem_map_of_mem (List.mem_of_mem_filter marks)
  · intro member
    obtain ⟨item, listed, same⟩ := List.mem_map.mp member
    have found : (items.find? fun item => key item = k).isSome := by
      rw [List.find?_isSome]
      exact ⟨item, listed, by simpa using same⟩
    obtain ⟨first, found⟩ := Option.isSome_iff_exists.mp found
    have kept := @firsts_key _ _ _ key [] items k
    rw [if_neg List.not_mem_nil, found, Option.toList_some] at kept
    have member : first ∈ (firsts key [] items).filter fun item => key item = k := by
      rw [kept]
      exact List.mem_cons_self
    obtain ⟨listed, same⟩ := List.mem_filter.mp member
    exact List.mem_map.mpr ⟨first, listed, by simpa using same⟩

theorem mem_firsts : item ∈ firsts key [] items ↔
    items.find? (fun other => key other = key item) = some item := by
  have kept : item ∈ firsts key [] items ↔
      item ∈ (firsts key [] items).filter fun other => key other = key item := by
    simp [List.mem_filter]
  rw [kept, firsts_key, if_neg List.not_mem_nil, Option.mem_toList]

end Shared.Firsts
