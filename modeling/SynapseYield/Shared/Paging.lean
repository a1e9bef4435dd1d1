import Mathlib.Data.List.DropRight
import Mathlib.Data.List.Nodup

set_option autoImplicit false

namespace Shared.Paging

variable {α ε : Type}

-- A loop that asks for page after page of what is left, in the order in which the pages go.
structure Pager (α ε : Type) where
  -- What a page is asked to have, and what it has at most
  asked : Nat
  served : Nat
  keep : α → Bool
  -- Nothing is wanted after such an item.
  past : α → Bool
  -- Whether the loop gives up before a page
  expired : Nat → Option ε

namespace Pager

variable (pager : Pager α ε)

def reach (data : List α) : List α := data.rdropWhile fun item => ! pager.keep item

def scan : Nat → Nat → List α → Except ε (List α)
  | 0, _, _ => .ok []
  | left + 1, page, items =>
    match pager.expired page with
    | some raised => .error raised
    | none =>
      let data := items.take pager.served
      match (pager.reach data).getLast? with
      | none => .ok []
      | some last =>
        if pager.past last || data.length < pager.asked then .ok (data.filter pager.keep)
        else do
          let later ← scan left (page + 1) (items.drop (pager.reach data).length)
          return data.filter pager.keep ++ later

-- The loop gives up, or it does not stop before the page with the last of the wanted items.
def Enough (wanted : α → Bool) : Nat → Nat → List α → Prop
  | 0, _, items => ∀ item ∈ items, wanted item = false
  | left + 1, page, items =>
    (pager.expired page).isSome = true ∨
      (∀ item ∈ items, wanted item = true → item ∈ items.take pager.served) ∨
      pager.asked ≤ pager.served ∧ pager.reach (items.take pager.served) ≠ [] ∧
        Enough wanted left (page + 1) (items.drop (pager.reach (items.take pager.served)).length)

def Correct (wanted : α → Bool) (left page : Nat) (items : List α) : Except ε (List α) → Prop
  | .error _ => pager.Enough wanted left page items
  | .ok rows => rows <+: items.filter pager.keep ∧
    (pager.Enough wanted left page items ↔ ∀ item ∈ items, wanted item = true → item ∈ rows)

variable {pager} {wanted : α → Bool} {items data rows : List α}

theorem reach_filter : (pager.reach data).filter pager.keep = data.filter pager.keep := by
  have rest : (data.rtakeWhile fun item => ! pager.keep item).filter pager.keep = [] := by
    rw [List.filter_eq_nil_iff]
    intro item mem
    simpa using List.mem_rtakeWhile_imp mem
  conv_rhs => rw [← List.rdropWhile_append_rtakeWhile (p := fun item => ! pager.keep item) (l := data),
    List.filter_append, rest, List.append_nil]
  rfl

theorem reach_starts : pager.reach data <+: data := List.rdropWhile_prefix _ _

theorem reach_last {last : α} (ends : (pager.reach data).getLast? = some last) :
    pager.keep last = true := by
  have some : pager.reach data ≠ [] := by
    intro none
    rw [none] at ends
    cases ends
  rw [List.getLast?_eq_some_getLast some, Option.some_inj] at ends
  have last_kept := List.rdropWhile_last_not (fun item => ! pager.keep item) data some
  rw [Bool.not_eq_true', Bool.not_eq_false] at last_kept
  rw [← ends]
  exact last_kept

theorem reach_append_drop :
    pager.reach (items.take pager.served) ++
      items.drop (pager.reach (items.take pager.served)).length = items :=
  List.prefix_iff_eq_append.mp
    ((@reach_starts _ _ pager _).trans (List.take_prefix pager.served items))

theorem mem_page_iff (kept : ∀ item, wanted item = true → pager.keep item = true) {item : α}
    (want : wanted item = true) :
    item ∈ items.take pager.served ↔ item ∈ (items.take pager.served).filter pager.keep := by
  rw [List.mem_filter, and_iff_left (kept item want)]

theorem page_starts :
    (items.take pager.served).filter pager.keep <+: items.filter pager.keep :=
  (List.take_prefix _ _).filter _

theorem enough_of_stop (kept : ∀ item, wanted item = true → pager.keep item = true)
    {left page : Nat} (unexpired : pager.expired page = none)
    (closed : items.Pairwise fun item later => pager.past item = true → wanted later = false)
    (stops : pager.reach (items.take pager.served) = [] ∨
      (∃ last, (pager.reach (items.take pager.served)).getLast? = some last ∧
        pager.past last = true) ∨ (items.take pager.served).length < pager.asked) :
    pager.Enough wanted (left + 1) page items ↔ ∀ item ∈ items, wanted item = true →
      item ∈ (items.take pager.served).filter pager.keep := by
  have paged : (∀ item ∈ items, wanted item = true → item ∈ items.take pager.served) ↔
      ∀ item ∈ items, wanted item = true → item ∈ (items.take pager.served).filter pager.keep :=
    forall₃_congr fun item _ want => mem_page_iff kept want
  rw [Enough, unexpired, paged]
  refine ⟨fun enough => ?_, fun covered => .inr (.inl covered)⟩
  rcases enough with gives | covered | ⟨full, some, -⟩
  · cases gives
  · exact covered
  rw [← paged]
  intro item mem want
  rcases stops with none | ⟨last, ends, past⟩ | short
  · exact absurd none some
  · rw [← @reach_append_drop _ _ pager items] at mem closed
    rcases List.mem_append.mp mem with mem | mem
    · exact reach_starts.subset mem
    · have := (List.pairwise_append.mp closed).2.2 last (List.mem_of_getLast? ends) item mem past
      rw [this] at want
      cases want
  · rw [List.length_take] at short
    rw [List.take_of_length_le (by omega)]
    exact mem

theorem continues (kept : ∀ item, wanted item = true → pager.keep item = true)
    {left page : Nat} (distinct : items.Nodup) (unexpired : pager.expired page = none)
    (full : pager.asked ≤ pager.served) (some : pager.reach (items.take pager.served) ≠ [])
    (front : rows <+:
      (items.drop (pager.reach (items.take pager.served)).length).filter pager.keep)
    (covers : pager.Enough wanted left (page + 1)
        (items.drop (pager.reach (items.take pager.served)).length) ↔
      ∀ item ∈ items.drop (pager.reach (items.take pager.served)).length, wanted item = true →
        item ∈ rows) :
    pager.Correct wanted (left + 1) page items
      (.ok ((items.take pager.served).filter pager.keep ++ rows)) := by
  have split := @reach_append_drop _ _ pager items
  have filtered := @reach_filter _ _ pager (items.take pager.served)
  constructor
  · conv_rhs => rw [← split]
    rw [List.filter_append, filtered]
    exact (List.prefix_append_right_inj _).mpr front
  rw [Enough, unexpired, covers]
  constructor
  · rintro (gives | covered | ⟨-, -, covered⟩) item mem want
    · cases gives
    · exact List.mem_append_left _ ((mem_page_iff kept want).mp (covered item mem want))
    · rw [← split] at mem
      rcases List.mem_append.mp mem with mem | mem
      · exact List.mem_append_left _ ((mem_page_iff kept want).mp (reach_starts.subset mem))
      · exact List.mem_append_right _ (covered item mem want)
  · refine fun covered => .inr (.inr ⟨full, some, fun item mem want => ?_⟩)
    refine (List.mem_append.mp (covered item (List.mem_of_mem_drop mem) want)).resolve_left
      fun again => ?_
    rw [← filtered] at again
    rw [← split] at distinct
    exact List.disjoint_of_nodup_append distinct (List.mem_of_mem_filter again) mem

theorem scan_correct (kept : ∀ item, wanted item = true → pager.keep item = true)
    {left page : Nat} (distinct : items.Nodup)
    (closed : items.Pairwise fun item later => pager.past item = true → wanted later = false) :
    pager.Correct wanted left page items (pager.scan left page items) := by
  induction left generalizing page items with
  | zero => simp [scan, Enough, Correct]
  | succ left ih =>
    rw [scan]
    cases expired : pager.expired page with
    | some raised => exact .inl (by rw [expired]; rfl)
    | none =>
      dsimp only
      cases ends : (pager.reach (items.take pager.served)).getLast? with
      | none =>
        have stops := (@enough_of_stop _ _ pager wanted items kept left page) expired closed
          (.inl (List.getLast?_eq_none_iff.mp ends))
        rw [← reach_filter, List.getLast?_eq_none_iff.mp ends] at stops
        exact ⟨List.nil_prefix, stops⟩
      | some last =>
        dsimp only
        split
        next stop =>
          rw [Bool.or_eq_true, decide_eq_true_iff] at stop
          exact ⟨page_starts, enough_of_stop kept expired closed
            (.inr (stop.imp_left fun past => ⟨last, ends, past⟩))⟩
        next goOn =>
          rw [Bool.or_eq_true, decide_eq_true_iff, not_or, not_lt] at goOn
          have full : pager.asked ≤ pager.served := goOn.2.trans (List.length_take_le _ _)
          have some : pager.reach (items.take pager.served) ≠ [] := fun none => by
            rw [none] at ends
            cases ends
          have split := @reach_append_drop _ _ pager items
          have step := (@ih (items.drop (pager.reach (items.take pager.served)).length)
            (page + 1)) (distinct.sublist (List.drop_sublist _ _))
            (closed.sublist (List.drop_sublist _ _))
          cases later : pager.scan left (page + 1)
              (items.drop (pager.reach (items.take pager.served)).length) with
          | error raised =>
            rw [later] at step
            exact .inr (.inr ⟨full, some, step⟩)
          | ok rows =>
            rw [later] at step
            obtain ⟨front, covers⟩ := step
            exact continues kept distinct expired full some front covers

theorem enough_iff_of_short {left page : Nat} (short : pager.served < pager.asked)
    (unexpired : pager.expired page = none) :
    pager.Enough wanted (left + 1) page items ↔
      ∀ item ∈ items, wanted item = true → item ∈ items.take pager.served := by
  rw [Enough, unexpired]
  simp [short.not_ge]

theorem getLast?_filter : (data.filter pager.keep).getLast? = (pager.reach data).getLast? := by
  rw [← reach_filter]
  cases ends : (pager.reach data).getLast? with
  | none => rw [List.getLast?_eq_none_iff.mp ends, List.filter_nil, List.getLast?_nil]
  | some last =>
    obtain ⟨before, split⟩ := List.getLast?_eq_some_iff.mp ends
    rw [split, List.filter_append, List.filter_singleton, reach_last ends, cond_true,
      List.getLast?_concat]

end Pager

theorem filter_after {r : α → α → Bool} {front rest : List α} {last : α}
    (ordered : (front ++ rest).Pairwise fun item later => r item later = true)
    (strict : ∀ item later, r item later = true → r later item = false)
    (ends : front.getLast? = some last) : (front ++ rest).filter (r last) = rest := by
  obtain ⟨before, rfl⟩ := List.getLast?_eq_some_iff.mp ends
  have irrefl : r last last = false := by
    by_contra same
    rw [Bool.not_eq_false] at same
    exact absurd same (by rw [strict last last same]; exact Bool.false_ne_true)
  have ⟨front, _, after⟩ := List.pairwise_append.mp ordered
  have earlier : before.filter (r last) = [] := by
    rw [List.filter_eq_nil_iff]
    intro item mem
    rw [strict item last ((List.pairwise_append.mp front).2.2 item mem last (by simp))]
    exact Bool.false_ne_true
  have later : rest.filter (r last) = rest :=
    List.filter_eq_self.mpr fun item mem => after last (by simp) item mem
  rw [List.filter_append, List.filter_append, earlier, later, List.filter_singleton, irrefl]
  rfl

end Shared.Paging
