import Mathlib.Data.List.GetD
import SynapseYield.Tools.FinancialRigor

set_option autoImplicit false

namespace SynapseYield.Tools

open Shared

section Median

-- No more than half of the values are below it, and no more than half above.
def IsMedian (m : ℚ) (values : List ℚ) : Prop :=
  2 * values.countP (· < m) ≤ values.length ∧ 2 * values.countP (m < ·) ≤ values.length

variable {nums : List ℚ} {m : ℚ} {k : Nat}

theorem countP_below_le (least : ∀ i, k ≤ i → ∀ h : i < nums.length, m ≤ nums[i]) :
    nums.countP (· < m) ≤ k := by
  rw [← List.take_append_drop k nums, List.countP_append]
  have above : (nums.drop k).countP (· < m) = 0 := by
    rw [List.countP_eq_zero]
    intro x mem
    obtain ⟨i, inside, rfl⟩ := List.mem_iff_getElem.mp mem
    rw [List.getElem_drop, decide_eq_true_iff, not_lt]
    exact least _ (Nat.le_add_right _ _) _
  rw [above, add_zero]
  exact List.countP_le_length.trans (List.length_take_le _ _)

theorem countP_above_le (most : ∀ i, i < k → ∀ h : i < nums.length, nums[i] ≤ m) :
    nums.countP (m < ·) ≤ nums.length - k := by
  rw [← List.take_append_drop k nums, List.countP_append]
  have below : (nums.take k).countP (m < ·) = 0 := by
    rw [List.countP_eq_zero]
    intro x mem
    obtain ⟨i, inside, rfl⟩ := List.mem_iff_getElem.mp mem
    rw [List.getElem_take, decide_eq_true_iff, not_lt]
    exact most _ (lt_of_lt_of_le inside (List.length_take_le _ _)) _
  rw [below, zero_add, List.take_append_drop]
  exact List.countP_le_length.trans (List.length_drop ..).le

/-- What the values are compared with is a median of them. -/
theorem medianReference_isMedian (values : List ℚ) : IsMedian (medianReference values) values := by
  have sorted : (values.insertionSort (· ≤ ·)).Pairwise (· ≤ ·) :=
    List.pairwise_insertionSort _ _
  have same := List.perm_insertionSort (· ≤ ·) values
  rw [IsMedian, ← same.countP_eq, ← same.countP_eq, ← same.length_eq, medianReference]
  generalize values.insertionSort (· ≤ ·) = nums at sorted
  have ordered : ∀ i j, (le : i ≤ j) → (h : j < nums.length) → nums[i] ≤ nums[j] :=
      fun i j le h => by
    rcases le.eq_or_lt with rfl | lt
    · exact le_rfl
    · exact List.pairwise_iff_getElem.mp sorted i j (lt.trans h) h lt
  split
  next empty => simp [List.eq_nil_of_length_eq_zero empty]
  next some =>
    have middle : nums.length / 2 < nums.length := by omega
    split
    next odd =>
      rw [List.getD_eq_getElem _ _ middle]
      have below := @countP_below_le nums nums[nums.length / 2] _ fun i le h =>
        ordered _ i le h
      have above := @countP_above_le nums nums[nums.length / 2]
        (nums.length / 2 + 1) fun i lt _ => ordered i _ (Nat.le_of_lt_succ lt) middle
      constructor <;> omega
    next even =>
      have before : nums.length / 2 - 1 < nums.length := by omega
      rw [List.getD_eq_getElem _ _ middle, List.getD_eq_getElem _ _ before]
      have between := ordered (nums.length / 2 - 1) (nums.length / 2) (by omega) middle
      have below := @countP_below_le nums ((nums[nums.length / 2 - 1] + nums[nums.length / 2]) / 2)
        (nums.length / 2) fun i le h => by
          linarith [ordered _ i le h]
      have above := @countP_above_le nums ((nums[nums.length / 2 - 1] + nums[nums.length / 2]) / 2)
        (nums.length / 2) fun i lt _ => by
          linarith [ordered i (nums.length / 2 - 1) (by omega) before]
      constructor <;> omega

end Median

-- |v - m| <= t% of |m|
def Within (tolerancePct reference value : ℚ) : Prop :=
  |value - reference| ≤ tolerancePct / 100 * |reference|

instance (tolerancePct reference value : ℚ) : Decidable (Within tolerancePct reference value) :=
  inferInstanceAs (Decidable (_ ≤ _))

def Agree (sourceValues : List (PyString × ℚ)) (tolerancePct : ℚ) : Prop :=
  ∀ source ∈ sourceValues,
    Within tolerancePct (medianReference (sourceValues.map Prod.snd)) source.2

instance (sourceValues : List (PyString × ℚ)) (tolerancePct : ℚ) :
    Decidable (Agree sourceValues tolerancePct) :=
  inferInstanceAs (Decidable (∀ _ ∈ _, _))

theorem two_nonneg : (0 : ℚ) ≤ 2 := by norm_num

section Checks

variable {reference value tolerancePct : ℚ}

theorem deviationFrom_le_iff (positive : 0 < reference) :
    deviationFrom reference value ≤ tolerancePct ↔ Within tolerancePct reference value := by
  rw [deviationFrom, if_pos positive.ne', Within, abs_of_pos positive, div_mul_eq_mul_div,
    div_le_iff₀ positive, div_mul_eq_mul_div, le_div_iff₀ (by norm_num : (0 : ℚ) < 100)]

theorem deviationFrom_le_zero (nonpos : reference ≤ 0) : deviationFrom reference value ≤ 0 := by
  unfold deviationFrom
  split
  next =>
    exact mul_nonpos_of_nonpos_of_nonneg (div_nonpos_of_nonneg_of_nonpos (abs_nonneg _) nonpos)
      (by norm_num)
  next => exact le_rfl

theorem foldl_consistent (reports : List SourceReport) (all : Bool) :
    reports.foldl (fun all source => all && source.consistent) all =
      (all && reports.all (·.consistent)) := by
  induction reports generalizing all with
  | nil => simp
  | cons report rest ih => rw [List.foldl_cons, ih, List.all_cons, Bool.and_assoc]

variable {fieldName unit currency : PyString} {sourceValues : List (PyString × ℚ)}
  {price shares reported : ℚ}

theorem allConsistent_iff :
    (crossValidate fieldName sourceValues unit tolerancePct).allConsistent = true ↔
      ∀ source ∈ sourceValues,
        deviationFrom (medianReference (sourceValues.map Prod.snd)) source.2 ≤ tolerancePct := by
  rw [crossValidate, foldl_consistent, Bool.true_and, List.all_map]
  simp [sourceReport]

theorem crossValidate_iff (nonneg : 0 ≤ tolerancePct) :
    ((crossValidate fieldName sourceValues unit tolerancePct).allConsistent = true ↔
        Agree sourceValues tolerancePct) ↔
      0 < medianReference (sourceValues.map Prod.snd) ∨ Agree sourceValues tolerancePct := by
  rw [allConsistent_iff, Agree]
  rcases lt_or_ge 0 (medianReference (sourceValues.map Prod.snd)) with positive | nonpos
  · simp only [deviationFrom_le_iff positive, positive, true_or]
  · have passes : ∀ source ∈ sourceValues,
        deviationFrom (medianReference (sourceValues.map Prod.snd)) source.2 ≤ tolerancePct :=
      fun _ _ => (deviationFrom_le_zero nonpos).trans nonneg
    rw [iff_true_intro passes, true_iff, or_iff_right nonpos.not_gt]

theorem verifyMarketCap_iff :
    ((verifyMarketCap price shares reported currency).verdict = .pass →
        Within 1 reported (price * shares)) ↔ reported ≠ 0 ∨ price * shares = 0 := by
  rw [verifyMarketCap]
  generalize price * shares = calculated
  by_cases none : reported = 0
  · subst none
    norm_num [Within]
  · have size : 0 < |reported| := abs_pos.mpr none
    simp only [ne_eq, none, not_false_eq_true, true_or, iff_true, if_true]
    intro passed
    split at passed
    next => cases passed
    next =>
      split at passed
      next => cases passed
      next small =>
        rw [abs_div, div_mul_eq_mul_div, not_lt, div_le_iff₀ size] at small
        rw [Within]
        linarith

end Checks

/-- Both checks catch what they are for where the median is positive or nothing deviates from it,
and where a market capitalisation is reported or there is none; the reference is a median. -/
theorem checks_iff (fieldName unit currency : PyString) (sourceValues : List (PyString × ℚ))
    (price shares reported : ℚ) {tolerancePct : ℚ} (nonneg : 0 ≤ tolerancePct) :
    IsMedian (medianReference (sourceValues.map Prod.snd)) (sourceValues.map Prod.snd) ∧
      ((((crossValidate fieldName sourceValues unit tolerancePct).allConsistent = true ↔
            Agree sourceValues tolerancePct) ∧
          ((verifyMarketCap price shares reported currency).verdict = .pass →
            Within 1 reported (price * shares))) ↔
        (0 < medianReference (sourceValues.map Prod.snd) ∨ Agree sourceValues tolerancePct) ∧
          (reported ≠ 0 ∨ price * shares = 0)) :=
  ⟨medianReference_isMedian _, and_congr (crossValidate_iff nonneg) verifyMarketCap_iff⟩

def losses : List (PyString × ℚ) := [("filing", -100), ("vendor", -200), ("blog", -1)]

-- Losses that have nothing to do with each other are consistent, and any capitalisation passes
-- where none is reported.
theorem losses_pass :
    ¬ ((crossValidate "net_income" losses "USD" 2).allConsistent = true ↔ Agree losses 2) ∧
      ¬ ((verifyMarketCap 10 1000 0 "USD").verdict = .pass → Within 1 0 (10 * 1000)) := by
  constructor
  · rw [crossValidate_iff two_nonneg]
    decide +kernel
  · rw [verifyMarketCap_iff]
    decide +kernel

def revenues : List (PyString × ℚ) := [("filing", 100), ("vendor", 101), ("blog", 150)]

theorem revenues_checked :
    ((crossValidate "revenue" revenues "USD" 2).allConsistent = true ↔ Agree revenues 2) ∧
      ((verifyMarketCap 10 1000 10050 "USD").verdict = .pass → Within 1 10050 (10 * 1000)) :=
  (checks_iff "revenue" "USD" "USD" revenues 10 1000 10050 two_nonneg).2.mpr (by decide +kernel)

end SynapseYield.Tools
