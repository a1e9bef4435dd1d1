import Mathlib.Data.List.Induction
import SynapseYield.Shared.Python

set_option autoImplicit false

namespace Shared

open Ascii

theorem cut_fst (c : CodePoint) (points : List CodePoint) :
    (cut c points).1 = points.takeWhile (· ≠ c) := by
  unfold cut
  split
  next none =>
    have whole := List.takeWhile_append_dropWhile (p := fun d => decide (d ≠ c)) (l := points)
    rw [none, List.append_nil] at whole
    exact whole.symm
  next => rfl

theorem cut_append {c : CodePoint} {before after : List CodePoint} (absent : c ∉ before) :
    cut c (before ++ c :: after) = (before, some after) := by
  have solid : ∀ d ∈ before, decide (d ≠ c) = true := fun d member =>
    decide_eq_true fun same => absent (same ▸ member)
  rw [cut, List.dropWhile_append_of_pos solid, List.takeWhile_append_of_pos solid]
  simp

-- The last digits of a number, as many as the width
def padded : Nat → Nat → List CodePoint
  | 0, _ => []
  | width + 1, n => padded width (n / 10) ++ [Fin.ofNat 0x110000 (0x30 + n % 10)]

theorem padded_length (width n : Nat) : (padded width n).length = width := by
  induction width generalizing n with
  | zero => rfl
  | succ width ih => rw [padded, List.length_append, ih, List.length_singleton]

theorem padded_zero (width : Nat) : padded width 0 = List.replicate width 0x30 := by
  induction width with
  | zero => rfl
  | succ width ih =>
    rw [padded, Nat.zero_div, ih, List.replicate_succ']
    rfl

theorem natural_append {digits : List CodePoint} {c : CodePoint} (digit : isDigit c = true) :
    natural (digits ++ [c]) = 10 * natural digits + (c.val - 48) := by
  simp [natural, Ascii.digits, digit]

theorem natural_cons_zero (digits : List CodePoint) : natural (0x30 :: digits) = natural digits :=
    by
  have digit : isDigit 0x30 = true := by decide
  simp [natural, Ascii.digits, digit]

theorem natural_dropZeros (digits : List CodePoint) :
    natural (digits.dropWhile (· = 0x30)) = natural digits := by
  induction digits with
  | nil => rfl
  | cons c digits ih =>
    by_cases zero : c = 0x30
    · rw [List.dropWhile_cons_of_pos (by simpa using zero), ih, zero, natural_cons_zero]
    · rw [List.dropWhile_cons_of_neg (by simpa using zero)]

theorem natural_lt {digits : List CodePoint} (all : ∀ c ∈ digits, isDigit c = true) :
    natural digits < 10 ^ digits.length := by
  induction digits using List.reverseRecOn with
  | nil => decide
  | append_singleton digits c ih =>
    have digit : isDigit c = true := all c (by simp)
    have bound := ih fun c member => all c (by simp [member])
    rw [natural_append digit, List.length_append, List.length_singleton, pow_succ]
    simp only [isDigit, Bool.and_eq_true, decide_eq_true_eq] at digit
    omega

theorem le_natural {digits : List CodePoint} {c : CodePoint} (all : ∀ d ∈ c :: digits, isDigit d =
    true)
    (positive : c ≠ 0x30) : 10 ^ digits.length ≤ natural (c :: digits) := by
  induction digits using List.reverseRecOn with
  | nil =>
    have digit : isDigit c = true := all c (by simp)
    have value : natural [c] = c.val - 48 := by simp [natural, Ascii.digits, digit]
    have other : c.val ≠ 48 := fun same => positive (Fin.ext same)
    simp only [isDigit, Bool.and_eq_true, decide_eq_true_eq] at digit
    rw [value, List.length_nil, pow_zero]
    omega
  | append_singleton digits d ih =>
    have digit : isDigit d = true := all d (by simp)
    have bound := ih fun e member => all e (by
      simp only [List.mem_cons, List.mem_append] at member ⊢
      tauto)
    rw [← List.cons_append, natural_append digit, List.length_append, List.length_singleton,
      pow_succ]
    omega

theorem padded_natural {digits : List CodePoint} (all : ∀ c ∈ digits, isDigit c = true)
    (zeros : Nat) :
    padded (zeros + digits.length) (natural digits) = List.replicate zeros 0x30 ++ digits := by
  induction digits using List.reverseRecOn with
  | nil => exact (padded_zero zeros).trans (List.append_nil _).symm
  | append_singleton digits c ih =>
    have digit : isDigit c = true := all c (by simp)
    have earlier := ih fun c member => all c (by simp [member])
    have bounds : 48 ≤ c.val ∧ c.val ≤ 57 := by simpa [isDigit] using digit
    have before : (10 * natural digits + (c.val - 48)) / 10 = natural digits := by omega
    have last : 0x30 + (10 * natural digits + (c.val - 48)) % 10 = c.val := by omega
    rw [natural_append digit, List.length_append, List.length_singleton, ← Nat.add_assoc, padded,
      before, last, earlier, List.append_assoc, Fin.ofNat_val_eq_self]

end Shared
