import Mathlib.Algebra.Field.Basic
import Mathlib.Tactic.Ring

set_option autoImplicit false

namespace Shared

-- Shares and what they cost, each share valued at the average of what is held.
@[ext] structure Holding (K : Type) where
  shares : K
  cost : K

inductive Trade (K : Type) where
  | bought (quantity cost : K)
  | sold (quantity : K)

namespace Holding

variable {K : Type} [Field K]

def none : Holding K := { shares := 0, cost := 0 }

def average (holding : Holding K) : K := holding.cost / holding.shares

-- A sale takes the cost of its shares at the average, which stays as it was.
def trade (holding : Holding K) : Trade K → Holding K
  | .bought quantity cost =>
    { shares := holding.shares + quantity, cost := holding.cost + cost }
  | .sold quantity =>
    { shares := holding.shares - quantity, cost := holding.cost - quantity * holding.average }

def after (trades : List (Trade K)) : Holding K := trades.foldl trade none

theorem after_append (trades : List (Trade K)) (last : Trade K) :
    after (trades ++ [last]) = (after trades).trade last := by
  simp [after, List.foldl_append]

theorem sold_out {holding : Holding K} (some : holding.shares ≠ 0) :
    holding.trade (.sold holding.shares) = none := by
  have spent : holding.shares * holding.average = holding.cost := mul_div_cancel₀ _ some
  ext
  · simp [trade, none]
  · simp [trade, none, spent]

-- A number of shares at a unit cost stands for a holding.
structure Stands (quantity unitCost : K) (holding : Holding K) : Prop where
  shares : quantity = holding.shares
  cost : quantity * unitCost = holding.cost

variable {quantity unitCost : K} {holding : Holding K}

theorem Stands.bought (stands : Stands quantity unitCost holding) (more cost : K)
    (some : quantity + more ≠ 0) :
    Stands (quantity + more) ((quantity * unitCost + cost) / (quantity + more))
      (holding.trade (.bought more cost)) where
  shares := by rw [stands.shares]; rfl
  cost := by
    rw [mul_div_cancel₀ _ some, stands.cost]
    rfl

theorem Stands.sold (stands : Stands quantity unitCost holding) (some : quantity ≠ 0) (less : K) :
    Stands (quantity - less) unitCost (holding.trade (.sold less)) where
  shares := by rw [stands.shares]; rfl
  cost := by
    have average : holding.average = unitCost := by
      rw [Holding.average, ← stands.cost, ← stands.shares, mul_comm, mul_div_cancel_right₀ _ some]
    rw [sub_mul, stands.cost, ← average]
    rfl

end Holding

end Shared
