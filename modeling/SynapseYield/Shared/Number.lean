import Mathlib.Data.Rat.Defs
import Mathlib.Algebra.Order.Field.Rat
import Mathlib.Algebra.Order.Group.Abs
import Mathlib.Tactic.Linarith

set_option autoImplicit false

namespace Shared

-- A float without rounding: finite values are exact, infinities and NaN follow IEEE 754.
inductive Number where
  | nan
  | negInf
  | finite (value : ℚ)
  | posInf
deriving DecidableEq, Repr

namespace Number

instance : Zero Number := ⟨.finite 0⟩

def less : Number → Number → Bool
  | .finite a, .finite b => decide (a < b)
  | .negInf, .finite _ => true
  | .negInf, .posInf => true
  | .finite _, .posInf => true
  | _, _ => false

instance : LT Number := ⟨fun a b => less a b = true⟩

instance : DecidableRel (· < · : Number → Number → Prop) := fun a b =>
  inferInstanceAs (Decidable (less a b = true))

def same (a b : Number) : Prop := a = b ∧ a ≠ .nan

instance (a b : Number) : Decidable (same a b) := inferInstanceAs (Decidable (_ ∧ _))

instance : LE Number := ⟨fun a b => a < b ∨ same a b⟩

instance : DecidableRel (· ≤ · : Number → Number → Prop) := fun a b =>
  inferInstanceAs (Decidable (a < b ∨ same a b))

theorem le_def {a b : Number} : a ≤ b ↔ a < b ∨ same a b := Iff.rfl

@[simp] theorem finite_lt {a b : ℚ} : Number.finite a < .finite b ↔ a < b :=
  decide_eq_true_iff

@[simp] theorem finite_le {a b : ℚ} : Number.finite a ≤ .finite b ↔ a ≤ b := by
  rw [le_def, same, finite_lt, Number.finite.injEq, le_iff_lt_or_eq]
  simp

@[simp] theorem not_nan_lt {a : Number} : ¬ Number.nan < a := by
  cases a <;> exact nofun

@[simp] theorem not_lt_nan {a : Number} : ¬ a < Number.nan := by
  cases a <;> exact nofun

@[simp] theorem negInf_lt_finite {a : ℚ} : Number.negInf < .finite a := rfl

@[simp] theorem finite_lt_posInf {a : ℚ} : Number.finite a < .posInf := rfl

@[simp] theorem negInf_lt_posInf : Number.negInf < .posInf := rfl

@[simp] theorem not_posInf_lt {a : Number} : ¬ Number.posInf < a := by
  cases a <;> exact nofun

@[simp] theorem not_lt_negInf {a : Number} : ¬ a < Number.negInf := by
  cases a <;> exact nofun

@[simp] theorem not_le_nan {a : Number} : ¬ a ≤ Number.nan := by
  rw [le_def]
  rintro (less | ⟨rfl, real⟩)
  · exact not_lt_nan less
  · exact real rfl

@[simp] theorem not_nan_le {a : Number} : ¬ Number.nan ≤ a := by
  rw [le_def]
  rintro (less | ⟨-, real⟩)
  · exact not_nan_lt less
  · exact real rfl

theorem lt_irrefl (a : Number) : ¬ a < a := by
  cases a with
  | finite a => simp
  | nan => simp
  | negInf => simp
  | posInf => simp

theorem lt_trans {a b c : Number} (first : a < b) (second : b < c) : a < c := by
  cases a <;> cases b <;> cases c <;> simp_all
  exact first.trans second

theorem not_lt {a b : Number} (real : a ≠ .nan) (real' : b ≠ .nan) : ¬ a < b ↔ b ≤ a := by
  cases a <;> cases b <;> simp_all [le_def, same]
  exact le_iff_lt_or_eq

def toRat : Number → ℚ
  | .finite x => x
  | _ => 0

def isFinite (a : Number) : Prop := a = .finite a.toRat

theorem isFinite_iff {a : Number} : a.isFinite ↔ ∃ x, a = .finite x := by
  cases a <;> simp [isFinite, toRat]

def neg : Number → Number
  | .nan => .nan
  | .negInf => .posInf
  | .finite a => .finite (-a)
  | .posInf => .negInf

instance : Neg Number := ⟨neg⟩

@[simp] theorem neg_finite (a : ℚ) : -Number.finite a = .finite (-a) := rfl

def add : Number → Number → Number
  | .finite a, .finite b => .finite (a + b)
  | .nan, _ => .nan
  | _, .nan => .nan
  | .posInf, .negInf => .nan
  | .negInf, .posInf => .nan
  | .posInf, _ => .posInf
  | _, .posInf => .posInf
  | .negInf, _ => .negInf
  | _, .negInf => .negInf

instance : Add Number := ⟨add⟩

instance : Sub Number := ⟨fun a b => a + -b⟩

@[simp] theorem finite_add (a b : ℚ) : Number.finite a + .finite b = .finite (a + b) := rfl

@[simp] theorem nan_add (a : Number) : Number.nan + a = .nan := by
  cases a <;> rfl

@[simp] theorem add_nan (a : Number) : a + Number.nan = .nan := by
  cases a <;> rfl

@[simp] theorem posInf_add_finite (a : ℚ) : Number.posInf + .finite a = .posInf := rfl

@[simp] theorem negInf_add_finite (a : ℚ) : Number.negInf + .finite a = .negInf := rfl

def abs : Number → Number
  | .nan => .nan
  | .finite a => .finite |a|
  | _ => .posInf

@[simp] theorem abs_finite (a : ℚ) : (Number.finite a).abs = .finite |a| := rfl

theorem abs_isFinite {a : Number} : a.abs.isFinite ↔ a.isFinite := by
  cases a <;> simp [abs, isFinite, toRat]

@[simp] theorem toRat_abs (a : Number) : a.abs.toRat = |a.toRat| := by
  cases a <;> simp [abs, toRat]

theorem abs_ne_negInf (a : Number) : a.abs ≠ .negInf := by
  cases a <;> simp [abs]

-- An infinity times a number: only the sign of the number matters.
def signed (infinity : Number) (a : ℚ) : Number :=
  if a = 0 then .nan else if 0 < a then infinity else -infinity

def mul : Number → Number → Number
  | .finite a, .finite b => .finite (a * b)
  | .nan, _ => .nan
  | _, .nan => .nan
  | .finite a, infinity => signed infinity a
  | infinity, .finite b => signed infinity b
  | .posInf, infinity => infinity
  | .negInf, infinity => -infinity

instance : Mul Number := ⟨mul⟩

@[simp] theorem finite_mul (a b : ℚ) : Number.finite a * .finite b = .finite (a * b) := rfl

theorem mul_isFinite {a b : Number} : (a * b).isFinite ↔ a.isFinite ∧ b.isFinite := by
  cases a <;> cases b <;> simp only [HMul.hMul, Mul.mul, mul, signed, isFinite, toRat]
  all_goals (try split) <;> (try split) <;> simp [Neg.neg, neg]

-- Division by a positive number.
def div : Number → Number → Number
  | .finite a, .finite b => .finite (a / b)
  | .nan, _ => .nan
  | _, .nan => .nan
  | .finite _, _ => .finite 0
  | infinity, .finite _ => infinity
  | _, _ => .nan

instance : Div Number := ⟨div⟩

@[simp] theorem finite_div (a b : ℚ) : Number.finite a / .finite b = .finite (a / b) := rfl

theorem add_eq_finite {a b : Number} {x : ℚ} :
    a + b = .finite x ↔ ∃ y z, a = .finite y ∧ b = .finite z ∧ y + z = x := by
  cases a <;> cases b <;> simp [HAdd.hAdd, Add.add, add]

-- The accumulating sum of Python: total += value.
def sumFrom (total : Number) (values : List Number) : Number := values.foldl (· + ·) total

def sum (values : List Number) : Number := sumFrom 0 values

@[simp] theorem sumFrom_cons (total value : Number) (values : List Number) :
    sumFrom total (value :: values) = sumFrom (total + value) values := rfl

theorem sumFrom_finite {total : ℚ} {values : List Number} (finite : ∀ value ∈ values, value.isFinite) :
    sumFrom (.finite total) values = .finite (total + (values.map toRat).sum) := by
  induction values generalizing total with
  | nil => simp [sumFrom]
  | cons value values ih =>
    obtain ⟨x, rfl⟩ := isFinite_iff.mp (finite value List.mem_cons_self)
    rw [sumFrom_cons, finite_add, ih fun value member => finite value (List.mem_cons_of_mem _ member)]
    simp [toRat, add_assoc]

theorem sum_finite {values : List Number} (finite : ∀ value ∈ values, value.isFinite) :
    sum values = .finite (values.map toRat).sum := by
  rw [sum, show (0 : Number) = .finite 0 from rfl, sumFrom_finite finite, zero_add]

theorem finite_of_sumFrom {total : Number} {values : List Number}
    (finite : (sumFrom total values).isFinite) :
    total.isFinite ∧ ∀ value ∈ values, value.isFinite := by
  induction values generalizing total with
  | nil => exact ⟨finite, nofun⟩
  | cons value values ih =>
    obtain ⟨first, rest⟩ := ih finite
    obtain ⟨y, z, totalFinite, valueFinite, -⟩ := add_eq_finite.mp first
    refine ⟨isFinite_iff.mpr ⟨y, totalFinite⟩, List.forall_mem_cons.mpr ⟨?_, rest⟩⟩
    exact isFinite_iff.mpr ⟨z, valueFinite⟩

theorem sumFrom_eq_posInf {total : Number} {values : List Number} : sumFrom total values = .posInf ↔
    (total = .posInf ∨ .posInf ∈ values) ∧
      (total ≠ .negInf ∧ total ≠ .nan) ∧ ∀ value ∈ values, value ≠ .negInf ∧ value ≠ .nan := by
  induction values generalizing total with
  | nil =>
    simp only [sumFrom, List.foldl_nil, List.not_mem_nil, or_false, false_implies, implies_true,
      and_true]
    exact ⟨fun same => by simp [same], And.left⟩
  | cons value values ih =>
    rw [sumFrom_cons, ih, List.forall_mem_cons, List.mem_cons]
    cases total <;> cases value <;> simp [HAdd.hAdd, Add.add, add]

theorem sumFrom_eq_negInf {total : Number} {values : List Number} : sumFrom total values = .negInf ↔
    (total = .negInf ∨ .negInf ∈ values) ∧
      (total ≠ .posInf ∧ total ≠ .nan) ∧ ∀ value ∈ values, value ≠ .posInf ∧ value ≠ .nan := by
  induction values generalizing total with
  | nil =>
    simp only [sumFrom, List.foldl_nil, List.not_mem_nil, or_false, false_implies, implies_true,
      and_true]
    exact ⟨fun same => by simp [same], And.left⟩
  | cons value values ih =>
    rw [sumFrom_cons, ih, List.forall_mem_cons, List.mem_cons]
    cases total <;> cases value <;> simp [HAdd.hAdd, Add.add, add]

theorem sum_eq_posInf {values : List Number} : sum values = .posInf ↔
    .posInf ∈ values ∧ ∀ value ∈ values, value ≠ .negInf ∧ value ≠ .nan := by
  rw [sum, sumFrom_eq_posInf]
  simp [show (0 : Number) = .finite 0 from rfl]

theorem sum_eq_negInf {values : List Number} : sum values = .negInf ↔
    .negInf ∈ values ∧ ∀ value ∈ values, value ≠ .posInf ∧ value ≠ .nan := by
  rw [sum, sumFrom_eq_negInf]
  simp [show (0 : Number) = .finite 0 from rfl]

theorem isFinite_sum {values : List Number} :
    (sum values).isFinite ↔ ∀ value ∈ values, value.isFinite := by
  constructor
  · exact fun finite => (finite_of_sumFrom finite).2
  · exact fun finite => isFinite_iff.mpr ⟨_, sum_finite finite⟩

-- Infinite values that all have one sign.
def OneSided (values : List Number) : Prop :=
  (.posInf ∈ values ∧ ∀ value ∈ values, value ≠ .negInf ∧ value ≠ .nan) ∨
    .negInf ∈ values ∧ ∀ value ∈ values, value ≠ .posInf ∧ value ≠ .nan

theorem sum_eq_nan {values : List Number} :
    sum values = .nan ↔ ¬ OneSided values ∧ ¬ ∀ value ∈ values, value.isFinite := by
  rw [OneSided, ← sum_eq_posInf, ← sum_eq_negInf, ← isFinite_sum]
  cases sum values <;> simp [isFinite, toRat]

-- max(a, b) of Python keeps the first unless the second is greater.
def maximum (a b : Number) : Number := if a < b then b else a

end Number

end Shared
