import Mathlib.Algebra.Order.Field.Rat
import Mathlib.Data.List.TakeWhile
import Mathlib.Data.Rat.Defs

set_option autoImplicit false

namespace SynapseYield

-- A finite decimal.Decimal: 1.50 and 1.5 have one value and two texts.
structure Decimal where
  coefficient : Int
  exponent : Int
deriving DecidableEq, Repr

namespace Decimal

def value (d : Decimal) : ℚ :=
  match d.exponent with
  | .ofNat n => (d.coefficient * 10 ^ n : Int)
  | .negSucc n => mkRat d.coefficient (10 ^ (n + 1))

def zeros (count : Int) : String := String.ofList (List.replicate count.toNat '0')

-- str(Decimal): an exponent is written only for very small or scaled values.
def str (d : Decimal) : String :=
  let digits := toString d.coefficient.natAbs
  let length : Int := digits.length
  let leftDigits := d.exponent + length
  let dotPlace := if d.exponent ≤ 0 ∧ leftDigits > -6 then leftDigits else 1
  let number :=
    if dotPlace ≤ 0 then "0." ++ zeros (-dotPlace) ++ digits
    else if dotPlace ≥ length then digits ++ zeros (dotPlace - length)
    else String.ofList (digits.toList.take dotPlace.toNat) ++ "." ++
      String.ofList (digits.toList.drop dotPlace.toNat)
  let power := leftDigits - dotPlace
  let tail := if power = 0 then "" else if power > 0 then s!"E+{power}" else s!"E{power}"
  (if d.coefficient < 0 then "-" else "") ++ number ++ tail

example : (Decimal.mk 18010 (-2)).str = "180.10" ∧ (Decimal.mk 1 3).str = "1E+3" := by
  decide +kernel

end Decimal

end SynapseYield

namespace SynapseYield.Decimal

def digits (d : Decimal) : List Char := Nat.toDigits 10 d.coefficient.natAbs

-- Where the point stands in the digits, and the exponent that is written after them.
def place (d : Decimal) : Int :=
  if d.exponent ≤ 0 ∧ d.exponent + d.digits.length > -6 then d.exponent + d.digits.length else 1

def power (d : Decimal) : Int := d.exponent + d.digits.length - d.place

def mantissa (d : Decimal) : List Char :=
  if d.place ≤ 0 then '0' :: '.' :: (List.replicate (-d.place).toNat '0' ++ d.digits)
  else if d.place ≥ d.digits.length then d.digits
  else d.digits.take d.place.toNat ++ '.' :: d.digits.drop d.place.toNat

def tail (d : Decimal) : List Char :=
  if d.power = 0 then [] else 'E' :: ((if d.power > 0 then ['+'] else []) ++ d.power.repr.toList)

theorem digits_isDigit {d : Decimal} {c : Char} (member : c ∈ d.digits) : c.isDigit = true :=
  Nat.isDigit_of_mem_toDigits (by decide) (by decide) member

theorem digits_length_pos (d : Decimal) : 0 < d.digits.length :=
  List.length_pos_iff.mpr Nat.toDigits_ne_nil

theorem place_le (d : Decimal) : d.place ≤ d.digits.length := by
  have some_digit := d.digits_length_pos
  unfold place
  split <;> omega

theorem str_toList {d : Decimal} (nonneg : 0 ≤ d.coefficient) :
    d.str.toList = d.mantissa ++ d.tail := by
  have length : (toString d.coefficient.natAbs).length = d.digits.length := by
    simp [digits, ← String.length_toList, Nat.toList_repr]
  have characters : Nat.toDigits 10 d.coefficient.natAbs = d.digits := rfl
  have placed : (if d.exponent ≤ 0 ∧ d.exponent + ((toString d.coefficient.natAbs).length : Int) > -6
      then d.exponent + ((toString d.coefficient.natAbs).length : Int) else 1) = d.place := by
    rw [length, place]
  unfold str
  dsimp only
  rw [placed, length, if_neg nonneg.not_gt]
  have powered : d.exponent + (d.digits.length : Int) - d.place = d.power := rfl
  rw [powered, String.toList_append, String.toList_append, String.toList_empty, List.nil_append]
  congr 1
  · unfold mantissa
    split
    next => simp [zeros, characters]
    next =>
      split
      next whole =>
        have exact_place : d.place = d.digits.length := le_antisymm d.place_le whole
        simp [zeros, characters, exact_place]
      next => simp [characters]
  · unfold tail
    split
    next => rfl
    next =>
      split
      next => simp [toString]
      next => simp [toString]

-- The digits of a mantissa, without the point.
def natural (text : List Char) : Nat := Nat.ofDigitChars 10 (text.filter Char.isDigit) 0

-- How many digits follow the point.
def fraction (text : List Char) : Nat := (text.dropWhile (· ≠ '.')).length - 1

theorem filter_digits (d : Decimal) : d.digits.filter Char.isDigit = d.digits :=
  List.filter_eq_self.mpr fun _ member => digits_isDigit member

theorem not_point {text : List Char} (numeric : ∀ c ∈ text, c.isDigit = true) :
    ∀ c ∈ text, (c ≠ '.') = true := by
  intro c member
  have digit := numeric c member
  simp only [eq_iff_iff, iff_true]
  rintro rfl
  exact absurd digit (by decide)

theorem natural_mantissa (d : Decimal) : natural d.mantissa = d.coefficient.natAbs := by
  have value : Nat.ofDigitChars 10 d.digits 0 = d.coefficient.natAbs := Nat.ofDigitChars_ten_toDigits
  unfold natural mantissa
  split
  next =>
    have zero : (('0' : Char).isDigit) = true := by decide
    have point : (('.' : Char).isDigit) = false := by decide
    have zeroes (count : Nat) : (List.replicate count '0').filter Char.isDigit =
        List.replicate count '0' :=
      List.filter_eq_self.mpr fun c member => (List.eq_of_mem_replicate member) ▸ zero
    rw [List.filter_cons_of_pos zero, List.filter_cons_of_neg (by simp [point]), List.filter_append,
      zeroes, filter_digits, Nat.ofDigitChars_cons]
    simp [Nat.ofDigitChars_append, Nat.ofDigitChars_replicate_zero, value]
  next =>
    split
    next => rw [filter_digits, value]
    next =>
      have point : (('.' : Char).isDigit) = false := by decide
      rw [List.filter_append, List.filter_cons_of_neg (by simp [point]), ← List.filter_append,
        List.take_append_drop, filter_digits, value]

theorem fraction_mantissa (d : Decimal) :
    (fraction d.mantissa : Int) = d.digits.length - d.place := by
  have within := d.place_le
  unfold fraction mantissa
  split
  next before =>
    simp
    omega
  next after =>
    split
    next whole =>
      have none : d.digits.dropWhile (· ≠ '.') = [] := by
        rw [List.dropWhile_eq_nil_iff]
        intro c member
        simpa using not_point (fun c member => digits_isDigit member) c member
      rw [none]
      simp
      omega
    next inside =>
      have skipped : (d.digits.take d.place.toNat ++ '.' :: d.digits.drop d.place.toNat).dropWhile
          (· ≠ '.') = '.' :: d.digits.drop d.place.toNat := by
        rw [List.dropWhile_append_of_pos]
        · simp
        · intro c member
          simpa using not_point (fun c member => digits_isDigit member) c (List.mem_of_mem_take member)
      rw [skipped]
      simp
      omega

theorem mantissa_characters (d : Decimal) : ∀ c ∈ d.mantissa, c.isDigit = true ∨ c = '.' := by
  intro c member
  unfold mantissa at member
  split at member
  next =>
    simp only [List.mem_cons, List.mem_append, List.mem_replicate] at member
    obtain rfl | rfl | ⟨-, rfl⟩ | digit := member
    · exact .inl (by decide)
    · exact .inr rfl
    · exact .inl (by decide)
    · exact .inl (digits_isDigit digit)
  next =>
    split at member
    next => exact .inl (digits_isDigit member)
    next =>
      simp only [List.mem_cons, List.mem_append] at member
      obtain first | rfl | last := member
      · exact .inl (digits_isDigit (List.mem_of_mem_take first))
      · exact .inr rfl
      · exact .inl (digits_isDigit (List.mem_of_mem_drop last))

theorem mantissa_not_exponent (d : Decimal) : ∀ c ∈ d.mantissa, decide (c ≠ 'E') = true := by
  intro c member
  rw [decide_eq_true_iff]
  rintro rfl
  obtain digit | point := d.mantissa_characters _ member
  · exact absurd digit (by decide)
  · exact absurd point (by decide)

theorem tail_head (d : Decimal) : d.tail.takeWhile (· ≠ 'E') = [] ∧
    d.tail.dropWhile (· ≠ 'E') = d.tail := by
  unfold tail
  split <;> simp

theorem repr_characters (n : Int) : ∀ c ∈ n.repr.toList, c.isDigit = true ∨ c = '-' := by
  intro c member
  rw [Int.repr_eq_if] at member
  split at member
  next =>
    rw [Nat.toList_repr] at member
    exact .inl (Nat.isDigit_of_mem_toDigits (by decide) (by decide) member)
  next =>
    rw [String.toList_append, Nat.toList_repr] at member
    obtain sign | digit := List.mem_append.mp member
    · exact .inr (by simpa using sign)
    · exact .inl (Nat.isDigit_of_mem_toDigits (by decide) (by decide) digit)

theorem repr_injective {m n : Int} (same : m.repr.toList = n.repr.toList) (sign : 0 < m ↔ 0 < n)
    (nonzero : m ≠ 0 ∧ n ≠ 0) : m = n := by
  have natural {k l : Nat} (same : k.repr.toList = l.repr.toList) : k = l := by
    rw [Nat.toList_repr, Nat.toList_repr] at same
    rw [← Nat.ofDigitChars_ten_toDigits (n := k), same, Nat.ofDigitChars_ten_toDigits]
  rw [Int.repr_eq_if, Int.repr_eq_if] at same
  split at same <;> split at same
  · have := natural same
    omega
  · omega
  · omega
  · rw [String.toList_append, String.toList_append] at same
    have := natural (List.append_cancel_left same)
    omega

theorem power_of_tail {a b : Decimal} (same : a.tail = b.tail) : a.power = b.power := by
  have unsigned (n : Int) : '+' ∉ n.repr.toList := by
    intro member
    obtain digit | sign := repr_characters n _ member
    · exact absurd digit (by decide)
    · exact absurd sign (by decide)
  unfold tail at same
  by_cases first : a.power = 0 <;> by_cases second : b.power = 0
  · rw [first, second]
  · rw [if_pos first, if_neg second] at same
    cases same
  · rw [if_neg first, if_pos second] at same
    cases same
  · rw [if_neg first, if_neg second, List.cons.injEq] at same
    have texts := same.2
    split at texts <;> split at texts
    next up up' =>
      exact repr_injective (List.append_cancel_left texts) (iff_of_true up up') ⟨first, second⟩
    next =>
      refine absurd ?_ (unsigned b.power)
      rw [← List.nil_append b.power.repr.toList, ← texts]
      exact List.mem_cons_self
    next =>
      refine absurd ?_ (unsigned a.power)
      rw [← List.nil_append a.power.repr.toList, texts]
      exact List.mem_cons_self
    next down down' => exact repr_injective texts (iff_of_false down down') ⟨first, second⟩

theorem str_injective {a b : Decimal} (first : 0 ≤ a.coefficient) (second : 0 ≤ b.coefficient)
    (same : a.str = b.str) : a = b := by
  have texts : a.mantissa ++ a.tail = b.mantissa ++ b.tail := by
    rw [← str_toList first, ← str_toList second, same]
  have mantissas : a.mantissa = b.mantissa := by
    have cut := congrArg (List.takeWhile (· ≠ 'E')) texts
    rwa [List.takeWhile_append_of_pos a.mantissa_not_exponent,
      List.takeWhile_append_of_pos b.mantissa_not_exponent, a.tail_head.1, b.tail_head.1,
      List.append_nil, List.append_nil] at cut
  have powers : a.power = b.power := by
    rw [mantissas] at texts
    exact power_of_tail (List.append_cancel_left texts)
  have coefficient : a.coefficient.natAbs = b.coefficient.natAbs := by
    rw [← natural_mantissa a, ← natural_mantissa b, mantissas]
  have exponent : a.exponent = b.exponent := by
    have count := congrArg (fun text => (fraction text : Int)) mantissas
    simp only [fraction_mantissa] at count
    unfold power at powers
    omega
  obtain ⟨c, e⟩ := a
  obtain ⟨c', e'⟩ := b
  obtain rfl : c = c' := by
    simp only at first second coefficient
    omega
  obtain rfl : e = e' := exponent
  rfl

theorem str_characters {d : Decimal} (nonneg : 0 ≤ d.coefficient) : '|' ∉ d.str.toList := by
  rw [str_toList nonneg, List.mem_append]
  rintro (early | late)
  · obtain digit | point := d.mantissa_characters _ early
    · exact absurd digit (by decide)
    · exact absurd point (by decide)
  · unfold tail at late
    split at late
    next => cases late
    next =>
      rw [List.mem_cons, List.mem_append] at late
      obtain mark | sign | digit := late
      · exact absurd mark (by decide)
      · split at sign
        next => exact absurd (List.mem_singleton.mp sign) (by decide)
        next => cases sign
      · obtain digit | sign := repr_characters _ _ digit
        · exact absurd digit (by decide)
        · exact absurd sign (by decide)

theorem str_nonempty {d : Decimal} (nonneg : 0 ≤ d.coefficient) : d.str ≠ "" := by
  intro empty
  have texts := str_toList nonneg
  rw [empty, String.toList_empty, eq_comm, List.append_eq_nil_iff] at texts
  have length := d.digits_length_pos
  have mantissa := texts.1
  unfold Decimal.mantissa at mantissa
  split at mantissa
  next => cases mantissa
  next =>
    split at mantissa
    next => simp [mantissa] at length
    next => simp at mantissa

end SynapseYield.Decimal
