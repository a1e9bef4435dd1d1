import Mathlib.Data.List.Basic

set_option autoImplicit false

namespace Shared

namespace Naming

section Search

variable {ν : Type} (free : ν → Bool) (name : Nat → ν)

-- The first free name from a number on, when the budget reaches it.
def firstFree : Nat → Nat → Option ν
  | 0, _ => none
  | budget + 1, n => if free (name n) then some (name n) else firstFree budget (n + 1)

variable {free name} {budget n : Nat} {found : ν}

theorem firstFree_some (reached : firstFree free name budget n = some found) :
    free found = true ∧ ∃ m, found = name m := by
  induction budget generalizing n with
  | zero => cases reached
  | succ budget ih =>
    rw [firstFree] at reached
    split at reached
    next unused =>
      cases reached
      exact ⟨unused, n, rfl⟩
    next => exact ih reached

theorem firstFree_least (reached : firstFree free name budget n = some found) :
    ∃ m, n ≤ m ∧ found = name m ∧ ∀ k, n ≤ k → k < m → free (name k) = false := by
  induction budget generalizing n with
  | zero => cases reached
  | succ budget ih =>
    rw [firstFree] at reached
    split at reached
    next =>
      cases reached
      exact ⟨n, Nat.le_refl n, rfl, fun k least less => by omega⟩
    next taken =>
      obtain ⟨m, later, same, passed⟩ := ih reached
      refine ⟨m, by omega, same, fun k least less => ?_⟩
      obtain rfl | more := Nat.eq_or_lt_of_le least
      · exact Bool.eq_false_iff.mpr taken
      · exact passed k more less

end Search

section Turns

variable {α ν : Type}

def First (free : ν → Prop) (name : Nat → ν) (found : ν) : Prop :=
  ∃ n, found = name n ∧ free found ∧ ∀ m < n, ¬ free (name m)

theorem First.unique {free : ν → Prop} {name : Nat → ν} {found other : ν}
    (first : First free name found) (second : First free name other) : found = other := by
  obtain ⟨n, rfl, open_, passed⟩ := first
  obtain ⟨m, rfl, free', passed'⟩ := second
  obtain less | rfl | more := Nat.lt_trichotomy n m
  · exact absurd open_ (passed' n less)
  · rfl
  · exact absurd free' (passed m more)

-- Things that are named one after the other, each by what those before it are called.
def InTurn (called : List (α × ν) → α → ν → Prop) : List (α × ν) → List (α × ν) → Prop
  | _, [] => True
  | before, entry :: rest => called before entry.1 entry.2 ∧ InTurn called (entry :: before) rest

variable {called : List (α × ν) → α → ν → Prop} {before named other : List (α × ν)}

theorem InTurn.unique
    (single : ∀ before thing name name', called before thing name → called before thing name' →
      name = name')
    (first : InTurn called before named) (second : InTurn called before other)
    (same : named.map (·.1) = other.map (·.1)) : named = other := by
  induction named generalizing before other with
  | nil => exact (List.map_eq_nil_iff.mp same.symm).symm
  | cons entry rest ih =>
    cases other with
    | nil => cases same
    | cons entry' rest' =>
      have thing : entry.1 = entry'.1 := (List.cons.inj same).1
      obtain ⟨own, first⟩ := first
      obtain ⟨own', second⟩ := second
      rw [← thing] at own'
      obtain rfl : entry = entry' := Prod.ext thing (single _ _ _ _ own own')
      rw [ih first second (List.cons.inj same).2]

def Functional (named : List (α × ν)) : Prop :=
  ∀ first ∈ named, ∀ second ∈ named, first.2 = second.2 → first.1 = second.1

def Untaken (before : List (α × ν)) (thing : α) (name : ν) : Prop :=
  ∀ entry ∈ before, entry.2 = name → entry.1 = thing

theorem Functional.cons {thing : α} {name : ν} (functional : Functional before)
    (untaken : Untaken before thing name) : Functional ((thing, name) :: before) := by
  intro first left second right same
  rcases List.mem_cons.mp left with rfl | left
  · rcases List.mem_cons.mp right with rfl | right
    · rfl
    · exact (untaken second right same.symm).symm
  · rcases List.mem_cons.mp right with rfl | right
    · exact untaken first left same
    · exact functional first left second right same

theorem InTurn.functional
    (fresh : ∀ before thing name, called before thing name → Untaken before thing name)
    (turns : InTurn called before named) (functional : Functional before) :
    Functional (named ++ before) := by
  induction named generalizing before with
  | nil => exact functional
  | cons entry rest ih =>
    have whole := ih turns.2 (functional.cons (fresh _ _ _ turns.1))
    intro first left second right
    exact whole first (List.perm_middle.mem_iff.mpr left) second (List.perm_middle.mem_iff.mpr right)

end Turns

section Words

variable {α : Type} [DecidableEq α] (isLetter : α → Bool) (sep : α)

-- No two separators in a row, and none at first when one comes before.
def spaced : Bool → List α → Bool
  | _, [] => true
  | after, c :: rest =>
    if c = sep then ! after && spaced true rest else isLetter c && spaced false rest

-- Words of letters with one separator between two of them
def wordsFrom : Bool → List α → Bool
  | after, [] => ! after
  | after, c :: rest =>
    if c = sep then ! after && wordsFrom true rest else isLetter c && wordsFrom false rest

def isWords (name : List α) : Bool := wordsFrom isLetter sep true name

variable {isLetter sep} {after : Bool} {name other : List α}

theorem wordsFrom_append :
    wordsFrom isLetter sep after (name ++ sep :: other) =
      (wordsFrom isLetter sep after name && isWords isLetter sep other) := by
  induction name generalizing after with
  | nil => simp [wordsFrom, isWords]
  | cons c rest ih =>
    simp only [List.cons_append, wordsFrom, ih]
    split <;> rw [Bool.and_assoc]

theorem isWords_append :
    isWords isLetter sep (name ++ sep :: other) = true ↔
      isWords isLetter sep name = true ∧ isWords isLetter sep other = true := by
  rw [isWords, wordsFrom_append, Bool.and_eq_true]
  rfl

theorem spaced_of_words (words : wordsFrom isLetter sep after name = true) :
    spaced isLetter sep after name = true := by
  induction name generalizing after with
  | nil => rfl
  | cons c rest ih =>
    rw [wordsFrom] at words
    rw [spaced]
    split at words
    next same =>
      rw [Bool.and_eq_true] at words
      rw [if_pos same, words.1, ih words.2]
      rfl
    next different =>
      rw [Bool.and_eq_true] at words
      rw [if_neg different, words.1, ih words.2]
      rfl

theorem spaced_weaken (loose : spaced isLetter sep true name = true) :
    spaced isLetter sep false name = true := by
  cases name with
  | nil => rfl
  | cons c rest =>
    rw [spaced] at loose ⊢
    split at loose
    next => simp at loose
    next different => rwa [if_neg different]

theorem spaced_append_left (loose : spaced isLetter sep after (name ++ other) = true) :
    spaced isLetter sep after name = true := by
  induction name generalizing after with
  | nil => rfl
  | cons c rest ih =>
    rw [List.cons_append, spaced] at loose
    rw [spaced]
    split at loose
    next same =>
      rw [Bool.and_eq_true] at loose
      rw [if_pos same, loose.1, ih loose.2]
      rfl
    next different =>
      rw [Bool.and_eq_true] at loose
      rw [if_neg different, loose.1, ih loose.2]
      rfl

theorem words_of_spaced (loose : spaced isLetter sep after name = true)
    (nonempty : name ≠ []) (ends : name.getLast? ≠ some sep) :
    wordsFrom isLetter sep after name = true := by
  induction name generalizing after with
  | nil => exact absurd rfl nonempty
  | cons c rest ih =>
    rw [spaced] at loose
    rw [wordsFrom]
    cases rest with
    | nil =>
      have different : c ≠ sep := fun same => ends (by rw [same]; rfl)
      rw [if_neg different] at loose ⊢
      exact loose
    | cons d rest =>
      have later {now : Bool} (given : spaced isLetter sep now (d :: rest) = true) :=
        ih given (List.cons_ne_nil _ _) (by rwa [List.getLast?_cons_cons] at ends)
      split at loose
      next same =>
        rw [Bool.and_eq_true] at loose
        rw [if_pos same, loose.1, later loose.2]
        rfl
      next different =>
        rw [Bool.and_eq_true] at loose
        rw [if_neg different, loose.1, later loose.2]
        rfl

theorem words_letters (words : wordsFrom isLetter sep after name = true) :
    ∀ c ∈ name, c = sep ∨ isLetter c = true := by
  induction name generalizing after with
  | nil => exact List.forall_mem_nil _
  | cons c rest ih =>
    rw [wordsFrom] at words
    split at words
    next same => exact List.forall_mem_cons.mpr ⟨.inl same, ih (Bool.and_eq_true _ _ ▸ words).2⟩
    next => exact List.forall_mem_cons.mpr
              ⟨.inr (Bool.and_eq_true _ _ ▸ words).1, ih (Bool.and_eq_true _ _ ▸ words).2⟩

theorem words_head (words : isWords isLetter sep name = true) :
    name ≠ [] ∧ name.head? ≠ some sep := by
  cases name with
  | nil => cases words
  | cons c rest =>
    refine ⟨List.cons_ne_nil _ _, fun same => ?_⟩
    cases Option.some.inj same
    simp [isWords, wordsFrom] at words

theorem words_last (words : wordsFrom isLetter sep after name = true) (nonempty : name ≠ []) :
    name.getLast? ≠ some sep := by
  intro last
  obtain ⟨before, rfl⟩ := List.getLast?_eq_some_iff.mp last
  rw [wordsFrom_append, Bool.and_eq_true] at words
  cases words.2

theorem isWords_word (letters : ∀ c ∈ name, isLetter c = true) (apart : isLetter sep = false)
    (nonempty : name ≠ []) : isWords isLetter sep name = true := by
  have other {c : α} (member : c ∈ name) : c ≠ sep := by
    rintro rfl
    rw [letters c member] at apart
    cases apart
  have loose {text : List α} (part : text ⊆ name) {now : Bool} :
      spaced isLetter sep now text = true := by
    induction text generalizing now with
    | nil => rfl
    | cons c rest ih =>
      obtain ⟨head, tail⟩ := List.cons_subset.mp part
      rw [spaced, if_neg (other head), letters c head, ih tail]
      rfl
  refine words_of_spaced (loose (List.Subset.refl _)) nonempty fun last => ?_
  obtain ⟨before, rfl⟩ := List.getLast?_eq_some_iff.mp last
  exact other (List.mem_append_right _ (List.mem_singleton_self sep)) rfl

omit [DecidableEq α] in
theorem join_eq {first second rest more : List α}
    (same : first ++ sep :: rest = second ++ sep :: more) :
    first = second ∨ (∃ gap, first = second ++ sep :: gap) ∨ ∃ gap, second = first ++ sep :: gap := by
  obtain ⟨gap, joined, tail⟩ | ⟨gap, joined, tail⟩ := List.append_eq_append_iff.mp same
  · cases gap with
    | nil => exact .inl (by rw [joined, List.append_nil])
    | cons c gap =>
      obtain ⟨rfl, -⟩ := List.cons.inj tail
      exact .inr (.inr ⟨gap, joined⟩)
  · cases gap with
    | nil => exact .inl (by rw [joined, List.append_nil])
    | cons c gap =>
      obtain ⟨rfl, -⟩ := List.cons.inj tail
      exact .inr (.inl ⟨gap, joined⟩)

end Words

end Naming

end Shared
