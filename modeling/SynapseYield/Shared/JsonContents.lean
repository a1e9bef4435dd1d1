import Mathlib.Data.List.Sort
import SynapseYield.Shared.JsonText

set_option autoImplicit false

namespace Shared.JsonText

mutual

-- The characters of the strings, keys and literals in a value
def contents : Json → List CodePoint
  | .number literal => literal
  | .str s => s.points
  | .arr items => itemContents items
  | .obj members => memberContents members
  | _ => []

def itemContents : List Json → List CodePoint
  | [] => []
  | item :: rest => contents item ++ itemContents rest

def memberContents : List (PyString × Json) → List CodePoint
  | [] => []
  | (key, value) :: rest => key.points ++ contents value ++ memberContents rest

end

mutual

-- sort_keys=True
def canonical : Json → Json
  | .arr items => .arr (canonicalItems items)
  | .obj members =>
    .obj ((canonicalMembers members).insertionSort fun a b => decide (a.1.points ≤ b.1.points))
  | value => value

def canonicalItems : List Json → List Json
  | [] => []
  | item :: rest => canonical item :: canonicalItems rest

def canonicalMembers : List (PyString × Json) → List (PyString × Json)
  | [] => []
  | (key, value) :: rest => (key, canonical value) :: canonicalMembers rest

end

section Contents

variable {c : CodePoint}

theorem mem_memberContents {members : Members} :
    c ∈ memberContents members ↔
      ∃ member ∈ members, c ∈ member.1.points ∨ c ∈ contents member.2 := by
  induction members with
  | nil => simp [memberContents]
  | cons member rest ih => simp [memberContents, ih, or_assoc]

mutual

theorem mem_contents_canonical : (value : Json) → (c ∈ contents (canonical value) ↔ c ∈ contents value)
  | .null => Iff.rfl
  | .bool _ => Iff.rfl
  | .number _ => Iff.rfl
  | .str _ => Iff.rfl
  | .arr items => by
    rw [canonical, contents, contents]
    exact mem_itemContents_canonical items
  | .obj members => by
    rw [canonical, contents, contents, ← mem_memberContents_canonical members, mem_memberContents,
      mem_memberContents]
    simp only [List.mem_insertionSort]

theorem mem_itemContents_canonical : (items : List Json) →
    (c ∈ itemContents (canonicalItems items) ↔ c ∈ itemContents items)
  | [] => Iff.rfl
  | item :: rest => by
    rw [canonicalItems, itemContents, itemContents, List.mem_append, List.mem_append,
      mem_contents_canonical item, mem_itemContents_canonical rest]

theorem mem_memberContents_canonical : (members : Members) →
    (c ∈ memberContents (canonicalMembers members) ↔ c ∈ memberContents members)
  | [] => Iff.rfl
  | (key, value) :: rest => by
    simp only [canonicalMembers, memberContents, List.mem_append, mem_contents_canonical value,
      mem_memberContents_canonical rest]

end

end Contents

section Written

variable {c : CodePoint}

theorem mem_ascii {text : Text} (ascii : text.all (·.val < 0x80) = true) (wide : 0x80 ≤ c.val) :
    c ∉ text := fun member => by
  have small := List.all_eq_true.mp ascii c member
  simp only [decide_eq_true_eq] at small
  omega

theorem mem_blank {text : Text} (blank : text.all isBlank = true) (wide : 0x80 ≤ c.val) :
    c ∉ text := fun member => by
  have space := List.all_eq_true.mp blank c member
  simp only [isBlank, Bool.or_eq_true, decide_eq_true_eq] at space
  obtain ((rfl | rfl) | rfl) | rfl := space <;> exact absurd wide (by decide)

theorem writeChar_ascii (n : Fin 0x80) :
    (writeChar (n.castLE (by decide))).all (·.val < 0x80) = true := by
  revert n
  decide +kernel

theorem mem_writeChar {d : CodePoint} (wide : 0x80 ≤ c.val) : c ∈ writeChar d ↔ c = d := by
  by_cases ascii : d.val < 0x80
  · refine iff_of_false (mem_ascii (writeChar_ascii ⟨d.val, ascii⟩) wide) ?_
    rintro rfl
    omega
  · have plain : writeChar d = [d] := by
      have quoted : d ≠ quote := by
        rintro rfl
        exact ascii (by decide)
      have slashed : d ≠ backslash := by
        rintro rfl
        exact ascii (by decide)
      have control : ¬ d.val < 0x20 := by omega
      simp [writeChar, control, quoted, slashed]
    rw [plain, List.mem_singleton]

theorem mem_writeString {s : PyString} (wide : 0x80 ≤ c.val) :
    c ∈ writeString s ↔ c ∈ s.points := by
  have other : c ≠ quote := by
    rintro rfl
    exact absurd wide (by decide)
  simp [writeString, other, mem_writeChar wide]

variable {style : Style}

mutual

theorem mem_write (wide : 0x80 ≤ c.val) (depth : Nat) : (value : Json) →
    (c ∈ write style depth value ↔ c ∈ contents value)
  | .null => iff_of_false (mem_ascii (by rfl) wide) List.not_mem_nil
  | .bool true => iff_of_false (mem_ascii (by rfl) wide) List.not_mem_nil
  | .bool false => iff_of_false (mem_ascii (by rfl) wide) List.not_mem_nil
  | .number _ => Iff.rfl
  | .str _ => mem_writeString wide
  | .arr [] => iff_of_false (mem_ascii (by rfl) wide) List.not_mem_nil
  | .arr (item :: items) => by
    have opening := mem_blank (style.opening_blank depth) wide
    have closing := mem_blank (style.closing_blank depth) wide
    have first : c ≠ openBracket := fun same => by subst same; exact absurd wide (by decide)
    have last : c ≠ closeBracket := fun same => by subst same; exact absurd wide (by decide)
    simp only [write, contents, itemContents, List.mem_append, List.mem_cons, List.not_mem_nil,
      mem_write wide (depth + 1) item, mem_writeItems wide depth items, first, last, opening,
      closing, false_or, or_false]
  | .obj [] => iff_of_false (mem_ascii (by rfl) wide) List.not_mem_nil
  | .obj ((key, value) :: members) => by
    have opening := mem_blank (style.opening_blank depth) wide
    have closing := mem_blank (style.closing_blank depth) wide
    have after := mem_blank style.afterColon_blank wide
    have first : c ≠ openBrace := fun same => by subst same; exact absurd wide (by decide)
    have last : c ≠ closeBrace := fun same => by subst same; exact absurd wide (by decide)
    have named : c ≠ colon := fun same => by subst same; exact absurd wide (by decide)
    simp only [write, contents, memberContents, List.mem_append, List.mem_cons, List.not_mem_nil,
      mem_write wide (depth + 1) value, mem_writeMembers wide depth members, mem_writeString wide,
      first, last, named, opening, closing, after, false_or, or_false]

theorem mem_writeItems (wide : 0x80 ≤ c.val) (depth : Nat) : (items : List Json) →
    (c ∈ writeItems style depth items ↔ c ∈ itemContents items)
  | [] => Iff.rfl
  | item :: items => by
    have between := mem_blank (style.between_blank depth) wide
    have first : c ≠ comma := fun same => by subst same; exact absurd wide (by decide)
    simp only [writeItems, itemContents, List.mem_append, List.mem_cons,
      mem_write wide (depth + 1) item, mem_writeItems wide depth items, first, between, false_or]

theorem mem_writeMembers (wide : 0x80 ≤ c.val) (depth : Nat) : (members : Members) →
    (c ∈ writeMembers style depth members ↔ c ∈ memberContents members)
  | [] => Iff.rfl
  | (key, value) :: members => by
    have between := mem_blank (style.between_blank depth) wide
    have after := mem_blank style.afterColon_blank wide
    have first : c ≠ comma := fun same => by subst same; exact absurd wide (by decide)
    have named : c ≠ colon := fun same => by subst same; exact absurd wide (by decide)
    simp only [writeMembers, memberContents, List.mem_append, List.mem_cons,
      mem_write wide (depth + 1) value, mem_writeMembers wide depth members, mem_writeString wide,
      first, named, between, after, false_or, or_false]

end

end Written

end Shared.JsonText
