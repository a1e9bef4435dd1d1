import SynapseYield.Shared.JsonRoundTrip
import SynapseYield.Shared.Lines

set_option autoImplicit false

namespace Shared.JsonText

-- NEXT LINE, LINE SEPARATOR and PARAGRAPH SEPARATOR: breaks that JSON does not escape.
def isSeparator (c : CodePoint) : Bool := c.val = 0x85 || c.val = 0x2028 || c.val = 0x2029

theorem unbroken_of_printed {own : List CodePoint} (plain : ∀ c ∈ own, isSeparator c = false)
    {c : CodePoint} (printed : Printed own c) : Lines.isLineBreak c = false := by
  obtain ⟨low, ascii | member⟩ := printed
  · simp only [Lines.isLineBreak, List.contains_eq_mem, List.mem_cons, List.not_mem_nil, or_false,
      decide_eq_false_iff_not]
    omega
  · have other := plain c member
    simp only [isSeparator, Bool.or_eq_false_iff, decide_eq_false_iff_not] at other
    simp only [Lines.isLineBreak, List.contains_eq_mem, List.mem_cons, List.not_mem_nil, or_false,
      decide_eq_false_iff_not]
    omega

section Documents

variable {style : Style} {members : List (PyString × Json)}

variable (style members) in
theorem object_starts : ∃ rest, write style 0 (.obj members) = openBrace :: rest := by
  cases members <;> exact ⟨_, rfl⟩

variable (style members) in
theorem object_ends : ∃ rest, write style 0 (.obj members) = rest ++ [closeBrace] := by
  cases members with
  | nil => exact ⟨[openBrace], rfl⟩
  | cons member rest => exact ⟨_, rfl⟩

theorem object_solid (line : style.OneLine) (formed : wellFormed (.obj members) = true)
    (plain : ∀ c ∈ memberCharacters members, isSeparator c = false) :
    Lines.Solid (write style 0 (.obj members)) where
  unbroken c member :=
    unbroken_of_printed plain (write_printed line 0 (.obj members) formed c member)
  nonempty := by
    obtain ⟨rest, shape⟩ := object_starts style members
    rw [shape]
    exact List.cons_ne_nil _ _
  starts c first := by
    obtain ⟨rest, shape⟩ := object_starts style members
    rw [shape] at first
    obtain rfl := Option.some.inj first
    rfl
  ends c last := by
    obtain ⟨rest, shape⟩ := object_ends style members
    rw [shape, List.getLast?_concat] at last
    obtain rfl := Option.some.inj last
    rfl

theorem object_returns (line : style.OneLine) (formed : wellFormed (.obj members) = true) :
    Lines.carriageReturn ∉ write style 0 (.obj members) := fun member =>
  absurd (write_printed line 0 (.obj members) formed _ member).1 (by decide)

end Documents

end Shared.JsonText
