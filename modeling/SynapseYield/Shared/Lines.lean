import Mathlib.Data.List.Basic
import SynapseYield.Shared.JsonText

set_option autoImplicit false

namespace Shared

namespace Lines

open JsonText (Text)

def newline : CodePoint := 0x0A

def carriageReturn : CodePoint := 0x0D

-- Where str.splitlines ends a line.
def isLineBreak (c : CodePoint) : Bool :=
  [0x0A, 0x0B, 0x0C, 0x0D, 0x1C, 0x1D, 0x1E, 0x85, 0x2028, 0x2029].contains c.val

-- What str.strip removes.
def isWhitespace (c : CodePoint) : Bool :=
  (0x09 ≤ c.val && c.val ≤ 0x0D) || (0x1C ≤ c.val && c.val ≤ 0x20) || c.val = 0x85 ||
    c.val = 0xA0 || c.val = 0x1680 || (0x2000 ≤ c.val && c.val ≤ 0x200A) || c.val = 0x2028 ||
    c.val = 0x2029 || c.val = 0x202F || c.val = 0x205F || c.val = 0x3000

def strip (text : Text) : Text :=
  ((text.dropWhile isWhitespace).reverse.dropWhile isWhitespace).reverse

-- text.split()
def words (text : Text) : List Text := (text.splitOnP isWhitespace).filter (· ≠ [])

-- The line so far, and the text after it.
def splitlinesFrom (line : Text) : Text → List Text
  | [] => if line.isEmpty then [] else [line]
  | 0x0D :: 0x0A :: rest => line :: splitlinesFrom [] rest
  | c :: rest =>
    if isLineBreak c then line :: splitlinesFrom [] rest else splitlinesFrom (line ++ [c]) rest

def splitlines (text : Text) : List Text := splitlinesFrom [] text

-- The newlines of a file opened as text
def universalNewlines : Text → Text
  | [] => []
  | 0x0D :: 0x0A :: rest => newline :: universalNewlines rest
  | c :: rest => (if c = carriageReturn then newline else c) :: universalNewlines rest

-- One line after another, each with its end
def unlines (lines : List Text) : Text := lines.flatMap (· ++ [newline])

-- A line of its own: neither a break inside nor a space at an end.
structure Solid (line : Text) : Prop where
  unbroken : ∀ c ∈ line, isLineBreak c = false
  nonempty : line ≠ []
  starts : ∀ c, line.head? = some c → isWhitespace c = false
  ends : ∀ c, line.getLast? = some c → isWhitespace c = false

theorem splitlinesFrom_cons {c : CodePoint} (unbroken : isLineBreak c = false) (line rest : Text) :
    splitlinesFrom line (c :: rest) = splitlinesFrom (line ++ [c]) rest := by
  have other : c ≠ 0x0D := by
    rintro rfl
    cases unbroken
  conv_lhs => unfold splitlinesFrom
  split
  next impossible => cases impossible
  next shape => exact absurd (List.cons.inj shape).1 other
  next shape =>
    obtain ⟨rfl, rfl⟩ := List.cons.inj shape
    rw [unbroken]
    rfl

theorem splitlinesFrom_unbroken {text : Text} (unbroken : ∀ c ∈ text, isLineBreak c = false)
    (line rest : Text) : splitlinesFrom line (text ++ rest) = splitlinesFrom (line ++ text) rest := by
  induction text generalizing line with
  | nil => rw [List.nil_append, List.append_nil]
  | cons c text ih =>
    obtain ⟨head, tail⟩ := List.forall_mem_cons.mp unbroken
    rw [List.cons_append, splitlinesFrom_cons head, ih tail, List.append_assoc,
      List.singleton_append]

theorem splitlinesFrom_newline (line rest : Text) :
    splitlinesFrom line (newline :: rest) = line :: splitlinesFrom [] rest := by
  conv_lhs => unfold splitlinesFrom
  rfl

theorem splitlines_unlines {lines : List Text}
    (unbroken : ∀ line ∈ lines, ∀ c ∈ line, isLineBreak c = false) (rest : Text) :
    splitlines (unlines lines ++ rest) = lines ++ splitlines rest := by
  induction lines with
  | nil => rfl
  | cons line lines ih =>
    obtain ⟨head, tail⟩ := List.forall_mem_cons.mp unbroken
    have later := ih tail
    simp only [unlines, List.flatMap_cons, List.append_assoc, splitlines] at later ⊢
    rw [splitlinesFrom_unbroken head, List.nil_append, List.singleton_append,
      splitlinesFrom_newline, later, List.cons_append]

theorem splitlines_line {line : Text} (unbroken : ∀ c ∈ line, isLineBreak c = false)
    (nonempty : line ≠ []) : splitlines line = [line] := by
  have whole := splitlinesFrom_unbroken unbroken [] []
  rw [List.append_nil, List.nil_append] at whole
  rw [splitlines, whole]
  simp [splitlinesFrom, nonempty]

theorem strip_solid {line : Text} (starts : ∀ c, line.head? = some c → isWhitespace c = false)
    (ends : ∀ c, line.getLast? = some c → isWhitespace c = false) : strip line = line := by
  have dropped {text : Text} (solid : ∀ c, text.head? = some c → isWhitespace c = false) :
      text.dropWhile isWhitespace = text := by
    cases text with
    | nil => rfl
    | cons c rest => exact List.dropWhile_cons_of_neg (by simp [solid c rfl])
  rw [strip, dropped starts, dropped (by simpa using ends), List.reverse_reverse]

theorem isWhitespace_newline : isWhitespace newline = true := rfl

theorem strip_newline {text : Text} (starts : ∀ c, text.head? = some c → isWhitespace c = false)
    (ends : ∀ c, text.getLast? = some c → isWhitespace c = false) :
    strip (text ++ [newline]) = text := by
  cases text with
  | nil => rfl
  | cons c rest =>
    have solid := strip_solid starts ends
    have head : ¬ isWhitespace c = true := by simp [starts c rfl]
    rw [strip, List.dropWhile_cons_of_neg head] at solid
    rw [strip, List.cons_append, List.dropWhile_cons_of_neg head, ← List.cons_append,
      List.reverse_append, List.reverse_singleton, List.singleton_append,
      List.dropWhile_cons_of_pos isWhitespace_newline, solid]

theorem unlines_head {lines : List Text} (solid : ∀ line ∈ lines, Solid line) (rest : Text)
    (after : ∀ c, rest.head? = some c → isWhitespace c = false) :
    ∀ c, (unlines lines ++ rest).head? = some c → isWhitespace c = false := by
  cases lines with
  | nil => exact after
  | cons line lines =>
    obtain ⟨head, -⟩ := List.forall_mem_cons.mp solid
    obtain ⟨first, others, shape⟩ := List.exists_cons_of_ne_nil head.nonempty
    have starts := head.starts
    subst shape
    exact starts

theorem splitlines_strip_unlines {lines : List Text} (solid : ∀ line ∈ lines, Solid line) :
    splitlines (strip (unlines lines)) = lines := by
  obtain rfl | ⟨before, last, rfl⟩ := List.eq_nil_or_concat' lines
  · rfl
  · rw [List.forall_mem_append, List.forall_mem_singleton] at solid
    have final : unlines (before ++ [last]) = (unlines before ++ last) ++ [newline] := by
      simp [unlines]
    have ends : ∀ c, (unlines before ++ last).getLast? = some c → isWhitespace c = false := by
      rw [List.getLast?_append_of_ne_nil _ solid.2.nonempty]
      exact solid.2.ends
    rw [final, strip_newline (unlines_head solid.1 last solid.2.starts) ends,
      splitlines_unlines fun line member => (solid.1 line member).unbroken,
      splitlines_line solid.2.unbroken solid.2.nonempty]

theorem universalNewlines_eq {text : Text} (none : carriageReturn ∉ text) :
    universalNewlines text = text := by
  induction text with
  | nil => rfl
  | cons c rest ih =>
    rw [List.mem_cons, not_or] at none
    have other : c ≠ 0x0D := fun same => none.1 same.symm
    conv_lhs => unfold universalNewlines
    split
    next impossible => cases impossible
    next shape => exact absurd (List.cons.inj shape).1 other
    next shape =>
      obtain ⟨rfl, rfl⟩ := List.cons.inj shape
      rw [ih none.2, if_neg fun same => none.1 same.symm]

theorem universalNewlines_returns (text : Text) : carriageReturn ∉ universalNewlines text := by
  fun_induction universalNewlines text with
  | case1 => exact List.not_mem_nil
  | case2 rest ih => simpa [carriageReturn, newline] using ih
  | case3 c rest other ih =>
    split
    next => simpa [carriageReturn, newline] using ih
    next different => simpa [Ne.symm different] using ih

@[simp] theorem universalNewlines_twice (text : Text) :
    universalNewlines (universalNewlines text) = universalNewlines text :=
  universalNewlines_eq (universalNewlines_returns text)

end Lines

end Shared
