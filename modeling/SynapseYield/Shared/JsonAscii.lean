import Mathlib.Data.List.Basic
import SynapseYield.Shared.JsonRoundTrip

set_option autoImplicit false

-- json.dumps of text, with ensure_ascii.
namespace Shared.JsonText

section Units

-- The units of UTF-16.
def units (c : CodePoint) : List CodePoint :=
  if c.val < 0x10000 then [c]
  else [Fin.ofNat 0x110000 (0xD800 + (c.val - 0x10000) / 0x400),
    Fin.ofNat 0x110000 (0xDC00 + (c.val - 0x10000) % 0x400)]

-- No high surrogate stands before a low one, as after decoding.
def unpaired : List CodePoint → Bool
  | [] => true
  | [_] => true
  | c :: d :: rest => ! (isHigh c && isLow d) && unpaired (d :: rest)

theorem unpaired_tail {c : CodePoint} {rest : List CodePoint} (whole : unpaired (c :: rest) = true) :
    unpaired rest = true := by
  cases rest with
  | nil => rfl
  | cons d rest => exact (Bool.and_eq_true_iff.mp whole).2

theorem units_small {c : CodePoint} (small : c.val < 0x10000) : units c = [c] := if_pos small

theorem units_wide {c : CodePoint} (wide : ¬ c.val < 0x10000) :
    ∃ high low, units c = [high, low] ∧ high.val = 0xD800 + (c.val - 0x10000) / 0x400 ∧
      low.val = 0xDC00 + (c.val - 0x10000) % 0x400 := by
  have bound := c.isLt
  refine ⟨_, _, if_neg wide, ?_, ?_⟩
  · exact Nat.mod_eq_of_lt (by omega)
  · exact Nat.mod_eq_of_lt (by omega)

theorem units_val {c unit : CodePoint} (member : unit ∈ units c) : unit.val < 0x10000 := by
  by_cases small : c.val < 0x10000
  · rw [units_small small, List.mem_singleton] at member
    rwa [member]
  · have bound := c.isLt
    obtain ⟨high, low, split, first, second⟩ := units_wide small
    simp only [split, List.mem_cons, List.not_mem_nil, or_false] at member
    obtain rfl | rfl := member <;> omega

theorem units_pair {c : CodePoint} (wide : ¬ c.val < 0x10000) {before after : List CodePoint}
    (whole : unpaired after = true)
    (same : units c ++ before = after.flatMap units) :
    ∃ rest, after = c :: rest ∧ before = rest.flatMap units := by
  have bound := c.isLt
  obtain ⟨high, low, split, first, second⟩ := units_wide wide
  rw [split, List.cons_append] at same
  cases after with
  | nil => cases same
  | cons d rest =>
    rw [List.flatMap_cons] at same
    by_cases small : d.val < 0x10000
    · rw [units_small small, List.singleton_append] at same
      obtain ⟨rfl, left⟩ := List.cons.inj same
      cases rest with
      | nil => cases left
      | cons e rest =>
        rw [List.flatMap_cons] at left
        have broken := (Bool.and_eq_true_iff.mp whole).1
        by_cases next : e.val < 0x10000
        · rw [units_small next, List.singleton_append] at left
          obtain ⟨rfl, -⟩ := List.cons.inj left
          have paired : (isHigh high && isLow low) = true := by
            simp only [isHigh, isLow, Bool.and_eq_true, decide_eq_true_eq]
            omega
          rw [paired] at broken
          cases broken
        · obtain ⟨high', low', split', first', -⟩ := units_wide next
          rw [split', List.cons_append] at left
          have clash := congrArg Fin.val (List.cons.inj left).1
          have bound' := e.isLt
          omega
    · obtain ⟨high', low', split', first', second'⟩ := units_wide small
      rw [split', List.cons_append] at same
      obtain ⟨rfl, left⟩ := List.cons.inj same
      obtain ⟨rfl, after⟩ := List.cons.inj (left : low :: before = low' :: rest.flatMap units)
      have sameC : c = d := Fin.ext (by omega)
      subst sameC
      exact ⟨rest, rfl, after⟩

theorem units_injective {s t : List CodePoint} (wholeS : unpaired s = true)
    (wholeT : unpaired t = true) (same : s.flatMap units = t.flatMap units) : s = t := by
  induction s generalizing t with
  | nil =>
    cases t with
    | nil => rfl
    | cons d rest =>
      rw [List.flatMap_nil, List.flatMap_cons] at same
      by_cases small : d.val < 0x10000
      · simp [units_small small] at same
      · obtain ⟨high, low, split, -⟩ := units_wide small
        simp [split] at same
  | cons c s ih =>
    rw [List.flatMap_cons] at same
    by_cases small : c.val < 0x10000
    · cases t with
      | nil => simp [units_small small] at same
      | cons d t =>
        rw [List.flatMap_cons] at same
        by_cases small' : d.val < 0x10000
        · rw [units_small small, units_small small', List.singleton_append,
            List.singleton_append] at same
          obtain ⟨rfl, left⟩ := List.cons.inj same
          rw [ih (unpaired_tail wholeS) (unpaired_tail wholeT) left]
        · rw [← List.flatMap_cons] at same
          obtain ⟨rest, split, -⟩ := units_pair small' wholeS same.symm
          obtain ⟨rfl, -⟩ := List.cons.inj split
          exact absurd small small'
    · obtain ⟨rest, rfl, left⟩ := units_pair small wholeT same
      rw [ih (unpaired_tail wholeS) (unpaired_tail wholeT) left]

end Units

section Writer

-- A unit of the text: itself, a letter after a backslash, or four hexadecimal digits.
def writeUnit (u : CodePoint) : Text :=
  if 0x20 ≤ u.val ∧ u.val ≤ 0x7E ∧ u ≠ quote ∧ u ≠ backslash then [u]
  else
    match escapes.find? (·.2 = u) with
    | some (letter, _) => [backslash, letter]
    | none => [backslash, 0x75, hexDigit (u.val / 4096 % 16), hexDigit (u.val / 256 % 16),
        hexDigit (u.val / 16 % 16), hexDigit (u.val % 16)]

def asciiString (s : PyString) : Text :=
  quote :: (s.points.flatMap units).flatMap writeUnit ++ [quote]

def unitPiece (u : CodePoint) : Piece :=
  if 0x20 ≤ u.val ∧ u.val ≤ 0x7E ∧ u ≠ quote ∧ u ≠ backslash then .char u
  else if (escapes.find? (·.2 = u)).isSome then .char u else .escaped u

theorem hexValue_hexDigit {n : Nat} (digit : n < 16) : hexValue (hexDigit n) = some n := by
  have all : ∀ n : Fin 16, hexValue (hexDigit n) = some n.val := by decide +kernel
  exact all ⟨n, digit⟩

theorem hexNumber_digits {u : CodePoint} (small : u.val < 0x10000) :
    hexNumber [hexDigit (u.val / 4096 % 16), hexDigit (u.val / 256 % 16),
      hexDigit (u.val / 16 % 16), hexDigit (u.val % 16)] = some u := by
  have digit (n : Nat) : hexValue (hexDigit (n % 16)) = some (n % 16) :=
    hexValue_hexDigit (Nat.mod_lt _ (by decide))
  simp only [hexNumber, List.mapM_cons, List.mapM_nil, digit]
  refine congrArg some (Fin.ext ?_)
  change (16 * (16 * (16 * (16 * 0 + u.val / 4096 % 16) + u.val / 256 % 16) + u.val / 16 % 16) +
    u.val % 16) % 0x110000 = u.val
  omega

theorem scanString_unit {u : CodePoint} (small : u.val < 0x10000) (text : Text) :
    scanString (writeUnit u ++ text) =
      (scanString text).map fun (pieces, rest) => (unitPiece u :: pieces, rest) := by
  unfold writeUnit unitPiece
  split
  next plain => exact scanString_plain plain.2.2.1 plain.2.2.2 (by omega) text
  next special =>
    split
    next letter c found =>
      have same : c = u := by simpa using List.find?_some found
      have member := List.mem_of_find?_eq_some found
      subst same
      rw [found]
      simp only [escapes, List.mem_cons, List.not_mem_nil, or_false, Prod.mk.injEq] at member
      obtain ⟨rfl, rfl⟩ | ⟨rfl, rfl⟩ | ⟨rfl, rfl⟩ | ⟨rfl, rfl⟩ | ⟨rfl, rfl⟩ | ⟨rfl, rfl⟩ | ⟨rfl, rfl⟩ |
        ⟨rfl, rfl⟩ := member
      all_goals rfl
    next plain =>
      rw [plain]
      have digits := hexNumber_digits small
      conv_lhs => unfold scanString
      change (hexNumber _).bind _ = _
      rw [digits]
      rfl

theorem scanString_units {us : List CodePoint} (small : ∀ u ∈ us, u.val < 0x10000) (text : Text) :
    scanString (us.flatMap writeUnit ++ quote :: text) = some (us.map unitPiece, text) := by
  induction us with
  | nil => exact scanString_quote text
  | cons u us ih =>
    obtain ⟨first, rest⟩ := List.forall_mem_cons.mp small
    rw [List.flatMap_cons, List.append_assoc, scanString_unit first, ih rest]
    rfl

def Piece.point : Piece → CodePoint
  | .char c => c
  | .escaped c => c

theorem unitPiece_point (u : CodePoint) : (unitPiece u).point = u := by
  unfold unitPiece
  split
  next => rfl
  next => split <;> rfl

theorem asciiString_append {s t : PyString} {before after : Text} (wholeS : unpaired s.points = true)
    (wholeT : unpaired t.points = true)
    (same : asciiString s ++ before = asciiString t ++ after) : s = t ∧ before = after := by
  simp only [asciiString, List.cons_append, List.append_assoc, List.nil_append, List.cons.injEq,
    true_and] at same
  have small (s : PyString) : ∀ u ∈ s.points.flatMap units, u.val < 0x10000 := fun u member => by
    obtain ⟨c, -, split⟩ := List.mem_flatMap.mp member
    exact units_val split
  have read := congrArg scanString same
  rw [scanString_units (small s), scanString_units (small t)] at read
  obtain ⟨pieces, rest⟩ := Prod.mk.inj (Option.some.inj read)
  have points := congrArg (List.map Piece.point) pieces
  simp only [List.map_map, Function.comp_def, unitPiece_point, List.map_id'] at points
  refine ⟨?_, rest⟩
  have same := units_injective wholeS wholeT points
  cases s
  cases t
  exact congrArg PyString.mk same

-- A list of strings, without blanks.
def asciiItems : List PyString → Text
  | [] => [openBracket, closeBracket]
  | item :: rest =>
    openBracket :: asciiString item ++ rest.flatMap (fun s => comma :: asciiString s) ++ [closeBracket]

theorem asciiRest_append {rest rest' : List PyString} {before after : Text}
    (whole : ∀ s ∈ rest, unpaired s.points = true) (whole' : ∀ s ∈ rest', unpaired s.points = true)
    (same : rest.flatMap (fun s => comma :: asciiString s) ++ closeBracket :: before =
      rest'.flatMap (fun s => comma :: asciiString s) ++ closeBracket :: after) :
    rest = rest' ∧ before = after := by
  induction rest generalizing rest' with
  | nil =>
    cases rest' with
    | nil => exact ⟨rfl, (List.cons.inj same).2⟩
    | cons s rest' => exact absurd (List.cons.inj same).1 (by decide)
  | cons s rest ih =>
    cases rest' with
    | nil => exact absurd (List.cons.inj same).1 (by decide)
    | cons s' rest' =>
      obtain ⟨first, later⟩ := List.forall_mem_cons.mp whole
      obtain ⟨first', later'⟩ := List.forall_mem_cons.mp whole'
      rw [List.flatMap_cons, List.flatMap_cons, List.append_assoc, List.append_assoc,
        List.cons_append, List.cons_append] at same
      obtain ⟨rfl, left⟩ := asciiString_append first first' (List.cons.inj same).2
      obtain ⟨rfl, ended⟩ := ih later later' left
      exact ⟨rfl, ended⟩

theorem asciiItems_append {items items' : List PyString} {before after : Text}
    (whole : ∀ s ∈ items, unpaired s.points = true) (whole' : ∀ s ∈ items', unpaired s.points = true)
    (same : asciiItems items ++ before = asciiItems items' ++ after) :
    items = items' ∧ before = after := by
  cases items with
  | nil =>
    cases items' with
    | nil => exact ⟨rfl, (List.cons.inj (List.cons.inj same).2).2⟩
    | cons s rest => exact absurd (List.cons.inj (List.cons.inj same).2).1 (by decide)
  | cons s rest =>
    cases items' with
    | nil => exact absurd (List.cons.inj (List.cons.inj same).2).1 (by decide)
    | cons s' rest' =>
      obtain ⟨first, later⟩ := List.forall_mem_cons.mp whole
      obtain ⟨first', later'⟩ := List.forall_mem_cons.mp whole'
      simp only [asciiItems, List.cons_append, List.append_assoc, List.nil_append, List.cons.injEq,
        true_and] at same
      obtain ⟨rfl, left⟩ := asciiString_append first first' same
      obtain ⟨rfl, ended⟩ := asciiRest_append later later' left
      exact ⟨rfl, ended⟩

end Writer

end Shared.JsonText
