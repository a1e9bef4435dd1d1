import Mathlib.Data.List.TakeDrop
import SynapseYield.Shared.Json

set_option autoImplicit false

namespace Shared.Utf8

abbrev Byte := Fin 0x100

instance byte_neZero : NeZero 0x100 := ⟨by decide⟩

abbrev Bytes := List Byte

def encodeChar (c : CodePoint) : Bytes :=
  if c.val < 0x80 then [Fin.ofNat 0x100 c.val]
  else if c.val < 0x800 then
    [Fin.ofNat 0x100 (0xC0 + c.val / 0x40), Fin.ofNat 0x100 (0x80 + c.val % 0x40)]
  else if c.val < 0x10000 then
    [Fin.ofNat 0x100 (0xE0 + c.val / 0x1000), Fin.ofNat 0x100 (0x80 + c.val / 0x40 % 0x40),
      Fin.ofNat 0x100 (0x80 + c.val % 0x40)]
  else
    [Fin.ofNat 0x100 (0xF0 + c.val / 0x40000), Fin.ofNat 0x100 (0x80 + c.val / 0x1000 % 0x40),
      Fin.ofNat 0x100 (0x80 + c.val / 0x40 % 0x40), Fin.ofNat 0x100 (0x80 + c.val % 0x40)]

-- text.encode("utf-8"), of a text without surrogates
def encode (text : List CodePoint) : Bytes := text.flatMap encodeChar

-- The number of bytes that a first byte announces, and the bits of the code point in it
def announced (first : Byte) : Nat × Nat :=
  if first.val < 0x80 then (1, first.val)
  else if first.val < 0xE0 then (2, first.val - 0xC0)
  else if first.val < 0xF0 then (3, first.val - 0xE0)
  else (4, first.val - 0xF0)

def pointOf (bits : Nat) (rest : Bytes) : CodePoint :=
  Fin.ofNat 0x110000 (rest.foldl (fun n byte => 0x40 * n + byte.val % 0x40) bits)

-- Bytes that are not the encoding of what they stand for are refused: too long ones as well.
def decodeChar : Bytes → Option (CodePoint × Bytes)
  | [] => none
  | first :: rest =>
    let (width, bits) := announced first
    let c := pointOf bits (rest.take (width - 1))
    if encodeChar c = (first :: rest).take width && ! isSurrogate c then
      some (c, (first :: rest).drop width)
    else none

def decodeFrom : Nat → Bytes → Option (List CodePoint)
  | _, [] => some []
  | 0, _ :: _ => none
  | fuel + 1, first :: rest =>
    (decodeChar (first :: rest)).bind fun (c, after) => (decodeFrom fuel after).map (c :: ·)

-- bytes.decode("utf-8")
def decode (bytes : Bytes) : Option (List CodePoint) := decodeFrom bytes.length bytes

section Characters

variable {c : CodePoint}

theorem encodeChar_nonempty (c : CodePoint) : encodeChar c ≠ [] := by
  unfold encodeChar
  split_ifs <;> exact List.cons_ne_nil _ _

theorem encodeChar_shape (c : CodePoint) :
    ∃ first rest, encodeChar c = first :: rest ∧
      (announced first).1 = rest.length + 1 ∧ pointOf (announced first).2 rest = c := by
  have bound := c.isLt
  have point (n : Nat) (same : n = c.val) : Fin.ofNat 0x110000 n = c := by
    apply Fin.ext
    rw [Fin.val_ofNat, same]
    exact Nat.mod_eq_of_lt bound
  have byte (n : Nat) (small : n < 0x100) : (Fin.ofNat 0x100 n).val = n := by
    rw [Fin.val_ofNat]
    exact Nat.mod_eq_of_lt small
  unfold encodeChar
  split_ifs with one two three
  · refine ⟨_, _, rfl, ?_, ?_⟩
    · rw [announced, byte _ (by omega), if_pos one]
      rfl
    · rw [announced, byte _ (by omega), if_pos one]
      exact point _ rfl
  · refine ⟨_, _, rfl, ?_, point _ ?_⟩
    · rw [announced, byte _ (by omega), if_neg (by omega), if_pos (by omega)]
      rfl
    · rw [announced, byte _ (by omega), if_neg (by omega), if_pos (by omega)]
      simp only [List.foldl_cons, List.foldl_nil]
      rw [byte _ (by omega)]
      omega
  · refine ⟨_, _, rfl, ?_, point _ ?_⟩
    · rw [announced, byte _ (by omega), if_neg (by omega), if_neg (by omega), if_pos (by omega)]
      rfl
    · rw [announced, byte _ (by omega), if_neg (by omega), if_neg (by omega), if_pos (by omega)]
      simp only [List.foldl_cons, List.foldl_nil]
      rw [byte _ (by omega), byte _ (by omega)]
      omega
  · refine ⟨_, _, rfl, ?_, point _ ?_⟩
    · rw [announced, byte _ (by omega), if_neg (by omega), if_neg (by omega), if_neg (by omega)]
      rfl
    · rw [announced, byte _ (by omega), if_neg (by omega), if_neg (by omega), if_neg (by omega)]
      simp only [List.foldl_cons, List.foldl_nil]
      rw [byte _ (by omega), byte _ (by omega), byte _ (by omega)]
      omega

theorem decodeChar_encodeChar (plain : isSurrogate c = false) (after : Bytes) :
    decodeChar (encodeChar c ++ after) = some (c, after) := by
  obtain ⟨first, rest, shape, width, point⟩ := encodeChar_shape c
  have taken : (rest ++ after).take ((announced first).1 - 1) = rest := by
    rw [width]
    exact List.take_left
  have whole : (first :: (rest ++ after)).take (announced first).1 = first :: rest := by
    rw [width]
    exact congrArg _ List.take_left
  have left : (first :: (rest ++ after)).drop (announced first).1 = after := by
    rw [width]
    exact List.drop_left
  rw [shape, List.cons_append, decodeChar]
  simp only [taken, whole, left, point, shape, plain, decide_true, Bool.not_false, Bool.and_self,
    if_true]

theorem decodeChar_some {bytes after : Bytes} (read : decodeChar bytes = some (c, after)) :
    bytes = encodeChar c ++ after ∧ isSurrogate c = false := by
  cases bytes with
  | nil => cases read
  | cons first rest =>
    rw [decodeChar] at read
    dsimp only at read
    split at read
    next accepted =>
      rw [Bool.and_eq_true, decide_eq_true_eq, Bool.not_eq_true'] at accepted
      cases read
      exact ⟨by rw [accepted.1, List.take_append_drop], accepted.2⟩
    next => cases read

end Characters

section Texts

variable {text t : List CodePoint} {bytes more : Bytes}

theorem encode_cons (c : CodePoint) (text : List CodePoint) :
    encode (c :: text) = encodeChar c ++ encode text := List.flatMap_cons

theorem decodeFrom_encode {fuel : Nat} (plain : ∀ c ∈ text, isSurrogate c = false)
    (enough : text.length ≤ fuel) : decodeFrom fuel (encode text) = some text := by
  induction text generalizing fuel with
  | nil => cases fuel <;> rfl
  | cons c text ih =>
    obtain ⟨head, tail⟩ := List.forall_mem_cons.mp plain
    obtain ⟨first, rest, shape⟩ := List.exists_cons_of_ne_nil (encodeChar_nonempty c)
    cases fuel with
    | zero => cases enough
    | succ fuel =>
      have read := decodeChar_encodeChar head (encode text)
      have decoded := ih tail (Nat.le_of_succ_le_succ enough)
      rw [encode_cons]
      rw [shape, List.cons_append] at read ⊢
      rw [decodeFrom, read, Option.bind_some]
      dsimp only
      rw [decoded, Option.map_some]

theorem length_encode (text : List CodePoint) : text.length ≤ (encode text).length := by
  induction text with
  | nil => exact Nat.zero_le _
  | cons c text ih =>
    have positive := List.length_pos_of_ne_nil (encodeChar_nonempty c)
    rw [encode_cons, List.length_append, List.length_cons]
    omega

theorem decode_encode (plain : ∀ c ∈ text, isSurrogate c = false) :
    decode (encode text) = some text := decodeFrom_encode plain (length_encode text)

theorem decodeFrom_some {fuel : Nat} (read : decodeFrom fuel bytes = some t) :
    bytes = encode t ∧ ∀ c ∈ t, isSurrogate c = false := by
  induction fuel generalizing bytes t with
  | zero =>
    cases bytes with
    | nil =>
      cases read
      exact ⟨rfl, List.forall_mem_nil _⟩
    | cons first rest => cases read
  | succ fuel ih =>
    cases bytes with
    | nil =>
      cases read
      exact ⟨rfl, List.forall_mem_nil _⟩
    | cons first rest =>
      rw [decodeFrom] at read
      obtain ⟨⟨c, after⟩, head, read⟩ := Option.bind_eq_some_iff.mp read
      obtain ⟨tail, decoded, rfl⟩ := Option.map_eq_some_iff.mp read
      obtain ⟨shape, plain⟩ := decodeChar_some head
      obtain ⟨rfl, rest_plain⟩ := ih decoded
      exact ⟨shape, List.forall_mem_cons.mpr ⟨plain, rest_plain⟩⟩

theorem decode_some (read : decode bytes = some t) :
    bytes = encode t ∧ ∀ c ∈ t, isSurrogate c = false := decodeFrom_some read

theorem encode_prefix (plainT : ∀ c ∈ t, isSurrogate c = false)
    (plain : ∀ c ∈ text, isSurrogate c = false) (whole : encode text = encode t ++ more) :
    ∃ q, text = t ++ q ∧ more = encode q := by
  induction t generalizing text with
  | nil => exact ⟨text, rfl, whole.symm⟩
  | cons d t ih =>
    obtain ⟨headT, tailT⟩ := List.forall_mem_cons.mp plainT
    have read := decodeChar_encodeChar headT (encode t ++ more)
    rw [← List.append_assoc, ← encode_cons, ← whole] at read
    cases text with
    | nil => cases read
    | cons c text =>
      obtain ⟨head, tail⟩ := List.forall_mem_cons.mp plain
      rw [encode_cons, decodeChar_encodeChar head] at read
      obtain ⟨rfl, rest⟩ := Prod.mk.inj (Option.some.inj read)
      obtain ⟨q, rfl, tail_more⟩ := ih tailT tail rest
      exact ⟨q, rfl, tail_more⟩

theorem decode_torn (plain : ∀ c ∈ text, isSurrogate c = false)
    (torn : encode text = bytes ++ more) (lost : more ≠ []) (read : decode bytes = some t) :
    ∃ q, text = t ++ q ∧ q ≠ [] := by
  obtain ⟨rfl, plainT⟩ := decode_some read
  obtain ⟨q, rfl, rfl⟩ := encode_prefix plainT plain torn
  refine ⟨q, rfl, ?_⟩
  rintro rfl
  exact lost rfl

end Texts

end Shared.Utf8
