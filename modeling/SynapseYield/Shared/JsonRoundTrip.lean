import Mathlib.Data.Fintype.Basic
import Mathlib.Data.List.Nodup
import Mathlib.Data.List.TakeWhile
import Mathlib.Data.Nat.Digits.Lemmas
import Mathlib.Tactic.FinCases
import SynapseYield.Shared.JsonText

set_option autoImplicit false

namespace Shared.JsonText

section Strings

def pieceOf (c : CodePoint) : Piece :=
  if c.val < 0x20 && (escapes.find? (·.2 = c)).isNone then .escaped c else .char c

theorem scanString_quote (text : Text) : scanString (quote :: text) = some ([], text) := by
  unfold scanString
  rw [if_pos rfl]

theorem scanString_plain {c : CodePoint} (unquoted : c ≠ quote) (unslashed : c ≠ backslash)
    (printed : ¬ c.val < 0x20) (text : Text) :
    scanString (c :: text) =
      (scanString text).map fun (pieces, rest) => (.char c :: pieces, rest) := by
  conv_lhs => unfold scanString
  rw [if_neg unquoted, if_neg unslashed, if_neg printed]

theorem scanString_control (n : Fin 32) (text : Text) :
    scanString (writeChar (n.castLE (by decide)) ++ text) =
      (scanString text).map fun (pieces, rest) =>
        (pieceOf (n.castLE (by decide)) :: pieces, rest) := by
  fin_cases n <;> rfl

theorem scanString_char (c : CodePoint) (text : Text) :
    scanString (writeChar c ++ text) =
      (scanString text).map fun (pieces, rest) => (pieceOf c :: pieces, rest) := by
  by_cases control : c.val < 0x20
  · exact scanString_control ⟨c.val, control⟩ text
  · by_cases quoted : c = quote
    · subst quoted
      rfl
    · by_cases slashed : c = backslash
      · subst slashed
        rfl
      · have plain : pieceOf c = .char c := by simp [pieceOf, control]
        have written : writeChar c = [c] := by simp [writeChar, control, quoted, slashed]
        rw [plain, written]
        exact scanString_plain quoted slashed control text

theorem scanString_write (points : List CodePoint) (text : Text) :
    scanString (points.flatMap writeChar ++ quote :: text) = some (points.map pieceOf, text) := by
  induction points with
  | nil => exact scanString_quote text
  | cons c rest ih =>
    rw [List.flatMap_cons, List.append_assoc, scanString_char, ih]
    rfl

theorem join_pieces (points : List CodePoint) : join (points.map pieceOf) = points := by
  induction points with
  | nil => rfl
  | cons c rest ih =>
    rw [List.map_cons]
    cases control : c.val < 0x20 && (escapes.find? (·.2 = c)).isNone with
    | true =>
      have piece : pieceOf c = .escaped c := if_pos control
      have low : isHigh c = false := by
        simp only [Bool.and_eq_true, decide_eq_true_eq] at control
        simp only [isHigh, Bool.and_eq_false_iff, decide_eq_false_iff_not]
        omega
      rw [piece]
      unfold join
      rw [low, ih]
      split <;> rfl
    | false =>
      have piece : pieceOf c = .char c := by simp [pieceOf, control]
      rw [piece]
      unfold join
      rw [ih]

theorem scanKey_write (s : PyString) (text : Text) :
    scanKey (writeString s ++ text) = some (s, text) := by
  have body := scanString_write s.points text
  simp [scanKey, writeString, expect, body, join_pieces]

end Strings

section Blanks

theorem skip_blank {blanks : Text} (blank : blanks.all isBlank = true) (text : Text) :
    skip (blanks ++ text) = skip text :=
  List.dropWhile_append_of_pos (List.all_eq_true.mp blank)

theorem skip_cons {c : CodePoint} (solid : isBlank c = false) (text : Text) :
    skip (c :: text) = c :: text := List.dropWhile_cons_of_neg (by simp [solid])

theorem expect_self (c : CodePoint) (text : Text) : expect c (c :: text) = some text := by
  simp [expect]

theorem expect_other {c first : CodePoint} (other : first ≠ c) (text : Text) :
    expect c (first :: text) = none := by simp [expect, other]

-- What follows does not continue a number.
def Delimited (text : Text) : Prop := ∀ c, text.head? = some c → isNumberChar c = false

theorem delimited_cons {c : CodePoint} (other : isNumberChar c = false) (text : Text) :
    Delimited (c :: text) := fun _ same => Option.some.inj same ▸ other

theorem isNumberChar_blank {c : CodePoint} (blank : isBlank c = true) :
    isNumberChar c = false := by
  simp only [isBlank, Bool.or_eq_true, decide_eq_true_eq] at blank
  obtain ((rfl | rfl) | rfl) | rfl := blank <;> rfl

theorem delimited_blank {blanks : Text} (blank : blanks.all isBlank = true) {c : CodePoint}
    (other : isNumberChar c = false) (text : Text) : Delimited (blanks ++ c :: text) := by
  cases blanks with
  | nil => exact delimited_cons other text
  | cons b rest =>
    exact delimited_cons (isNumberChar_blank (List.all_eq_true.mp blank b List.mem_cons_self)) _

end Blanks

section Atoms

theorem isNumberChar_digit {c : CodePoint} (digit : isDigit c = true) : isNumberChar c = true := by
  simp [isNumberChar, digit]

theorem isExponent_chars {text : Text} (exponent : isExponent text = true) :
    ∀ c ∈ text, isNumberChar c = true := by
  have letter {e : CodePoint} (named : (e = 0x45 || e = 0x65) = true) : isNumberChar e = true := by
    simp only [Bool.or_eq_true, decide_eq_true_eq] at named
    obtain rfl | rfl := named <;> rfl
  have digits {rest : Text} (all : rest.all isDigit = true) : ∀ c ∈ rest, isNumberChar c = true :=
    fun c member => isNumberChar_digit (List.all_eq_true.mp all c member)
  unfold isExponent at exponent
  split at exponent
  next => exact List.forall_mem_nil _
  next =>
    simp only [Bool.and_eq_true] at exponent
    exact List.forall_mem_cons.mpr ⟨letter exponent.1.1,
      List.forall_mem_cons.mpr ⟨rfl, digits exponent.2⟩⟩
  next =>
    simp only [Bool.and_eq_true] at exponent
    exact List.forall_mem_cons.mpr ⟨letter exponent.1.1,
      List.forall_mem_cons.mpr ⟨rfl, digits exponent.2⟩⟩
  next =>
    simp only [Bool.and_eq_true] at exponent
    exact List.forall_mem_cons.mpr ⟨letter exponent.1.1, digits exponent.2⟩

theorem digits_chars (text : Text) : ∀ c ∈ text.takeWhile isDigit, isNumberChar c = true :=
  fun _ member => isNumberChar_digit (List.mem_takeWhile_imp member)

theorem isFraction_chars {text : Text} (fraction : isFraction text = true) :
    ∀ c ∈ text, isNumberChar c = true := by
  unfold isFraction at fraction
  split at fraction
  next rest =>
    rw [Bool.and_eq_true] at fraction
    rw [← List.takeWhile_append_dropWhile (p := isDigit) (l := rest)]
    exact List.forall_mem_cons.mpr
      ⟨rfl, List.forall_mem_append.mpr ⟨digits_chars rest, isExponent_chars fraction.2⟩⟩
  next => exact isExponent_chars fraction

theorem unsigned_chars {text : Text} (fraction : isFraction (text.dropWhile isDigit) = true) :
    ∀ c ∈ text, isNumberChar c = true := by
  rw [← List.takeWhile_append_dropWhile (p := isDigit) (l := text)]
  exact List.forall_mem_append.mpr ⟨digits_chars text, isFraction_chars fraction⟩

theorem isNumber_chars {literal : Text} (number : isNumber literal = true) :
    ∀ c ∈ literal, isNumberChar c = true := by
  unfold isNumber at number
  split at number
  next =>
    rw [Bool.and_eq_true] at number
    exact List.forall_mem_cons.mpr ⟨rfl, unsigned_chars number.2⟩
  next =>
    rw [Bool.and_eq_true] at number
    exact unsigned_chars number.2

theorem unsigned_head {text : Text} (integer : isInteger (text.takeWhile isDigit) = true) :
    ∃ c rest, text = c :: rest ∧ isDigit c = true := by
  cases text with
  | nil => cases integer
  | cons c rest =>
    refine ⟨c, rest, rfl, ?_⟩
    by_contra other
    rw [List.takeWhile_cons_of_neg other] at integer
    cases integer

theorem number_head {literal : Text} (number : isNumber literal = true) :
    ∃ c rest, (literal = c :: rest ∨ literal = 0x2D :: c :: rest) ∧ isDigit c = true := by
  unfold isNumber at number
  split at number
  next text =>
    rw [Bool.and_eq_true] at number
    obtain ⟨c, rest, rfl, digit⟩ := unsigned_head number.1
    exact ⟨c, rest, .inr rfl, digit⟩
  next =>
    rw [Bool.and_eq_true] at number
    obtain ⟨c, rest, rfl, digit⟩ := unsigned_head number.1
    exact ⟨c, rest, .inl rfl, digit⟩

theorem constants_number {literal : Text} (number : isNumber literal = true) (rest : Text) :
    constants.find? (·.1.isPrefixOf (literal ++ rest)) = none := by
  obtain ⟨c, tail, shape, digit⟩ := number_head number
  have other (letter : CodePoint) (not : isDigit letter = false) : letter ≠ c := by
    rintro rfl
    rw [digit] at not
    cases not
  -- The letters that a constant can start with, and the I of -Infinity.
  have n := other 0x6E rfl
  have t := other 0x74 rfl
  have f := other 0x66 rfl
  have capitalN := other 0x4E rfl
  have capitalI := other 0x49 rfl
  have minus := other 0x2D rfl
  obtain rfl | rfl := shape <;>
    simp [constants, PyString.ofString, n, t, f, capitalN, capitalI, minus]

theorem scanAtom_number {literal : Text} (number : isNumber literal = true) {rest : Text}
    (delimited : Delimited rest) :
    scanAtom (literal ++ rest) = some (.number literal, rest) := by
  have stop : rest.takeWhile isNumberChar = [] ∧ rest.dropWhile isNumberChar = rest := by
    cases rest with
    | nil => exact ⟨rfl, rfl⟩
    | cons c after => simp [delimited c rfl]
  have chars := isNumber_chars number
  rw [scanAtom, constants_number number]
  simp only [List.takeWhile_append_of_pos chars, List.dropWhile_append_of_pos chars, stop,
    List.append_nil, number, if_true]

theorem decimal_digits (n : Nat) :
    (∀ c ∈ decimal n, isDigit c = true) ∧ isInteger (decimal n) = true := by
  unfold decimal
  split
  next => exact ⟨by simp [isDigit], rfl⟩
  next positive =>
    have small (digit : Nat) (bound : digit < 10) :
        (Fin.ofNat 0x110000 (0x30 + digit)).val = 0x30 + digit := by
      rw [Fin.val_ofNat]
      omega
    have digits : ∀ c ∈ (Nat.digits 10 n).reverse.map fun digit =>
        Fin.ofNat 0x110000 (0x30 + digit), isDigit c = true := by
      intro c member
      obtain ⟨digit, listed, rfl⟩ := List.mem_map.mp member
      have bound := Nat.digits_lt_base (by decide : 1 < 10) (List.mem_reverse.mp listed)
      simp only [isDigit, small digit bound, Bool.and_eq_true, decide_eq_true_eq]
      omega
    refine ⟨digits, ?_⟩
    cases shape : (Nat.digits 10 n).reverse with
    | nil =>
      exact absurd (Nat.digits_eq_nil_iff_eq_zero.mp (List.reverse_eq_nil_iff.mp shape)) positive
    | cons first rest =>
      have last := Nat.getLast_digit_ne_zero 10 positive
      have order : Nat.digits 10 n = rest.reverse ++ [first] := by
        rw [← List.reverse_reverse (Nat.digits 10 n), shape, List.reverse_cons]
      simp only [order, List.getLast_append_singleton] at last
      have bound := Nat.digits_lt_base (by decide : 1 < 10)
        (List.mem_reverse.mp (shape ▸ List.mem_cons_self) : first ∈ Nat.digits 10 n)
      have lead : Fin.ofNat 0x110000 (0x30 + first) ≠ (0x30 : CodePoint) := by
        intro same
        have value := congrArg Fin.val same
        rw [small first bound] at value
        change 0x30 + first = 0x30 at value
        omega
      rw [shape] at digits
      rw [List.map_cons] at digits ⊢
      rw [isInteger, List.all_eq_true.mpr digits, decide_eq_true lead]
      rfl

theorem decimal_number (n : Nat) : isNumber (decimal n) = true := by
  obtain ⟨digits, integer⟩ := decimal_digits n
  have all : (decimal n).takeWhile isDigit = decimal n := List.takeWhile_eq_self_iff.mpr digits
  have none : (decimal n).dropWhile isDigit = [] := List.dropWhile_eq_nil_iff.mpr digits
  unfold isNumber
  split
  next text shape =>
    have impossible := digits 0x2D (by rw [shape]; exact List.mem_cons_self)
    cases impossible
  next => rw [all, none, integer]; rfl

theorem scanAtom_nonFinite {literal : Text} (named : nonFinite.contains literal = true)
    (rest : Text) : scanAtom (literal ++ rest) = some (.number literal, rest) := by
  simp only [nonFinite, List.contains_cons, List.contains_nil, Bool.or_false, Bool.or_eq_true,
    beq_iff_eq] at named
  obtain rfl | rfl | rfl := named <;> rfl

-- The first character of a written value tells it from a bracket that closes and from a blank.
structure Opens (text : Text) : Prop where
  starts : ∃ c rest, text = c :: rest ∧ isBlank c = false ∧ c ≠ closeBracket

theorem opens_cons {c : CodePoint} {rest : Text} (solid : isBlank c = false)
    (other : c ≠ closeBracket) : Opens (c :: rest) := ⟨c, rest, rfl, solid, other⟩

theorem opens_number {literal : Text} (number : isNumber literal = true) : Opens literal := by
  obtain ⟨c, rest, rfl | rfl, digit⟩ := number_head number
  · refine opens_cons ?_ ?_
    · cases blank : isBlank c with
      | false => rfl
      | true =>
        have number := isNumberChar_digit digit
        rw [isNumberChar_blank blank] at number
        cases number
    · rintro rfl
      cases digit
  · exact opens_cons rfl (by decide)

theorem write_opens (style : Style) (depth : Nat) (value : Json)
    (formed : wellFormed value = true) : Opens (write style depth value) := by
  cases value with
  | null => exact opens_cons rfl (by decide)
  | bool b => cases b <;> exact opens_cons rfl (by decide)
  | number literal =>
    rw [wellFormed, Bool.or_eq_true] at formed
    obtain number | named := formed
    · exact opens_number number
    · simp only [nonFinite, List.contains_cons, List.contains_nil, Bool.or_false, Bool.or_eq_true,
        beq_iff_eq] at named
      obtain rfl | rfl | rfl := named <;> exact opens_cons rfl (by decide)
  | str s => exact opens_cons rfl (by decide)
  | arr items => cases items <;> exact opens_cons rfl (by decide)
  | obj members => cases members <;> exact opens_cons rfl (by decide)

theorem skip_opens {text : Text} (opens : Opens text) (rest : Text) :
    skip (text ++ rest) = text ++ rest := by
  obtain ⟨c, after, rfl, solid, _⟩ := opens.starts
  exact skip_cons solid (after ++ rest)

theorem expect_opens {text : Text} (opens : Opens text) (rest : Text) :
    expect closeBracket (text ++ rest) = none := by
  obtain ⟨c, after, rfl, _, other⟩ := opens.starts
  exact expect_other other (after ++ rest)

theorem scanValue_atom {c : CodePoint} (unquoted : c ≠ quote) (unlisted : c ≠ openBracket)
    (unkeyed : c ≠ openBrace) (fuel : Nat) (rest : Text) :
    scanValue (fuel + 1) (c :: rest) = scanAtom (c :: rest) := by
  rw [scanValue, if_neg unquoted, if_neg unlisted, if_neg unkeyed]

theorem scanValue_number {literal : Text} (formed : wellFormed (.number literal) = true)
    {rest : Text} (delimited : Delimited rest) (fuel : Nat) :
    scanValue (fuel + 1) (literal ++ rest) = some (.number literal, rest) := by
  rw [wellFormed, Bool.or_eq_true] at formed
  obtain number | named := formed
  · rw [← scanAtom_number number delimited]
    obtain ⟨c, after, rfl | rfl, digit⟩ := number_head number
    · refine scanValue_atom ?_ ?_ ?_ fuel _ <;> rintro rfl <;> cases digit
    · exact scanValue_atom (by decide) (by decide) (by decide) fuel _
  · rw [← scanAtom_nonFinite named rest]
    simp only [nonFinite, List.contains_cons, List.contains_nil, Bool.or_false, Bool.or_eq_true,
      beq_iff_eq] at named
    obtain rfl | rfl | rfl := named <;>
      exact scanValue_atom (by decide) (by decide) (by decide) fuel _

end Atoms

section Members

theorem setMember_new {members : List (PyString × Json)} {key : PyString}
    (fresh : key ∉ members.map (·.1)) (value : Json) :
    setMember members key value = members ++ [(key, value)] := by
  refine if_neg fun present => fresh ?_
  obtain ⟨member, given, same⟩ := List.any_eq_true.mp present
  exact List.mem_map.mpr ⟨member, given, of_decide_eq_true same⟩

theorem setMembers_new (members before : List (PyString × Json))
    (distinct : ((before ++ members).map (·.1)).Nodup) :
    members.foldl (fun members (key, value) => setMember members key value) before =
      before ++ members := by
  induction members generalizing before with
  | nil => rw [List.append_nil]; rfl
  | cons member rest ih =>
    obtain ⟨key, value⟩ := member
    have fresh : key ∉ before.map (·.1) := by
      rw [List.map_append, List.nodup_append] at distinct
      exact fun present => distinct.2.2 key present key (by simp) rfl
    simp only [List.foldl_cons, setMember_new fresh]
    rw [ih _ (by simpa using distinct), List.append_assoc, List.singleton_append]

theorem ofPairs_nodup {members : List (PyString × Json)}
    (distinct : (members.map (·.1)).Nodup) : ofPairs members = members :=
  setMembers_new members [] distinct

end Members

section Values

variable (style : Style)

theorem delimited_items (depth : Nat) (rest : List Json) (after : Text) :
    Delimited (writeItems style depth rest ++ (style.closing depth ++ closeBracket :: after)) := by
  cases rest with
  | nil => exact delimited_blank (style.closing_blank depth) rfl after
  | cons item rest =>
    rw [writeItems]
    exact delimited_cons rfl _

theorem delimited_members (depth : Nat) (rest : List (PyString × Json)) (after : Text) :
    Delimited (writeMembers style depth rest ++ (style.closing depth ++ closeBrace :: after)) := by
  cases rest with
  | nil => exact delimited_blank (style.closing_blank depth) rfl after
  | cons member rest =>
    rw [writeMembers]
    exact delimited_cons rfl _

theorem skip_before {blanks : Text} (blank : blanks.all isBlank = true) {c : CodePoint}
    (solid : isBlank c = false) (text : Text) : skip (blanks ++ c :: text) = c :: text := by
  rw [skip_blank blank, skip_cons solid]

mutual

theorem scanValue_write (depth : Nat) : (value : Json) → wellFormed value = true →
    (fuel : Nat) → (rest : Text) → (write style depth value).length ≤ fuel → Delimited rest →
      scanValue fuel (write style depth value ++ rest) = some (value, rest)
  | .null, _, fuel + 1, rest, _, _ => rfl
  | .bool true, _, fuel + 1, rest, _, _ => rfl
  | .bool false, _, fuel + 1, rest, _, _ => rfl
  | .number literal, formed, fuel + 1, rest, _, delimited =>
    scanValue_number formed delimited fuel
  | .number literal, formed, 0, rest, enough, _ => by
    obtain ⟨c, after, same, _, _⟩ := (write_opens style depth (.number literal) formed).starts
    rw [same] at enough
    exact absurd enough (Nat.not_succ_le_zero _)
  | .str s, _, fuel + 1, rest, _, _ => by
    have body := scanString_write s.points rest
    rw [write, writeString, List.cons_append, List.cons_append, List.append_assoc,
      List.singleton_append, scanValue, if_pos rfl, body]
    simp [join_pieces]
  | .arr [], _, fuel + 1, rest, _, _ => rfl
  | .arr (item :: items), formed, fuel + 1, rest, enough, _ => by
    rw [wellFormed, wellFormedItems, Bool.and_eq_true] at formed
    simp only [write, List.cons_append, List.length_cons, List.length_append, List.append_assoc,
      List.nil_append] at enough ⊢
    have items := scanItems_write depth item items formed.1 formed.2 fuel rest (by
      rw [List.length_append]
      omega)
    have opens := write_opens style (depth + 1) item formed.1
    rw [scanValue, if_neg (by decide), if_pos rfl, skip_blank (style.opening_blank depth),
      skip_opens opens, expect_opens opens, items]
    rfl
  | .obj [], _, fuel + 1, rest, _, _ => rfl
  | .obj ((key, value) :: members), formed, fuel + 1, rest, enough, _ => by
    rw [wellFormed, wellFormedMembers, Bool.and_eq_true, Bool.and_eq_true,
      decide_eq_true_eq] at formed
    simp only [write, List.cons_append, List.length_cons, List.length_append, List.append_assoc,
      List.nil_append] at enough ⊢
    have members := scanMembers_write depth key value members formed.2.1 formed.2.2 fuel rest (by
      rw [List.length_append]
      omega)
    rw [scanValue, if_neg (by decide), if_neg (by decide), if_pos rfl,
      skip_blank (style.opening_blank depth)]
    simp only [writeString, List.cons_append, List.append_assoc] at members ⊢
    rw [skip_cons rfl, expect_other (by decide), members]
    simp [ofPairs_nodup formed.1]

theorem scanItems_write (depth : Nat) : (item : Json) → (items : List Json) →
    wellFormed item = true → wellFormedItems items = true → (fuel : Nat) → (after : Text) →
    (write style (depth + 1) item ++ writeItems style depth items).length < fuel →
      scanItems fuel (write style (depth + 1) item ++ (writeItems style depth items ++
        (style.closing depth ++ closeBracket :: after))) = some (item :: items, after)
  | item, items, formed, others, 0, after, enough => absurd enough (Nat.not_lt_zero _)
  | item, [], formed, _, fuel + 1, after, enough => by
    rw [writeItems, List.append_nil] at enough
    have first := scanValue_write (depth + 1) item formed fuel _ (Nat.lt_succ_iff.mp enough)
      (delimited_items style depth [] after)
    rw [scanItems, first, Option.bind_some]
    simp only [writeItems, List.nil_append]
    rw [skip_before (style.closing_blank depth) rfl, expect_self]
  | item, next :: more, formed, others, fuel + 1, after, enough => by
    rw [wellFormedItems, Bool.and_eq_true] at others
    have size : (writeItems style depth (next :: more)).length =
        1 + (style.between depth).length +
          (write style (depth + 1) next ++ writeItems style depth more).length := by
      rw [writeItems]
      simp only [List.cons_append, List.length_cons, List.length_append]
      omega
    rw [List.length_append, size] at enough
    have first := scanValue_write (depth + 1) item formed fuel _ (by omega)
      (delimited_items style depth (next :: more) after)
    have rest := scanItems_write depth next more others.1 others.2 fuel after (by omega)
    rw [scanItems, first, Option.bind_some]
    simp only [writeItems, List.cons_append, List.append_assoc]
    rw [skip_cons rfl, expect_other (by decide), expect_self, Option.bind_some,
      skip_blank (style.between_blank depth),
      skip_opens (write_opens style (depth + 1) next others.1), rest]
    rfl

theorem scanMembers_write (depth : Nat) : (key : PyString) → (value : Json) →
    (members : List (PyString × Json)) → wellFormed value = true →
    wellFormedMembers members = true → (fuel : Nat) → (after : Text) →
    (write style (depth + 1) value ++ writeMembers style depth members).length < fuel →
      scanMembers fuel (writeString key ++ (colon :: (style.afterColon ++
        (write style (depth + 1) value ++ (writeMembers style depth members ++
          (style.closing depth ++ closeBrace :: after)))))) = some ((key, value) :: members, after)
  | key, value, members, formed, others, 0, after, enough => absurd enough (Nat.not_lt_zero _)
  | key, value, [], formed, _, fuel + 1, after, enough => by
    rw [writeMembers, List.append_nil] at enough
    have first := scanValue_write (depth + 1) value formed fuel _ (Nat.lt_succ_iff.mp enough)
      (delimited_members style depth [] after)
    rw [scanMembers, scanKey_write, Option.bind_some]
    simp only [skip_cons (show isBlank colon = false from rfl), expect_self, Option.bind_some]
    rw [skip_blank style.afterColon_blank, skip_opens (write_opens style (depth + 1) value formed),
      first, Option.bind_some]
    simp only [writeMembers, List.nil_append]
    rw [skip_before (style.closing_blank depth) rfl, expect_self]
  | key, value, (other, next) :: more, formed, others, fuel + 1, after, enough => by
    rw [wellFormedMembers, Bool.and_eq_true] at others
    have size : (write style (depth + 1) next ++ writeMembers style depth more).length <
        (writeMembers style depth ((other, next) :: more)).length := by
      rw [writeMembers]
      simp only [List.cons_append, List.length_cons, List.length_append]
      omega
    rw [List.length_append] at enough
    have first := scanValue_write (depth + 1) value formed fuel _ (by omega)
      (delimited_members style depth ((other, next) :: more) after)
    have rest := scanMembers_write depth other next more others.1 others.2 fuel after (by omega)
    rw [scanMembers, scanKey_write, Option.bind_some]
    simp only [skip_cons (show isBlank colon = false from rfl), expect_self, Option.bind_some]
    rw [skip_blank style.afterColon_blank, skip_opens (write_opens style (depth + 1) value formed),
      first, Option.bind_some]
    simp only [writeMembers, List.cons_append, List.append_assoc]
    rw [skip_cons rfl, expect_other (by decide), expect_self, Option.bind_some,
      skip_blank (style.between_blank depth)]
    simp only [writeString, List.cons_append, List.append_assoc] at rest ⊢
    rw [skip_cons rfl, rest]
    rfl

end

theorem loads_write {value : Json} (formed : wellFormed value = true) :
    loads ⟨write style 0 value⟩ = some value := by
  have opens := write_opens style 0 value formed
  have read := scanValue_write style 0 value formed ((write style 0 value).length + 1) []
    (Nat.le_succ _) (fun _ none => by cases none)
  have start := skip_opens opens []
  rw [List.append_nil] at read start
  rw [loads, start, read]
  rfl

end Values

section Characters

def Style.OneLine (style : Style) : Prop :=
  (∀ depth, ∀ c ∈ style.opening depth, c = 0x20) ∧ (∀ depth, ∀ c ∈ style.between depth, c = 0x20) ∧
    (∀ depth, ∀ c ∈ style.closing depth, c = 0x20) ∧ ∀ c ∈ style.afterColon, c = 0x20

theorem spaced_oneLine : Style.spaced.OneLine := by simp [Style.OneLine, Style.spaced]

theorem compact_oneLine : Style.compact.OneLine := by simp [Style.OneLine, Style.compact]

-- Nothing written is a control character, and what is not ASCII comes from a string.
def Printed (own : List CodePoint) (c : CodePoint) : Prop :=
  0x20 ≤ c.val ∧ (c.val < 0x80 ∨ c ∈ own)

theorem Printed.mono {own more : List CodePoint} (sub : own ⊆ more) {c : CodePoint}
    (printed : Printed own c) : Printed more c := ⟨printed.1, printed.2.imp_right (@sub c)⟩

def isPrintedAscii (c : CodePoint) : Bool := 0x20 ≤ c.val && c.val < 0x80

theorem printed_ascii {text : Text} (ascii : text.all isPrintedAscii = true)
    (own : List CodePoint) : ∀ c ∈ text, Printed own c := by
  intro c member
  have bounds := List.all_eq_true.mp ascii c member
  simp only [isPrintedAscii, Bool.and_eq_true, decide_eq_true_eq] at bounds
  exact ⟨bounds.1, .inl bounds.2⟩

theorem printed_spaces {own blanks : List CodePoint} (spaces : ∀ c ∈ blanks, c = 0x20) :
    ∀ c ∈ blanks, Printed own c :=
  printed_ascii (List.all_eq_true.mpr fun c member => by rw [spaces c member]; rfl) own

theorem writeChar_control (n : Fin 32) :
    (writeChar (n.castLE (by decide))).all isPrintedAscii = true := by
  revert n
  decide +kernel

theorem writeChar_printed (c : CodePoint) : ∀ d ∈ writeChar c, Printed [c] d := by
  by_cases control : c.val < 0x20
  · exact printed_ascii (writeChar_control ⟨c.val, control⟩) _
  · by_cases quoted : c = quote
    · subst quoted
      exact printed_ascii (by rfl) _
    · by_cases slashed : c = backslash
      · subst slashed
        exact printed_ascii (by rfl) _
      · intro d written
        have plain : writeChar c = [c] := by simp [writeChar, control, quoted, slashed]
        rw [plain, List.mem_singleton] at written
        subst written
        exact ⟨Nat.le_of_not_lt control, .inr (List.mem_singleton_self d)⟩

theorem printed_append {own before after : List CodePoint}
    (first : ∀ c ∈ before, Printed own c) (second : ∀ c ∈ after, Printed own c) :
    ∀ c ∈ before ++ after, Printed own c := List.forall_mem_append.mpr ⟨first, second⟩

theorem printed_cons {own rest : List CodePoint} {first : CodePoint}
    (ascii : isPrintedAscii first = true) (others : ∀ c ∈ rest, Printed own c) :
    ∀ c ∈ first :: rest, Printed own c :=
  List.forall_mem_cons.mpr
    ⟨printed_ascii (List.all_eq_true.mpr (List.forall_mem_singleton.mpr ascii)) own first
      (List.mem_singleton_self first), others⟩

theorem writeString_printed (s : PyString) : ∀ c ∈ writeString s, Printed s.points c := by
  refine printed_append (printed_cons rfl fun c written => ?_) (printed_ascii rfl _)
  obtain ⟨d, member, written⟩ := List.mem_flatMap.mp written
  exact (writeChar_printed d c written).mono fun c same => List.mem_singleton.mp same ▸ member

theorem isNumberChar_printed {own : List CodePoint} {c : CodePoint}
    (number : isNumberChar c = true) : Printed own c := by
  simp only [isNumberChar, isDigit, Bool.or_eq_true, Bool.and_eq_true, decide_eq_true_eq] at number
  obtain ((((digit | rfl) | rfl) | rfl) | rfl) | rfl := number
  · exact ⟨by omega, .inl (by omega)⟩
  all_goals exact ⟨by decide, .inl (by decide)⟩

theorem literal_printed {own literal : List CodePoint}
    (formed : wellFormed (.number literal) = true) : ∀ c ∈ literal, Printed own c := by
  rw [wellFormed, Bool.or_eq_true] at formed
  obtain number | named := formed
  · exact fun c member => isNumberChar_printed (isNumber_chars number c member)
  · have ascii : nonFinite.all (·.all isPrintedAscii) = true := by decide +kernel
    rw [List.contains_iff_mem] at named
    exact printed_ascii (List.all_eq_true.mp ascii literal named) own

variable {style : Style}

mutual

theorem write_printed (line : style.OneLine) (depth : Nat) : (value : Json) →
    wellFormed value = true → ∀ c ∈ write style depth value, Printed (characters value) c
  | .null, _ => printed_ascii (by rfl) _
  | .bool true, _ => printed_ascii (by rfl) _
  | .bool false, _ => printed_ascii (by rfl) _
  | .number _, formed => literal_printed formed
  | .str s, _ => writeString_printed s
  | .arr [], _ => printed_ascii (by rfl) _
  | .arr (item :: items), formed => by
    rw [wellFormed, wellFormedItems, Bool.and_eq_true] at formed
    have first := write_printed line (depth + 1) item formed.1
    have others := writeItems_printed line depth items formed.2
    rw [write]
    refine printed_append (printed_append (printed_append (printed_cons rfl
      (printed_append (printed_spaces (line.1 depth)) ?_)) ?_) (printed_spaces (line.2.2.1 depth)))
      (printed_ascii rfl _)
    · exact fun c member => (first c member).mono (List.subset_append_left _ _)
    · exact fun c member => (others c member).mono (List.subset_append_right _ _)
  | .obj [], _ => printed_ascii (by rfl) _
  | .obj ((key, value) :: members), formed => by
    rw [wellFormed, wellFormedMembers, Bool.and_eq_true, Bool.and_eq_true] at formed
    have given := writeString_printed key
    have first := write_printed line (depth + 1) value formed.2.1
    have others := writeMembers_printed line depth members formed.2.2
    have sub : key.points ++ characters value ⊆ characters (.obj ((key, value) :: members)) :=
      List.subset_append_left _ _
    rw [write]
    refine printed_append (printed_append (printed_append (printed_append (printed_append
      (printed_append (printed_cons rfl (printed_spaces (line.1 depth))) ?_)
      (printed_cons rfl (printed_spaces line.2.2.2))) ?_) ?_) (printed_spaces (line.2.2.1 depth)))
      (printed_ascii rfl _)
    · exact fun c member => (given c member).mono (List.Subset.trans (List.subset_append_left _ _) sub)
    · exact fun c member => (first c member).mono (List.Subset.trans (List.subset_append_right _ _) sub)
    · exact fun c member => (others c member).mono (List.subset_append_right _ _)

theorem writeItems_printed (line : style.OneLine) (depth : Nat) : (items : List Json) →
    wellFormedItems items = true → ∀ c ∈ writeItems style depth items,
      Printed (itemCharacters items) c
  | [], _ => List.forall_mem_nil _
  | item :: items, formed => by
    rw [wellFormedItems, Bool.and_eq_true] at formed
    have first := write_printed line (depth + 1) item formed.1
    have others := writeItems_printed line depth items formed.2
    rw [writeItems]
    refine printed_append (printed_append (printed_cons rfl (printed_spaces (line.2.1 depth))) ?_) ?_
    · exact fun c member => (first c member).mono (List.subset_append_left _ _)
    · exact fun c member => (others c member).mono (List.subset_append_right _ _)

theorem writeMembers_printed (line : style.OneLine) (depth : Nat) :
    (members : List (PyString × Json)) → wellFormedMembers members = true →
    ∀ c ∈ writeMembers style depth members, Printed (memberCharacters members) c
  | [], _ => List.forall_mem_nil _
  | (key, value) :: members, formed => by
    rw [wellFormedMembers, Bool.and_eq_true] at formed
    have given := writeString_printed key
    have first := write_printed line (depth + 1) value formed.1
    have others := writeMembers_printed line depth members formed.2
    have sub : key.points ++ characters value ⊆ memberCharacters ((key, value) :: members) :=
      List.subset_append_left _ _
    rw [writeMembers]
    refine printed_append (printed_append (printed_append (printed_append
      (printed_cons rfl (printed_spaces (line.2.1 depth))) ?_)
      (printed_cons rfl (printed_spaces line.2.2.2))) ?_) ?_
    · exact fun c member => (given c member).mono (List.Subset.trans (List.subset_append_left _ _) sub)
    · exact fun c member => (first c member).mono (List.Subset.trans (List.subset_append_right _ _) sub)
    · exact fun c member => (others c member).mono (List.subset_append_right _ _)

end

end Characters

end Shared.JsonText
