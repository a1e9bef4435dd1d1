import SynapseYield.Shared.JsonRoundTrip

set_option autoImplicit false

namespace Shared.JsonText

theorem skip_append {p : Text} {c : CodePoint} {rest : Text} (shape : skip p = c :: rest)
    (q : Text) : skip (p ++ q) = c :: (rest ++ q) := by
  induction p with
  | nil => cases shape
  | cons d p ih =>
    cases blank : isBlank d with
    | true =>
      rw [skip, List.dropWhile_cons_of_pos blank] at shape
      rw [skip, List.cons_append, List.dropWhile_cons_of_pos blank]
      exact ih shape
    | false =>
      rw [skip_cons blank] at shape
      rw [List.cons_append, skip_cons blank]
      cases shape
      rfl

theorem expect_some {c : CodePoint} {p rest : Text} (expected : expect c p = some rest) :
    p = c :: rest := by
  cases p with
  | nil => cases expected
  | cons first p =>
    by_cases same : first = c
    · subst same
      rw [expect_self] at expected
      rw [Option.some.inj expected]
    · rw [expect_other same] at expected
      cases expected

theorem expect_append {c : CodePoint} {p rest : Text} (expected : expect c (skip p) = some rest)
    (q : Text) : expect c (skip (p ++ q)) = some (rest ++ q) := by
  rw [skip_append (expect_some expected) q, expect_self]

theorem skip_longer {p : Text} (nonempty : skip p ≠ []) (q : Text) :
    skip (p ++ q) = skip p ++ q := by
  obtain ⟨first, rest, shape⟩ := List.exists_cons_of_ne_nil nonempty
  rw [skip_append shape q, shape]
  rfl

theorem expect_none_append {c : CodePoint} {p : Text} (refused : expect c (skip p) = none)
    (nonempty : skip p ≠ []) (q : Text) : expect c (skip (p ++ q)) = none := by
  obtain ⟨first, rest, shape⟩ := List.exists_cons_of_ne_nil nonempty
  rw [shape] at refused
  rw [skip_append shape q]
  by_cases same : first = c
  · subst same
    rw [expect_self] at refused
    cases refused
  · exact expect_other same _

theorem scanString_unicode (h₁ h₂ h₃ h₄ : CodePoint) (text : Text) :
    scanString (backslash :: 0x75 :: h₁ :: h₂ :: h₃ :: h₄ :: text) =
      (hexNumber [h₁, h₂, h₃, h₄]).bind fun c =>
        (scanString text).map fun (pieces, rest) => (.escaped c :: pieces, rest) := by
  conv_lhs => unfold scanString
  rfl

theorem scanString_letter {letter : CodePoint} (other : letter ≠ 0x75) (text : Text) :
    scanString (backslash :: letter :: text) =
      (escapes.find? (·.1 = letter)).bind fun (_, c) =>
        (scanString text).map fun (pieces, rest) => (.char c :: pieces, rest) := by
  conv_lhs => unfold scanString
  rw [if_neg (by decide), if_pos rfl]
  split
  next shape => exact absurd (List.cons.inj shape).1 other
  next shape =>
    obtain ⟨rfl, rfl⟩ := List.cons.inj shape
    rfl
  next impossible => cases impossible

theorem scanString_append {p rest : Text} {pieces : List Piece}
    (scanned : scanString p = some (pieces, rest)) (q : Text) :
    scanString (p ++ q) = some (pieces, rest ++ q) := by
  fun_induction scanString p generalizing pieces rest with
  | case1 => cases scanned
  | case2 text =>
    cases scanned
    exact scanString_quote _
  | case3 h₁ h₂ h₃ h₄ text _ ih =>
    obtain ⟨c, hex, scanned⟩ := Option.bind_eq_some_iff.mp scanned
    obtain ⟨⟨others, after⟩, tail, same⟩ := Option.map_eq_some_iff.mp scanned
    cases same
    simp only [List.cons_append]
    rw [scanString_unicode, hex, Option.bind_some, ih tail]
    rfl
  | case4 letter text _ _ ih =>
    obtain ⟨⟨key, c⟩, found, scanned⟩ := Option.bind_eq_some_iff.mp scanned
    obtain ⟨⟨others, after⟩, tail, same⟩ := Option.map_eq_some_iff.mp scanned
    cases same
    have other : letter ≠ 0x75 := by
      rintro rfl
      cases found
    simp only [List.cons_append]
    rw [scanString_letter other, found, Option.bind_some]
    simp only [ih tail]
    rfl
  | case5 => cases scanned
  | case6 => cases scanned
  | case7 c text unquoted unslashed printed ih =>
    obtain ⟨⟨others, after⟩, tail, same⟩ := Option.map_eq_some_iff.mp scanned
    cases same
    rw [List.cons_append, scanString_plain unquoted unslashed printed, ih tail]
    rfl

theorem scanKey_append {p rest : Text} {key : PyString} (scanned : scanKey p = some (key, rest))
    (q : Text) : scanKey (p ++ q) = some (key, rest ++ q) := by
  obtain ⟨text, quoted, scanned⟩ := Option.bind_eq_some_iff.mp scanned
  obtain ⟨⟨pieces, after⟩, body, same⟩ := Option.map_eq_some_iff.mp scanned
  cases same
  rw [expect_some quoted, List.cons_append, scanKey, expect_self, Option.bind_some,
    scanString_append body]
  rfl

theorem constants_first {word p : Text} {value : Json}
    (found : constants.find? (·.1.isPrefixOf p) = some (word, value)) :
    ∃ rest, p = word ++ rest ∧ ∀ q, constants.find? (·.1.isPrefixOf (word ++ q)) =
      some (word, value) := by
  have member := List.mem_of_find?_eq_some found
  have starts : word.isPrefixOf p = true :=
    List.find?_some (p := fun constant : Text × Json => constant.1.isPrefixOf p) found
  obtain ⟨rest, shape⟩ := List.isPrefixOf_iff_prefix.mp starts
  refine ⟨rest, shape.symm, fun q => ?_⟩
  simp only [constants, List.mem_cons, Prod.mk.injEq, List.not_mem_nil, or_false] at member
  obtain ⟨rfl, rfl⟩ | ⟨rfl, rfl⟩ | ⟨rfl, rfl⟩ | ⟨rfl, rfl⟩ | ⟨rfl, rfl⟩ | ⟨rfl, rfl⟩ := member <;> rfl

theorem scanAtom_append {p rest : Text} {value : Json}
    (scanned : scanAtom p = some (value, rest)) (more : rest ≠ []) (q : Text) :
    scanAtom (p ++ q) = some (value, rest ++ q) := by
  unfold scanAtom at scanned
  split at scanned
  next word constant found =>
    obtain ⟨after, rfl, always⟩ := constants_first found
    cases scanned
    rw [scanAtom, List.append_assoc, always]
    simp
  next absent =>
    split at scanned
    next number =>
      cases scanned
      have delimited : Delimited (p.dropWhile isNumberChar ++ q) := by
        obtain ⟨c, after, shape⟩ := List.exists_cons_of_ne_nil more
        rw [shape]
        refine delimited_cons ?_ _
        have stopped := List.head_dropWhile_not isNumberChar more
        simpa [shape] using stopped
      have whole := scanAtom_number number delimited
      rwa [← List.append_assoc, List.takeWhile_append_dropWhile] at whole
    next => cases scanned

theorem scanItems_nil (fuel : Nat) : scanItems fuel [] = none := by
  cases fuel with
  | zero => rfl
  | succ fuel => cases fuel <;> rfl

theorem scanMembers_nil (fuel : Nat) : scanMembers fuel [] = none := by
  cases fuel <;> rfl

theorem scanList_append {fuel most : Nat} {p rest : Text} {value : Json} {q : Text}
    (items : ∀ items after, scanItems fuel (skip p) = some (items, after) →
      scanItems most (skip p ++ q) = some (items, after ++ q))
    (scanned : scanValue (fuel + 1) (openBracket :: p) = some (value, rest)) :
    scanValue (most + 1) (openBracket :: (p ++ q)) = some (value, rest ++ q) := by
  rw [scanValue, if_neg (by decide), if_pos rfl] at scanned ⊢
  cases closed : expect closeBracket (skip p) with
  | some text =>
    rw [closed] at scanned
    cases scanned
    rw [expect_append closed q]
  | none =>
    rw [closed] at scanned
    obtain ⟨⟨found, after⟩, body, same⟩ := Option.map_eq_some_iff.mp scanned
    cases same
    have nonempty : skip p ≠ [] := by
      intro empty
      rw [empty, scanItems_nil] at body
      cases body
    rw [expect_none_append closed nonempty q, skip_longer nonempty q, items found _ body]
    rfl

theorem scanObject_append {fuel most : Nat} {p rest : Text} {value : Json} {q : Text}
    (members : ∀ members after, scanMembers fuel (skip p) = some (members, after) →
      scanMembers most (skip p ++ q) = some (members, after ++ q))
    (scanned : scanValue (fuel + 1) (openBrace :: p) = some (value, rest)) :
    scanValue (most + 1) (openBrace :: (p ++ q)) = some (value, rest ++ q) := by
  rw [scanValue, if_neg (by decide), if_neg (by decide), if_pos rfl] at scanned ⊢
  cases closed : expect closeBrace (skip p) with
  | some text =>
    rw [closed] at scanned
    cases scanned
    rw [expect_append closed q]
  | none =>
    rw [closed] at scanned
    obtain ⟨⟨found, after⟩, body, same⟩ := Option.map_eq_some_iff.mp scanned
    cases same
    have nonempty : skip p ≠ [] := by
      intro empty
      rw [empty, scanMembers_nil] at body
      cases body
    rw [expect_none_append closed nonempty q, skip_longer nonempty q, members found _ body]
    rfl

theorem skip_nonempty {p rest : Text} {c : CodePoint} (expected : expect c (skip p) = some rest) :
    skip p ≠ [] := by
  rw [expect_some expected]
  exact List.cons_ne_nil _ _

theorem nonempty_of_skip {p : Text} (nonempty : skip p ≠ []) : p ≠ [] := by
  rintro rfl
  exact nonempty rfl

mutual

theorem scanValue_append : (fuel : Nat) → (p : Text) → (value : Json) → (rest : Text) →
    scanValue fuel p = some (value, rest) → rest ≠ [] → (most : Nat) → fuel ≤ most → (q : Text) →
      scanValue most (p ++ q) = some (value, rest ++ q)
  | 0, _, _, _, scanned, _, _, _, _ => by cases scanned
  | fuel + 1, [], _, _, scanned, _, _, _, _ => by cases scanned
  | fuel + 1, c :: p, value, rest, scanned, more, 0, enough, q => absurd enough (by omega)
  | fuel + 1, c :: p, value, rest, scanned, more, most + 1, enough, q => by
    have smaller := Nat.le_of_succ_le_succ enough
    rw [List.cons_append]
    by_cases quoted : c = quote
    · subst quoted
      rw [scanValue, if_pos rfl] at scanned ⊢
      obtain ⟨⟨pieces, after⟩, body, same⟩ := Option.map_eq_some_iff.mp scanned
      cases same
      rw [scanString_append body]
      rfl
    · by_cases listed : c = openBracket
      · subst listed
        exact scanList_append (fun items after body =>
          scanItems_append fuel (skip p) items after body most smaller q) scanned
      · by_cases keyed : c = openBrace
        · subst keyed
          exact scanObject_append (fun members after body =>
            scanMembers_append fuel (skip p) members after body most smaller q) scanned
        · rw [scanValue_atom quoted listed keyed] at scanned ⊢
          exact scanAtom_append scanned more q

theorem scanItems_append : (fuel : Nat) → (p : Text) → (items : List Json) → (rest : Text) →
    scanItems fuel p = some (items, rest) → (most : Nat) → fuel ≤ most → (q : Text) →
      scanItems most (p ++ q) = some (items, rest ++ q)
  | 0, _, _, _, scanned, _, _, _ => by cases scanned
  | fuel + 1, p, items, rest, scanned, 0, enough, q => absurd enough (by omega)
  | fuel + 1, p, items, rest, scanned, most + 1, enough, q => by
    have smaller := Nat.le_of_succ_le_succ enough
    rw [scanItems] at scanned
    obtain ⟨⟨item, after⟩, first, scanned⟩ := Option.bind_eq_some_iff.mp scanned
    cases closed : expect closeBracket (skip after) with
    | some text =>
      simp only [closed] at scanned
      cases scanned
      have more := nonempty_of_skip (skip_nonempty closed)
      rw [scanItems, scanValue_append fuel p item after first more most smaller q,
        Option.bind_some]
      simp only [expect_append closed q]
    | none =>
      simp only [closed] at scanned
      obtain ⟨text, separated, scanned⟩ := Option.bind_eq_some_iff.mp scanned
      obtain ⟨⟨others, last⟩, tail, same⟩ := Option.map_eq_some_iff.mp scanned
      cases same
      have nonempty := skip_nonempty separated
      have refused := expect_none_append closed nonempty q
      have unread : skip text ≠ [] := by
        intro empty
        rw [empty, scanItems_nil] at tail
        cases tail
      rw [scanItems, scanValue_append fuel p item after first (nonempty_of_skip nonempty) most
        smaller q, Option.bind_some]
      simp only [refused, expect_append separated q, Option.bind_some]
      rw [skip_longer unread q, scanItems_append fuel (skip text) others last tail most smaller q]
      rfl

theorem scanMembers_append : (fuel : Nat) → (p : Text) → (members : List (PyString × Json)) →
    (rest : Text) → scanMembers fuel p = some (members, rest) → (most : Nat) → fuel ≤ most →
      (q : Text) → scanMembers most (p ++ q) = some (members, rest ++ q)
  | 0, _, _, _, scanned, _, _, _ => by cases scanned
  | fuel + 1, p, members, rest, scanned, 0, enough, q => absurd enough (by omega)
  | fuel + 1, p, members, rest, scanned, most + 1, enough, q => by
    have smaller := Nat.le_of_succ_le_succ enough
    rw [scanMembers] at scanned
    obtain ⟨⟨key, named⟩, keyed, scanned⟩ := Option.bind_eq_some_iff.mp scanned
    obtain ⟨text, separated, scanned⟩ := Option.bind_eq_some_iff.mp scanned
    obtain ⟨⟨value, after⟩, first, scanned⟩ := Option.bind_eq_some_iff.mp scanned
    have unread : skip text ≠ [] := by
      intro empty
      rw [empty] at first
      cases fuel <;> cases first
    have start {continued : Text} (more : after ≠ [])
        (found : continued = after ++ q) :
        scanValue most (skip (text ++ q)) = some (value, continued) := by
      rw [skip_longer unread q, found]
      exact scanValue_append fuel (skip text) value after first more most smaller q
    cases closed : expect closeBrace (skip after) with
    | some text =>
      simp only [closed] at scanned
      cases scanned
      rw [scanMembers, scanKey_append keyed q, Option.bind_some]
      simp only [expect_append separated q, Option.bind_some,
        start (nonempty_of_skip (skip_nonempty closed)) rfl, expect_append closed q]
    | none =>
      simp only [closed] at scanned
      obtain ⟨next, followed, scanned⟩ := Option.bind_eq_some_iff.mp scanned
      obtain ⟨⟨others, last⟩, tail, same⟩ := Option.map_eq_some_iff.mp scanned
      cases same
      have nonempty := skip_nonempty followed
      have later : skip next ≠ [] := by
        intro empty
        rw [empty, scanMembers_nil] at tail
        cases tail
      rw [scanMembers, scanKey_append keyed q, Option.bind_some]
      simp only [expect_append separated q, Option.bind_some,
        start (nonempty_of_skip nonempty) rfl, expect_none_append closed nonempty q,
        expect_append followed q]
      rw [skip_longer later q, scanMembers_append fuel (skip next) others _ tail most smaller q]
      rfl

end

theorem loads_beginning {members : List (PyString × Json)} {style : Style}
    (formed : wellFormed (.obj members) = true) {p q : Text}
    (whole : write style 0 (.obj members) = p ++ q) (more : q ≠ []) : loads ⟨p⟩ = none := by
  cases read : loads ⟨p⟩ with
  | none => rfl
  | some found =>
    exfalso
    obtain ⟨tail, shape⟩ : ∃ tail, write style 0 (.obj members) = openBrace :: tail := by
      cases members <;> exact ⟨_, rfl⟩
    unfold loads at read
    cases p with
    | nil => cases read
    | cons c p =>
      obtain rfl : openBrace = c := by
        rw [shape] at whole
        exact (List.cons.inj whole).1
      simp only [skip_cons (show isBlank openBrace = false from rfl)] at read
      cases scanned : scanValue ((openBrace :: p).length + 1) (openBrace :: p) with
      | none =>
        rw [scanned] at read
        cases read
      | some result =>
        obtain ⟨value, rest⟩ := result
        have longer := scanObject_append (fun members after body =>
          scanMembers_append _ (skip p) members after body ((openBrace :: p) ++ q).length
            (by simp) q) scanned
        have all := scanValue_write style 0 (.obj members) formed
          (((openBrace :: p) ++ q).length + 1) [] (by rw [whole]; exact Nat.le_succ _)
          (fun _ none => by cases none)
        rw [List.append_nil, whole] at all
        have empty := (Prod.mk.inj (Option.some.inj (longer.symm.trans all))).2
        exact more (List.append_eq_nil_iff.mp empty).2

end Shared.JsonText
