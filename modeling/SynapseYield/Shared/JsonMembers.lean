import SynapseYield.Shared.JsonRoundTrip

set_option autoImplicit false

namespace Shared.JsonText

variable {members : Members} {key other : PyString} {value : Json}

theorem any_key : members.any (·.1 = key) = true ↔ key ∈ members.map (·.1) := by
  simp [List.any_eq_true]

theorem keys_setMember :
    (setMember members key value).map (·.1) =
      if key ∈ members.map (·.1) then members.map (·.1) else members.map (·.1) ++ [key] := by
  unfold setMember
  split
  next present =>
    rw [if_pos (any_key.mp present), List.map_map]
    refine List.map_congr_left fun member _ => ?_
    by_cases same : member.1 = key <;> simp [same]
  next absent =>
    rw [if_neg fun present => absent (any_key.mpr present), List.map_append]
    rfl

theorem mem_keys_setMember :
    other ∈ (setMember members key value).map (·.1) ↔ other = key ∨ other ∈ members.map (·.1) := by
  rw [keys_setMember]
  split
  next present => exact ⟨.inr, fun given => given.elim (fun same => same ▸ present) id⟩
  next => rw [List.mem_append, List.mem_singleton, or_comm]

theorem nodup_setMember (distinct : (members.map (·.1)).Nodup) :
    ((setMember members key value).map (·.1)).Nodup := by
  rw [keys_setMember]
  split
  next => exact distinct
  next absent =>
    refine List.nodup_append.mpr ⟨distinct, List.nodup_singleton key, ?_⟩
    rintro first given last single rfl
    exact absent (List.mem_singleton.mp single ▸ given)

theorem mem_setMember {member : PyString × Json} (stored : member ∈ setMember members key value) :
    member = (key, value) ∨ member ∈ members := by
  unfold setMember at stored
  split at stored
  next =>
    obtain ⟨given, listed, rfl⟩ := List.mem_map.mp stored
    split
    next => exact .inl rfl
    next => exact .inr listed
  next =>
    rw [List.mem_append, List.mem_singleton] at stored
    exact stored.symm

theorem mem_setMember_of_mem {member : PyString × Json} (listed : member ∈ members)
    (different : member.1 ≠ key) : member ∈ setMember members key value := by
  unfold setMember
  split
  next => exact List.mem_map.mpr ⟨member, listed, if_neg different⟩
  next => exact List.mem_append_left _ listed

theorem wellFormedMembers_iff :
    wellFormedMembers members = true ↔ ∀ member ∈ members, wellFormed member.2 = true := by
  induction members with
  | nil => simp [wellFormedMembers]
  | cons member rest ih =>
    rw [wellFormedMembers, Bool.and_eq_true, ih, List.forall_mem_cons]

theorem formed_iff :
    wellFormed (.obj members) = true ↔
      (members.map (·.1)).Nodup ∧ ∀ member ∈ members, wellFormed member.2 = true := by
  rw [wellFormed, Bool.and_eq_true, decide_eq_true_eq, wellFormedMembers_iff]

theorem formed_setMember (formed : wellFormed (.obj members) = true)
    (good : wellFormed value = true) : wellFormed (.obj (setMember members key value)) = true := by
  rw [formed_iff] at formed ⊢
  refine ⟨nodup_setMember formed.1, fun member stored => ?_⟩
  obtain rfl | listed := mem_setMember stored
  · exact good
  · exact formed.2 member listed

theorem mem_memberCharacters {c : CodePoint} :
    c ∈ memberCharacters members ↔
      ∃ member ∈ members, c ∈ member.1.points ∨ c ∈ characters member.2 := by
  induction members with
  | nil => simp [memberCharacters]
  | cons member rest ih => simp [memberCharacters, ih, or_assoc]

theorem characters_setMember {c : CodePoint}
    (member : c ∈ memberCharacters (setMember members key value)) :
    c ∈ memberCharacters members ∨ c ∈ key.points ∨ c ∈ characters value := by
  obtain ⟨entry, stored, place⟩ := mem_memberCharacters.mp member
  obtain rfl | listed := mem_setMember stored
  · exact .inr place
  · exact .inl (mem_memberCharacters.mpr ⟨entry, listed, place⟩)

theorem lookup_of_mem (distinct : (members.map (·.1)).Nodup) (listed : (key, value) ∈ members) :
    members.lookup key = some value := by
  induction members with
  | nil => cases listed
  | cons member rest ih =>
    obtain ⟨name, held⟩ := member
    rw [List.map_cons, List.nodup_cons] at distinct
    obtain same | later := List.mem_cons.mp listed
    · cases same
      exact List.lookup_cons_self
    · have different : (key == name) = false := by
        refine beq_false_of_ne ?_
        rintro rfl
        exact distinct.1 (List.mem_map.mpr ⟨_, later, rfl⟩)
      rw [List.lookup_cons, different]
      exact ih distinct.2 later

theorem mem_of_lookup (found : members.lookup key = some value) : (key, value) ∈ members := by
  induction members with
  | nil => cases found
  | cons member rest ih =>
    obtain ⟨name, held⟩ := member
    rw [List.lookup_cons] at found
    split at found
    next same =>
      cases found
      rw [eq_of_beq same]
      exact List.mem_cons_self
    next => exact List.mem_cons_of_mem _ (ih found)

theorem lookup_none (absent : key ∉ members.map (·.1)) : members.lookup key = none := by
  cases found : members.lookup key with
  | none => rfl
  | some value => exact absurd (List.mem_map_of_mem (f := Prod.fst) (mem_of_lookup found)) absent

theorem lookup_isSome : (members.lookup key).isSome = true ↔ key ∈ members.map (·.1) := by
  constructor
  · intro some
    obtain ⟨value, found⟩ := Option.isSome_iff_exists.mp some
    exact List.mem_map_of_mem (f := Prod.fst) (mem_of_lookup found)
  · intro given
    by_contra none
    induction members with
    | nil => cases given
    | cons member rest ih =>
      obtain ⟨name, held⟩ := member
      cases same : key == name with
      | true => simp [List.lookup_cons, same] at none
      | false =>
        rw [List.lookup_cons, same] at none
        refine ih ?_ none
        rw [List.map_cons, List.mem_cons] at given
        exact given.resolve_left (ne_of_beq_false same)

theorem lookup_append {more : Members} :
    (members ++ more).lookup key = (members.lookup key).or (more.lookup key) := by
  induction members with
  | nil => rfl
  | cons member rest ih =>
    obtain ⟨name, held⟩ := member
    rw [List.cons_append, List.lookup_cons, List.lookup_cons]
    cases key == name with
    | true => rfl
    | false => exact ih

def replaced (members : Members) (key : PyString) (value : Json) : Members :=
  members.map fun member => if member.1 = key then (key, value) else member

theorem lookup_replaced_other (different : other ≠ key) :
    (replaced members key value).lookup other = members.lookup other := by
  induction members with
  | nil => rfl
  | cons member rest ih =>
    obtain ⟨name, held⟩ := member
    rw [replaced, List.map_cons]
    by_cases same : name = key
    · subst same
      rw [if_pos rfl, List.lookup_cons, List.lookup_cons, beq_false_of_ne different]
      exact ih
    · rw [if_neg same, List.lookup_cons, List.lookup_cons]
      cases other == name with
      | true => rfl
      | false => exact ih

theorem lookup_replaced_self (given : key ∈ members.map (·.1)) :
    (replaced members key value).lookup key = some value := by
  induction members with
  | nil => cases given
  | cons member rest ih =>
    obtain ⟨name, held⟩ := member
    rw [replaced, List.map_cons]
    by_cases same : name = key
    · subst same
      rw [if_pos rfl]
      exact List.lookup_cons_self
    · rw [if_neg same, List.lookup_cons, beq_false_of_ne (Ne.symm same)]
      rw [List.map_cons, List.mem_cons] at given
      exact ih (given.resolve_left (Ne.symm same))

theorem lookup_setMember :
    (setMember members key value).lookup other =
      if other = key then some value else members.lookup other := by
  unfold setMember
  split
  next present =>
    by_cases same : other = key
    · subst same
      rw [if_pos rfl]
      exact lookup_replaced_self (any_key.mp present)
    · rw [if_neg same]
      exact lookup_replaced_other same
  next absent =>
    have missing := lookup_none fun given => absent (any_key.mpr given)
    rw [lookup_append]
    by_cases same : other = key
    · subst same
      rw [missing, if_pos rfl]
      exact List.lookup_cons_self
    · rw [if_neg same, List.lookup_cons, beq_false_of_ne same]
      exact Option.or_none

section Parsed

variable {text rest : Text}

theorem formed_ofPairs {pairs : Members} (formed : ∀ pair ∈ pairs, wellFormed pair.2 = true) :
    wellFormed (.obj (ofPairs pairs)) = true := by
  have kept (held : Members) (good : wellFormed (.obj held) = true) :
      wellFormed (.obj (pairs.foldl (fun members pair => setMember members pair.1 pair.2)
        held)) = true := by
    induction pairs generalizing held with
    | nil => exact good
    | cons pair pairs ih =>
      rw [List.foldl_cons]
      exact ih (fun other member => formed other (List.mem_cons_of_mem _ member)) _
        (formed_setMember good (formed pair (List.mem_cons_self ..)))
  exact kept [] rfl

theorem formed_scanAtom (scanned : scanAtom text = some (value, rest)) :
    wellFormed value = true := by
  unfold scanAtom at scanned
  split at scanned
  next word found named =>
    obtain ⟨rfl, -⟩ := Prod.mk.inj (Option.some.inj scanned)
    have known := List.mem_of_find?_eq_some named
    revert known
    simp only [constants, List.mem_cons, Prod.mk.injEq, List.not_mem_nil, or_false]
    rintro (⟨-, rfl⟩ | ⟨-, rfl⟩ | ⟨-, rfl⟩ | ⟨-, rfl⟩ | ⟨-, rfl⟩ | ⟨-, rfl⟩) <;> decide
  next =>
    split at scanned
    next number =>
      obtain ⟨rfl, -⟩ := Prod.mk.inj (Option.some.inj scanned)
      rw [wellFormed, number, Bool.true_or]
    next => cases scanned

theorem formed_scan (fuel : Nat) :
    (∀ text value rest, scanValue fuel text = some (value, rest) → wellFormed value = true) ∧
    (∀ text items rest, scanItems fuel text = some (items, rest) → wellFormedItems items = true) ∧
    ∀ text members rest, scanMembers fuel text = some (members, rest) →
      ∀ pair ∈ members, wellFormed pair.2 = true := by
  induction fuel with
  | zero =>
    refine ⟨fun text value rest scanned => ?_, fun text items rest scanned => ?_,
      fun text members rest scanned => ?_⟩
    · rw [scanValue] at scanned
      cases scanned
    · rw [scanItems] at scanned
      cases scanned
    · rw [scanMembers] at scanned
      cases scanned
  | succ fuel ih =>
    obtain ⟨values, items, members⟩ := ih
    refine ⟨fun text value rest scanned => ?_, fun text found rest scanned => ?_,
      fun text found rest scanned => ?_⟩
    · cases text with
      | nil =>
        unfold scanValue at scanned
        cases scanned
      | cons c text =>
        rw [scanValue] at scanned
        split at scanned
        next =>
          obtain ⟨⟨pieces, after⟩, -, same⟩ := Option.map_eq_some_iff.mp scanned
          obtain ⟨rfl, -⟩ := Prod.mk.inj same
          rfl
        next =>
          split at scanned
          next =>
            split at scanned
            next =>
              obtain ⟨rfl, -⟩ := Prod.mk.inj (Option.some.inj scanned)
              rfl
            next =>
              obtain ⟨⟨listed, after⟩, read, same⟩ := Option.map_eq_some_iff.mp scanned
              obtain ⟨rfl, -⟩ := Prod.mk.inj same
              exact items _ _ _ read
          next =>
            split at scanned
            next =>
              split at scanned
              next =>
                obtain ⟨rfl, -⟩ := Prod.mk.inj (Option.some.inj scanned)
                rfl
              next =>
                obtain ⟨⟨listed, after⟩, read, same⟩ := Option.map_eq_some_iff.mp scanned
                obtain ⟨rfl, -⟩ := Prod.mk.inj same
                exact formed_ofPairs (members _ _ _ read)
            next => exact formed_scanAtom scanned
    · rw [scanItems] at scanned
      obtain ⟨⟨item, after⟩, read, scanned⟩ := Option.bind_eq_some_iff.mp scanned
      have first := values _ _ _ read
      dsimp only at scanned
      split at scanned
      next =>
        obtain ⟨rfl, -⟩ := Prod.mk.inj (Option.some.inj scanned)
        rw [wellFormedItems, first]
        rfl
      next =>
        obtain ⟨later, -, scanned⟩ := Option.bind_eq_some_iff.mp scanned
        obtain ⟨⟨more, end'⟩, read', same⟩ := Option.map_eq_some_iff.mp scanned
        obtain ⟨rfl, -⟩ := Prod.mk.inj same
        rw [wellFormedItems, first, items _ _ _ read']
        rfl
    · rw [scanMembers] at scanned
      obtain ⟨⟨key, after⟩, -, scanned⟩ := Option.bind_eq_some_iff.mp scanned
      obtain ⟨past, -, scanned⟩ := Option.bind_eq_some_iff.mp scanned
      obtain ⟨⟨item, after'⟩, read, scanned⟩ := Option.bind_eq_some_iff.mp scanned
      have first := values _ _ _ read
      dsimp only at scanned
      split at scanned
      next =>
        obtain ⟨rfl, -⟩ := Prod.mk.inj (Option.some.inj scanned)
        rintro pair member
        rw [List.mem_singleton.mp member]
        exact first
      next =>
        obtain ⟨later, -, scanned⟩ := Option.bind_eq_some_iff.mp scanned
        obtain ⟨⟨more, end'⟩, read', same⟩ := Option.map_eq_some_iff.mp scanned
        obtain ⟨rfl, -⟩ := Prod.mk.inj same
        rintro pair member
        rcases List.mem_cons.mp member with rfl | member
        · exact first
        · exact members _ _ _ read' pair member

theorem formed_loads {document : PyString} (loaded : loads document = some value) :
    wellFormed value = true := by
  unfold loads at loaded
  split at loaded
  next found rest scanned =>
    split at loaded
    next =>
      obtain rfl := Option.some.inj loaded
      exact (formed_scan _).1 _ _ _ scanned
    next => cases loaded
  next => cases loaded

end Parsed
end Shared.JsonText
