import SynapseYield.Broker.LongbridgeSteps

set_option autoImplicit false

namespace SynapseYield.Longbridge

variable {characters : CharacterTables} {text : String} {entry other : String × OrderStatus}
  {letters : List Char}

def normalized (characters : CharacterTables) (text : String) : List Char :=
  (text.toList.flatMap characters.upper).filter characters.isAlnum

-- The entry ends the letters, and so does no entry with a longer name.
def Longest (letters : List Char) (entry : String × OrderStatus) : Prop :=
  entry ∈ statusMapping ∧ entry.1.toList <:+ letters ∧
    ∀ other ∈ statusMapping, other.1.toList <:+ letters → other.1.length ≤ entry.1.length

-- A qualifier is empty or ends in a dot, as the name of an enumeration class does.
def Qualifies (qualifier : String) : Prop :=
  qualifier = "" ∨ qualifier.toList.getLast? = some '.'

def Denotes (characters : CharacterTables) (text name : String) : Prop :=
  ∃ qualifier rest, text = qualifier ++ rest ∧ Qualifies qualifier ∧
    normalized characters rest = name.toList

structure ReadsRight (characters : CharacterTables) (text : String) : Prop where
  longest : ∀ entry, Longest (normalized characters text) entry →
    mapOrderStatus characters (some text) = some entry.2
  qualified : ∀ qualifier rest entry, text = qualifier ++ rest → Qualifies qualifier →
    normalized characters rest = entry.1.toList → Longest (normalized characters text) entry →
    mapOrderStatus characters (some text) = mapOrderStatus characters (some rest)
  filled : mapOrderStatus characters (some text) = some .filled →
    Denotes characters text "FILLED"

-- The table is scanned from NEW on, so a qualified WAITTONEW or PENDINGNEW ends at NEW; and any
-- letters may stand before FILLED.
structure Plain (characters : CharacterTables) (text : String) : Prop where
  waitToNew : "WAITTONEW".toList <:+ normalized characters text →
    normalized characters text = "WAITTONEW".toList
  pendingNew : "PENDINGNEW".toList <:+ normalized characters text →
    normalized characters text = "PENDINGNEW".toList
  filled : "FILLED".toList <:+ normalized characters text →
    ¬ "PARTIALFILLED".toList <:+ normalized characters text →
    ¬ "PARTIALLYFILLED".toList <:+ normalized characters text →
    Denotes characters text "FILLED"

-- Of two entries that can both end a text, the scan meets the longer first, or both have one
-- status; the others are NEW with WAITTONEW and with PENDINGNEW. These two end no other entry,
-- nor do the two spellings of a partial fill, which are what FILLED ends.
theorem statusMapping_suffixes :
    ∀ entry ∈ statusMapping, ∀ other ∈ statusMapping, entry.1.toList <:+ other.1.toList →
      (entry.2 = other.2 ∨ other ∈ statusMapping.takeWhile (· != entry) ∨
        other.1 = "WAITTONEW" ∨ other.1 = "PENDINGNEW") ∧
      (entry.1.toList = other.1.toList → entry = other) ∧
      (entry.1 = "WAITTONEW" ∨ entry.1 = "PENDINGNEW" ∨ entry.1 = "PARTIALFILLED" ∨
        entry.1 = "PARTIALLYFILLED" → other = entry) ∧
      (entry.1 = "FILLED" →
        other = entry ∨ other.1 = "PARTIALFILLED" ∨ other.1 = "PARTIALLYFILLED") := by
  decide +kernel

theorem statusMapping_statuses :
    ∀ entry ∈ statusMapping,
      (entry.1 = "WAITTONEW" ∨ entry.1 = "PENDINGNEW" →
        "NEW".toList <:+ entry.1.toList ∧ entry.2 = .submitting) ∧
      (entry.1 = "PARTIALFILLED" ∨ entry.1 = "PARTIALLYFILLED" → entry.2 = .partiallyFilled) ∧
      (entry.2 = .filled → entry.1 = "FILLED") := by
  decide +kernel

theorem statusMapping_names (entry : String × OrderStatus) (known : entry ∈ statusMapping)
    (other : String × OrderStatus) (otherKnown : other ∈ statusMapping)
    (same : entry.1.toList = other.1.toList) : entry = other :=
  (statusMapping_suffixes entry known other otherKnown (same ▸ List.suffix_rfl)).2.1 same

theorem filled_known : ("FILLED", .filled) ∈ statusMapping := by simp [statusMapping]

theorem mapOrderStatus_known (known : entry ∈ statusMapping)
    (same : normalized characters text = entry.1.toList) :
    mapOrderStatus characters (some text) = some entry.2 := by
  have found : statusMapping.find? (fun other => other.1.toList = normalized characters text) =
      some entry := by
    cases search : statusMapping.find? fun other => other.1.toList = normalized characters text with
    | none => simpa [same] using List.find?_eq_none.mp search entry known
    | some other =>
      have matched : other.1.toList = normalized characters text := by
        simpa using List.find?_some search
      rw [statusMapping_names other (List.mem_of_find?_eq_some search) entry known
        (matched.trans same)]
  unfold normalized at found
  unfold mapOrderStatus
  dsimp only
  rw [found]

theorem mapOrderStatus_scanned
    (unknown : ∀ other ∈ statusMapping, normalized characters text ≠ other.1.toList) :
    mapOrderStatus characters (some text) =
      (statusMapping.find? fun other =>
        other.1.toList.isSuffixOf (normalized characters text)).map Prod.snd := by
  have missed : statusMapping.find? (fun other => other.1.toList = normalized characters text) =
      none :=
    List.find?_eq_none.mpr fun other known => by simpa using (unknown other known).symm
  unfold normalized at missed ⊢
  unfold mapOrderStatus
  dsimp only
  rw [missed]

theorem mem_takeWhile_earlier {before after : List (String × OrderStatus)}
    (split : statusMapping = before ++ entry :: after)
    (mem : other ∈ statusMapping.takeWhile (· != entry)) : other ∈ before := by
  rw [split, List.takeWhile_append] at mem
  split at mem
  · simpa using mem
  · exact (List.takeWhile_sublist _).subset mem

def Shadowed (entry : String × OrderStatus) : Prop :=
  entry.1 = "WAITTONEW" ∨ entry.1 = "PENDINGNEW"

theorem mapOrderStatus_longest (longest : Longest (normalized characters text) entry)
    (plain : Shadowed entry → normalized characters text = entry.1.toList) :
    mapOrderStatus characters (some text) = some entry.2 := by
  obtain ⟨known, ends, longer⟩ := longest
  by_cases same : normalized characters text = entry.1.toList
  · exact mapOrderStatus_known known same
  -- A name equal to the letters would be the longest.
  have unknown : ∀ other ∈ statusMapping, normalized characters text ≠ other.1.toList := by
    intro other otherKnown equal
    have shorter := longer other otherKnown (equal ▸ List.suffix_rfl)
    have whole := ends.eq_of_length_le
      (by rw [equal, String.length_toList, String.length_toList]; exact shorter)
    exact same whole.symm
  rw [mapOrderStatus_scanned unknown]
  cases search : statusMapping.find? fun other =>
      other.1.toList.isSuffixOf (normalized characters text) with
  | none =>
    exact absurd (List.isSuffixOf_iff_suffix.mpr ends) (List.find?_eq_none.mp search entry known)
  | some first =>
    obtain ⟨matched, before, after, split, passed⟩ := List.find?_eq_some_iff_append.mp search
    have firstEnds : first.1.toList <:+ normalized characters text := by simpa using matched
    have firstKnown := List.mem_of_find?_eq_some search
    have within : first.1.toList <:+ entry.1.toList :=
      List.suffix_of_suffix_length_le firstEnds ends
        (by simpa only [String.length_toList] using longer first firstKnown firstEnds)
    rcases (statusMapping_suffixes first firstKnown entry known within).1 with
      agree | earlier | shadowed
    · exact congrArg some agree
    · have missed := passed entry (mem_takeWhile_earlier split earlier)
      rw [List.isSuffixOf_iff_suffix.mpr ends] at missed
      cases missed
    · exact absurd (plain shadowed) same

theorem longest_of_maximal (known : entry ∈ statusMapping)
    (ends : entry.1.toList <:+ letters)
    (maximal : ∀ other ∈ statusMapping, other.1.toList <:+ letters →
      entry.1.toList <:+ other.1.toList → other = entry) : Longest letters entry := by
  refine ⟨known, ends, fun other otherKnown otherEnds => ?_⟩
  by_cases shorter : other.1.length ≤ entry.1.length
  · exact shorter
  · have within := List.suffix_of_suffix_length_le ends otherEnds
      (by simpa only [String.length_toList] using (not_le.mp shorter).le)
    rw [maximal other otherKnown otherEnds within]

theorem shadowed_maximal (entry : String × OrderStatus) (known : entry ∈ statusMapping)
    (shadowed : Shadowed entry) (other : String × OrderStatus) (otherKnown : other ∈ statusMapping)
    (within : entry.1.toList <:+ other.1.toList) : other = entry :=
  (statusMapping_suffixes entry known other otherKnown within).2.2.1
    (shadowed.imp_right .inl)

theorem shadowed_submitting (entry : String × OrderStatus) (known : entry ∈ statusMapping)
    (shadowed : Shadowed entry) : "NEW".toList <:+ entry.1.toList ∧ entry.2 = .submitting :=
  (statusMapping_statuses entry known).1 shadowed

theorem shadowed_longest (known : entry ∈ statusMapping) (shadowed : Shadowed entry)
    (ends : entry.1.toList <:+ letters) : Longest letters entry :=
  longest_of_maximal known ends fun other otherKnown _ within =>
    shadowed_maximal entry known shadowed other otherKnown within

-- NEW heads the table.
theorem mapOrderStatus_shadowed (known : entry ∈ statusMapping) (shadowed : Shadowed entry)
    (ends : entry.1.toList <:+ normalized characters text)
    (longer : normalized characters text ≠ entry.1.toList) :
    mapOrderStatus characters (some text) = some .submitted := by
  have unknown : ∀ other ∈ statusMapping, normalized characters text ≠ other.1.toList := by
    intro other otherKnown equal
    rw [shadowed_maximal entry known shadowed other otherKnown (equal ▸ ends)] at equal
    exact longer equal
  have new : "NEW".toList <:+ normalized characters text :=
    (shadowed_submitting entry known shadowed).1.trans ends
  have first : statusMapping.find? (fun other =>
      other.1.toList.isSuffixOf (normalized characters text)) = some ("NEW", .submitted) := by
    refine List.find?_cons_of_pos ?_
    exact List.isSuffixOf_iff_suffix.mpr new
  rw [mapOrderStatus_scanned unknown, first]
  rfl

theorem shadowed_whole (entry : String × OrderStatus)
    (right : ∀ entry, Longest (normalized characters text) entry →
      mapOrderStatus characters (some text) = some entry.2)
    (known : entry ∈ statusMapping) (shadowed : Shadowed entry)
    (ends : entry.1.toList <:+ normalized characters text) :
    normalized characters text = entry.1.toList := by
  by_contra longer
  have read := right entry (shadowed_longest known shadowed ends)
  rw [mapOrderStatus_shadowed known shadowed ends longer,
    (shadowed_submitting entry known shadowed).2] at read
  cases read

theorem partial_maximal (entry : String × OrderStatus) (known : entry ∈ statusMapping)
    (named : entry.1 = "PARTIALFILLED" ∨ entry.1 = "PARTIALLYFILLED") :
    entry.2 = .partiallyFilled ∧
      ∀ other ∈ statusMapping, entry.1.toList <:+ other.1.toList → other = entry :=
  ⟨(statusMapping_statuses entry known).2.1 named, fun other otherKnown within =>
    (statusMapping_suffixes entry known other otherKnown within).2.2.1 (.inr (.inr named))⟩

theorem filled_within (other : String × OrderStatus) (known : other ∈ statusMapping)
    (within : "FILLED".toList <:+ other.1.toList) :
    other = ("FILLED", .filled) ∨ other.1 = "PARTIALFILLED" ∨ other.1 = "PARTIALLYFILLED" :=
  (statusMapping_suffixes ("FILLED", .filled) filled_known other known within).2.2.2 rfl

theorem mapOrderStatus_ends {target : OrderStatus}
    (mapped : mapOrderStatus characters (some text) = some target) :
    ∃ entry ∈ statusMapping, entry.2 = target ∧ entry.1.toList <:+ normalized characters text := by
  by_cases unknown : ∀ other ∈ statusMapping, normalized characters text ≠ other.1.toList
  · rw [mapOrderStatus_scanned unknown] at mapped
    obtain ⟨entry, found, status⟩ := Option.map_eq_some_iff.mp mapped
    exact ⟨entry, List.mem_of_find?_eq_some found, status, by simpa using List.find?_some found⟩
  · push Not at unknown
    obtain ⟨entry, known, same⟩ := unknown
    rw [mapOrderStatus_known known same] at mapped
    exact ⟨entry, known, Option.some.inj mapped, same ▸ List.suffix_rfl⟩

theorem not_partial (entry : String × OrderStatus)
    (filled : mapOrderStatus characters (some text) = some .filled)
    (known : entry ∈ statusMapping)
    (named : entry.1 = "PARTIALFILLED" ∨ entry.1 = "PARTIALLYFILLED") :
    ¬ entry.1.toList <:+ normalized characters text := by
  intro ends
  obtain ⟨status, maximal⟩ := partial_maximal entry known named
  have longest := longest_of_maximal known ends fun other otherKnown _ => maximal other otherKnown
  have read := mapOrderStatus_longest longest (by
    rintro (name | name) <;> rcases named with named | named <;> simp [named] at name)
  rw [filled, status] at read
  cases read

theorem mapOrderStatus_filled_iff :
    mapOrderStatus characters (some text) = some .filled ↔
      "FILLED".toList <:+ normalized characters text ∧
        ¬ "PARTIALFILLED".toList <:+ normalized characters text ∧
        ¬ "PARTIALLYFILLED".toList <:+ normalized characters text := by
  constructor
  · intro filled
    obtain ⟨entry, known, status, ends⟩ := mapOrderStatus_ends filled
    rw [(statusMapping_statuses entry known).2.2 status] at ends
    exact ⟨ends,
      not_partial ("PARTIALFILLED", .partiallyFilled) filled (by simp [statusMapping]) (.inl rfl),
      not_partial ("PARTIALLYFILLED", .partiallyFilled) filled (by simp [statusMapping]) (.inr rfl)⟩
  · rintro ⟨ends, notPartial, notPartially⟩
    suffices longest : Longest (normalized characters text) ("FILLED", .filled) from
      mapOrderStatus_longest longest fun shadowed => by simp [Shadowed] at shadowed
    refine longest_of_maximal filled_known ends fun other known otherEnds within => ?_
    rcases filled_within other known within with same | name | name
    · exact same
    · exact absurd (name ▸ otherEnds) notPartial
    · exact absurd (name ▸ otherEnds) notPartially

theorem Plain.longest (plain : Plain characters text)
    (longest : Longest (normalized characters text) entry) :
    mapOrderStatus characters (some text) = some entry.2 := by
  refine mapOrderStatus_longest longest ?_
  rintro (name | name)
  · exact name ▸ plain.waitToNew (name ▸ longest.2.1)
  · exact name ▸ plain.pendingNew (name ▸ longest.2.1)

theorem readsRight_iff (characters : CharacterTables) (text : String) :
    ReadsRight characters text ↔ Plain characters text := by
  constructor
  · intro right
    exact
      { waitToNew := shadowed_whole ("WAITTONEW", .submitting) right.longest
          (by simp [statusMapping]) (.inl rfl)
        pendingNew := shadowed_whole ("PENDINGNEW", .submitting) right.longest
          (by simp [statusMapping]) (.inr rfl)
        filled := fun ends notPartial notPartially =>
          right.filled (mapOrderStatus_filled_iff.mpr ⟨ends, notPartial, notPartially⟩) }
  · intro plain
    refine
      { longest := fun entry => plain.longest
        qualified := ?_
        filled := ?_ }
    · intro qualifier rest entry _ _ named longest
      rw [plain.longest longest, mapOrderStatus_known longest.1 named]
    · intro filled
      obtain ⟨ends, notPartial, notPartially⟩ := mapOrderStatus_filled_iff.mp filled
      exact plain.filled ends notPartial notPartially

-- The enumeration member of the SDK for an order that waits to be sent is read as submitted,
-- and the word for an order that is not filled as filled.
theorem qualified_reads_wrong :
    ¬ ReadsRight {} "OrderStatus.WaitToNew" ∧ ¬ ReadsRight {} "Unfilled" := by
  constructor
  · intro right
    have read := right.qualified "OrderStatus." "WaitToNew" ("WAITTONEW", .submitting) (by decide)
      (.inr (by decide)) (by decide) ⟨by decide +kernel, by decide +kernel, by decide +kernel⟩
    revert read
    decide +kernel
  · intro right
    obtain ⟨qualifier, rest, split, qualifies, named⟩ := right.filled (by decide +kernel)
    rcases qualifies with rfl | dotted
    · rw [String.empty_append] at split
      subst split
      revert named
      decide +kernel
    · have dot : '.' ∈ "Unfilled".toList := by
        rw [split, String.toList_append]
        exact List.mem_append_left _ (List.mem_of_getLast? dotted)
      revert dot
      decide

end SynapseYield.Longbridge
