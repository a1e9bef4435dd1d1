import SynapseYield.Swarm.Grounding

set_option autoImplicit false

namespace SynapseYield.Swarm.Grounding

open Shared

section Statements

variable [PyText] (isDecimal : CodePoint → Bool)

def values (userVars : UserVars) : List PyString := userVars.filterMap (·.2)

def Shape.Spells (shape : Shape) (text : Text) : Prop :=
  ∃ lead, ∃ ending ∈ shape.endings, text = lead ++ ending ∧ lead.all shape.leads = true ∧
    shape.least ≤ lead.length ∧ lead.length ≤ shape.most

def Supported (symbol : Text) : Prop :=
  ∃ shape ∈ symbolPatterns fun _ => false, shape.Spells symbol

def Occurs (beside : CodePoint → Bool) (text word : Text) : Prop :=
  ∃ front rest, text = front ++ word ++ rest ∧ front.getLast?.any beside = false ∧
    rest.head?.any beside = false

def isAttached (c : CodePoint) : Bool :=
  Ascii.isDigit c || Ascii.isUpper c || Ascii.isLower c || c = 46 || c = 45

def isJoined (c : CodePoint) : Bool := isWord c || c = 46 || c = 45

def Explicit (userVars : UserVars) (symbol : PyString) : Prop :=
  ∃ value ∈ values userVars,
    symbol.points ∈ (scanPatterns (symbolPatterns isDecimal) value.points).1

/-- What the symbols of the variables are to be like -/
structure Grounded (userVars : UserVars) : Prop where
  nodup : (extractSymbolsFromUserVars isDecimal userVars).Nodup
  complete : ∀ value ∈ values userVars, ∀ symbol : PyString, Supported symbol.points →
    Occurs isAttached value.points symbol.points →
      symbol ∈ extractSymbolsFromUserVars isDecimal userVars
  first : ∃ explicit promoted,
    extractSymbolsFromUserVars isDecimal userVars = explicit ++ promoted ∧
      ∀ symbol, symbol ∈ explicit ↔ Explicit isDecimal userVars symbol
  limited : ∀ setting, ∀ symbol ∈ groundedSymbols isDecimal setting userVars,
    ¬ Explicit isDecimal userVars symbol →
      ∀ other, Explicit isDecimal userVars other →
        other ∈ groundedSymbols isDecimal setting userVars
  -- A promoted ticker is of what is left of a value with a blank for each symbol in it.
  fragments : ∀ symbol ∈ extractSymbolsFromUserVars isDecimal userVars,
    ¬ Explicit isDecimal userVars symbol → ∃ value ∈ values userVars, ∃ hits remainder token,
      hits.Perm (scanPatterns (symbolPatterns isDecimal) value.points).1 ∧
      Blanked 32 value.points remainder hits ∧ token <:+: remainder ∧
      token.all Ascii.isUpper = true ∧ symbol.points = token ++ usEnding

end Statements

section Patterns

variable [PyText] {isDecimal : CodePoint → Bool} {shape other : Shape} {c : CodePoint}
  {lead ending word text front rest : Text} {before : Option CodePoint}

def allEndings : List Text := [usEnding, hkEnding, szEnding, shEnding, bjEnding, usdtEnding]

structure Shape.Regular (shape : Shape) : Prop where
  leads : ∀ c, shape.leads c = true → isWord c = true ∧ c ≠ 46 ∧ c ≠ 45
  endings : shape.endings ⊆ allEndings
  level : ∀ ending ∈ shape.endings, ∀ other ∈ shape.endings, ending.length = other.length
  positive : 1 ≤ shape.least

theorem upper_leads (upper : Ascii.isUpper c = true) : isWord c = true ∧ c ≠ 46 ∧ c ≠ 45 := by
  have range : 65 ≤ c.val ∧ c.val ≤ 90 := by
    simpa only [Ascii.isUpper, Bool.and_eq_true, decide_eq_true_eq] using upper
  refine ⟨?_, ?_, ?_⟩
  · rw [isWord, PyString.isalnum, if_pos (by omega), upper]
    simp
  · rintro rfl
    exact absurd range.1 (by decide)
  · rintro rfl
    exact absurd range.1 (by decide)

theorem digit_leads (digit : isDigit isDecimal c = true) : isWord c = true ∧ c ≠ 46 ∧ c ≠ 45 := by
  rw [isDigit] at digit
  split at digit
  next ascii =>
    have range : 48 ≤ c.val ∧ c.val ≤ 57 := by
      simpa only [Ascii.isDigit, Bool.and_eq_true, decide_eq_true_eq] using digit
    refine ⟨?_, ?_, ?_⟩
    · rw [isWord, PyString.isalnum, if_pos ascii, digit]
      rfl
    · rintro rfl
      exact absurd range.1 (by decide)
    · rintro rfl
      exact absurd range.1 (by decide)
  next wide =>
    refine ⟨?_, ?_, ?_⟩
    · rw [isWord, (Bool.and_eq_true_iff.mp digit).2]
      rfl
    · rintro rfl
      exact wide (by decide)
    · rintro rfl
      exact wide (by decide)

omit [PyText] in
theorem endings_level : ∀ endings ∈ [[usEnding], [hkEnding], [szEnding, shEnding, bjEnding],
    [usdtEnding]], endings ⊆ allEndings ∧ ∀ ending ∈ endings, ∀ other ∈ endings,
      ending.length = other.length := by
  decide

theorem patterns_regular (listed : shape ∈ symbolPatterns isDecimal) : shape.Regular := by
  simp only [symbolPatterns, List.mem_cons, List.not_mem_nil, or_false] at listed
  rcases listed with rfl | rfl | rfl | rfl
  · obtain ⟨known, level⟩ := endings_level [usEnding] (by decide)
    exact ⟨fun _ => upper_leads, known, level, (by decide : 1 ≤ 1)⟩
  · obtain ⟨known, level⟩ := endings_level [hkEnding] (by decide)
    exact ⟨fun _ => digit_leads, known, level, (by decide : 1 ≤ 3)⟩
  · obtain ⟨known, level⟩ := endings_level [szEnding, shEnding, bjEnding] (by decide)
    exact ⟨fun _ => digit_leads, known, level, (by decide : 1 ≤ 6)⟩
  · obtain ⟨known, level⟩ := endings_level [usdtEnding] (by decide)
    exact ⟨fun _ => upper_leads, known, level, (by decide : 1 ≤ 2)⟩

omit [PyText] in
theorem ending_shape : ∀ ending ∈ allEndings, ∃ mark ∈ ([46, 45] : Text), ∃ letters,
    ending = mark :: letters ∧ letters ≠ [] ∧ letters.all Ascii.isUpper = true := by
  intro ending member
  refine ⟨ending.headD 46, ?_, ending.tail, ?_⟩
  · revert ending
    decide
  · revert ending
    decide

theorem matchAt_some (found : shape.matchAt before text = some (word, rest)) :
    (∃ ending ∈ shape.endings, word = text.takeWhile shape.leads ++ ending ∧
      ending <+: text.dropWhile shape.leads) ∧
    boundary before text.head? = true ∧ boundary word.getLast? rest.head? = true ∧
    0 < (text.takeWhile shape.leads).length := by
  rw [Shape.matchAt] at found
  split at found
  next kept =>
    obtain ⟨ending, listed, same⟩ := Option.map_eq_some_iff.mp found
    obtain ⟨rfl, rfl⟩ := Prod.mk.inj same
    have ends := List.find?_some listed
    rw [Bool.and_eq_true] at ends
    refine ⟨⟨ending, List.mem_of_find?_eq_some listed, rfl, ?_⟩, kept.1, ends.2, kept.2.1⟩
    exact List.isPrefixOf_iff_prefix.mp ends.1
  · cases found

theorem matcher_guard (regular : shape.Regular) (apart : isJoined c = false) :
    shape.matcher.Guard c := by
  intro before text word rest found member
  obtain ⟨⟨ending, listed, rfl, -⟩, -⟩ := matchAt_some found
  rw [isJoined, Bool.or_eq_false_iff, Bool.or_eq_false_iff, decide_eq_false_iff_not,
    decide_eq_false_iff_not] at apart
  rcases List.mem_append.mp member with leads | ends
  · have wordy := (regular.leads c (List.all_eq_true.mp List.all_takeWhile c leads)).1
    rw [apart.1.1] at wordy
    cases wordy
  · obtain ⟨mark, marks, letters, rfl, -, upper⟩ := ending_shape ending (regular.endings listed)
    rcases List.mem_cons.mp ends with rfl | letter
    · simp only [List.mem_cons, List.not_mem_nil, or_false] at marks
      exact marks.elim apart.1.2 apart.2
    · have wordy := (upper_leads (List.all_eq_true.mp upper c letter)).1
      rw [apart.1.1] at wordy
      cases wordy

omit [PyText] in
theorem endings_differ : ∀ ending ∈ allEndings, ∀ ending' ∈ allEndings,
    ending.head? = ending'.head? → ending'.tail <+: ending.tail → ending' = ending := by
  decide

theorem ending_unique {ending' : Text} (ends : ending ∈ allEndings) (ends' : ending' ∈ allEndings)
    (solid : ∀ c ∈ lead, c ≠ 46 ∧ c ≠ 45) (within : ending' <:+: lead ++ ending) :
    ending' = ending := by
  obtain ⟨mark, marks, letters, rfl, -, upper⟩ := ending_shape ending ends
  obtain ⟨mark', marks', letters', rfl, -, -⟩ := ending_shape ending' ends'
  obtain ⟨front, rest, same⟩ := within
  have apart : mark' ∉ lead := by
    intro member
    simp only [List.mem_cons, List.not_mem_nil, or_false] at marks'
    exact marks'.elim (solid mark' member).1 (solid mark' member).2
  have apart' : mark' ∉ letters := by
    intro member
    have leads := (upper_leads (List.all_eq_true.mp upper mark' member)).2
    simp only [List.mem_cons, List.not_mem_nil, or_false] at marks'
    exact marks'.elim leads.1 leads.2
  rw [List.append_assoc, List.cons_append] at same
  obtain ⟨-, rfl, rfl⟩ := (List.append_cons_inj_of_notMem apart apart').mp same.symm
  exact endings_differ _ ends _ ends' rfl ⟨rest, rfl⟩

theorem matcher_silent (regular : shape.Regular) (regular' : other.Regular)
    (apart : ∀ ending ∈ shape.endings, ending ∉ other.endings) (spells : shape.Spells word) :
    other.matcher.Silent word := by
  intro before text hit rest found within
  obtain ⟨⟨ending', listed', rfl, -⟩, -⟩ := matchAt_some found
  obtain ⟨lead, ending, listed, rfl, leads, -⟩ := spells
  have solid : ∀ c ∈ lead, c ≠ 46 ∧ c ≠ 45 := fun c member =>
    (regular.leads c (List.all_eq_true.mp leads c member)).2
  have same := ending_unique (regular.endings listed) (regular'.endings listed') solid
    ((List.suffix_append _ _).isInfix.trans within)
  exact apart ending listed (same ▸ listed')

theorem spelled_edges (regular : shape.Regular) (listed : ending ∈ shape.endings)
    (leads : lead.all shape.leads = true) (long : 0 < lead.length) :
    besideWord (lead ++ ending).head? = true ∧ besideWord (lead ++ ending).getLast? = true := by
  obtain ⟨mark, -, letters, same, filled, upper⟩ :=
    ending_shape ending (regular.endings listed)
  constructor
  · obtain ⟨c, lead', rfl⟩ := List.exists_cons_of_length_pos long
    exact (regular.leads c (List.all_eq_true.mp leads c List.mem_cons_self)).1
  · have last : letters.getLast filled ∈ letters := List.getLast_mem filled
    rw [same, List.getLast?_append_of_ne_nil _ (List.cons_ne_nil mark letters),
      List.getLast?_cons_of_ne_nil filled, List.getLast?_eq_some_getLast filled]
    exact (upper_leads (List.all_eq_true.mp upper _ last)).1

theorem matchAt_edges (regular : shape.Regular)
    (found : shape.matchAt before text = some (word, rest)) :
    besideWord before = false ∧ besideWord rest.head? = false ∧
      besideWord word.head? = true ∧ besideWord word.getLast? = true := by
  obtain ⟨⟨ending, listed, same, -⟩, opens, stops, long⟩ := matchAt_some found
  obtain ⟨filled, whole⟩ := shape.matchAt_proper _ _ _ _ found
  have edges := spelled_edges regular listed List.all_takeWhile long
  rw [← same] at edges
  rw [← whole, List.head?_append_of_ne_nil _ filled, boundary, edges.1, bne_iff_ne] at opens
  rw [boundary, edges.2, bne_iff_ne] at stops
  exact ⟨Bool.eq_false_iff.mpr opens, Bool.eq_false_iff.mpr stops.symm, edges⟩

theorem unjoined {near : Option CodePoint} (clear : near.any isJoined = false)
    (found : c ∈ near) : isJoined c = false := by
  rw [Option.mem_def.mp found] at clear
  exact clear

theorem unjoined_word {near : Option CodePoint} (clear : near.any isJoined = false) :
    besideWord near = false := by
  cases near with
  | none => rfl
  | some c =>
    have apart := unjoined clear rfl
    rw [isJoined, Bool.or_eq_false_iff, Bool.or_eq_false_iff] at apart
    exact apart.1.1

theorem matchAt_word (regular : shape.Regular) (spells : shape.Spells word)
    (opens : besideWord before = false) (stops : besideWord rest.head? = false) :
    shape.matchAt before (word ++ rest) = some (word, rest) := by
  obtain ⟨lead, ending, listed, rfl, leads, least, most⟩ := spells
  obtain ⟨mark, marks, letters, same, filled, upper⟩ :=
    ending_shape ending (regular.endings listed)
  have unled : shape.leads mark = false := by
    cases given : shape.leads mark with
    | false => rfl
    | true =>
      have leads := (regular.leads mark given).2
      simp only [List.mem_cons, List.not_mem_nil, or_false] at marks
      exact absurd marks (not_or.mpr leads)
  have taken : (lead ++ ending ++ rest).takeWhile shape.leads = lead := by
    rw [List.append_assoc, List.takeWhile_append_of_pos (List.all_eq_true.mp leads), same,
      List.cons_append, List.takeWhile_cons_of_neg (by simp [unled]), List.append_nil]
  have dropped : (lead ++ ending ++ rest).dropWhile shape.leads = ending ++ rest := by
    rw [List.append_assoc, List.dropWhile_append_of_pos (List.all_eq_true.mp leads), same,
      List.cons_append, List.dropWhile_cons_of_neg (by simp [unled])]
  have long : 0 < lead.length := regular.positive.trans least
  have edges := spelled_edges regular listed leads long
  have begins : boundary before (lead ++ ending ++ rest).head? = true := by
    have within : lead ++ ending ≠ [] := by
      intro empty
      rw [(List.append_eq_nil_iff.mp empty).1] at long
      cases long
    rw [boundary, opens, List.head?_append_of_ne_nil _ within, edges.1]
    rfl
  have closes : boundary (lead ++ ending).getLast? rest.head? = true := by
    rw [boundary, stops, edges.2]
    rfl
  have fits : (shape.endings.find? fun e => e.isPrefixOf (ending ++ rest) &&
      boundary (lead ++ e).getLast? ((ending ++ rest).drop e.length).head?) = some ending := by
    cases chosen : shape.endings.find? _ with
    | none =>
      refine absurd ?_ (List.find?_eq_none.mp chosen ending listed)
      rw [List.drop_left, closes, Bool.and_true]
      exact List.isPrefixOf_iff_prefix.mpr (List.prefix_append _ _)
    | some e =>
      have fitting := List.find?_some chosen
      rw [Bool.and_eq_true] at fitting
      have starts := List.isPrefixOf_iff_prefix.mp fitting.1
      have length := regular.level e (List.mem_of_find?_eq_some chosen) ending listed
      have equal := List.prefix_of_prefix_length_le starts (List.prefix_append _ _) length.le
      rw [equal.eq_of_length length]
  rw [Shape.matchAt, taken, dropped, if_pos ⟨begins, long, least, most⟩, fits]
  rw [Option.map_some, List.drop_left]

theorem scanPatterns_found {shapes : List Shape} (regular : ∀ shape ∈ shapes, shape.Regular)
    (apart : shapes.Pairwise fun shape other => ∀ ending ∈ other.endings, ending ∉ shape.endings)
    (listed : shape ∈ shapes) (spells : shape.Spells word)
    (opens : front.getLast?.any isJoined = false) (stops : rest.head?.any isJoined = false) :
    word ∈ (scanPatterns shapes (front ++ word ++ rest)).1 := by
  induction shapes generalizing front rest with
  | nil => cases listed
  | cons first shapes ih =>
    have regularFirst := regular first List.mem_cons_self
    have closed : ∀ g ∈ front.getLast?, first.matcher.Guard g := fun g last =>
      matcher_guard regularFirst (unjoined opens last)
    rw [scanPatterns]
    rcases List.mem_cons.mp listed with rfl | later
    · refine List.mem_append_left _ (Matcher.mem_hits closed ?_)
      exact matchAt_word regularFirst spells (unjoined_word opens) (unjoined_word stops)
    · obtain ⟨apartFirst, apartLater⟩ := List.pairwise_cons.mp apart
      have regularLater := fun shape member => regular shape (List.mem_cons_of_mem first member)
      have silent := matcher_silent (regularLater shape later) regularFirst
        (apartFirst shape later) spells
      have ends : first.matcher.Stops rest := fun g head =>
        matcher_guard regularFirst (unjoined stops head)
      obtain ⟨front', rest', same, last, head⟩ :=
        @Matcher.sub_word _ first.matcher front rest word 32 closed silent ends
      rw [same]
      refine List.mem_append_right _ (ih regularLater apartLater later ?_ ?_)
      · rw [last, opens]
      · rw [head, stops]

omit [PyText] in
theorem endings_apart : ([[usEnding], [hkEnding], [szEnding, shEnding, bjEnding], [usdtEnding]] :
    List (List Text)).Pairwise fun listed others => ∀ ending ∈ others, ending ∉ listed := by
  decide

theorem patterns_apart : (symbolPatterns isDecimal).Pairwise fun shape other =>
    ∀ ending ∈ other.endings, ending ∉ shape.endings := by
  have endings : ((symbolPatterns isDecimal).map Shape.endings).Pairwise
      fun listed others => ∀ ending ∈ others, ending ∉ listed := endings_apart
  exact List.pairwise_map.mp endings

theorem supported_spells (supported : Supported word) :
    ∃ shape ∈ symbolPatterns isDecimal, shape.Spells word := by
  obtain ⟨shape, listed, lead, ending, ends, same, leads, sized⟩ := supported
  have digits : lead.all (isDigit fun _ => false) = true → lead.all (isDigit isDecimal) = true := by
    intro ascii
    refine List.all_eq_true.mpr fun c member => ?_
    have digit := List.all_eq_true.mp ascii c member
    rw [isDigit] at digit ⊢
    split at digit
    · rwa [if_pos ‹_›]
    · cases digit
  simp only [symbolPatterns, List.mem_cons, List.not_mem_nil, or_false] at listed
  rcases listed with rfl | rfl | rfl | rfl
  · exact ⟨usShape, by simp [symbolPatterns], lead, ending, ends, same, leads, sized⟩
  · exact ⟨hkShape isDecimal, by simp [symbolPatterns], lead, ending, ends, same, digits leads,
      sized⟩
  · exact ⟨chinaShape isDecimal, by simp [symbolPatterns], lead, ending, ends, same, digits leads,
      sized⟩
  · exact ⟨usdtShape, by simp [symbolPatterns], lead, ending, ends, same, leads, sized⟩

-- What a blank cannot have been put into
structure Worded (word : Text) : Prop where
  head : besideWord word.head? = true
  last : besideWord word.getLast? = true
  solid : 32 ∉ word

theorem unjoined_blank : isJoined 32 = false := rfl

theorem scanPatterns_worded {shapes : List Shape} (regular : ∀ shape ∈ shapes, shape.Regular)
    (found : word ∈ (scanPatterns shapes text).1) : Worded word := by
  induction shapes generalizing text with
  | nil => cases found
  | cons first shapes ih =>
    rcases List.mem_append.mp found with hit | later
    · have regularFirst := regular first List.mem_cons_self
      obtain ⟨front, rest, -, matched⟩ := Matcher.hits_at hit
      obtain ⟨-, -, head, last⟩ := matchAt_edges regularFirst matched
      exact ⟨head, last, matcher_guard regularFirst unjoined_blank _ _ _ _ matched⟩
    · exact ih (fun shape member => regular shape (List.mem_cons_of_mem first member)) later

theorem sub_occurs (regular : shape.Regular) (worded : Worded word)
    (occurs : Occurs isWord (shape.matcher.sub 32 text) word) : Occurs isWord text word := by
  obtain ⟨front, rest, same, opens, stops⟩ := occurs
  have filled : word ≠ [] := by
    rintro rfl
    cases worded.head
  have clear : ∀ before text hit rest, shape.matcher.matchAt before text = some (hit, rest) →
      before ≠ word.getLast? ∧ rest.head? ≠ word.head? := by
    intro before text hit rest found
    obtain ⟨opens, stops, -⟩ := matchAt_edges regular found
    constructor
    · rintro rfl
      exact absurd worded.last (Bool.eq_false_iff.mp opens)
    · intro equal
      rw [equal] at stops
      exact absurd worded.head (Bool.eq_false_iff.mp stops)
  obtain ⟨front', rest', same', last, head⟩ :=
    Matcher.of_sub_word filled worded.solid clear same
  exact ⟨front', rest', same', last ▸ opens, head ▸ stops⟩

theorem remainder_occurs {shapes : List Shape} (regular : ∀ shape ∈ shapes, shape.Regular)
    (worded : Worded word) (occurs : Occurs isWord (scanPatterns shapes text).2 word) :
    Occurs isWord text word := by
  induction shapes generalizing text with
  | nil => exact occurs
  | cons first shapes ih =>
    refine sub_occurs (regular first List.mem_cons_self) worded (ih ?_ occurs)
    exact fun shape member => regular shape (List.mem_cons_of_mem first member)

theorem scanPatterns_occurs {shapes : List Shape} (regular : ∀ shape ∈ shapes, shape.Regular)
    (found : word ∈ (scanPatterns shapes text).1) : Occurs isWord text word := by
  have worded := scanPatterns_worded regular found
  induction shapes generalizing text with
  | nil => cases found
  | cons first shapes ih =>
    have regularFirst := regular first List.mem_cons_self
    rcases List.mem_append.mp found with hit | later
    · obtain ⟨front, rest, same, matched⟩ := Matcher.hits_at hit
      obtain ⟨opens, stops, -⟩ := matchAt_edges regularFirst matched
      exact ⟨front, rest, same, opens, stops⟩
    · refine sub_occurs regularFirst worded (ih ?_ later)
      exact fun shape member => regular shape (List.mem_cons_of_mem first member)

theorem scanPatterns_blanked {shapes : List Shape} (regular : ∀ shape ∈ shapes, shape.Regular) :
    ∃ hits, hits.Perm (scanPatterns shapes text).1 ∧
      Blanked 32 text (scanPatterns shapes text).2 hits := by
  induction shapes generalizing text with
  | nil => exact ⟨[], .nil, .refl text⟩
  | cons first shapes ih =>
    have later := fun shape member => regular shape (List.mem_cons_of_mem first member)
    obtain ⟨hits, perm, blanked⟩ := @ih (first.matcher.sub 32 text) later
    have solid : ∀ word ∈ hits, 32 ∉ word := fun word member =>
      (scanPatterns_worded later (perm.mem_iff.mp member)).solid
    obtain ⟨all, together, blanks⟩ := (Blanked.of_sub first.matcher text).trans solid blanked
    exact ⟨all, together.trans (perm.append_left _), blanks⟩

theorem bareAt_some (found : bareAt before text = some (word, rest)) :
    word.all Ascii.isUpper = true ∧ word ≠ [] ∧ besideWord before = false ∧
      besideWord rest.head? = false := by
  rw [bareAt] at found
  split at found
  next kept =>
    obtain ⟨rfl, rfl⟩ := Prod.mk.inj (Option.some.inj found)
    obtain ⟨opens, least, -, stops, -⟩ := kept
    rw [Bool.or_eq_false_iff] at opens
    exact ⟨List.all_takeWhile, List.length_pos_iff.mp (Nat.zero_lt_of_lt least), opens.1, stops⟩
  · cases found

theorem upper_worded (upper : word.all Ascii.isUpper = true) (filled : word ≠ []) :
    Worded word := by
  have letters := List.all_eq_true.mp upper
  refine ⟨?_, ?_, ?_⟩
  · rw [List.head?_eq_some_head filled]
    exact (upper_leads (letters _ (List.head_mem filled))).1
  · rw [List.getLast?_eq_some_getLast filled]
    exact (upper_leads (letters _ (List.getLast_mem filled))).1
  · intro member
    exact absurd (letters 32 member) (by decide)

end Patterns

section Extraction

variable {symbol : PyString} {listed symbols : List PyString}

theorem mem_addNew {new : PyString} :
    symbol ∈ addNew listed new ↔ symbol ∈ listed ∨ symbol = new := by
  rw [addNew]
  split
  next member =>
    refine ⟨.inl, ?_⟩
    rintro (known | rfl)
    · exact known
    · exact member
  · rw [List.mem_append, List.mem_singleton]

theorem addNew_nodup {new : PyString} (nodup : listed.Nodup) : (addNew listed new).Nodup := by
  rw [addNew]
  split
  · exact nodup
  next fresh =>
    refine List.nodup_append.mpr ⟨nodup, List.pairwise_singleton _ new, ?_⟩
    intro one member other single
    rw [List.mem_singleton.mp single]
    exact fun same => fresh (same ▸ member)

theorem mem_addAll :
    symbol ∈ symbols.foldl addNew listed ↔ symbol ∈ listed ∨ symbol ∈ symbols := by
  induction symbols generalizing listed with
  | nil => simp
  | cons new symbols ih => rw [List.foldl_cons, ih, mem_addNew, List.mem_cons, or_assoc]

theorem addAll_nodup (nodup : listed.Nodup) : (symbols.foldl addNew listed).Nodup := by
  induction symbols generalizing listed with
  | nil => exact nodup
  | cons new symbols ih => exact ih (addNew_nodup nodup)

variable [PyText] {isDecimal : CodePoint → Bool} {userVars : UserVars}

def bareTickers (isDecimal : CodePoint → Bool) (value : PyString) : List Text :=
  bareTicker.hits (scanPatterns (symbolPatterns isDecimal) value.points).2

theorem mentioned_explicit {given : List PyString} {mentioned : Mentioned} :
    symbol ∈ (given.foldl (Mentioned.add isDecimal) mentioned).explicit ↔
      symbol ∈ mentioned.explicit ∨ ∃ value ∈ given,
        symbol.points ∈ (scanPatterns (symbolPatterns isDecimal) value.points).1 := by
  induction given generalizing mentioned with
  | nil => simp
  | cons value given ih =>
    have listed :
        symbol ∈ (scanPatterns (symbolPatterns isDecimal) value.points).1.map PyString.mk ↔
          symbol.points ∈ (scanPatterns (symbolPatterns isDecimal) value.points).1 := by
      rw [List.mem_map]
      refine ⟨?_, fun member => ⟨_, member, rfl⟩⟩
      rintro ⟨points, member, rfl⟩
      exact member
    rw [List.foldl_cons, ih, Mentioned.add, mem_addAll, listed, or_assoc]
    simp only [List.mem_cons, exists_eq_or_imp]

theorem mentioned_promoted {given : List PyString} {mentioned : Mentioned} :
    symbol ∈ (given.foldl (Mentioned.add isDecimal) mentioned).promoted ↔
      symbol ∈ mentioned.promoted ∨ ∃ value ∈ given,
        ∃ token ∈ bareTickers isDecimal value, promotedOf token = some symbol := by
  induction given generalizing mentioned with
  | nil => simp
  | cons value given ih =>
    rw [List.foldl_cons, ih, Mentioned.add, mem_addAll, List.mem_filterMap, or_assoc]
    simp only [List.mem_cons, exists_eq_or_imp]
    rfl

theorem mentioned_nodup {given : List PyString} {mentioned : Mentioned}
    (explicit : mentioned.explicit.Nodup) (promoted : mentioned.promoted.Nodup) :
    (given.foldl (Mentioned.add isDecimal) mentioned).explicit.Nodup ∧
      (given.foldl (Mentioned.add isDecimal) mentioned).promoted.Nodup := by
  induction given generalizing mentioned with
  | nil => exact ⟨explicit, promoted⟩
  | cons value given ih => exact ih (addAll_nodup explicit) (addAll_nodup promoted)

theorem explicit_iff : symbol ∈ (mentionedIn isDecimal userVars).explicit ↔
    Explicit isDecimal userVars symbol := by
  rw [mentionedIn, mentioned_explicit]
  simp only [List.not_mem_nil, false_or]
  rfl

theorem promoted_iff : symbol ∈ (mentionedIn isDecimal userVars).promoted ↔
    ∃ value ∈ values userVars, ∃ token ∈ bareTickers isDecimal value,
      promotedOf token = some symbol := by
  rw [mentionedIn, mentioned_promoted]
  simp only [List.not_mem_nil, false_or]
  rfl

theorem mem_extracted : symbol ∈ extractSymbolsFromUserVars isDecimal userVars ↔
    Explicit isDecimal userVars symbol ∨
      symbol ∈ (mentionedIn isDecimal userVars).promoted ∧
        ¬ Explicit isDecimal userVars symbol := by
  simp only [extractSymbolsFromUserVars, List.mem_append, List.mem_filter, decide_eq_true_eq,
    explicit_iff]

omit [PyText] in
theorem promotedOf_some {token : Text} (promoted : promotedOf token = some symbol) :
    symbol.points = token ++ usEnding := by
  rw [promotedOf] at promoted
  split at promoted
  · cases promoted
  · rw [← Option.some.inj promoted]

theorem bareTicker_at {value : PyString} {token : Text}
    (member : token ∈ bareTickers isDecimal value) :
    token.all Ascii.isUpper = true ∧ token ≠ [] ∧
      Occurs isWord (scanPatterns (symbolPatterns isDecimal) value.points).2 token := by
  obtain ⟨front, rest, same, matched⟩ := Matcher.hits_at member
  obtain ⟨upper, filled, opens, stops⟩ := bareAt_some matched
  exact ⟨upper, filled, front, rest, same, opens, stops⟩

theorem extracted_nodup : (extractSymbolsFromUserVars isDecimal userVars).Nodup := by
  obtain ⟨explicit, promoted⟩ := @mentioned_nodup _ isDecimal (values userVars) ⟨[], []⟩
    List.nodup_nil List.nodup_nil
  refine List.nodup_append.mpr ⟨explicit, promoted.filter _, ?_⟩
  rintro symbol listed _ other rfl
  exact of_decide_eq_true (List.mem_filter.mp other).2 listed

omit [PyText] in
theorem limit_keeps {explicit promoted : List PyString} {limit : Nat} {other : PyString}
    (kept : symbol ∈ (explicit ++ promoted).take limit) (later : symbol ∉ explicit)
    (listed : other ∈ explicit) : other ∈ (explicit ++ promoted).take limit := by
  rw [List.take_append] at kept ⊢
  rcases List.mem_append.mp kept with within | beyond
  · exact absurd (List.mem_of_mem_take within) later
  · have room : explicit.length ≤ limit := by
      by_contra short
      rw [Nat.sub_eq_zero_of_le (Nat.le_of_not_le short), List.take_zero] at beyond
      cases beyond
    rw [List.take_of_length_le room]
    exact List.mem_append_left _ listed

theorem extracted_fragment (listed : symbol ∈ extractSymbolsFromUserVars isDecimal userVars)
    (promoted : ¬ Explicit isDecimal userVars symbol) :
    ∃ value ∈ values userVars, ∃ hits remainder token,
      hits.Perm (scanPatterns (symbolPatterns isDecimal) value.points).1 ∧
      Blanked 32 value.points remainder hits ∧ token <:+: remainder ∧
      token.all Ascii.isUpper = true ∧ symbol.points = token ++ usEnding := by
  have ticker := ((mem_extracted.mp listed).resolve_left promoted).1
  obtain ⟨value, given, token, member, same⟩ := promoted_iff.mp ticker
  obtain ⟨hits, perm, blanked⟩ :=
    @scanPatterns_blanked _ value.points _ fun _ => @patterns_regular _ isDecimal _
  obtain ⟨upper, -, front, rest, split, -⟩ := bareTicker_at member
  exact ⟨value, given, hits, _, token, perm, blanked, ⟨front, rest, split.symm⟩, upper,
    promotedOf_some same⟩

theorem explicit_of_clear {value : PyString} (given : value ∈ values userVars)
    (supported : Supported symbol.points) (occurs : Occurs isJoined value.points symbol.points) :
    Explicit isDecimal userVars symbol := by
  obtain ⟨shape, listed, spells⟩ := @supported_spells _ isDecimal _ supported
  obtain ⟨front, rest, same, opens, stops⟩ := occurs
  refine ⟨value, given, ?_⟩
  rw [same]
  exact scanPatterns_found (fun _ => patterns_regular) patterns_apart listed spells opens stops

theorem extracted_occurs (listed : symbol ∈ extractSymbolsFromUserVars isDecimal userVars) :
    ∃ value ∈ values userVars, Occurs isWord value.points symbol.points ∨
      ∃ token, symbol.points = token ++ usEnding ∧ Occurs isWord value.points token := by
  have regular : ∀ shape ∈ symbolPatterns isDecimal, shape.Regular := fun _ => patterns_regular
  rcases mem_extracted.mp listed with ⟨value, given, found⟩ | ⟨promoted, -⟩
  · exact ⟨value, given, .inl (scanPatterns_occurs regular found)⟩
  · obtain ⟨value, given, token, member, same⟩ := promoted_iff.mp promoted
    obtain ⟨upper, filled, occurs⟩ := bareTicker_at member
    refine ⟨value, given, .inr ⟨token, promotedOf_some same, ?_⟩⟩
    exact remainder_occurs regular (upper_worded upper filled) occurs

/-- Symbols that are beside no other text are enough, and one that is beside word text in every
place is missed. -/
theorem Occurs.joined {text word : Text}
    (plain : ∀ c ∈ text, isJoined c = true → isAttached c = true)
    (occurs : Occurs isAttached text word) : Occurs isJoined text word := by
  obtain ⟨front, rest, rfl, before, after⟩ := occurs
  have apart {beside : Option CodePoint}
      (inside : ∀ c ∈ beside, c ∈ front ++ word ++ rest)
      (clear : beside.any isAttached = false) : beside.any isJoined = false := by
    cases beside with
    | none => rfl
    | some c =>
      refine Bool.eq_false_iff.mpr fun joined => ?_
      rw [Option.any_some, plain c (inside c rfl) joined] at clear
      cases clear
  refine ⟨front, rest, rfl, apart (fun c last => ?_) before, apart (fun c first => ?_) after⟩
  · exact List.mem_append_left _ (List.mem_append_left _ (List.mem_of_getLast? last))
  · exact List.mem_append_right _ (List.mem_of_head? first)

theorem grounded_when (isDecimal : CodePoint → Bool) (userVars : UserVars) :
    ((∀ value ∈ values userVars, ∀ symbol : PyString, Supported symbol.points →
      Occurs isAttached value.points symbol.points →
        ∃ other ∈ values userVars, Occurs isJoined other.points symbol.points) →
      Grounded isDecimal userVars) ∧
    (Grounded isDecimal userVars → ∀ value ∈ values userVars, ∀ symbol : PyString,
      Supported symbol.points → Occurs isAttached value.points symbol.points →
        ∃ other ∈ values userVars, Occurs isWord other.points symbol.points ∨
          ∃ token, symbol.points = token ++ usEnding ∧ Occurs isWord other.points token) := by
  constructor
  · intro clear
    refine ⟨extracted_nodup, ?_, ⟨_, _, rfl, fun symbol => explicit_iff⟩, ?_, ?_⟩
    · intro value given symbol supported occurs
      obtain ⟨other, listed, apart⟩ := clear value given symbol supported occurs
      exact mem_extracted.mpr (.inl (explicit_of_clear listed supported apart))
    · intro setting symbol kept promoted other explicit
      exact limit_keeps kept (mt explicit_iff.mp promoted) (explicit_iff.mpr explicit)
    · exact fun symbol => extracted_fragment
  · intro grounded value given symbol supported occurs
    exact extracted_occurs (grounded.complete value given symbol supported occurs)

end Extraction

-- Chinese characters are letters.
@[reducible] def hanText : PyText := { asciiText with isalnum := fun _ => true }

def plainValue : PyString := "Compare NVDA.US with 600519.SH, not AMD."

theorem plainValue_grounded : @Grounded hanText (fun _ => false) [("request", some plainValue)] := by
  let text := hanText
  have all : plainValue.points.all (fun c => ! isJoined c || isAttached c) = true := by
    decide +kernel
  have plain : ∀ c ∈ plainValue.points, isJoined c = true → isAttached c = true := by
    intro c member joined
    simpa [joined] using List.all_eq_true.mp all c member
  refine (grounded_when (fun _ => false) [("request", some plainValue)]).1 ?_
  intro value given symbol _ occurs
  obtain rfl : value = plainValue := List.mem_singleton.mp given
  exact ⟨plainValue, given, occurs.joined plain⟩

def hanValue : PyString := "分析NVDA.US的走势"

theorem chinese_missed :
    ¬ @Grounded hanText (fun _ => false) [("request", some hanValue)] := by
  intro grounded
  let text := hanText
  have supported : Supported ("NVDA.US" : PyString).points :=
    ⟨usShape, List.mem_cons_self, ("NVDA" : PyString).points, usEnding, List.mem_cons_self,
      by decide, by decide, by decide, by decide⟩
  have occurs : Occurs isAttached hanValue.points ("NVDA.US" : PyString).points :=
    ⟨("分析" : PyString).points, ("的走势" : PyString).points, by decide, by decide, by decide⟩
  have listed := grounded.complete hanValue List.mem_cons_self "NVDA.US" supported occurs
  have missed :
      @extractSymbolsFromUserVars hanText (fun _ => false) [("request", some hanValue)] = [] := by
    decide
  rw [missed] at listed
  cases listed

end SynapseYield.Swarm.Grounding
