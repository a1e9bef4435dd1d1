import Mathlib.Data.List.Induction
import Mathlib.Data.List.Perm.Subperm
import SynapseYield.Tools.SecStatements
import SynapseYield.Shared.Firsts

set_option autoImplicit false

namespace SynapseYield.Tools.SecStatements

open Shared StableSort Firsts

section Kept

variable {periods : List PeriodRow} {row : PeriodRow} {past : List Write} {write : Write} {key :
  Key}

def factsOf (past : List Write) (key : Key) (concept : PyString) : List Fact :=
  (past.filter fun write => write.key = key ∧ write.concept = concept).map (·.fact)

-- A row has a field for each concept that was written to it, with all facts of it in order and the
-- value of the last.
structure PeriodRow.Holds (row : PeriodRow) (past : List Write) : Prop where
  nodup : (row.fields.map (·.concept)).Nodup
  facts : ∀ field ∈ row.fields, field.facts = factsOf past row.key field.concept
  written : ∀ field ∈ row.fields, field.facts ≠ []
  covers : ∀ write ∈ past, write.key = row.key → write.concept ∈ row.fields.map (·.concept)
  value : ∀ field ∈ row.fields, ∀ fact, field.facts.getLast? = some fact →
    ∃ write ∈ past, write.fact = fact ∧ write.value = field.value

structure Kept (past : List Write) (periods : List PeriodRow) : Prop where
  keys : periods.map (·.key) = (firsts Write.key [] past).map (·.key)
  rows : ∀ row ∈ periods, row.Holds past

theorem factsOf_snoc (past : List Write) (write : Write) (key : Key) (concept : PyString) :
    factsOf (past ++ [write]) key concept = factsOf past key concept ++
      if write.key = key ∧ write.concept = concept then [write.fact] else [] := by
  rw [factsOf, factsOf, List.filter_append, List.map_append]
  by_cases here : write.key = key ∧ write.concept = concept
  · simp [here]
  · rw [if_neg here, List.filter_cons_of_neg (by simpa using here)]
    rfl

theorem mem_factsOf {past : List Write} {key : Key} {concept : PyString} {fact : Fact} :
    fact ∈ factsOf past key concept ↔
      ∃ write ∈ past, (write.key = key ∧ write.concept = concept) ∧ write.fact = fact := by
  simp [factsOf, List.mem_map, List.mem_filter, and_assoc]

theorem PeriodRow.Holds.elsewhere (holds : row.Holds past) (other : write.key ≠ row.key) :
    row.Holds (past ++ [write]) := by
  refine ⟨holds.nodup, fun field member => ?_, holds.written, fun write' member same => ?_,
    fun field member fact last => ?_⟩
  · rw [factsOf_snoc, if_neg fun here => other here.1, List.append_nil]
    exact holds.facts field member
  · rcases List.mem_append.mp member with old | new
    · exact holds.covers write' old same
    · exact absurd (List.mem_singleton.mp new ▸ same) other
  · obtain ⟨write', member', from_⟩ := holds.value field member fact last
    exact ⟨write', List.mem_append_left _ member', from_⟩

theorem PeriodRow.Holds.blank (fresh : ∀ write ∈ past, write.key ≠ key) :
    PeriodRow.Holds ⟨key, []⟩ past := by
  constructor
  · exact .nil
  · intro field member
    cases member
  · intro field member
    cases member
  · intro write member same
    exact absurd same (fresh write member)
  · intro field member
    cases member

theorem PeriodRow.set_key : (row.set write).key = row.key := by
  rw [PeriodRow.set]
  split <;> rfl

theorem factsOf_here (past : List Write) (write : Write) :
    factsOf (past ++ [write]) write.key write.concept =
      factsOf past write.key write.concept ++ [write.fact] := by
  rw [factsOf_snoc, if_pos ⟨rfl, rfl⟩]

theorem factsOf_other {concept : PyString} (other : concept ≠ write.concept) :
    factsOf (past ++ [write]) key concept = factsOf past key concept := by
  rw [factsOf_snoc, if_neg fun here => other here.2.symm, List.append_nil]

def Field.put (write : Write) (field : Field) : Field :=
  if field.concept = write.concept then
    { field with value := write.value, unit := write.unit, facts := field.facts ++ [write.fact] }
  else field

theorem Field.put_concept (write : Write) (field : Field) :
    (field.put write).concept = field.concept := by
  rw [Field.put]
  split <;> rfl

theorem PeriodRow.Holds.replace (holds : row.Holds past) (here : row.key = write.key)
    (present : write.concept ∈ row.fields.map (·.concept)) :
    PeriodRow.Holds { row with fields := row.fields.map (Field.put write) } (past ++ [write]) := by
  have last : write ∈ past ++ [write] := List.mem_append_right _ List.mem_cons_self
  have concepts : (row.fields.map (Field.put write)).map (·.concept) =
      row.fields.map (·.concept) := by
    rw [List.map_map]
    exact List.map_congr_left fun field _ => field.put_concept write
  constructor
  · rw [concepts]
    exact holds.nodup
  · intro field' member
    obtain ⟨field, old, rfl⟩ := List.mem_map.mp member
    rw [Field.put]
    split
    next same =>
      dsimp only
      rw [here, same, factsOf_here, holds.facts field old, here, same]
    next other => rw [factsOf_other other, holds.facts field old]
  · intro field' member
    obtain ⟨field, old, rfl⟩ := List.mem_map.mp member
    rw [Field.put]
    split
    next => exact List.append_ne_nil_of_right_ne_nil _ (List.cons_ne_nil _ _)
    next => exact holds.written field old
  · intro write' member same
    rw [concepts]
    rcases List.mem_append.mp member with old | new
    · exact holds.covers write' old same
    · exact List.mem_singleton.mp new ▸ present
  · intro field' member fact isLast
    obtain ⟨field, old, rfl⟩ := List.mem_map.mp member
    rw [Field.put] at isLast ⊢
    split at isLast
    next same =>
      rw [List.getLast?_concat] at isLast
      rw [if_pos same]
      exact ⟨write, last, Option.some.inj isLast, rfl⟩
    next other =>
      rw [if_neg other]
      obtain ⟨write', member', from_⟩ := holds.value field old fact isLast
      exact ⟨write', List.mem_append_left _ member', from_⟩

theorem PeriodRow.Holds.add (holds : row.Holds past) (here : row.key = write.key)
    (absent : write.concept ∉ row.fields.map (·.concept)) :
    PeriodRow.Holds
      { row with fields := row.fields ++ [⟨write.concept, write.value, write.unit, [write.fact]⟩] }
      (past ++ [write]) := by
  have last : write ∈ past ++ [write] := List.mem_append_right _ List.mem_cons_self
  have first : factsOf past write.key write.concept = [] := by
    rw [factsOf, List.map_eq_nil_iff, List.filter_eq_nil_iff]
    intro write' old same
    rw [decide_eq_true_eq] at same
    exact absent (same.2 ▸ holds.covers write' old (same.1.trans here.symm))
  constructor
  · rw [List.map_append]
    refine List.nodup_append.mpr ⟨holds.nodup, List.nodup_singleton _, ?_⟩
    intro concept old concept' new
    rintro rfl
    obtain same : concept = write.concept := List.mem_singleton.mp new
    exact absent (same ▸ old)
  · intro field member
    rcases List.mem_append.mp member with old | new
    · have other : field.concept ≠ write.concept := by
        intro same
        exact absent (same ▸ List.mem_map_of_mem old)
      rw [factsOf_other other]
      exact holds.facts field old
    · obtain rfl := List.mem_singleton.mp new
      dsimp only
      rw [here, factsOf_here, first, List.nil_append]
  · intro field member
    rcases List.mem_append.mp member with old | new
    · exact holds.written field old
    · obtain rfl := List.mem_singleton.mp new
      exact List.cons_ne_nil _ _
  · intro write' member same
    rw [List.map_append]
    rcases List.mem_append.mp member with old | new
    · exact List.mem_append_left _ (holds.covers write' old same)
    · obtain rfl := List.mem_singleton.mp new
      exact List.mem_append_right _ List.mem_cons_self
  · intro field member fact isLast
    rcases List.mem_append.mp member with old | new
    · obtain ⟨write', member', from_⟩ := holds.value field old fact isLast
      exact ⟨write', List.mem_append_left _ member', from_⟩
    · obtain rfl := List.mem_singleton.mp new
      exact ⟨write, last, Option.some.inj isLast, rfl⟩

theorem PeriodRow.Holds.set (holds : row.Holds past) (here : row.key = write.key) :
    (row.set write).Holds (past ++ [write]) := by
  have found : row.fields.any (·.concept = write.concept) = true ↔
      write.concept ∈ row.fields.map (·.concept) := by
    simp [List.any_eq_true]
  rw [PeriodRow.set]
  split
  next present => exact holds.replace here (found.mp present)
  next absent => exact holds.add here (mt found.mpr absent)

theorem Kept.addWrite (kept : Kept past periods) :
    Kept (past ++ [write]) (addWrite periods write) := by
  have found : periods.any (·.key = write.key) = true ↔ write.key ∈ past.map (·.key) := by
    rw [← @key_mem_firsts _ _ _ Write.key, ← kept.keys]
    simp [List.any_eq_true]
  rw [SecStatements.addWrite]
  split
  next present =>
    constructor
    · rw [firsts_snoc, if_pos (found.mp present), List.append_nil, ← kept.keys, List.map_map]
      refine List.map_congr_left fun row _ => ?_
      rw [Function.comp_apply]
      split
      next => exact PeriodRow.set_key
      next => rfl
    · intro row' member
      obtain ⟨row, old, rfl⟩ := List.mem_map.mp member
      split
      next here => exact (kept.rows row old).set here
      next other => exact (kept.rows row old).elsewhere (Ne.symm other)
  next absent =>
    have fresh : write.key ∉ past.map (·.key) := mt found.mpr absent
    constructor
    · rw [firsts_snoc, if_neg fresh, List.map_append, List.map_append, kept.keys]
      exact congrArg (_ ++ [·]) PeriodRow.set_key
    · intro row member
      rcases List.mem_append.mp member with old | new
      · refine (kept.rows row old).elsewhere fun same => fresh ?_
        rw [← @key_mem_firsts _ _ _ Write.key, ← kept.keys, same]
        exact List.mem_map_of_mem old
      · obtain rfl := List.mem_singleton.mp new
        refine (PeriodRow.Holds.blank fun write' member same => fresh ?_).set rfl
        exact same ▸ List.mem_map_of_mem member

theorem kept_foldl (past : List Write) : Kept past (past.foldl SecStatements.addWrite []) := by
  induction past using List.reverseRecOn with
  | nil => exact ⟨rfl, fun _ member => by cases member⟩
  | append_singleton past write ih =>
    rw [List.foldl_append]
    exact ih.addWrite

end Kept

section Statements

variable [PyText] (gaap : Gaap) (statement : Statement) (yearStart : PyString → Option PyString)

/-- No two facts of one concept with other dates are in one place, and what a row of an annual
statement has of a duration is from a fact of the fiscal year that ends at its date. The fiscal
years are given by the day that each begins at. -/
structure Faithful : Prop where
  apart : ∀ row ∈ periodsByKey gaap statement .annual, ∀ field ∈ row.fields,
    ∀ fact ∈ field.facts, ∀ other ∈ field.facts, fact.start = other.start ∧ fact.end_ = other.end_
  annual : ∀ cikFor code rows,
    fetchSecStatement cikFor (fun _ => .ok (some gaap)) code statement .annual = .ok rows →
    ∀ row ∈ rows, ∀ field ∈ row.fields, ∀ fact, field.facts.getLast? = some fact →
      toNumber fact.val = some field.value ∧ fact.end_ = some row.key.reportDate ∧
        (fact.start ≠ none → fact.start = yearStart row.key.reportDate)

def keptKeys : List Key :=
  (sortBy (fun key : Key => OrderDual.toDual key.reportDate.points)
    ((firsts Write.key [] (writes gaap statement .annual)).map (·.key))).take maxPeriods

/-- Facts of one concept with one end, fiscal year, fiscal period, form and accession have one
start, and those of a duration under the latest dates begin with the fiscal year that they end. -/
structure Separate : Prop where
  starts : ∀ write ∈ writes gaap statement .annual, ∀ other ∈ writes gaap statement .annual,
    write.concept = other.concept → write.key = other.key → write.fact.start = other.fact.start
  years : ∀ write ∈ writes gaap statement .annual, write.key ∈ keptKeys gaap statement →
    write.fact.start ≠ none → write.fact.start = yearStart write.key.reportDate

end Statements

section Annual

variable [PyText] {gaap : Gaap} {statement : Statement} {yearStart : PyString → Option PyString}
  {period : Period} {write : Write} {row : PeriodRow}

theorem writeOf_sound {concept unit : PyString} {fact : Option Fact}
    (wrote : writeOf period concept unit fact = some write) :
    write.concept = concept ∧ write.fact.end_ = some write.key.reportDate ∧
      toNumber write.fact.val = some write.value := by
  cases fact with
  | none => cases wrote
  | some fact =>
    rw [writeOf] at wrote
    split at wrote
    · split at wrote
      next reportDate value ends counts =>
        split at wrote
        · cases wrote
        · obtain rfl := Option.some.inj wrote
          exact ⟨rfl, ends, counts⟩
      · cases wrote
    · cases wrote

theorem writes_sound (member : write ∈ writes gaap statement period) :
    write.concept ∈ secConcepts statement ∧ write.fact.end_ = some write.key.reportDate ∧
      toNumber write.fact.val = some write.value := by
  obtain ⟨concept, listed, member⟩ := List.mem_flatMap.mp member
  rw [conceptWrites.eq_def] at member
  split at member
  next units _ =>
    obtain ⟨fact, _, wrote⟩ := List.mem_filterMap.mp member
    obtain ⟨same, sound⟩ := writeOf_sound wrote
    exact ⟨same ▸ listed, sound⟩
  next => cases member

theorem periodsByKey_kept : Kept (writes gaap statement period)
    (periodsByKey gaap statement period) := kept_foldl _

theorem placed (member : write ∈ writes gaap statement period) :
    ∃ row ∈ periodsByKey gaap statement period, row.key = write.key ∧
      ∃ field ∈ row.fields, field.concept = write.concept := by
  have kept := @periodsByKey_kept _ gaap statement period
  have keyed : write.key ∈ (periodsByKey gaap statement period).map (·.key) := by
    rw [kept.keys, key_mem_firsts]
    exact List.mem_map_of_mem member
  obtain ⟨row, listed, same⟩ := List.mem_map.mp keyed
  obtain ⟨field, among, concept⟩ :=
    List.mem_map.mp ((kept.rows row listed).covers write member same.symm)
  exact ⟨row, listed, same, field, among, concept⟩

theorem fact_written {field : Field} {fact : Fact}
    (listed : row ∈ periodsByKey gaap statement period) (among : field ∈ row.fields)
    (member : fact ∈ field.facts) :
    ∃ write ∈ writes gaap statement period,
      (write.key = row.key ∧ write.concept = field.concept) ∧ write.fact = fact := by
  rw [((@periodsByKey_kept _ gaap statement period).rows row listed).facts field among] at member
  exact mem_factsOf.mp member

theorem written_fact {field : Field} (listed : row ∈ periodsByKey gaap statement period)
    (among : field ∈ row.fields) (member : write ∈ writes gaap statement period)
    (key : row.key = write.key) (concept : field.concept = write.concept) :
    write.fact ∈ field.facts := by
  rw [((@periodsByKey_kept _ gaap statement period).rows row listed).facts field among]
  exact mem_factsOf.mpr ⟨write, member, ⟨key.symm, concept.symm⟩, rfl⟩

theorem apart_iff :
    (∀ row ∈ periodsByKey gaap statement .annual, ∀ field ∈ row.fields, ∀ fact ∈ field.facts,
        ∀ other ∈ field.facts, fact.start = other.start ∧ fact.end_ = other.end_) ↔
      ∀ write ∈ writes gaap statement .annual, ∀ other ∈ writes gaap statement .annual,
        write.concept = other.concept → write.key = other.key →
          write.fact.start = other.fact.start := by
  constructor
  · intro apart write member other member' concept key
    obtain ⟨row, listed, here, field, among, named⟩ := placed member
    refine (apart row listed field among _ (written_fact listed among member here named) _ ?_).1
    exact written_fact listed among member' (here.trans key) (named.trans concept)
  · intro starts row listed field among fact member other member'
    obtain ⟨write, wrote, ⟨key, concept⟩, rfl⟩ := fact_written listed among member
    obtain ⟨write', wrote', ⟨key', concept'⟩, rfl⟩ := fact_written listed among member'
    have same := key.trans key'.symm
    refine ⟨starts write wrote write' wrote' (concept.trans concept'.symm) same, ?_⟩
    rw [(writes_sound wrote).2.1, (writes_sound wrote').2.1, same]

theorem truncatePeriod_eq (listed : row ∈ periodsByKey gaap statement period) :
    truncatePeriod row = row := by
  have holds := (@periodsByKey_kept _ gaap statement period).rows row listed
  have known : row.fields.map (·.concept) ⊆ secConcepts statement := by
    intro concept member
    obtain ⟨field, among, rfl⟩ := List.mem_map.mp member
    obtain ⟨fact, member⟩ := List.exists_mem_of_ne_nil _ (holds.written field among)
    obtain ⟨write, wrote, here, -⟩ := fact_written listed among member
    exact here.2 ▸ (writes_sound wrote).1
  have few := (holds.nodup.subperm known).length_le
  rw [List.length_map] at few
  have eight : (secConcepts statement).length ≤ 8 := by cases statement <;> decide
  rw [truncatePeriod, List.take_of_length_le (few.trans (eight.trans (by decide)))]

theorem secPeriods_eq : secPeriods gaap statement period =
    (sortBy newest (periodsByKey gaap statement period)).take maxPeriods := by
  rw [secPeriods, capPeriods]
  refine (List.map_congr_left fun row member => ?_).trans (List.map_id _)
  exact truncatePeriod_eq (mem_sortBy.mp (List.mem_of_mem_take member))

theorem keys_returned : (secPeriods gaap statement .annual).map (·.key) =
    keptKeys gaap statement := by
  have kept := @periodsByKey_kept _ gaap statement .annual
  rw [secPeriods_eq, keptKeys, ← kept.keys, sortBy_map, List.map_take]
  rfl

theorem mem_secPeriods : row ∈ secPeriods gaap statement .annual ↔
    row ∈ periodsByKey gaap statement .annual ∧ row.key ∈ keptKeys gaap statement := by
  have listed : ∀ row ∈ secPeriods gaap statement .annual,
      row ∈ periodsByKey gaap statement .annual := by
    intro row member
    rw [secPeriods_eq] at member
    exact mem_sortBy.mp (List.mem_of_mem_take member)
  constructor
  · intro member
    exact ⟨listed row member, keys_returned ▸ List.mem_map_of_mem member⟩
  · rintro ⟨member, key⟩
    rw [← keys_returned] at key
    obtain ⟨row', member', same⟩ := List.mem_map.mp key
    have nodup : ((periodsByKey gaap statement .annual).map (·.key)).Nodup := by
      rw [(@periodsByKey_kept _ gaap statement .annual).keys]
      exact firsts_nodup
    exact List.inj_on_of_nodup_map nodup (listed row' member') member same ▸ member'

theorem field_last {field : Field} {fact : Fact}
    (listed : row ∈ periodsByKey gaap statement period) (among : field ∈ row.fields)
    (last : field.facts.getLast? = some fact) :
    toNumber fact.val = some field.value ∧ fact.end_ = some row.key.reportDate := by
  have holds := (@periodsByKey_kept _ gaap statement period).rows row listed
  obtain ⟨write, wrote, rfl, value⟩ := holds.value field among fact last
  obtain ⟨write', wrote', here, same⟩ :=
    fact_written listed among (List.mem_of_getLast? last)
  refine ⟨value ▸ (writes_sound wrote).2.2, ?_⟩
  rw [← same, (writes_sound wrote').2.1, here.1]

theorem fetchSecStatement_ok {cikFor : PyString → Except PyString (Option PyString)}
    {code : PyString} {rows : List PeriodRow} :
    fetchSecStatement cikFor (fun _ => .ok (some gaap)) code statement period = .ok rows ↔
      (∃ cik, cikFor (beforeDot code).strip.upper = .ok (some cik) ∧ cik ≠ "") ∧
        rows = secPeriods gaap statement period := by
  unfold fetchSecStatement
  rcases cikFor (beforeDot code).strip.upper with problem | _ | cik
  · simp
  · simp
  · by_cases blank : cik = ""
    · simp [blank]
    · simp [blank, eq_comm]

/-- An annual statement merges no facts of other dates and shows only years exactly where the facts
of a concept that agree in end, fiscal year, fiscal period, form and accession agree in start, and
those under the latest dates span the year. -/
theorem faithful_iff (gaap : Gaap) (statement : Statement)
    (yearStart : PyString → Option PyString) :
    Faithful gaap statement yearStart ↔ Separate gaap statement yearStart := by
  constructor
  · intro faithful
    have starts := apart_iff.mp faithful.apart
    refine ⟨starts, fun write member kept starts' => ?_⟩
    obtain ⟨row, listed, here, field, among, named⟩ := placed member
    have filled := ((@periodsByKey_kept _ gaap statement .annual).rows row listed).written
      field among
    have last := List.getLast?_eq_some_getLast filled
    obtain ⟨write', member', same', isLast⟩ :=
      fact_written listed among (List.mem_of_getLast? last)
    have same : write.fact.start = write'.fact.start := by
      refine starts write member write' member' (named.symm.trans same'.2.symm) ?_
      exact here.symm.trans same'.1.symm
    have returned := mem_secPeriods.mpr ⟨listed, here ▸ kept⟩
    have answered : fetchSecStatement (fun _ => .ok (some "0000320193"))
        (fun _ => .ok (some gaap)) "AAPL.US" statement .annual =
          .ok (secPeriods gaap statement .annual) :=
      fetchSecStatement_ok.mpr ⟨⟨_, rfl, by decide⟩, rfl⟩
    have year := (faithful.annual _ _ _ answered row returned field among _ last).2.2
    rw [← isLast, ← same, here] at year
    exact year starts'
  · intro separate
    refine ⟨apart_iff.mpr separate.starts, ?_⟩
    intro cikFor code rows answered row returned field among fact last
    rw [(fetchSecStatement_ok.mp answered).2] at returned
    obtain ⟨listed, kept⟩ := mem_secPeriods.mp returned
    obtain ⟨value, ends⟩ := field_last listed among last
    refine ⟨value, ends, ?_⟩
    obtain ⟨write, member, here, rfl⟩ :=
      fact_written listed among (List.mem_of_getLast? last)
    rw [← here.1]
    exact separate.years write member (here.1 ▸ kept)

end Annual

section Examples

def factOf (start : PyString) (value : ℚ) : Fact :=
  { start := some start
    end_ := some "2023-12-31"
    val := .number (.finite value)
    fy := some 2023
    fp := some "FY"
    form := some "10-K"
    accn := some "0000000000-24-000001" }

-- The net income of a year and of its last quarter, from one annual report
def yearAndQuarter : Gaap :=
  [("NetIncomeLoss",
    some [("USD", some [some (factOf "2023-01-01" 100), some (factOf "2023-10-01" 30)])])]

def calendarYear (date : PyString) : Option PyString :=
  if date = "2023-12-31" then some "2023-01-01" else none

/-- The net income of the quarter takes the place of that of the year. -/
theorem quarter_shown : ¬ @Faithful asciiText yearAndQuarter .income calendarYear := by
  let text := asciiText
  intro faithful
  have merged : ∃ row ∈ periodsByKey yearAndQuarter .income .annual, ∃ field ∈ row.fields,
      factOf "2023-01-01" 100 ∈ field.facts ∧ factOf "2023-10-01" 30 ∈ field.facts := by
    decide +kernel
  obtain ⟨row, listed, field, among, year, quarter⟩ := merged
  exact absurd (faithful.apart row listed field among _ year _ quarter).1 (by decide)

end Examples

end SynapseYield.Tools.SecStatements
