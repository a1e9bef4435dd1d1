import Mathlib.Algebra.BigOperators.Group.List.Basic
import Mathlib.Tactic.Linarith
import Mathlib.Tactic.Ring
import SynapseYield.Live.Enforcement

set_option autoImplicit false

namespace SynapseYield.Live

open Shared

section Gross

-- What a position is worth: a short has a negative worth.
def Reading.worth : Reading → Number
  | .value marketValue => marketValue
  | .product qty price => qty * price

-- The positions after an order: it changes the one in its slot, or opens a new one.
def applied {α : Type} [Add α] : List α → Nat → α → List α
  | [], _, change => [change]
  | position :: rest, 0, change => (position + change) :: rest
  | position :: rest, slot + 1, change => position :: applied rest slot change

def grossExposure (positions : List Number) : Number := Number.sum (positions.map Number.abs)

def short (worth : ℚ) : ℚ := max 0 (-worth)

theorem abs_short (worth : ℚ) : |worth| = worth + 2 * short worth := by
  unfold short
  rcases le_total 0 worth with long | negative
  · rw [abs_of_nonneg long, max_eq_left (by linarith)]
    ring
  · rw [abs_of_nonpos negative, max_eq_right (by linarith)]
    ring

-- The part of a row's short that the gate counts like a long: abs(qty) * price.
def Reading.countedShort : Reading → ℚ
  | .value _ => 0
  | .product qty price => short qty.toRat * price.toRat

theorem applied_sum (positions : List ℚ) (slot : Nat) (change : ℚ) :
    (applied positions slot change).sum = positions.sum + change := by
  induction positions generalizing slot with
  | nil => simp [applied]
  | cons position rest ih =>
    cases slot with
    | zero =>
      simp only [applied, List.sum_cons]
      ring
    | succ slot =>
      simp only [applied, List.sum_cons, ih]
      ring

theorem applied_finite {positions : List Number} {slot : Nat} {change : ℚ} :
    (∀ position ∈ applied positions slot (.finite change), position.isFinite) ↔
      ∀ position ∈ positions, position.isFinite := by
  induction positions generalizing slot with
  | nil => simp [applied, Number.isFinite, Number.toRat]
  | cons position rest ih =>
    cases slot with
    | zero =>
      simp only [applied, List.forall_mem_cons]
      refine and_congr_left fun _ => ?_
      cases position <;> simp [Number.isFinite, Number.toRat, HAdd.hAdd, Add.add, Number.add]
    | succ slot => simp only [applied, List.forall_mem_cons, ih]

theorem applied_toRat {positions : List Number} {slot : Nat} {change : ℚ}
    (finite : ∀ position ∈ positions, position.isFinite) :
    (applied positions slot (.finite change)).map Number.toRat =
      applied (positions.map Number.toRat) slot change := by
  induction positions generalizing slot with
  | nil => rfl
  | cons position rest ih =>
    obtain ⟨first, others⟩ := List.forall_mem_cons.mp finite
    cases slot with
    | zero =>
      obtain ⟨x, rfl⟩ := Number.isFinite_iff.mp first
      rfl
    | succ slot => simp only [applied, List.map_cons, ih others]

theorem Reading.worth_finite {reading : Reading} :
    reading.worth.isFinite ↔ reading.marketValue.isFinite := by
  cases reading with
  | value marketValue => exact Iff.rfl
  | product qty price =>
    simp only [worth, marketValue, Number.mul_isFinite, Number.abs_isFinite]

theorem Reading.marketValue_counted {reading : Reading} (finite : reading.marketValue.isFinite) :
    reading.marketValue.toRat = reading.worth.toRat + 2 * reading.countedShort := by
  cases reading with
  | value marketValue => simp [worth, Reading.marketValue, countedShort]
  | product qty price =>
    obtain ⟨qtyFinite, priceFinite⟩ := Number.mul_isFinite.mp (worth_finite.mpr finite)
    obtain ⟨q, rfl⟩ := Number.isFinite_iff.mp qtyFinite
    obtain ⟨p, rfl⟩ := Number.isFinite_iff.mp priceFinite
    simp only [Reading.marketValue, worth, countedShort, Number.abs_finite, Number.finite_mul,
      Number.toRat, abs_short q]
    ring

end Gross

section Readings

variable [PyText]

def Reads (positions : PyValue) (readings : List Reading) : Prop :=
  ∃ rows, coercePositionRows positions = some rows ∧
    List.Forall₂ (fun row reading => readPosition row = .ok (some reading)) rows readings

theorem positionMarketValue_ok {row : PyDict} {value : Number} :
    positionMarketValue row = .ok (some value) ↔
      ∃ reading, readPosition row = .ok (some reading) ∧ reading.marketValue = value := by
  simp only [positionMarketValue, bind, Except.bind, pure, Except.pure]
  cases readPosition row with
  | error raised => simp
  | ok reading => simp [Option.map_eq_some_iff]

theorem sumMarketValues_ok {rows : List PyDict} {total exposure : Number} :
    sumMarketValues total rows = .ok (some exposure) ↔
      ∃ readings, List.Forall₂ (fun row reading => readPosition row = .ok (some reading)) rows readings ∧
        Number.sumFrom total (readings.map Reading.marketValue) = exposure := by
  induction rows generalizing total with
  | nil => simp [sumMarketValues, Number.sumFrom]
  | cons row rows ih =>
    simp only [sumMarketValues, bind, Except.bind]
    constructor
    · intro run
      split at run
      next => cases run
      next read =>
        split at run
        next => cases run
        next value =>
          obtain ⟨reading, parsed, rfl⟩ := positionMarketValue_ok.mp read
          obtain ⟨readings, rest, total⟩ := ih.mp run
          exact ⟨reading :: readings, .cons parsed rest, total⟩
    · rintro ⟨_, _ | ⟨parsed, rest⟩, total⟩
      rw [positionMarketValue_ok.mpr ⟨_, parsed, rfl⟩]
      exact ih.mpr ⟨_, rest, total⟩

theorem positionsMarketValue_ok {positions : PyValue} {exposure : Number} :
    positionsMarketValue positions = .ok (some exposure) ↔
      ∃ readings, Reads positions readings ∧
        Number.sum (readings.map Reading.marketValue) = exposure := by
  unfold positionsMarketValue Reads
  cases coercePositionRows positions with
  | none => simp
  | some rows => simp [sumMarketValues_ok, Number.sum]

theorem Reads.unique {positions : PyValue} {readings readings' : List Reading}
    (first : Reads positions readings) (second : Reads positions readings') :
    readings = readings' := by
  obtain ⟨rows, coerced, parsed⟩ := first
  obtain ⟨rows', coerced', parsed'⟩ := second
  rw [coerced, Option.some.injEq] at coerced'
  subst coerced'
  refine List.right_unique_forall₂' (fun row reading reading' read read' => ?_) parsed parsed'
  rw [read] at read'
  exact Option.some.inj (Except.ok.inj read')

end Readings

section Bounds

variable [PyText]

structure FiniteCaps (caps : HardCaps) : Prop where
  funding : caps.accountFundingUsd.isFinite
  notional : caps.maxOrderNotionalUsd.isFinite
  exposure : caps.maxTotalExposureUsd.isFinite
  leverage : caps.maxLeverage.isFinite

structure WithinCaps (caps : HardCaps) (notional gross : Number) (dailyCount : Int) : Prop where
  notional : notional ≤ caps.maxOrderNotionalUsd
  exposure : gross ≤ caps.maxTotalExposureUsd
  leverage : gross / caps.accountFundingUsd ≤ caps.maxLeverage
  count : dailyCount + 1 ≤ caps.maxTradesPerDay

def grossAfter (readings : List Reading) (slot : Nat) (change : Number) : Number :=
  grossExposure (applied (readings.map Reading.worth) slot change)

-- Every mandate with finite caps bounds what it allows of this order.
def Bounded (intent : OrderIntent) (positions : PyValue) (slot : Nat) : Prop :=
  ∀ (loaders : Loaders) (mandate : Mandate) (balance : PyValue) (context : CheckContext),
    FiniteCaps mandate.hardCaps →
    checkMandate loaders mandate intent positions balance context = .ok none →
    ∀ notional readings, resolveOrderNotional intent = some notional → Reads positions readings →
      WithinCaps mandate.hardCaps notional
        (grossAfter readings slot (signedNotional intent notional)) context.dailyCount

structure Admissible (intent : OrderIntent) (notional : ℚ) : Prop where
  named : normalizeSymbol intent.symbol ≠ .empty
  sided : intent.side = "buy" ∨ intent.side = "sell"
  resolved : resolveOrderNotional intent = some (.finite notional)

def orderChange (intent : OrderIntent) (notional : ℚ) : ℚ :=
  if intent.side = "buy" then notional else -notional

-- After the order the shorts are worth no more than those reported by quantity and price.
def ShortsCounted (readings : List Reading) (slot : Nat) (change : ℚ) : Prop :=
  ((applied (readings.map fun reading => reading.worth.toRat) slot change).map short).sum ≤
    (readings.map Reading.countedShort).sum

def Countable (readings : List Reading) (slot : Nat) (change : ℚ) : Prop :=
  Number.OneSided (readings.map Reading.marketValue) ∨
    (∀ reading ∈ readings, reading.marketValue.isFinite) ∧ ShortsCounted readings slot change

omit [PyText] in
theorem sum_abs (positions : List ℚ) :
    (positions.map fun worth => |worth|).sum = positions.sum + 2 * (positions.map short).sum := by
  induction positions with
  | nil => simp
  | cons worth rest ih =>
    simp only [List.map_cons, List.sum_cons, ih, abs_short worth]
    ring

omit [PyText] in
theorem grossAfter_finite {readings : List Reading} {slot : Nat} {change : ℚ}
    (finite : ∀ reading ∈ readings, reading.marketValue.isFinite) :
    grossAfter readings slot (.finite change) =
      .finite (((readings.map fun reading => reading.worth.toRat).sum + change) +
        2 * ((applied (readings.map fun reading => reading.worth.toRat) slot change).map short).sum) := by
  have worths : ∀ worth ∈ readings.map Reading.worth, worth.isFinite := by
    intro worth member
    obtain ⟨reading, present, rfl⟩ := List.mem_map.mp member
    exact Reading.worth_finite.mpr (finite reading present)
  have after : ∀ worth ∈ applied (readings.map Reading.worth) slot (.finite change), worth.isFinite :=
    applied_finite.mpr worths
  have magnitudes : ((applied (readings.map Reading.worth) slot (.finite change)).map
      Number.abs).map Number.toRat =
        (applied (readings.map fun reading => reading.worth.toRat) slot change).map fun x => |x| := by
    rw [show (readings.map fun reading => reading.worth.toRat) =
      (readings.map Reading.worth).map Number.toRat by simp, ← applied_toRat worths]
    simp
  rw [grossAfter, grossExposure, Number.sum_finite (List.forall_mem_map.mpr fun worth member =>
    Number.abs_isFinite.mpr (after worth member)), magnitudes, sum_abs, applied_sum]

omit [PyText] in
theorem exposure_finite {readings : List Reading}
    (finite : ∀ reading ∈ readings, reading.marketValue.isFinite) :
    Number.sum (readings.map Reading.marketValue) =
      .finite ((readings.map fun reading => reading.worth.toRat).sum +
        2 * (readings.map Reading.countedShort).sum) := by
  rw [Number.sum_finite (List.forall_mem_map.mpr finite), Number.finite.injEq, List.map_map]
  induction readings with
  | nil => simp
  | cons reading rest ih =>
    obtain ⟨first, others⟩ := List.forall_mem_cons.mp finite
    simp only [List.map_cons, List.sum_cons, Function.comp_apply, ih others,
      Reading.marketValue_counted first]
    ring

omit [PyText] in
theorem finite_of_gross {readings : List Reading} {slot : Nat} {change cap : ℚ}
    (within : grossAfter readings slot (.finite change) ≤ .finite cap) :
    ∀ reading ∈ readings, reading.marketValue.isFinite := by
  have gross : (grossAfter readings slot (.finite change)).isFinite := by
    cases value : grossAfter readings slot (.finite change) with
    | nan => simp [value] at within
    | posInf => simp [value, Number.le_def, Number.same] at within
    | finite x => exact Number.isFinite_iff.mpr ⟨x, rfl⟩
    | negInf =>
      obtain ⟨member, -⟩ := Number.sum_eq_negInf.mp value
      obtain ⟨position, -, negative⟩ := List.mem_map.mp member
      exact absurd negative (Number.abs_ne_negInf position)
  have positions : ∀ position ∈ applied (readings.map Reading.worth) slot (.finite change),
      position.isFinite := fun position member =>
    Number.abs_isFinite.mp (Number.isFinite_sum.mp gross _ (List.mem_map_of_mem member))
  intro reading member
  exact Reading.worth_finite.mp (applied_finite.mp positions _ (List.mem_map_of_mem member))

omit [PyText] in
theorem signedNotional_finite (intent : OrderIntent) (notional : ℚ) :
    signedNotional intent (.finite notional) = .finite (orderChange intent notional) := by
  unfold signedNotional orderChange
  split <;> rfl

-- The tightest mandate that admits an order with the given exposure after it.
def admitting (intent : OrderIntent) (notional post : ℚ) : Mandate where
  schemaVersion := mandateSchemaVersion
  hardCaps :=
    { accountFundingUsd := .finite (max 1 post)
      maxOrderNotionalUsd := .finite notional
      maxTotalExposureUsd := .finite post
      maxLeverage := .finite (|post| / max 1 post)
      allowedInstruments := [intent.instrumentType]
      maxTradesPerDay := 1 }
  universeConstraint :=
    { assetClasses := intent.bucket.toList
      minMarketCapUsd := none
      minAvgDailyVolumeUsd := none
      excludeSymbols := [] }
  consent :=
    { createdAt := .empty
      consentTokenSha256 := .empty
      broker := .empty
      accountRef := .empty
      expiresAt := .empty }

def firstOfDay : CheckContext where
  broker := .empty
  remoteTool := .empty
  utcNowIso := .empty
  dailyCount := 0

omit [PyText] in
theorem admitting_finite (intent : OrderIntent) (notional post : ℚ) :
    FiniteCaps (admitting intent notional post).hardCaps := ⟨rfl, rfl, rfl, rfl⟩

theorem admitting_allows {intent : OrderIntent} {notional post : ℚ} {exposure : Number}
    {positions balance : PyValue} (loaders : Loaders) (admissible : Admissible intent notional)
    (read : positionsMarketValue positions = .ok (some exposure))
    (after : exposure + .finite (orderChange intent notional) = .nan ∨
      exposure + .finite (orderChange intent notional) = .finite post) :
    checkMandate loaders (admitting intent notional post) intent positions balance firstOfDay =
      .ok none := by
  refine checkMandate_allow.mpr ⟨_, exposure, admissible.resolved, read, ?_⟩
  have positive : 0 < max 1 post := lt_max_of_lt_left one_pos
  exact
    { named := admissible.named
      sided := admissible.sided
      notExcluded := by simp [admitting]
      instrument := by simp [admitting]
      bucketed := by simp [admitting]
      notionalCap := by simp [admitting]
      exposureCap := by
        rw [signedNotional_finite]
        obtain after | after := after <;> simp [after, admitting]
      funded := by
        rw [show (0 : Number) = .finite 0 from rfl]
        simp [admitting]
      leverageCap := by
        rw [signedNotional_finite]
        obtain after | after := after
        · rw [after]
          exact Number.not_lt_nan
        · simp [after, admitting]
      countCap := by simp [admitting, firstOfDay]
      fundingCap := fun _ => by
        rw [signedNotional_finite]
        obtain after | after := after <;> simp [after, admitting]
      floors := fun _ _ => ⟨id, id⟩ }

omit [PyText] in
theorem resolved_finite {intent : OrderIntent} {notional : Number} {cap : Number}
    (resolved : resolveOrderNotional intent = some notional) (finite : cap.isFinite)
    (within : ¬ cap < notional) : ∃ value, notional = .finite value := by
  obtain ⟨cap, rfl⟩ := Number.isFinite_iff.mp finite
  unfold resolveOrderNotional at resolved
  split at resolved
  next => cases resolved
  next given =>
    split at resolved
    next => cases resolved
    next usable =>
      cases resolved
      obtain ⟨positive, real⟩ := not_or.mp usable
      cases notional with
      | nan => exact absurd rfl real
      | negInf => exact absurd (.inl rfl) positive
      | posInf => exact absurd rfl within
      | finite value => exact ⟨value, rfl⟩

omit [PyText] in
theorem not_oneSided {mandate : Mandate} {notional : ℚ} {values : List Number}
    (finiteCaps : FiniteCaps mandate.hardCaps)
    (exposureCap : ¬ mandate.hardCaps.maxTotalExposureUsd <
      Number.sum values + .finite notional)
    (leverageCap : ¬ mandate.hardCaps.maxLeverage <
      (Number.sum values + .finite notional).abs / mandate.hardCaps.accountFundingUsd) :
    ¬ Number.OneSided values := by
  rw [Number.OneSided, ← Number.sum_eq_posInf, ← Number.sum_eq_negInf]
  rw [finiteCaps.exposure] at exposureCap
  rw [finiteCaps.leverage, finiteCaps.funding] at leverageCap
  rintro (infinite | infinite)
  · rw [infinite] at exposureCap
    exact exposureCap rfl
  · rw [infinite] at leverageCap
    exact leverageCap rfl

theorem bounded_iff (intent : OrderIntent) (positions : PyValue) (slot : Nat) :
    Bounded intent positions slot ↔
      ∀ notional readings, Admissible intent notional → Reads positions readings →
        Countable readings slot (orderChange intent notional) := by
  constructor
  · intro bounded notional readings admissible reads
    have read := positionsMarketValue_ok.mpr ⟨readings, reads, rfl⟩
    have within : ∀ post, (Number.sum (readings.map Reading.marketValue) +
        .finite (orderChange intent notional) = .nan ∨
          Number.sum (readings.map Reading.marketValue) +
            .finite (orderChange intent notional) = .finite post) →
        grossAfter readings slot (.finite (orderChange intent notional)) ≤ .finite post := by
      intro post after
      have caps := bounded ⟨fun _ _ => none, fun _ _ => none⟩ (admitting intent notional post) .none
        firstOfDay (admitting_finite intent notional post)
        (admitting_allows _ admissible read after) _ readings admissible.resolved reads
      rw [signedNotional_finite] at caps
      exact caps.exposure
    by_cases finite : ∀ reading ∈ readings, reading.marketValue.isFinite
    · refine .inr ⟨finite, ?_⟩
      have total := exposure_finite finite
      have gross := within _ (.inr (by rw [total]; rfl))
      rw [grossAfter_finite finite, Number.finite_le] at gross
      unfold ShortsCounted
      linarith
    · left
      by_contra scattered
      have total : Number.sum (readings.map Reading.marketValue) = .nan :=
        Number.sum_eq_nan.mpr ⟨scattered, fun all => finite (List.forall_mem_map.mp all)⟩
      exact finite (finite_of_gross (within 0 (.inl (by rw [total]; rfl))))
  · intro countable loaders mandate balance context finiteCaps allowed notional readings resolved reads
    obtain ⟨notional', exposure, resolved', read, admits⟩ := checkMandate_allow.mp allowed
    obtain rfl : notional = notional' := Option.some.inj (resolved.symm.trans resolved')
    obtain ⟨value, rfl⟩ := resolved_finite resolved finiteCaps.notional admits.notionalCap
    obtain ⟨readings', reads', rfl⟩ := positionsMarketValue_ok.mp read
    obtain rfl := reads.unique reads'
    have exposureCap := admits.exposureCap
    have leverageCap := admits.leverageCap
    rw [signedNotional_finite] at exposureCap leverageCap ⊢
    obtain oneSided | ⟨finite, counted⟩ :=
      countable value readings ⟨admits.named, admits.sided, resolved⟩ reads
    · exact absurd oneSided (not_oneSided finiteCaps exposureCap leverageCap)
    rw [exposure_finite finite, Number.finite_add] at exposureCap leverageCap
    rw [grossAfter_finite finite]
    unfold ShortsCounted at counted
    have notionalCap := admits.notionalCap
    have funded := admits.funded
    obtain ⟨funding, funds⟩ := Number.isFinite_iff.mp finiteCaps.funding
    obtain ⟨maxNotional, notionalLimit⟩ := Number.isFinite_iff.mp finiteCaps.notional
    obtain ⟨maxExposure, exposureLimit⟩ := Number.isFinite_iff.mp finiteCaps.exposure
    obtain ⟨maxLeverage, leverageLimit⟩ := Number.isFinite_iff.mp finiteCaps.leverage
    rw [notionalLimit, Number.finite_lt, not_lt] at notionalCap
    rw [exposureLimit, Number.finite_lt, not_lt] at exposureCap
    rw [funds, show (0 : Number) = .finite 0 from rfl, Number.finite_le, not_le] at funded
    rw [leverageLimit, funds, Number.abs_finite, Number.finite_div, Number.finite_lt,
      not_lt] at leverageCap
    constructor
    · rw [notionalLimit]
      exact Number.finite_le.mpr notionalCap
    · rw [exposureLimit]
      exact Number.finite_le.mpr (by linarith)
    · rw [leverageLimit, funds, Number.finite_div]
      refine Number.finite_le.mpr (le_trans ?_ leverageCap)
      exact div_le_div_of_nonneg_right ((by linarith : _ ≤ _).trans (le_abs_self _)) funded.le
    · exact admits.countCap

def sellThousand : OrderIntent where
  symbol := "TSLA"
  side := "sell"
  notionalUsd := some (.finite 1000)
  quantity := none
  instrumentType := .equity

def narrowExposure : Mandate :=
  { admitting sellThousand 1000 500 with
    hardCaps := { (admitting sellThousand 1000 500).hardCaps with
      accountFundingUsd := .finite 1000
      maxLeverage := .finite 1 } }

-- The sell opens a short of 1000 under an exposure cap of 500.
omit [PyText] in
theorem openedShort_unbounded : ¬ @Bounded asciiText sellThousand (.list []) 0 := by
  intro bounded
  have caps := bounded ⟨fun _ _ => none, fun _ _ => none⟩ narrowExposure .none firstOfDay
    ⟨rfl, rfl, rfl, rfl⟩ (isAllow_iff.mp (by decide +kernel)) _ [] rfl ⟨[], rfl, .nil⟩
  have above : ¬ grossAfter [] 0 (signedNotional sellThousand (.finite 1000)) ≤ .finite 500 := by
    decide +kernel
  exact above caps.exposure

end Bounds

end SynapseYield.Live
