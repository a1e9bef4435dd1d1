import Mathlib.Data.List.Basic
import SynapseYield.Backtest.Loaders
import SynapseYield.Shared.Outcome

set_option autoImplicit false

namespace SynapseYield.Backtest

open Shared

variable {Frame : Type}

section Loop

variable (loaders : Loaders Frame) (ask : PyString → Request)

def serving (name : PyString) : Option (DataMap Frame) :=
  match loaders.registry name with
  | none => none
  | some loader =>
    if loader.constructs && loader.isAvailable then
      match loader.fetch (ask name) with
      | .ok [] => none
      | .ok result => some result
      | .error _ => none
    else none

def firstServing (order : List PyString) : DataMap Frame :=
  (order.findSome? (serving loaders ask)).getD []

def LoopCalm (skipped : PyString) (chain : List PyString) : Prop :=
  ∀ before name after, chain = before ++ name :: after →
    (∀ other ∈ before, other ≠ skipped → serving loaders ask other = none) → name ≠ skipped →
    ∀ loader, loaders.registry name = some loader → loader.constructs = true ∧
      (loader.isAvailable = true → ∃ result, loader.fetch (ask name) = .ok result)

variable {loaders ask} {name skipped : PyString} {chain : List PyString}

theorem serving_of_not_ready (waiting : isReady loaders name = false) :
    serving loaders ask name = none := by
  unfold isReady at waiting
  unfold serving
  split
  next => rfl
  next loader found =>
    rw [found] at waiting
    exact if_neg (by simpa using waiting)

theorem serving_of_ready {loader : Loader Frame} {result : DataMap Frame}
    (found : loaders.registry name = some loader) (ready : isReady loaders name = true)
    (fetched : loader.fetch (ask name) = .ok result) :
    serving loaders ask name = if result.isEmpty then none else some result := by
  simp only [isReady, found] at ready
  simp only [serving, found, ready, if_true, fetched]
  cases result <;> rfl

theorem LoopCalm.tail (calm : LoopCalm loaders ask skipped (name :: chain))
    (passed : name ≠ skipped → serving loaders ask name = none) :
    LoopCalm loaders ask skipped chain := by
  rintro before next after rfl quiet other
  refine calm (name :: before) next after rfl ?_ other
  exact List.forall_mem_cons.mpr ⟨passed, quiet⟩

theorem LoopCalm.cons (head : name ≠ skipped → ∀ loader, loaders.registry name = some loader →
      loader.constructs = true ∧
        (loader.isAvailable = true → ∃ result, loader.fetch (ask name) = .ok result))
    (tail : (name ≠ skipped → serving loaders ask name = none) →
      LoopCalm loaders ask skipped chain) : LoopCalm loaders ask skipped (name :: chain) := by
  intro before next after split quiet other
  cases before with
  | nil =>
    obtain ⟨rfl, rfl⟩ := List.cons.inj split
    exact head other
  | cons first before =>
    obtain ⟨rfl, rfl⟩ := List.cons.inj split
    obtain ⟨passed, quiet⟩ := List.forall_mem_cons.mp quiet
    exact tail passed before next after rfl quiet other

theorem firstServing_passed (passed : name ≠ skipped → serving loaders ask name = none) :
    firstServing loaders ask ((name :: chain).filter (· ≠ skipped)) =
      firstServing loaders ask (chain.filter (· ≠ skipped)) := by
  by_cases same : name = skipped
  · rw [List.filter_cons_of_neg (by simpa using same)]
  · rw [List.filter_cons_of_pos (by simpa using same), firstServing, List.findSome?_cons,
      passed same, firstServing]

theorem runtimeFallback_iff (result : DataMap Frame) :
    (∃ served, runtimeFallback loaders skipped ask chain = .ok (result, served)) ↔
      LoopCalm loaders ask skipped chain ∧
        result = firstServing loaders ask (chain.filter (· ≠ skipped)) := by
  induction chain with
  | nil =>
    have calm : LoopCalm loaders ask skipped [] := fun before name after split => by simp at split
    constructor
    · rintro ⟨served, returned⟩
      cases returned
      exact ⟨calm, rfl⟩
    · rintro ⟨-, rfl⟩
      exact ⟨none, rfl⟩
  | cons name chain ih =>
    have passes (head : name ≠ skipped → ∀ loader, loaders.registry name = some loader →
          loader.constructs = true ∧
            (loader.isAvailable = true → ∃ result, loader.fetch (ask name) = .ok result))
        (passed : name ≠ skipped → serving loaders ask name = none) :
        (∃ served, runtimeFallback loaders skipped ask chain = .ok (result, served)) ↔
          LoopCalm loaders ask skipped (name :: chain) ∧
            result = firstServing loaders ask ((name :: chain).filter (· ≠ skipped)) := by
      rw [ih, firstServing_passed passed]
      exact and_congr_left' ⟨fun calm => .cons head fun _ => calm, fun calm => calm.tail passed⟩
    rw [runtimeFallback]
    split
    next beyond =>
      refine passes (fun other loader found => ?_) fun other => serving_of_not_ready ?_
      · simp [found, other] at beyond
      · have missing := beyond.resolve_left other
        rw [Option.isNone_iff_eq_none] at missing
        simp [isReady, missing]
    next taken =>
      obtain ⟨other, registered⟩ := not_or.mp taken
      obtain ⟨loader, found⟩ := Option.ne_none_iff_exists'.mp (by simpa using registered)
      have failing (fails : ¬ (loader.constructs = true ∧
          (loader.isAvailable = true → ∃ result, loader.fetch (ask name) = .ok result))) :
          ¬ LoopCalm loaders ask skipped (name :: chain) := fun calm =>
        fails (calm [] name chain rfl (fun _ member => by cases member) other loader found)
      cases constructs : loader.constructs with
      | false =>
        have refused : construct loaders name = .error .other := by simp [construct, found, constructs]
        rw [refused]
        refine iff_of_false (fun ⟨served, impossible⟩ => by cases impossible) fun calm => ?_
        exact failing (by simp [constructs]) calm.1
      | true =>
        have constructed : construct loaders name = .ok loader := by
          simp [construct, found, constructs]
        rw [constructed]
        change (∃ served, (if (! loader.isAvailable) = true then _ else _) = _) ↔ _
        cases available : loader.isAvailable with
        | false =>
          refine passes (fun _ other found' => ?_) fun _ => serving_of_not_ready ?_
          · obtain rfl := Option.some.inj (found.symm.trans found')
            simp [constructs, available]
          · simp [isReady, found, available]
        | true =>
          have ready : isReady loaders name = true := by simp [isReady, found, constructs, available]
          rw [if_neg (by simp)]
          cases fetched : loader.fetch (ask name) with
          | error raised =>
            refine iff_of_false (fun ⟨served, impossible⟩ => by cases impossible) fun calm => ?_
            exact failing (by simp [available, fetched]) calm.1
          | ok frames =>
            have serves := serving_of_ready found ready fetched
            have head : name ≠ skipped → ∀ loader, loaders.registry name = some loader →
                loader.constructs = true ∧
                  (loader.isAvailable = true → ∃ result, loader.fetch (ask name) = .ok result) := by
              rintro - _ found'
              obtain rfl := Option.some.inj (found.symm.trans found')
              exact ⟨constructs, fun _ => ⟨frames, fetched⟩⟩
            change (∃ served, (if frames.isEmpty = true then _ else _) = _) ↔ _
            cases empty : frames.isEmpty with
            | true =>
              rw [empty, if_pos rfl] at serves
              exact passes head fun _ => serves
            | false =>
              rw [empty, if_neg (by simp)] at serves
              rw [if_neg (by simp), List.filter_cons_of_pos (by simpa using other), firstServing,
                List.findSome?_cons, serves]
              constructor
              · rintro ⟨served, returned⟩
                cases returned
                refine ⟨.cons head fun passed => ?_, rfl⟩
                rw [passed other] at serves
                cases serves
              · rintro ⟨-, rfl⟩
                exact ⟨some name, rfl⟩

theorem firstServing_filter (passed : serving loaders ask skipped = none) :
    firstServing loaders ask (chain.filter (· ≠ skipped)) = firstServing loaders ask chain := by
  unfold firstServing
  induction chain with
  | nil => rfl
  | cons name chain ih =>
    by_cases same : name = skipped
    · subst same
      rw [List.filter_cons_of_neg (by simp), List.findSome?_cons, passed, ih]
    · rw [List.filter_cons_of_pos (by simpa using same), List.findSome?_cons, List.findSome?_cons]
      cases serving loaders ask name with
      | none => exact ih
      | some result => rfl

theorem firstServing_none (quiet : ∀ name ∈ chain, isReady loaders name = false) :
    firstServing loaders ask chain = [] := by
  rw [firstServing, List.findSome?_eq_none_iff.mpr fun name member =>
    serving_of_not_ready (quiet name member)]
  rfl

end Loop

section Groups

variable [PyText] {loaders : Loaders Frame} {config : BacktestConfig} {market : PyString}
  {marketCodes : List PyString}

def groupFrames (loaders : Loaders Frame) (config : BacktestConfig) (market : PyString)
    (marketCodes : List PyString) : DataMap Frame :=
  firstServing loaders
    (autoRequest config marketCodes ((primarySource loaders market).getD "tushare"))
    (fallbackChain market)

-- The source asked first can be constructed and does not raise. Where it has no frames, no source
-- of the chain raises before one serves; where no source of the chain is ready, it has no frames.
def GroupCalm (loaders : Loaders Frame) (config : BacktestConfig) (market : PyString)
    (marketCodes : List PyString) : Prop :=
  ∃ srcName loader result, primarySource loaders market = some srcName ∧
    construct loaders srcName = .ok loader ∧
    loader.fetch (autoRequest config marketCodes srcName srcName) = .ok result ∧
    (result = [] →
      LoopCalm loaders (autoRequest config marketCodes srcName) srcName (fallbackChain market)) ∧
    (resolveLoader loaders market = none → result = [])

omit [PyText] in
theorem firstServing_resolved {ask : PyString → Request} {srcName : PyString} {loader : Loader Frame}
    {result : DataMap Frame} (resolved : resolveLoader loaders market = some srcName)
    (constructed : construct loaders srcName = .ok loader)
    (fetched : loader.fetch (ask srcName) = .ok result) (some : result ≠ []) :
    firstServing loaders ask (fallbackChain market) = result := by
  obtain ⟨ready, before, after, split, waiting⟩ := List.find?_eq_some_iff_append.mp resolved
  have serves := serving_of_ready (construct_ok.mp constructed).1 ready fetched
  rw [if_neg (by simpa using some)] at serves
  have quiet : before.findSome? (serving loaders ask) = none :=
    List.findSome?_eq_none_iff.mpr fun name member =>
      serving_of_not_ready (by simpa using waiting name member)
  rw [firstServing, split, List.findSome?_append, quiet, List.findSome?_cons, serves]
  rfl

omit [PyText] in
theorem resolveLoader_none (missing : resolveLoader loaders market = none) :
    ∀ name ∈ fallbackChain market, isReady loaders name = false := by
  simpa [resolveLoader] using missing

omit [PyText] in
theorem serving_empty {ask : PyString → Request} {name : PyString} {loader : Loader Frame}
    (constructed : construct loaders name = .ok loader) (fetched : loader.fetch (ask name) = .ok []) :
    serving loaders ask name = none := by
  cases ready : isReady loaders name with
  | false => exact serving_of_not_ready ready
  | true => exact serving_of_ready (construct_ok.mp constructed).1 ready fetched

theorem fetchGroup_iff :
    fetchGroup loaders config market marketCodes =
        .ok (groupFrames loaders config market marketCodes) ↔
      GroupCalm loaders config market marketCodes := by
  unfold fetchGroup groupFrames GroupCalm
  cases primary : primarySource loaders market with
  | none =>
    refine iff_of_false nofun ?_
    rintro ⟨srcName, loader, result, impossible, -⟩
    cases impossible
  | some srcName =>
    simp only [Option.getD_some, Outcome.bind_ok]
    constructor
    · rintro ⟨loader, constructed, result, fetched, ended⟩
      refine ⟨srcName, loader, result, rfl, constructed, fetched, fun empty => ?_, fun missing => ?_⟩
      · rw [if_pos (by simp [empty])] at ended
        obtain ⟨⟨frames, served⟩, looped, same⟩ := Outcome.bind_ok.mp ended
        exact ((runtimeFallback_iff frames).mp ⟨served, looped⟩).1
      · by_contra some
        rw [if_neg (by simpa using some), firstServing_none (resolveLoader_none missing)] at ended
        exact some (Except.ok.inj ended)
    · rintro ⟨_, loader, result, ⟨⟩, constructed, fetched, calm, standIn⟩
      refine ⟨loader, constructed, result, fetched, ?_⟩
      by_cases empty : result = []
      · subst empty
        obtain ⟨served, looped⟩ := (runtimeFallback_iff _).mpr ⟨calm rfl, rfl⟩
        rw [if_pos List.isEmpty_nil, looped, firstServing_filter (serving_empty constructed fetched)]
        rfl
      · have resolved : resolveLoader loaders market = some srcName := by
          cases found : resolveLoader loaders market with
          | none => exact absurd (standIn found) empty
          | some name => simpa [primarySource, found] using primary
        rw [if_neg (by simpa using empty), firstServing_resolved resolved constructed fetched empty]

structure AutoLaw (loaders : Loaders Frame) (config : BacktestConfig) : Prop where
  groups : ∀ group ∈ groupCodesByMarket loaders config.codes,
    fetchGroup loaders config group.1 group.2 = .ok (groupFrames loaders config group.1 group.2)
  merged : fetchAuto loaders config = .ok ((groupCodesByMarket loaders config.codes).foldl
    (fun merged group => update merged (groupFrames loaders config group.1 group.2)) [])

theorem autoLaw_iff : AutoLaw loaders config ↔
    ∀ group ∈ groupCodesByMarket loaders config.codes,
      GroupCalm loaders config group.1 group.2 := by
  constructor
  · exact fun law group member => fetchGroup_iff.mp (law.groups group member)
  · intro calm
    have fetched : ∀ group ∈ groupCodesByMarket loaders config.codes,
        fetchGroup loaders config group.1 group.2 =
          .ok (groupFrames loaders config group.1 group.2) :=
      fun group member => fetchGroup_iff.mpr (calm group member)
    refine ⟨fetched, ?_⟩
    clear calm
    unfold fetchAuto
    generalize groupCodesByMarket loaders config.codes = groups at fetched
    generalize ([] : DataMap Frame) = merged
    induction groups generalizing merged with
    | nil => rfl
    | cons group groups ih =>
      obtain ⟨first, rest⟩ := List.forall_mem_cons.mp fetched
      rw [List.foldlM_cons, first]
      exact ih rest _

end Groups

section Single

variable [PyText] {loaders : Loaders Frame} {config : BacktestConfig}

-- The sources behind the requested one: none behind an explicit local request.
def fallbackSources (loaders : Loaders Frame) (config : BacktestConfig) : List PyString :=
  match normalizeCodes config.codes config.source with
  | [] => []
  | code :: codes =>
    if auditExplicitLocal config.source (code :: codes) then []
    else (fallbackChain (loaders.detectMarket code)).filter (· ≠ config.source)

def singleFrames (loaders : Loaders Frame) (config : BacktestConfig) : DataMap Frame :=
  firstServing loaders (singleRequest config) (config.source :: fallbackSources loaders config)

def SingleLaw (loaders : Loaders Frame) (config : BacktestConfig) : Prop :=
  ∃ served, fetchSingle loaders config = .ok (singleFrames loaders config, served)

-- The class taken for the requested source can be constructed and does not raise, and without
-- frames from it no source of the chain raises before one serves. A class taken in place of a source
-- that is not ready gives the frames of the first source that serves, or none.
def SingleCalm (loaders : Loaders Frame) (config : BacktestConfig) : Prop :=
  ∃ name loader result, getLoader loaders config.source = some name ∧
    construct loaders name = .ok loader ∧
    loader.fetch (singleRequest config config.source) = .ok result ∧
    (result = [] → ∀ code codes, normalizeCodes config.codes config.source = code :: codes →
      auditExplicitLocal config.source (code :: codes) = false →
      LoopCalm loaders (singleRequest config) config.source
        (fallbackChain (loaders.detectMarket code))) ∧
    (isReady loaders config.source = false →
      result = [] ∨ result = singleFrames loaders config)

omit [PyText] in
theorem getLoader_ready {source name : PyString} (ready : isReady loaders source = true)
    (got : getLoader loaders source = some name) : name = source := by
  unfold isReady at ready
  unfold getLoader getLoaderClsWithFallback at got
  split at ready
  next => cases ready
  next loader found =>
    rw [found] at got
    simp only [ready, if_true, Option.some.injEq] at got
    exact got.symm

theorem singleFrames_eq {name : PyString} {loader : Loader Frame} {result : DataMap Frame}
    (got : getLoader loaders config.source = some name) (constructed : construct loaders name = .ok loader)
    (fetched : loader.fetch (singleRequest config config.source) = .ok result)
    (standIn : isReady loaders config.source = false →
      result = [] ∨ result = singleFrames loaders config) :
    singleFrames loaders config = if result.isEmpty then
      firstServing loaders (singleRequest config) (fallbackSources loaders config) else result := by
  cases ready : isReady loaders config.source with
  | false =>
    split
    next =>
      rw [singleFrames, firstServing, List.findSome?_cons, serving_of_not_ready ready, firstServing]
    next some => exact ((standIn ready).resolve_left (by simpa using some)).symm
  | true =>
    obtain rfl := getLoader_ready ready got
    rw [singleFrames, firstServing, List.findSome?_cons,
      serving_of_ready (construct_ok.mp constructed).1 ready fetched]
    cases result with
    | nil => rfl
    | cons entry rest => rfl

theorem singleLaw_iff : SingleLaw loaders config ↔ SingleCalm loaders config := by
  unfold SingleLaw fetchSingle SingleCalm
  cases got : getLoader loaders config.source with
  | none =>
    refine iff_of_false ?_ ?_
    · rintro ⟨served, impossible⟩
      cases impossible
    · rintro ⟨name, loader, result, impossible, -⟩
      cases impossible
  | some name =>
    simp only [Outcome.bind_ok]
    constructor
    · rintro ⟨served, loader, constructed, result, fetched, ended⟩
      refine ⟨name, loader, result, rfl, constructed, fetched, ?_, fun _ => ?_⟩
      · rintro rfl code codes normalized remote
        simp only [normalized, List.isEmpty_nil, remote, Bool.not_false, Bool.and_self, if_true] at ended
        obtain ⟨⟨frames, from'⟩, looped, -⟩ := Outcome.bind_ok.mp ended
        exact ((runtimeFallback_iff frames).mp ⟨from', looped⟩).1
      · by_cases empty : result = []
        · exact .inl empty
        · right
          have kept : result.isEmpty = false := by simpa using empty
          cases normalized : normalizeCodes config.codes config.source with
          | nil =>
            simp only [normalized] at ended
            exact congrArg Prod.fst (Except.ok.inj ended)
          | cons code codes =>
            simp only [normalized, kept, Bool.false_and, Bool.false_eq_true, if_false] at ended
            exact congrArg Prod.fst (Except.ok.inj ended)
    · rintro ⟨_, loader, result, ⟨⟩, constructed, fetched, calm, standIn⟩
      have frames := singleFrames_eq got constructed fetched standIn
      cases normalized : normalizeCodes config.codes config.source with
      | nil =>
        refine ⟨config.source, loader, constructed, result, fetched, ?_⟩
        have alone : fallbackSources loaders config = [] := by simp [fallbackSources, normalized]
        rw [frames, alone]
        cases result with
        | nil => rfl
        | cons entry rest => rfl
      | cons code codes =>
        by_cases stays : (result.isEmpty && ! auditExplicitLocal config.source (code :: codes)) = true
        · obtain ⟨empty, remote⟩ := Bool.and_eq_true_iff.mp stays
          have remote : auditExplicitLocal config.source (code :: codes) = false := by simpa using remote
          have sources : fallbackSources loaders config =
              (fallbackChain (loaders.detectMarket code)).filter (· ≠ config.source) := by
            simp [fallbackSources, normalized, remote]
          obtain ⟨served, looped⟩ := (runtimeFallback_iff _).mpr
            ⟨calm (by simpa using empty) code codes normalized remote, rfl⟩
          refine ⟨served.getD config.source, loader, constructed, result, fetched, ?_⟩
          simp only [stays, if_true, looped]
          rw [frames, if_pos empty, sources]
          rfl
        · refine ⟨config.source, loader, constructed, result, fetched, ?_⟩
          simp only [if_neg stays]
          rw [frames]
          split
          next empty =>
            have localOnly : auditExplicitLocal config.source (code :: codes) = true := by
              simpa [empty] using stays
            have alone : fallbackSources loaders config = [] := by
              simp [fallbackSources, normalized, localOnly]
            rw [alone, List.isEmpty_iff.mp empty]
            rfl
          next => rfl

end Single

section Config

variable [PyText]

structure Lawful (loaders : Loaders Frame) (config : BacktestConfig) : Prop where
  auto : config.source = "auto" → AutoLaw loaders config
  single : config.source ≠ "auto" → SingleLaw loaders config

structure Calm (loaders : Loaders Frame) (config : BacktestConfig) : Prop where
  auto : config.source = "auto" → ∀ group ∈ groupCodesByMarket loaders config.codes,
    GroupCalm loaders config group.1 group.2
  single : config.source ≠ "auto" → SingleCalm loaders config

theorem lawful_iff_calm (loaders : Loaders Frame) (config : BacktestConfig) :
    Lawful loaders config ↔ Calm loaders config := by
  constructor
  · exact fun law => ⟨fun auto => autoLaw_iff.mp (law.auto auto),
      fun single => singleLaw_iff.mp (law.single single)⟩
  · exact fun calm => ⟨fun auto => autoLaw_iff.mpr (calm.auto auto),
      fun single => singleLaw_iff.mpr (calm.single single)⟩

end Config

def brokenTencent : Loaders Unit where
  registry name :=
    if name = "tencent" then some ⟨true, true, ["a_share"], fun _ => .error .other⟩
    else if name = "eastmoney" then some ⟨true, true, ["a_share"], fun request =>
      .ok (request.codes.map fun code => (code, ()))⟩
    else none
  detectMarket _ := "a_share"

def bankConfig : BacktestConfig where
  codes := ["600000.SH"]
  startDate := "2024-01-01"
  endDate := "2024-06-30"
  source := "auto"

theorem lawful_fails :
    ¬ ∀ (_ : PyText) (loaders : Loaders Unit) (config : BacktestConfig), Lawful loaders config := by
  intro holds
  have law := @Lawful.auto Unit asciiText _ _ (holds asciiText brokenTencent bankConfig) rfl
  have merged := @AutoLaw.merged Unit asciiText _ _ law
  have aborted : (@fetchAuto Unit asciiText brokenTencent bankConfig).isOk = false := by decide +kernel
  rw [merged] at aborted
  cases aborted

end SynapseYield.Backtest
