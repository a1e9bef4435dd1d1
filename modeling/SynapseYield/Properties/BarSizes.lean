import Mathlib.Data.List.Basic
import SynapseYield.Backtest.Intervals
import SynapseYield.Shared.Outcome

set_option autoImplicit false

namespace SynapseYield.Backtest

open Shared

variable {Row : Type}

def Sized (interval : PyString) (frame : Bars Row) : Prop :=
  ∀ bar ∈ frame, intervalSize interval = some bar.size

def CacheSized (cache : LoaderCache CachePayload (Bars Row)) : Prop :=
  ∀ payload frame, cache payload = some frame → Sized payload.timeframe frame

section Sources

variable [PyText]

-- The intervals that a loader serves for a code: it is never asked for the bars of such a code, or
-- gives bars of this size only.
def Serves (files : Files Row) (code interval : PyString) : LoaderName → Prop
  | .tencent => Tencent.tencentCode code = none ∨ interval = "1D"
  | .baostock => Baostock.bsCode code = none ∨ interval = "1D"
  | .tiingo => Tiingo.toTiingoSymbol code = none ∨ interval = "1D"
  | .alphavantage => code.strip.upper = "" ∨ interval = "1D"
  | .stooq => interval = "1D"
  | .finnhub => interval = "1D"
  | .akshare => interval = "1D"
  | .yahoo => Yahoo.isUsOrHk code = false ∨ interval ≠ "1m"
  | .futu => interval = "1D" ∨ interval = "1H" ∨ interval = "4H"
  | .localFiles => ∀ frame, files (Local.clean code) = some (some frame) → Sized interval frame
  | .tushare => True
  | .okx => True
  | .yfinance => True
  | .mootdx => True
  | .ccxt => True
  | .eastmoney => True
  | .sina => True
  | .fmp => True

-- What one loader delivers for a code and leaves in the cache, whatever the providers answer.
def SourceSized (pd : Timestamps) (files : Files Row) (loader : LoaderName) (code interval : PyString) :
    Prop :=
  ∀ (providers : Providers Row) (request : Request) (cache : LoaderCache CachePayload (Bars Row)),
    request.interval = interval → (loader.source providers files).refuses interval = false →
    CacheSized cache →
    (∀ frame, (fetchCode providers pd files loader request code cache).1 = some frame →
      Sized interval frame) ∧
    CacheSized (fetchCode providers pd files loader request code cache).2

variable {pd : Timestamps} {files : Files Row} {providers : Providers Row} {loader : LoaderName}
  {code interval : PyString}

-- The size that a provider is asked for, if it is asked, is that of the interval.
def asksFor (interval : PyString) (size : Option BarSize) : Bool :=
  size.all fun size => intervalSize interval = some size

omit [PyText] in
theorem asksFor_self : asksFor interval (intervalSize interval) = true := by
  cases size : intervalSize interval with
  | none => rfl
  | some size' => simp [asksFor, size]

omit [PyText] in
theorem asksFor_day : asksFor interval (some .day) = true ↔ intervalSize interval = some .day := by
  simp [asksFor]

omit [PyText] in
theorem bars_sized {symbol : PyString} {size : Option BarSize} {frame : Bars Row}
    (asks : asksFor interval size = true) (given : bars providers loader symbol size = some frame) :
    Sized interval frame := by
  cases size with
  | none => cases given
  | some size =>
    obtain ⟨rows, -, same⟩ := Option.bind_eq_some_iff.mp given
    obtain rfl := Option.some.inj same
    intro bar member
    obtain ⟨row, -, rfl⟩ := List.mem_map.mp member
    simpa [asksFor] using asks

omit [PyText] in
theorem text_valid : ∀ interval ∈ validIntervals,
    interval.isAscii = true ∧ Ascii.strip interval = interval ∧ interval ≠ "" := by
  decide +kernel

omit [PyText] in
theorem tables_valid : ∀ interval ∈ validIntervals,
    (intervalSize interval = some .day ↔ interval = "1D") ∧
    asksFor interval
      ((Tushare.freqMap.lookup interval).bind fun freq => tushareSizes.lookup freq) = true ∧
    asksFor interval (ccxtSizes.lookup ((Ccxt.intervalMap.lookup interval).getD "1d")) = true ∧
    asksFor interval ((Eastmoney.kltByInterval.lookup interval).bind kltSize) = true ∧
    asksFor interval (((Mootdx.dailyFreq.lookup interval).or
      (Mootdx.intradayFreq.lookup interval)).bind mootdxSize) = true ∧
    akshareSizes.lookup ((Akshare.intervalMapDaily.lookup interval).getD "daily") = some .day ∧
    (Ascii.upper interval ∈ Sina.dailyNames ↔ interval = "1D") := by
  decide +kernel

section Valid

variable (valid : interval ∈ validIntervals)

include valid

omit [PyText] in
theorem isAscii_valid : interval.isAscii = true := (text_valid interval valid).1

theorem strip_valid : interval.strip = interval := by
  rw [PyString.strip, if_pos (isAscii_valid valid)]
  exact (text_valid interval valid).2.1

theorem upper_valid : interval.upper = Ascii.upper interval := if_pos (isAscii_valid valid)

theorem lower_valid : interval.lower = Ascii.lower interval := if_pos (isAscii_valid valid)

theorem requestedInterval_valid : requestedInterval interval = interval := by
  rw [requestedInterval, strip_valid valid]
  split
  next empty => exact absurd empty (text_valid interval valid).2.2
  next => rfl

omit [PyText] in
theorem Okx.bar_valid : Okx.bar interval = interval := if_pos valid

omit [PyText] in
theorem day_valid : intervalSize interval = some .day ↔ interval = "1D" :=
  (tables_valid interval valid).1

omit [PyText] in
theorem Tushare.asks_valid :
    asksFor interval ((Tushare.freqMap.lookup interval).bind fun freq => tushareSizes.lookup freq) =
      true :=
  (tables_valid interval valid).2.1

omit [PyText] in
theorem Ccxt.asks_valid :
    asksFor interval (ccxtSizes.lookup ((Ccxt.intervalMap.lookup interval).getD "1d")) = true :=
  (tables_valid interval valid).2.2.1

omit [PyText] in
theorem Eastmoney.asks_valid :
    asksFor interval ((Eastmoney.kltByInterval.lookup interval).bind kltSize) = true :=
  (tables_valid interval valid).2.2.2.1

omit [PyText] in
theorem Mootdx.asks_valid : asksFor interval
    (((Mootdx.dailyFreq.lookup interval).or (Mootdx.intradayFreq.lookup interval)).bind mootdxSize) =
      true :=
  (tables_valid interval valid).2.2.2.2.1

omit [PyText] in
theorem Akshare.asks_valid :
    akshareSizes.lookup ((Akshare.intervalMapDaily.lookup interval).getD "daily") = some .day :=
  (tables_valid interval valid).2.2.2.2.2.1

theorem Yfinance.asks_valid (plain : interval ≠ "4H") :
    asksFor interval (yahooSizes.lookup (Yfinance.toYfinanceInterval interval)) = true := by
  rw [Yfinance.toYfinanceInterval, requestedInterval_valid valid, lower_valid valid]
  revert interval
  decide +kernel

theorem Yahoo.asks_valid :
    asksFor interval (yahooSizes.lookup (Yahoo.toYahooInterval interval)) = true ↔
      interval ≠ "1m" := by
  rw [Yahoo.toYahooInterval, requestedInterval_valid valid, upper_valid valid, lower_valid valid]
  revert interval
  decide +kernel

theorem Futu.asks_valid :
    asksFor interval (futuSizes.lookup (Futu.toFutuKtype interval)) = true ↔
      interval = "1D" ∨ interval = "1H" ∨ interval = "4H" := by
  rw [Futu.toFutuKtype, strip_valid valid]
  revert interval
  decide +kernel

theorem Sina.refuses_valid : interval.upper ∈ Sina.dailyNames ↔ interval = "1D" := by
  rw [upper_valid valid]
  exact (tables_valid interval valid).2.2.2.2.2.2

theorem timeframe_valid : (loader.source providers files).timeframe interval = interval := by
  cases loader <;> first
    | rfl
    | exact Okx.bar_valid valid
    | exact requestedInterval_valid valid

end Valid

section FetchOne

omit [PyText] in
theorem dailySource_sized {symbol : PyString → Option PyString} {frame : Bars Row}
    (given : (dailySource providers loader symbol).fetchOne code interval = some frame)
    (daily : symbol code = none ∨ interval = "1D") : Sized interval frame := by
  change (symbol code).bind _ = _ at given
  obtain ⟨ticker, mapped, given⟩ := Option.bind_eq_some_iff.mp given
  obtain unmapped | rfl := daily
  · rw [unmapped] at mapped
    cases mapped
  · have asks : asksFor "1D" (some .day) = true := by decide +kernel
    exact bars_sized asks given

theorem fetchOne_sized (valid : interval ∈ validIntervals) (serves : Serves files code interval loader)
    (kept : (loader.source providers files).refuses interval = false)
    (taken : (loader.source providers files).takes code interval = true) {frame : Bars Row}
    (given : (loader.source providers files).fetchOne code interval = some frame) :
    Sized interval frame := by
  cases loader with
  | tushare =>
    dsimp only [LoaderName.source, Tushare.source] at given
    split at given
    next daily =>
      split at given
      next => cases given
      next => exact bars_sized (asksFor_day.mpr ((day_valid valid).mpr daily)) given
    next => exact bars_sized (Tushare.asks_valid valid) given
  | okx =>
    refine bars_sized ?_ given
    rw [Okx.bar_valid valid]
    exact asksFor_self
  | yfinance =>
    dsimp only [LoaderName.source, Yfinance.source] at given
    rw [requestedInterval_valid valid] at given
    split at given
    next fourHours =>
      subst fourHours
      obtain ⟨hourly, -, rfl⟩ := Option.map_eq_some_iff.mp given
      intro bar member
      obtain ⟨row, -, rfl⟩ := List.mem_map.mp member
      rfl
    next plain => exact bars_sized (Yfinance.asks_valid valid plain) given
  | akshare =>
    have asks : asksFor interval (some .day) = true := asksFor_day.mpr ((day_valid valid).mpr serves)
    dsimp only [LoaderName.source, Akshare.source] at given
    rw [Akshare.asks_valid valid] at given
    simp only [ite_self] at given
    exact bars_sized asks given
  | baostock => exact dailySource_sized given serves
  | tencent => exact dailySource_sized given serves
  | mootdx =>
    dsimp only [LoaderName.source, Mootdx.source] at given
    split at given
    next daily => exact bars_sized (asksFor_day.mpr ((day_valid valid).mpr daily)) given
    next => exact bars_sized (Mootdx.asks_valid valid) given
  | ccxt => exact bars_sized (Ccxt.asks_valid valid) given
  | futu => exact bars_sized ((Futu.asks_valid valid).mpr serves) given
  | eastmoney => exact bars_sized (Eastmoney.asks_valid valid) given
  | sina =>
    have daily : interval.upper ∈ Sina.dailyNames := by
      simpa [LoaderName.source, Sina.source] using kept
    have given : (dailySource providers .sina fun code =>
        if Sina.isUsEquity code then some code else none).fetchOne code interval = some frame := given
    exact dailySource_sized given (.inr ((Sina.refuses_valid valid).mp daily))
  | stooq => exact dailySource_sized given (.inr serves)
  | yahoo =>
    dsimp only [LoaderName.source, Yahoo.source] at given
    split at given
    next listed =>
      have other : interval ≠ "1m" := serves.resolve_left (by simp [listed])
      exact bars_sized ((Yahoo.asks_valid valid).mpr other) given
    next => cases given
  | finnhub => exact dailySource_sized given (.inr serves)
  | alphavantage =>
    refine dailySource_sized given (serves.imp_left fun blank => ?_)
    exact if_pos blank
  | tiingo => exact dailySource_sized given serves
  | fmp =>
    have daily : interval = "1D" := by simpa [LoaderName.source, Fmp.source] using taken
    have given : (dailySource providers .fmp fun code => if Fmp.fmpSymbol code = "" then none
        else some (Fmp.fmpSymbol code)).fetchOne code interval = some frame := given
    exact dailySource_sized given (.inr daily)
  | localFiles =>
    dsimp only [LoaderName.source, Local.source] at given
    exact serves frame (Option.join_eq_some_iff.mp given)

def answering (row : Row) : Providers Row where
  reading _ _ := ⟨false, 0⟩
  writing _ _ := ⟨false, 0⟩
  fails _ _ := none
  reply _ _ _ := some [row]
  resample rows := rows
  isDigit _ := false
  symbolMarketMap _ := false
  failedCodes _ := false

omit [PyText] in
theorem bars_answering (row : Row) (loader : LoaderName) (symbol : PyString) (size : BarSize) :
    bars (answering row) loader symbol (some size) = some [⟨size, row⟩] := rfl

omit [PyText] in
theorem sized_bar {size : BarSize} {row : Row} :
    Sized interval [⟨size, row⟩] ↔ intervalSize interval = some size := by
  simp [Sized]

theorem serves_of_sized (row : Row) (valid : interval ∈ validIntervals)
    (sized : (loader.source (answering row) files).refuses interval = false →
      (loader.source (answering row) files).takes code interval = true →
      ∀ frame, (loader.source (answering row) files).fetchOne code interval = some frame →
        Sized interval frame) : Serves files code interval loader := by
  have daily {symbol : PyString → Option PyString}
      (delivers : ∀ frame, (dailySource (answering row) loader symbol).fetchOne code interval =
        some frame → Sized interval frame) : symbol code = none ∨ interval = "1D" := by
    cases mapped : symbol code with
    | none => exact .inl rfl
    | some ticker =>
      refine .inr ((day_valid valid).mp (sized_bar.mp (delivers [⟨.day, row⟩] ?_)))
      change (symbol code).bind _ = _
      rw [mapped]
      rfl
  cases loader with
  | tencent => exact daily (sized rfl rfl)
  | baostock => exact daily (sized rfl rfl)
  | tiingo => exact daily (sized rfl rfl)
  | alphavantage =>
    obtain blank | day := daily (sized rfl rfl)
    · exact .inl (by simpa using blank)
    · exact .inr day
  | stooq => exact (daily (sized rfl rfl)).resolve_left nofun
  | finnhub => exact (daily (sized rfl rfl)).resolve_left nofun
  | akshare =>
    refine (day_valid valid).mp (sized_bar.mp (sized rfl rfl [⟨.day, row⟩] ?_))
    dsimp only [LoaderName.source, Akshare.source]
    rw [Akshare.asks_valid valid]
    simp only [ite_self, bars_answering]
  | yahoo =>
    cases listed : Yahoo.isUsOrHk code with
    | false => exact .inl listed
    | true =>
      refine .inr ((Yahoo.asks_valid valid).mp ?_)
      cases asked : yahooSizes.lookup (Yahoo.toYahooInterval interval) with
      | none => rfl
      | some size =>
        have delivered := sized rfl rfl [⟨size, row⟩]
        dsimp only [LoaderName.source, Yahoo.source] at delivered
        rw [listed, if_pos rfl, asked] at delivered
        simpa [asksFor] using sized_bar.mp (delivered rfl)
  | futu =>
    refine (Futu.asks_valid valid).mp ?_
    cases asked : futuSizes.lookup (Futu.toFutuKtype interval) with
    | none => rfl
    | some size =>
      have delivered := sized rfl rfl [⟨size, row⟩]
      dsimp only [LoaderName.source, Futu.source] at delivered
      rw [asked] at delivered
      simpa [asksFor] using sized_bar.mp (delivered rfl)
  | localFiles =>
    intro frame held
    refine sized rfl ?_ frame ?_
    · simp [LoaderName.source, Local.source, held]
    · simp [LoaderName.source, Local.source, held]
  | tushare => trivial
  | okx => trivial
  | yfinance => trivial
  | mootdx => trivial
  | ccxt => trivial
  | eastmoney => trivial
  | sina => trivial
  | fmp => trivial

end FetchOne

section FetchCode

variable {request : Request} {cache : LoaderCache CachePayload (Bars Row)}

omit [PyText] in
theorem CacheSized.update (held : CacheSized cache) {payload : CachePayload} {frame : Bars Row}
    (sized : Sized payload.timeframe frame) :
    CacheSized (Function.update cache payload (some frame)) := by
  intro other entry found
  by_cases same : other = payload
  · subst same
    rw [Function.update_self] at found
    obtain rfl := Option.some.inj found
    exact sized
  · rw [Function.update_of_ne same] at found
    exact held other entry found

variable (pd) in
theorem fetchCode_sized (valid : request.interval ∈ validIntervals)
    (serves : Serves files code request.interval loader)
    (kept : (loader.source providers files).refuses request.interval = false)
    (held : CacheSized cache) :
    (∀ frame, (fetchCode providers pd files loader request code cache).1 = some frame →
      Sized request.interval frame) ∧
    CacheSized (fetchCode providers pd files loader request code cache).2 := by
  cases taken : (loader.source providers files).takes code request.interval with
  | false =>
    simp only [fetchCode, taken, Bool.not_false, if_true]
    exact ⟨fun frame none => (by cases none), held⟩
  | true =>
    have fresh {frame : Bars Row}
        (given : (loader.source providers files).fetchOne code request.interval = some frame) :
        Sized request.interval frame := fetchOne_sized valid serves kept taken given
    simp only [fetchCode, taken, Bool.not_true, Bool.false_eq_true, if_false]
    split
    next =>
      split
      next frame after called =>
        obtain ⟨cached, found, rfl, rfl⟩ | ⟨-, given, put⟩ := cachedLoaderFetch_ok called
        · obtain ⟨-, payload, normalized, entry⟩ := loaderCacheGet_some.mp found
          refine ⟨?_, held⟩
          rintro _ ⟨⟩
          have times := (payload_timeframe normalized).trans (timeframe_valid valid)
          rw [← times]
          exact held payload cached entry
        · have given := Except.ok.inj given
          refine ⟨fun frame same => fresh (given.trans same), ?_⟩
          obtain rfl | ⟨payload, stored, rfl, -, -, normalized, rfl⟩ := loaderCachePut_ok put
          · exact held
          · refine held.update ?_
            rw [id, payload_timeframe normalized, timeframe_valid valid]
            exact fresh given
      next => exact ⟨fun frame none => (by cases none), held⟩
    next => exact ⟨fun frame given => fresh given, held⟩

theorem sourceSized_iff [Inhabited Row] (valid : interval ∈ validIntervals) :
    SourceSized pd files loader code interval ↔ Serves files code interval loader := by
  constructor
  · intro sized
    refine serves_of_sized default valid fun kept taken frame given => ?_
    have delivered := (sized (answering default) ⟨[], "", "", none, interval⟩ (fun _ => none) rfl kept
      (fun payload frame none => (by cases none))).1 frame
    refine delivered ?_
    simp only [fetchCode, taken, Bool.not_true, Bool.false_eq_true, if_false]
    split
    next =>
      rw [cachedLoaderFetch_open rfl rfl rfl]
      exact given
    next => exact given
  · rintro serves providers request cache rfl kept held
    exact fetchCode_sized pd valid serves kept held

variable (pd) in
theorem fetchCodes_sized (valid : request.interval ∈ validIntervals)
    (kept : (loader.source providers files).refuses request.interval = false) {codes : List PyString}
    (serves : ∀ code ∈ codes, Serves files code request.interval loader)
    {result : DataMap (Bars Row)} (sized : ∀ entry ∈ result, Sized request.interval entry.2)
    (held : CacheSized cache) :
    (∀ entry ∈ (fetchCodes providers pd files loader request codes result cache).1,
      Sized request.interval entry.2) ∧
    CacheSized (fetchCodes providers pd files loader request codes result cache).2 := by
  induction codes generalizing result cache with
  | nil => exact ⟨sized, held⟩
  | cons code codes ih =>
    obtain ⟨first, rest⟩ := List.forall_mem_cons.mp serves
    obtain ⟨delivered, stored⟩ := fetchCode_sized pd valid first kept held
    rw [fetchCodes]
    split
    next after fetched =>
      rw [fetched] at stored
      exact ih rest sized stored
    next frame after fetched =>
      rw [fetched] at delivered stored
      split
      next => exact ih rest sized stored
      next =>
        refine ih rest (fun entry member => ?_) stored
        obtain old | new := List.mem_append.mp member
        · exact sized entry (List.mem_of_mem_filter old)
        · obtain rfl := List.mem_singleton.mp new
          exact delivered frame rfl

theorem fetch_sized (valid : request.interval ∈ validIntervals)
    (serves : ∀ code ∈ request.codes, Serves files code request.interval loader)
    (held : CacheSized cache) {frames : DataMap (Bars Row)}
    {after : LoaderCache CachePayload (Bars Row)}
    (fetched : loader.fetch providers pd files cache request = .ok (frames, after)) :
    (∀ entry ∈ frames, Sized request.interval entry.2) ∧ CacheSized after := by
  unfold LoaderName.fetch at fetched
  split at fetched
  next => cases fetched
  next =>
    split at fetched
    next => cases fetched
    next kept =>
      have none : ∀ entry ∈ ([] : DataMap (Bars Row)), Sized request.interval entry.2 :=
        fun entry member => by cases member
      have sized := fetchCodes_sized pd valid (by simpa using kept) serves none held
      rw [Except.ok.inj fetched] at sized
      exact sized

end FetchCode

end Sources

section Runs

variable [PyText]

def standIns (source : PyString) : List PyString :=
  source :: "tushare" ::
    if source ∈ noNetworkFallbackSources then []
    else (((LoaderName.ofName source).map LoaderName.markets).getD []).flatMap fallbackChain

def consulted (market : PyString) : List PyString :=
  fallbackChain market ++ standIns ((marketToSource.lookup market).getD "tushare")

-- The requests that a run can come to, by the loader that they go to.
inductive Asked (detectMarket : PyString → PyString) (config : BacktestConfig) :
    LoaderName → Request → Prop
  | auto {group : PyString × List PyString} {loader : LoaderName} (srcName : PyString) :
    config.source = "auto" →
    group ∈ groupCodesByMarket (⟨fun _ => none, detectMarket⟩ : Loaders Unit) config.codes →
    loader.name ∈ consulted group.1 →
    Asked detectMarket config loader (autoRequest config group.2 srcName loader.name)
  | single {loader : LoaderName} :
    config.source ≠ "auto" → loader.name ∈ standIns config.source →
    Asked detectMarket config loader (singleRequest config config.source)
  | fallback {loader : LoaderName} {code : PyString} {codes : List PyString} :
    config.source ≠ "auto" → normalizeCodes config.codes config.source = code :: codes →
    auditExplicitLocal config.source (code :: codes) = false →
    loader.name ∈ fallbackChain (detectMarket code) →
    Asked detectMarket config loader (singleRequest config loader.name)

-- Whatever the state of the world, a loader that is asked delivers and stores frames of the
-- requested interval only, and so does the fetch of the engine.
structure Delivered (pd : Timestamps) (files : Files Row) (detectMarket : PyString → PyString)
    (config : BacktestConfig) : Prop where
  sources : ∀ loader request, Asked detectMarket config loader request → ∀ code ∈ request.codes,
    SourceSized pd files loader code config.interval
  engine : ∀ world : World Row, (∀ loader request, CacheSized (world.cache loader request)) →
    ∀ frames, fetchFrames pd files detectMarket world config = .ok frames →
      ∀ entry ∈ frames, Sized config.interval entry.2

variable {Frame : Type} {loaders : Loaders Frame} {market source name skipped : PyString}
  {chain : List PyString} {config : BacktestConfig} {frames : DataMap Frame}

def ServedBy (loaders : Loaders Frame) (ask : PyString → Request) (names : List PyString)
    (frames : DataMap Frame) : Prop :=
  frames = [] ∨ ∃ name ∈ names, ∃ loader, loaders.registry name = some loader ∧
    loader.fetch (ask name) = .ok frames

omit [PyText] in
theorem runtimeFallback_served {ask : PyString → Request} {served : Option PyString}
    (returned : runtimeFallback loaders skipped ask chain = .ok (frames, served)) :
    ServedBy loaders ask chain frames := by
  induction chain with
  | nil =>
    cases returned
    exact .inl rfl
  | cons name chain ih =>
    have later : ServedBy loaders ask chain frames → ServedBy loaders ask (name :: chain) frames :=
      Or.imp_right fun ⟨other, member, found⟩ => ⟨other, .tail _ member, found⟩
    rw [runtimeFallback] at returned
    split at returned
    next => exact later (ih returned)
    next =>
      obtain ⟨loader, constructed, returned⟩ := Outcome.bind_ok.mp returned
      split at returned
      next => exact later (ih returned)
      next =>
        obtain ⟨result, fetched, returned⟩ := Outcome.bind_ok.mp returned
        split at returned
        next => exact later (ih returned)
        next =>
          obtain ⟨rfl, -⟩ := Prod.mk.inj (Except.ok.inj returned)
          exact .inr ⟨name, .head _, loader, (construct_ok.mp constructed).1, fetched⟩

omit [PyText] in
theorem resolveLoader_mem (resolved : resolveLoader loaders market = some name) :
    name ∈ fallbackChain market := List.mem_of_find?_eq_some resolved

def Registered (loaders : Loaders Frame) : Prop :=
  ∀ name loader, loaders.registry name = some loader →
    ∃ known, LoaderName.ofName name = some known ∧ loader.markets.Perm known.markets

omit [PyText] in
theorem getLoader_mem (registered : Registered loaders) (got : getLoader loaders source = some name) :
    name ∈ standIns source := by
  unfold getLoader at got
  split at got
  next other found =>
    obtain rfl := Option.some.inj got
    unfold getLoaderClsWithFallback at found
    split at found
    next => cases found
    next loader known =>
      split at found
      next =>
        obtain rfl := Option.some.inj found
        exact .head _
      next =>
        split at found
        next => cases found
        next network =>
          obtain ⟨market, member, resolved⟩ := List.exists_of_findSome?_eq_some found
          obtain ⟨named, name', same⟩ := registered source loader known
          refine .tail _ (.tail _ ?_)
          rw [if_neg network, name']
          exact List.mem_flatMap.mpr ⟨market, same.mem_iff.mp member, resolveLoader_mem resolved⟩
  next =>
    split at got
    next =>
      obtain rfl := Option.some.inj got
      exact .tail _ (.head _)
    next => cases got

omit [PyText] in
theorem primarySource_mem (registered : Registered loaders)
    (primary : primarySource loaders market = some name) : name ∈ consulted market := by
  unfold primarySource at primary
  split at primary
  next other resolved =>
    obtain rfl := Option.some.inj primary
    exact List.mem_append_left _ (resolveLoader_mem resolved)
  next => exact List.mem_append_right _ (getLoader_mem registered primary)

theorem fetchGroup_served {marketCodes : List PyString} (registered : Registered loaders)
    (fetched : fetchGroup loaders config market marketCodes = .ok frames) :
    ∃ srcName, ServedBy loaders (autoRequest config marketCodes srcName) (consulted market) frames := by
  unfold fetchGroup at fetched
  split at fetched
  next => cases fetched
  next srcName primary =>
    refine ⟨srcName, ?_⟩
    obtain ⟨loader, constructed, fetched⟩ := Outcome.bind_ok.mp fetched
    obtain ⟨result, given, fetched⟩ := Outcome.bind_ok.mp fetched
    split at fetched
    next =>
      obtain ⟨⟨looped, served⟩, returned, fetched⟩ := Outcome.bind_ok.mp fetched
      obtain rfl := Except.ok.inj fetched
      obtain empty | ⟨name, member, found⟩ := runtimeFallback_served returned
      · exact .inl empty
      · exact .inr ⟨name, List.mem_append_left _ member, found⟩
    next =>
      obtain rfl := Except.ok.inj fetched
      exact .inr ⟨srcName, primarySource_mem registered primary, loader,
        (construct_ok.mp constructed).1, given⟩

theorem fetchAuto_mem {entry : PyString × Frame} (fetched : fetchAuto loaders config = .ok frames)
    (member : entry ∈ frames) :
    ∃ group ∈ groupCodesByMarket loaders config.codes, ∃ result,
      fetchGroup loaders config group.1 group.2 = .ok result ∧ entry ∈ result := by
  unfold fetchAuto at fetched
  generalize groupCodesByMarket loaders config.codes = groups at fetched
  have old : entry ∉ ([] : DataMap Frame) := fun member => by cases member
  generalize ([] : DataMap Frame) = merged at fetched old
  induction groups generalizing merged with
  | nil =>
    obtain rfl := Except.ok.inj fetched
    exact absurd member old
  | cons group groups ih =>
    rw [List.foldlM_cons] at fetched
    obtain ⟨merged', first, rest⟩ := Outcome.bind_ok.mp fetched
    obtain ⟨result, given, same⟩ := Outcome.bind_ok.mp first
    obtain rfl := Except.ok.inj same
    by_cases here : entry ∈ result
    · exact ⟨group, .head _, result, given, here⟩
    · have still : entry ∉ update merged result := by
        intro among
        obtain before | new := List.mem_append.mp among
        · exact old (List.mem_of_mem_filter before)
        · exact here new
      obtain ⟨other, among, found⟩ := ih _ rest still
      exact ⟨other, .tail _ among, found⟩

theorem fetchSingle_served {served : PyString} (registered : Registered loaders)
    (fetched : fetchSingle loaders config = .ok (frames, served)) :
    ServedBy loaders (fun _ => singleRequest config config.source) (standIns config.source) frames ∨
    ∃ code codes, normalizeCodes config.codes config.source = code :: codes ∧
      auditExplicitLocal config.source (code :: codes) = false ∧
      ServedBy loaders (singleRequest config) (fallbackChain (loaders.detectMarket code)) frames := by
  unfold fetchSingle at fetched
  dsimp only at fetched
  split at fetched
  next => cases fetched
  next name got =>
    obtain ⟨loader, constructed, fetched⟩ := Outcome.bind_ok.mp fetched
    obtain ⟨dataMap, given, fetched⟩ := Outcome.bind_ok.mp fetched
    have direct : ServedBy loaders (fun _ => singleRequest config config.source)
        (standIns config.source) dataMap :=
      .inr ⟨name, getLoader_mem registered got, loader, (construct_ok.mp constructed).1, given⟩
    split at fetched
    next =>
      obtain ⟨rfl, -⟩ := Prod.mk.inj (Except.ok.inj fetched)
      exact .inl direct
    next code codes normalized =>
      split at fetched
      next remote =>
        obtain ⟨⟨looped, from'⟩, returned, fetched⟩ := Outcome.bind_ok.mp fetched
        obtain ⟨rfl, -⟩ := Prod.mk.inj (Except.ok.inj fetched)
        rw [normalized] at remote
        refine .inr ⟨code, codes, normalized, ?_, runtimeFallback_served returned⟩
        simpa using (Bool.and_eq_true_iff.mp remote).2
      next =>
        obtain ⟨rfl, -⟩ := Prod.mk.inj (Except.ok.inj fetched)
        exact .inl direct

omit [PyText] in
theorem ofName_some {loader : LoaderName} (found : LoaderName.ofName name = some loader) :
    loader.name = name := by
  simpa using List.find?_some found

section World

variable {pd : Timestamps} {files : Files Row} {detectMarket : PyString → PyString}
  {world : World Row}

theorem registry_world {served : Loader (Bars Row)}
    (found : (world.loaders pd files detectMarket).registry name = some served) :
    ∃ loader, LoaderName.ofName name = some loader ∧ served = world.loader pd files loader := by
  obtain ⟨loader, named, imported⟩ := Option.bind_eq_some_iff.mp found
  split at imported
  next => exact ⟨loader, named, (Option.some.inj imported).symm⟩
  next => cases imported

theorem registered_world : Registered (world.loaders pd files detectMarket) := by
  intro name served found
  obtain ⟨loader, named, rfl⟩ := registry_world found
  exact ⟨loader, named, world.sameMarkets loader⟩

theorem ServedBy.sized {config : BacktestConfig} {frames : DataMap (Bars Row)} {names : List PyString}
    {ask : PyString → Request} (valid : config.interval ∈ validIntervals)
    (held : ∀ loader request, CacheSized (world.cache loader request))
    (asks : ∀ name ∈ names, (ask name).interval = config.interval)
    (serves : ∀ loader : LoaderName, loader.name ∈ names → ∀ code ∈ (ask loader.name).codes,
      Serves files code config.interval loader)
    (served : ServedBy (world.loaders pd files detectMarket) ask names frames) :
    ∀ entry ∈ frames, Sized config.interval entry.2 := by
  obtain rfl | ⟨name, member, given, found, fetched⟩ := served
  · exact fun entry member => by cases member
  · obtain ⟨loader, named, rfl⟩ := registry_world found
    obtain rfl := ofName_some named
    obtain ⟨⟨delivered, after⟩, ran, rfl⟩ := Outcome.map_ok.mp fetched
    have same := asks loader.name member
    have serves := serves loader member
    rw [← same] at valid serves ⊢
    exact (fetch_sized valid serves (held loader _) ran).1

end World

section Config

variable (pd : Timestamps) (files : Files Row) (detectMarket : PyString → PyString)
  (config : BacktestConfig)

theorem engine_sized {world : World Row} (valid : config.interval ∈ validIntervals)
    (serves : ∀ loader request, Asked detectMarket config loader request →
      ∀ code ∈ request.codes, Serves files code config.interval loader)
    (held : ∀ loader request, CacheSized (world.cache loader request)) {frames : DataMap (Bars Row)}
    (fetched : fetchFrames pd files detectMarket world config = .ok frames) :
    ∀ entry ∈ frames, Sized config.interval entry.2 := by
  unfold fetchFrames at fetched
  dsimp only at fetched
  split at fetched
  next auto =>
    intro entry member
    obtain ⟨group, among, result, given, here⟩ := fetchAuto_mem fetched member
    obtain ⟨srcName, served⟩ := fetchGroup_served registered_world given
    refine served.sized valid held (fun _ _ => rfl) (fun loader consulted => ?_) entry here
    exact serves loader _ (.auto srcName auto among consulted)
  next single =>
    obtain ⟨⟨result, source⟩, ran, rfl⟩ := Outcome.map_ok.mp fetched
    obtain direct | ⟨code, codes, normalized, remote, served⟩ :=
      fetchSingle_served registered_world ran
    · exact direct.sized valid held (fun _ _ => rfl) fun loader standsIn =>
        serves loader _ (.single single standsIn)
    · exact served.sized valid held (fun _ _ => rfl) fun loader listed =>
        serves loader _ (.fallback single normalized remote listed)

theorem delivered_iff_serves [Inhabited Row] (accepted : Accepted pd config) :
    Delivered pd files detectMarket config ↔
      ∀ loader request, Asked detectMarket config loader request → ∀ code ∈ request.codes,
        Serves files code config.interval loader := by
  constructor
  · intro delivered loader request asked code member
    exact (sourceSized_iff accepted.interval).mp (delivered.sources loader request asked code member)
  · intro serves
    refine ⟨fun loader request asked code member => ?_, fun world held frames fetched => ?_⟩
    · exact (sourceSized_iff accepted.interval).mpr (serves loader request asked code member)
    · exact engine_sized pd files detectMarket config accepted.interval serves held fetched

end Config

end Runs

def halfYear : Timestamps where
  timestamp value :=
    ([("2024-01-01", 1704067200000), ("2024-06-30", 1719705600000)] : List (PyString × Int)).lookup value
  strftime day := if day = 19723 then "2024-01-01" else "2024-06-30"

def fourHours : BacktestConfig where
  codes := ["BTC-USDT"]
  startDate := "2024-01-01"
  endDate := "2024-06-30"
  source := "okx"
  interval := "4H"

theorem delivered_iff_serves_fourHours :
    @Delivered Unit asciiText halfYear (fun _ => none) (fun _ => "crypto") fourHours := by
  let := asciiText
  have accepted : Accepted halfYear fourHours :=
    ⟨by decide +kernel, by decide +kernel, by decide +kernel, 1704067200000, 1719705600000,
      by decide +kernel, by decide +kernel, by decide⟩
  refine (delivered_iff_serves halfYear _ _ fourHours accepted).mpr ?_
  have capable : ∀ loader : LoaderName,
      loader.name ∈ standIns "okx" ++ fallbackChain "crypto" →
        loader ∈ [LoaderName.okx, .tushare, .ccxt, .yfinance, .localFiles] := by
    intro loader
    cases loader <;> decide +kernel
  have serves (loader : LoaderName) (code : PyString)
      (asked : loader.name ∈ standIns "okx" ++ fallbackChain "crypto") :
      Serves (fun _ => none : Files Unit) code "4H" loader := by
    have known := capable loader asked
    simp only [List.mem_cons, List.not_mem_nil, or_false] at known
    obtain rfl | rfl | rfl | rfl | rfl := known
    · trivial
    · trivial
    · trivial
    · trivial
    · exact fun frame none => by cases none
  rintro loader request (⟨srcName, auto, -, -⟩ | ⟨-, standsIn⟩ | ⟨-, -, -, listed⟩) code -
  · exact absurd auto (by decide +kernel)
  · exact serves loader code (List.mem_append_left _ standsIn)
  · exact serves loader code (List.mem_append_right _ listed)

-- Hourly bars of an A share, from the source that knows days only.
def hourly : BacktestConfig where
  codes := ["600000.SH"]
  startDate := "2024-01-01"
  endDate := "2024-06-30"
  source := "tencent"
  interval := "1H"

def tencentWorld : World Unit where
  providers := answering ()
  imports loader := loader = .tencent
  constructs _ := true
  isAvailable _ := true
  markets := LoaderName.markets
  sameMarkets _ := .refl _
  cache _ _ _ := none

theorem delivered_fails :
    ¬ ∀ (_ : PyText) (pd : Timestamps) (files : Files Unit) (detectMarket : PyString → PyString)
      (config : BacktestConfig), Accepted pd config → Delivered pd files detectMarket config := by
  intro holds
  let := asciiText
  have accepted : Accepted halfYear hourly :=
    ⟨by decide +kernel, by decide +kernel, by decide +kernel, 1704067200000, 1719705600000,
      by decide +kernel, by decide +kernel, by decide⟩
  have delivered := holds asciiText halfYear (fun _ => none) (fun _ => "a_share") hourly accepted
  have fetched : fetchFrames halfYear (fun _ => none) (fun _ => "a_share") tencentWorld hourly =
      .ok [("600000.SH", [⟨.day, ()⟩])] := by decide +kernel
  have sized := delivered.engine tencentWorld (fun _ _ _ _ none => by cases none) _ fetched _ (.head _)
  exact absurd (sized_bar.mp sized) (by decide +kernel)

end SynapseYield.Backtest
