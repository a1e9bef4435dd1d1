import SynapseYield.Backtest.Events
import SynapseYield.Shared.Outcome

set_option autoImplicit false

namespace SynapseYield.Backtest.Events

open Shared StableSort

section Duplicates

variable {α κ : Type} [DecidableEq κ] {key : α → κ}

theorem dropDuplicates_cons (x : α) (xs : List α) : dropDuplicates key (x :: xs) =
    x :: (dropDuplicates key xs).filter fun other => key other ≠ key x := rfl

theorem filter_dropDuplicates {p : α → Bool} (decides : ∀ x y, key x = key y → p x = p y)
    (xs : List α) : (dropDuplicates key xs).filter p = dropDuplicates key (xs.filter p) := by
  induction xs with
  | nil => rfl
  | cons x xs ih =>
    rw [dropDuplicates_cons]
    cases chosen : p x with
    | true =>
      rw [List.filter_cons_of_pos chosen, List.filter_cons_of_pos chosen, List.filter_comm, ih,
        dropDuplicates_cons]
    | false =>
      have different (y : α) (kept : p y = true) : key y ≠ key x := fun same => by
        rw [decides y x same, chosen] at kept
        cases kept
      rw [List.filter_cons_of_neg (by simp [chosen]), List.filter_cons_of_neg (by simp [chosen]),
        List.filter_filter]
      refine Eq.trans (List.filter_congr fun y _ => ?_) ih
      cases kept : p y with
      | true => simp [different y kept]
      | false => simp

end Duplicates

section Items

variable [PyText] (libraries : Libraries) (provider : Provider) (scorer : Scorer)

def publishedAt (item : FeedItem) : Option Timestamp :=
  match parsePubdate libraries item.pubDate with
  | .ok (some published) => published
  | _ => none

-- The date from which an item is knowable, none where it has no date.
def knowable (item : FeedItem) : Option Int :=
  (publishedAt libraries item).map fun published =>
    knowableDate published provider.closeCutoffHour

def knowableBy (bound : Int) (item : FeedItem) : Bool :=
  (knowable libraries provider item).any (· ≤ bound)

def itemsAt (content : Content) (url : PyString) : List FeedItem :=
  match content url with
  | .ok (some text) => if text = .empty then [] else (libraries.fromstring text).getD []
  | _ => []

def AgreeUntil (bound : Int) (content content' : Content) : Prop :=
  ∀ url, (itemsAt libraries content url).filter (knowableBy libraries provider bound) =
    (itemsAt libraries content' url).filter (knowableBy libraries provider bound)

-- Published on the day, at or after the cutoff of the clock that the item gives.
def afterCutoff (day : Int) (item : FeedItem) : Bool :=
  (publishedAt libraries item).any fun published =>
    published.day = day ∧ provider.closeCutoffHour ≤ published.hour

def AgreeBeforeCutoff (day : Int) (content content' : Content) : Prop :=
  ∀ url, (itemsAt libraries content url).filter (! afterCutoff libraries provider day ·) =
    (itemsAt libraries content' url).filter (! afterCutoff libraries provider day ·)

def eventOf (code : PyString) (spec : FeedSpec) (item : FeedItem) : Option Event :=
  match parseItem libraries provider scorer code spec item with
  | .ok event => event
  | .error _ => none

def eventsOf (content : Content) (spec : FeedSpec) (code : PyString) : List Event :=
  match feedUrl libraries provider spec code with
  | .ok url => (itemsAt libraries content url).filterMap (eventOf libraries provider scorer code spec)
  | .error _ => []

def eventsNamed (content : Content) (codes : List PyString) (feedName : PyString) : List Event :=
  match provider.describeFeed feedName with
  | .ok spec => codes.flatMap (eventsOf libraries provider scorer content spec)
  | .error _ => []

def allEvents (content : Content) (codes feedNames : List PyString) : List Event :=
  feedNames.flatMap (eventsNamed libraries provider scorer content codes)

variable {libraries provider scorer} {code : PyString} {spec : FeedSpec} {content : Content}
  {codes : List PyString}

theorem eventOf_knowable {item : FeedItem} {event : Event}
    (turned : eventOf libraries provider scorer code spec item = some event) :
    knowable libraries provider item = some event.knowableDate := by
  unfold eventOf at turned
  split at turned
  next event' parsed =>
    subst turned
    unfold parseItem at parsed
    obtain ⟨published, read, rest⟩ := Outcome.bind_ok.mp parsed
    match published with
    | none => cases rest
    | some none => cases rest
    | some (some published) =>
      obtain ⟨score, scored, same⟩ := Outcome.bind_ok.mp rest
      cases same
      simp [knowable, publishedAt, read]
  next => cases turned

theorem filter_eventOf (bound : Int) (items : List FeedItem) :
    (items.filterMap (eventOf libraries provider scorer code spec)).filter
        (fun event => event.knowableDate ≤ bound) =
      (items.filter (knowableBy libraries provider bound)).filterMap
        (eventOf libraries provider scorer code spec) := by
  rw [List.filter_filterMap, List.filterMap_filter]
  refine List.filterMap_congr fun item _ => ?_
  cases turned : eventOf libraries provider scorer code spec item with
  | none => simp
  | some event => simp [Option.filter, knowableBy, eventOf_knowable turned]

theorem AgreeUntil.allEvents {bound : Int} {content' : Content} {feedNames : List PyString}
    (agree : AgreeUntil libraries provider bound content content') :
    (allEvents libraries provider scorer content codes feedNames).filter
        (fun event => event.knowableDate ≤ bound) =
      (allEvents libraries provider scorer content' codes feedNames).filter
        (fun event => event.knowableDate ≤ bound) := by
  unfold Events.allEvents
  rw [List.filter_flatMap, List.filter_flatMap]
  refine congrArg List.flatten (List.map_congr_left fun name _ => ?_)
  unfold eventsNamed
  cases provider.describeFeed name with
  | error raised => rfl
  | ok spec =>
    simp only
    rw [List.filter_flatMap, List.filter_flatMap]
    refine congrArg List.flatten (List.map_congr_left fun code _ => ?_)
    unfold eventsOf
    cases feedUrl libraries provider spec code with
    | error raised => rfl
    | ok url =>
      simp only
      rw [filter_eventOf, filter_eventOf, agree url]

theorem AgreeBeforeCutoff.until {day : Int} {content' : Content}
    (agree : AgreeBeforeCutoff libraries provider day content content') :
    AgreeUntil libraries provider day content content' := by
  have late (item : FeedItem) (known : knowableBy libraries provider day item = true) :
      afterCutoff libraries provider day item = false := by
    unfold knowableBy knowable at known
    unfold afterCutoff
    cases stamped : publishedAt libraries item with
    | none => rfl
    | some published =>
      simp only [stamped, Option.map_some, Option.any_some, decide_eq_true_eq, knowableDate] at known
      simp only [Option.any_some, decide_eq_false_iff_not, not_and]
      rintro rfl after
      rw [if_pos after] at known
      omega
  have kept (content : Content) (url : PyString) :
      (itemsAt libraries content url).filter (knowableBy libraries provider day) =
        ((itemsAt libraries content url).filter (! afterCutoff libraries provider day ·)).filter
          (knowableBy libraries provider day) := by
    rw [List.filter_filter]
    refine List.filter_congr fun item _ => ?_
    cases known : knowableBy libraries provider day item with
    | true => simp [late item known]
    | false => rfl
  intro url
  rw [kept, kept content', agree url]

theorem parseItems_ok {xmlText : PyString} {rows : List Event}
    (ran : parseItems libraries provider scorer xmlText code spec = .ok rows) :
    rows = ((libraries.fromstring xmlText).getD []).filterMap
      (eventOf libraries provider scorer code spec) := by
  unfold parseItems at ran
  split at ran
  next malformed =>
    cases ran
    rw [malformed]
    rfl
  next items read =>
    obtain ⟨events, parsed, same⟩ := Outcome.bind_ok.mp ran
    cases same
    rw [read, Option.getD_some]
    have each := Outcome.mapM_ok.mp parsed
    clear parsed ran read
    induction each with
    | nil => rfl
    | @cons item event items events head tail ih =>
      have turned : eventOf libraries provider scorer code spec item = event := by
        rw [eventOf, head]
      rw [List.filterMap_cons, turned, ← ih]
      cases event <;> simp

theorem fetchFeed_ok {xmlText : PyString}
    (ran : fetchFeed libraries provider content spec code = .ok xmlText) :
    ∃ url body, feedUrl libraries provider spec code = .ok url ∧ content url = .ok body ∧
      body.getD .empty = xmlText := by
  unfold fetchFeed at ran
  obtain ⟨url, addressed, ran⟩ := Outcome.bind_ok.mp ran
  obtain ⟨body, answered, same⟩ := Outcome.bind_ok.mp ran
  cases same
  exact ⟨url, body, addressed, answered, rfl⟩

theorem queryFeed_ok {progress progress' : Progress}
    (ran : queryFeed libraries provider scorer content spec progress code = .ok progress') :
    progress'.rows = progress.rows ++ eventsOf libraries provider scorer content spec code := by
  unfold queryFeed at ran
  obtain ⟨xmlText, fetched, ran⟩ := Outcome.bind_ok.mp ran
  obtain ⟨url, body, addressed, answered, rfl⟩ := fetchFeed_ok fetched
  unfold eventsOf itemsAt
  rw [addressed]
  simp only [answered]
  split at ran
  next failed =>
    cases ran
    cases body with
    | none => simp
    | some text =>
      rw [Option.getD_some] at failed
      simp [failed]
  next answered =>
    obtain ⟨rows, parsed, same⟩ := Outcome.bind_ok.mp ran
    cases same
    cases body with
    | none => exact absurd rfl answered
    | some text =>
      rw [Option.getD_some] at answered parsed
      simp [answered, parseItems_ok parsed]

theorem queryFeeds_ok {progress progress' : Progress}
    (ran : codes.foldlM (queryFeed libraries provider scorer content spec) progress = .ok progress') :
    progress'.rows =
      progress.rows ++ codes.flatMap (eventsOf libraries provider scorer content spec) := by
  induction codes generalizing progress with
  | nil =>
    cases ran
    simp
  | cons code codes ih =>
    rw [List.foldlM_cons] at ran
    obtain ⟨next, turned, rest⟩ := Outcome.bind_ok.mp ran
    rw [ih rest, queryFeed_ok turned, List.flatMap_cons, List.append_assoc]

theorem queryNames_ok {feedNames : List PyString} {progress progress' : Progress}
    (ran : feedNames.foldlM (queryFeedName libraries provider scorer content codes) progress =
      .ok progress') :
    progress'.rows = progress.rows ++ allEvents libraries provider scorer content codes feedNames := by
  induction feedNames generalizing progress with
  | nil =>
    cases ran
    simp [allEvents]
  | cons name names ih =>
    rw [List.foldlM_cons] at ran
    obtain ⟨next, turned, rest⟩ := Outcome.bind_ok.mp ran
    unfold queryFeedName at turned
    obtain ⟨spec, described, queried⟩ := Outcome.bind_ok.mp turned
    rw [ih rest, queryFeeds_ok queried]
    simp [allEvents, eventsNamed, described, List.append_assoc]

variable {asOf : AsOf} {feeds : Option (List PyString)}

theorem queryEvents_ok {events : List Event}
    (ran : queryEvents libraries provider scorer content codes asOf feeds = .ok events) :
    ∃ bound, asOfDate libraries asOf = .ok bound ∧
      events = sortBy Event.sortKey (dropDuplicates Event.identity
        ((allEvents libraries provider scorer content codes (feeds.getD provider.listFeeds)).filter
          fun event => event.knowableDate ≤ bound.day)) := by
  unfold queryEvents at ran
  obtain ⟨bound, bounded, ran⟩ := Outcome.bind_ok.mp ran
  obtain ⟨progress, queried, ran⟩ := Outcome.bind_ok.mp ran
  refine ⟨bound, bounded, ?_⟩
  have rows := queryNames_ok queried
  rw [show ({} : Progress).rows = [] from rfl, List.nil_append] at rows
  rw [← rows]
  split at ran
  · cases ran
  split at ran
  next none =>
    cases ran
    rw [List.isEmpty_iff.mp none]
    rfl
  split at ran <;> cases ran
  rfl

variable {Prices : Type} {lookback bound : Int} {minAbsScore : Number}

omit [PyText] in
theorem enrichBar_filter {bar : Bar Prices} (before : bar.tradeDate ≤ bound) (rows : List Event) :
    enrichBar libraries lookback rows bar =
      enrichBar libraries lookback (rows.filter fun event => event.knowableDate ≤ bound) bar := by
  have window : rows.filter (fun event =>
        event.knowableDate ≤ bar.tradeDate ∧ bar.tradeDate - lookback < event.knowableDate) =
      (rows.filter fun event => event.knowableDate ≤ bound).filter fun event =>
        event.knowableDate ≤ bar.tradeDate ∧ bar.tradeDate - lookback < event.knowableDate := by
    rw [List.filter_filter]
    refine List.filter_congr fun event _ => ?_
    by_cases known : event.knowableDate ≤ bar.tradeDate
    · simp [known, known.trans before]
    · simp [known]
  unfold enrichBar
  rw [window]

def scored (minAbsScore : Number) (code : PyString) (events : List Event) : List Event :=
  (strongEvents minAbsScore events).filter fun event => event.tsCode = code

omit [PyText] in
theorem filter_scored (p : Event → Bool) (events : List Event) :
    (scored minAbsScore code events).filter p = scored minAbsScore code (events.filter p) := by
  unfold scored strongEvents
  split
  · rw [List.filter_comm, List.filter_comm p]
  · rw [List.filter_comm]

def codeEvents (minAbsScore : Number) (events : List Event) (day : Int) (code : PyString) :
    List Event :=
  scored minAbsScore code (sortBy Event.sortKey (dropDuplicates Event.identity
    (events.filter fun event => event.knowableDate ≤ day)))

omit [PyText] in
theorem filter_codeEvents (bound : Int) (events : List Event) (day : Int) :
    (codeEvents minAbsScore events day code).filter (fun event => event.knowableDate ≤ bound) =
      codeEvents minAbsScore (events.filter fun event => event.knowableDate ≤ bound) day code := by
  have byDate (x y : Event) (same : x.identity = y.identity) :
      decide (x.knowableDate ≤ bound) = decide (y.knowableDate ≤ bound) := by
    have dates : x.knowableDate = y.knowableDate := congrArg (·.2.1) same
    rw [dates]
  unfold codeEvents
  rw [filter_scored, filter_sortBy, filter_dropDuplicates byDate, List.filter_comm]

variable {dataMap : List (PyString × List (Bar Prices))} {enriched enriched' : EnrichedMap Prices}

theorem enrich_ok
    (ran : enrichWithEvents libraries provider scorer content dataMap asOf feeds lookback minAbsScore =
      .ok enriched) :
    dataMap = [] ∧ enriched = [] ∨
      ∃ bound, asOfDate libraries asOf = .ok bound ∧
        enriched = dataMap.map fun entry => (entry.1, entry.2.map
          (enrichBar libraries lookback (codeEvents minAbsScore
            (allEvents libraries provider scorer content (dataMap.map Prod.fst)
              (feeds.getD provider.listFeeds)) bound.day entry.1))) := by
  unfold enrichWithEvents at ran
  split at ran
  next none =>
    cases ran
    exact .inl ⟨List.isEmpty_iff.mp none, rfl⟩
  next =>
    obtain ⟨events, queried, ran⟩ := Outcome.bind_ok.mp ran
    obtain ⟨bound, bounded, known⟩ := queryEvents_ok queried
    refine .inr ⟨bound, bounded, ?_⟩
    unfold codeEvents
    rw [← known]
    split at ran
    next none =>
      cases ran
      rw [List.isEmpty_iff.mp none]
      refine List.map_congr_left fun entry _ => congrArg (Prod.mk entry.1) ?_
      refine List.map_congr_left fun bar _ => ?_
      unfold scored strongEvents
      split <;> rfl
    next =>
      cases ran
      rfl

-- Two runs give the same score and count to the bars up to a day.
def SameUntil (bound : Int) (enriched enriched' : EnrichedMap Prices) : Prop :=
  List.Forall₂ (fun item item' => item'.1 = item.1 ∧
    List.Forall₂ (fun bar bar' : EnrichedBar Prices => bar'.bar = bar.bar ∧
      (bar.bar.tradeDate ≤ bound → bar' = bar)) item.2 item'.2) enriched enriched'

omit [PyText] in
theorem sameUntil_of_bars (rows rows' : PyString → List Event)
    (same : ∀ code, (rows code).filter (fun event => event.knowableDate ≤ bound) =
      (rows' code).filter fun event => event.knowableDate ≤ bound) :
    SameUntil bound
      (dataMap.map fun entry => (entry.1, entry.2.map (enrichBar libraries lookback (rows entry.1))))
      (dataMap.map fun entry => (entry.1, entry.2.map (enrichBar libraries lookback (rows' entry.1)))) := by
  unfold SameUntil
  rw [List.forall₂_map_left_iff, List.forall₂_map_right_iff]
  refine List.forall₂_same.mpr fun entry _ => ⟨rfl, ?_⟩
  rw [List.forall₂_map_left_iff, List.forall₂_map_right_iff]
  have kept (rows : List Event) (bar : Bar Prices) :
      (enrichBar libraries lookback rows bar).bar = bar := by
    unfold enrichBar
    dsimp only
    split <;> rfl
  refine List.forall₂_same.mpr fun bar _ => ⟨by rw [kept, kept], fun before => ?_⟩
  rw [kept] at before
  rw [enrichBar_filter before, ← same, ← enrichBar_filter before]

theorem AgreeUntil.enrich {content' : Content}
    (agree : AgreeUntil libraries provider bound content content')
    (ran : enrichWithEvents libraries provider scorer content dataMap asOf feeds lookback minAbsScore =
      .ok enriched)
    (ran' : enrichWithEvents libraries provider scorer content' dataMap asOf feeds lookback
      minAbsScore = .ok enriched') :
    SameUntil bound enriched enriched' := by
  obtain ⟨rfl, rfl⟩ | ⟨day, read, rfl⟩ := enrich_ok ran
  · obtain ⟨-, rfl⟩ | ⟨-, -, rfl⟩ := enrich_ok ran'
    · exact .nil
    · exact .nil
  obtain ⟨rfl, rfl⟩ | ⟨day', read', rfl⟩ := enrich_ok ran'
  · exact .nil
  cases read.symm.trans read'
  refine sameUntil_of_bars (codeEvents minAbsScore _ _) (codeEvents minAbsScore _ _) fun code => ?_
  rw [filter_codeEvents, filter_codeEvents, agree.allEvents]

-- The date is decided by the instant, for texts whose offsets are related.
def DatesByInstant (libraries : Libraries) (cutoffHour : Int) (related : Option Int → Option Int → Prop) :
    Prop :=
  ∀ value value' published published' instant,
    parsePubdate libraries value = .ok (some (some published)) →
    parsePubdate libraries value' = .ok (some (some published')) →
    related published.offset published'.offset →
    published.instant = some instant → published'.instant = some instant →
    knowableDate published cutoffHour = knowableDate published' cutoffHour

theorem dates_one_clock (cutoffHour : Int) : DatesByInstant libraries cutoffHour Eq := by
  rintro _ _ ⟨clock, offset⟩ ⟨clock', offset'⟩ instant - - same first second
  obtain rfl : offset = offset' := same
  cases offset with
  | none => cases first
  | some offset =>
    have instants : clock - offset = clock' - offset := Option.some.inj (first.trans second.symm)
    obtain rfl : clock = clock' := by omega
    rfl

theorem enrich_noLookAhead {content' : Content}
    (ran : enrichWithEvents libraries provider scorer content dataMap asOf feeds lookback minAbsScore =
      .ok enriched)
    (ran' : enrichWithEvents libraries provider scorer content' dataMap asOf feeds lookback
      minAbsScore = .ok enriched') :
    (∀ bound, AgreeUntil libraries provider bound content content' →
      SameUntil bound enriched enriched') ∧
    (∀ day, AgreeBeforeCutoff libraries provider day content content' →
      SameUntil day enriched enriched') ∧
    DatesByInstant libraries provider.closeCutoffHour Eq :=
  ⟨fun _ agree => agree.enrich ran ran', fun _ agree => agree.until.enrich ran ran',
    dates_one_clock _⟩

-- Published on the day, at or after the cutoff of the clock of a market.
def afterCutoffIn (libraries : Libraries) (provider : Provider) (zone day : Int) (item : FeedItem) :
    Bool :=
  (publishedAt libraries item).any fun published => published.instant.any fun instant =>
    let there : Timestamp := ⟨instant + zone, some zone⟩
    there.day = day ∧ provider.closeCutoffHour ≤ there.hour

-- A run in which such items are missing gives the same values up to the day.
def HidesAfterCutoffIn (libraries : Libraries) (provider : Provider) (scorer : Scorer)
    (dataMap : List (PyString × List (Bar Prices))) (asOf : AsOf) (feeds : Option (List PyString))
    (lookback : Int) (minAbsScore : Number) (zone : Int) : Prop :=
  ∀ day content content' enriched enriched',
    (∀ url,
      (itemsAt libraries content url).filter (! afterCutoffIn libraries provider zone day ·) =
        (itemsAt libraries content' url).filter (! afterCutoffIn libraries provider zone day ·)) →
    enrichWithEvents libraries provider scorer content dataMap asOf feeds lookback minAbsScore =
      .ok enriched →
    enrichWithEvents libraries provider scorer content' dataMap asOf feeds lookback minAbsScore =
      .ok enriched' →
    SameUntil day enriched enriched'

end Items

section May

-- 2024-05-06
def maySixth : Int := 19849

def shanghai : Int := 8 * hourLength

def lateInShanghai : PyString := "Mon, 06 May 2024 23:30:00 +0800"

def sameInLondon : PyString := "Mon, 06 May 2024 15:30:00 +0000"

def dayBefore : PyString := "Sun, 05 May 2024 09:00:00 +0000"

def earlierItem : PyString :=
  "<item><title>Dividend</title><pubDate>Sun, 05 May 2024 09:00:00 +0000</pubDate></item>"

def twoItems : PyString :=
  "<rss><channel>" ++ earlierItem ++ "<item><title>Record profit</title>" ++
    "<pubDate>Mon, 06 May 2024 15:30:00 +0000</pubDate></item></channel></rss>"

def oneItem : PyString := "<rss><channel>" ++ earlierItem ++ "</channel></rss>"

-- The scores are summed with decay_lambda 0, and the datetimes are of May 2024.
def mayLibraries : Libraries where
  fromstring text :=
    let earlier : FeedItem := ⟨some "Dividend", none, some dayBefore⟩
    if text = twoItems then some [earlier, ⟨some "Record profit", none, some sameInLondon⟩]
    else if text = oneItem then some [earlier]
    else none
  ofDatetime date := .ok
    { clock := (maySixth - 6 + date.day) * dayLength + date.hour * hourLength +
        (date.minute * 60 + date.second) * 10 ^ 9
      offset := date.offset.map (· * 10 ^ 9) }
  timestamp _ := .error .valueError
  format _ _ := .error .valueError
  decayedSum weighted := Number.sum (weighted.map Prod.fst)

def mayProvider : Provider where
  baseUrl := "http://localhost:1200"
  feeds := [⟨"market", "/market", "sentiment", .raw⟩]

def mayBars : List (PyString × List (Bar Unit)) :=
  [("600519.SH", [⟨maySixth - 1, ()⟩, ⟨maySixth, ()⟩])]

def mayRun (body : PyString) : Except PyError (EnrichedMap Unit) :=
  @enrichWithEvents asciiText mayLibraries mayProvider (fun _ _ => .ok (.finite (1 / 2))) Unit
    (fun _ => .ok (some body)) mayBars (.timestamp ⟨(maySixth + 1) * dayLength, none⟩) none 30 0

theorem twoItems_run : mayRun twoItems = .ok [("600519.SH",
    [⟨⟨maySixth - 1, ()⟩, .finite (1 / 2), 1⟩, ⟨⟨maySixth, ()⟩, .finite 1, 2⟩])] := by
  decide +kernel

theorem oneItem_run : mayRun oneItem = .ok [("600519.SH",
    [⟨⟨maySixth - 1, ()⟩, .finite (1 / 2), 1⟩, ⟨⟨maySixth, ()⟩, .finite (1 / 2), 1⟩])] := by
  decide +kernel

-- One instant has two dates, and what is published after the close in Shanghai counts on that day.
theorem clock_of_item_decides :
    ¬ @DatesByInstant asciiText mayLibraries mayProvider.closeCutoffHour (fun _ _ => True) ∧
    ¬ @HidesAfterCutoffIn asciiText Unit mayLibraries mayProvider
      (fun _ _ => .ok (.finite (1 / 2))) mayBars (.timestamp ⟨(maySixth + 1) * dayLength, none⟩)
      none 30 0 shanghai := by
  let := asciiText
  constructor
  · intro dates
    have same := dates (some lateInShanghai) (some sameInLondon)
      ⟨maySixth * dayLength + 23 * hourLength + 30 * 60 * 10 ^ 9, some shanghai⟩
      ⟨maySixth * dayLength + 15 * hourLength + 30 * 60 * 10 ^ 9, some 0⟩
      (maySixth * dayLength + 15 * hourLength + 30 * 60 * 10 ^ 9)
      (by decide +kernel) (by decide +kernel) trivial (by decide +kernel) (by decide +kernel)
    exact absurd same (by decide +kernel)
  · intro hides
    have late : (itemsAt mayLibraries (fun _ => .ok (some twoItems)) .empty).filter
          (! afterCutoffIn mayLibraries mayProvider shanghai maySixth ·) =
        (itemsAt mayLibraries (fun _ => .ok (some oneItem)) .empty).filter
          (! afterCutoffIn mayLibraries mayProvider shanghai maySixth ·) := by decide +kernel
    have same := hides maySixth (fun _ => .ok (some twoItems)) (fun _ => .ok (some oneItem)) _ _
      (fun _ => late) twoItems_run oneItem_run
    obtain _ | ⟨⟨-, bars⟩, -⟩ := same
    obtain _ | ⟨-, _ | ⟨⟨-, bar⟩, -⟩⟩ := bars
    exact absurd (bar le_rfl) (by decide +kernel)

theorem may_noLookAhead : @SameUntil Unit (maySixth - 1)
    [("600519.SH", [⟨⟨maySixth - 1, ()⟩, .finite (1 / 2), 1⟩, ⟨⟨maySixth, ()⟩, .finite 1, 2⟩])]
    [("600519.SH", [⟨⟨maySixth - 1, ()⟩, .finite (1 / 2), 1⟩,
      ⟨⟨maySixth, ()⟩, .finite (1 / 2), 1⟩])] := by
  let := asciiText
  have known : (itemsAt mayLibraries (fun _ => .ok (some twoItems)) .empty).filter
        (knowableBy mayLibraries mayProvider (maySixth - 1)) =
      (itemsAt mayLibraries (fun _ => .ok (some oneItem)) .empty).filter
        (knowableBy mayLibraries mayProvider (maySixth - 1)) := by decide +kernel
  exact (enrich_noLookAhead twoItems_run oneItem_run).1 (maySixth - 1) fun _ => known

end May

end SynapseYield.Backtest.Events
