import SynapseYield.Backtest.Candles

set_option autoImplicit false

namespace SynapseYield.Backtest.Mootdx

open Shared StableSort

-- What the server has at each request of the download: bars are only appended.
structure Feed where
  bars : Nat → List Bar
  grows : ∀ request, bars request <+: bars (request + 1)
  ascending : ∀ request, (bars request).Pairwise (·.time < ·.time)

namespace Feed

variable (feed : Feed)

-- The places that a page goes over, from the one up to the other
def from_ (page : Nat) : Nat := (feed.bars page).length - page * barsPage - barsPage

def upTo (page : Nat) : Nat := (feed.bars page).length - page * barsPage

-- bars(start, offset): the newest start bars are skipped, and the newest offset of the others come.
def client : Client := fun request start offset =>
  ((feed.bars request).take ((feed.bars request).length - start)).drop
    ((feed.bars request).length - start - offset)

def page (page : Nat) : List Bar := feed.client page (page * barsPage) barsPage

end Feed

-- The pages before this one leave the download looking for the start date.
def Feed.Asks (feed : Feed) (startDate : ℚ) (page : Nat) : Prop :=
  ∀ earlier < page, ∃ first rest, feed.page earlier = first :: rest ∧ startDate < first.time

/-- No bar of the window that the download began with is pushed from a page into the next one, and
none lies before the last page that the cap allows. -/
structure Feed.Steady (feed : Feed) (startDate endDate : ℚ) : Prop where
  unpushed : ∀ page, page + 1 < maxPages → feed.Asks startDate (page + 1) →
    ∀ (i : Nat) (bar : Bar), (feed.bars 0)[i]? = some bar → inWindow startDate endDate bar = true →
      feed.from_ page ≤ i → feed.upTo (page + 1) ≤ i
  reached : feed.Asks startDate maxPages →
    ∀ (i : Nat) (bar : Bar), (feed.bars 0)[i]? = some bar → inWindow startDate endDate bar = true →
      feed.from_ (maxPages - 1) ≤ i

/-- The bars of the window that were there, each once and in order, or no window at all and a word
about the cap. -/
def Feed.Delivers (feed : Feed) (startDate endDate : ℚ) : Prop :=
  let download := fetchBarsPaginated feed.client startDate endDate
  (download.1.getD []).Pairwise (·.time ≤ ·.time) ∧
      (∀ bar ∈ feed.bars 0, inWindow startDate endDate bar = true → bar.priced = true →
        (download.1.getD []).count bar = 1) ∨
    download.2 = true ∧ download.1 = none

section Result

variable {client : Client} {bars : List Bar} {startDate endDate : ℚ}

theorem normalizeBars_sorted :
    ((normalizeBars bars startDate endDate).getD []).Pairwise (·.time ≤ ·.time) := by
  rw [normalizeBars, frameOf_getD]
  exact (sortBy_sorted.filter _).filter _

theorem normalizeBars_count {bar : Bar} (inside : inWindow startDate endDate bar = true)
    (priced : bar.priced = true) :
    ((normalizeBars bars startDate endDate).getD []).count bar = bars.count bar := by
  rw [normalizeBars, frameOf_getD, List.count_filter inside, List.count_filter priced]
  exact (List.perm_insertionSort _ _).count_eq bar

theorem fetchBarsPaginated_getD :
    (fetchBarsPaginated client startDate endDate).1.getD [] =
      (normalizeBars (fetchPages client startDate maxPages 0).1.flatten startDate endDate).getD [] := by
  rw [fetchBarsPaginated]
  split
  next chunks capped fetched =>
    rw [fetched]
    cases chunks <;> rfl

end Result

section Pages

variable {feed : Feed} {startDate endDate : ℚ} {page i : Nat} {bar : Bar}

theorem Feed.bars_prefix (feed : Feed) (page : Nat) : feed.bars 0 <+: feed.bars page := by
  induction page with
  | zero => exact List.prefix_rfl
  | succ page ih => exact ih.trans (feed.grows page)

theorem Feed.bars_get (held : (feed.bars 0)[i]? = some bar) (page : Nat) :
    (feed.bars page)[i]? = some bar := by
  obtain ⟨later, same⟩ := feed.bars_prefix page
  rw [← same]
  exact List.getElem?_append_left (List.getElem?_eq_some_iff.mp held).1 |>.trans held

theorem Feed.bars_nodup (feed : Feed) (page : Nat) : (feed.bars page).Nodup :=
  (feed.ascending page).imp fun older same => (same ▸ older).false

theorem Feed.page_eq (feed : Feed) (page : Nat) :
    feed.page page = ((feed.bars page).take (feed.upTo page)).drop (feed.from_ page) := rfl

theorem Feed.mem_page_iff (held : (feed.bars 0)[i]? = some bar) :
    bar ∈ feed.page page ↔ feed.from_ page ≤ i ∧ i < feed.upTo page := by
  have present := Feed.bars_get held page
  rw [feed.page_eq, List.mem_iff_getElem?]
  constructor
  · rintro ⟨j, found⟩
    rw [List.getElem?_drop, List.getElem?_take] at found
    split at found
    next inside =>
      have same := (List.getElem?_inj (List.getElem?_eq_some_iff.mp found).1
        (feed.bars_nodup page)).mp (found.trans present.symm)
      omega
    next => cases found
  · rintro ⟨above, below⟩
    refine ⟨i - feed.from_ page, ?_⟩
    rw [List.getElem?_drop, List.getElem?_take, Nat.add_sub_cancel' above, if_pos below]
    exact present

theorem Feed.page_count (held : (feed.bars 0)[i]? = some bar) :
    (feed.page page).count bar = if feed.from_ page ≤ i ∧ i < feed.upTo page then 1 else 0 := by
  have distinct : (feed.page page).Nodup :=
    ((feed.bars_nodup page).sublist (List.take_sublist _ _)).sublist (List.drop_sublist _ _)
  split
  next among => exact List.count_eq_one_of_mem distinct ((Feed.mem_page_iff held).mpr among)
  next among => exact List.count_eq_zero.mpr fun mem => among ((Feed.mem_page_iff held).mp mem)

theorem Feed.upTo_succ (feed : Feed) (page : Nat) : feed.from_ page ≤ feed.upTo (page + 1) := by
  have := (feed.grows page).length_le
  unfold Feed.from_ Feed.upTo
  rw [Nat.succ_mul]
  omega

theorem Feed.page_ne_nil (below : i < feed.upTo page) : feed.page page ≠ [] := by
  rw [feed.page_eq, ← List.length_pos_iff, List.length_drop, List.length_take]
  unfold Feed.upTo at *
  unfold Feed.from_ barsPage at *
  omega

theorem Feed.before_first (held : (feed.bars 0)[i]? = some bar) (below : i < feed.from_ page)
    {first : Bar} {rest : List Bar} (starts : feed.page page = first :: rest) :
    bar.time < first.time := by
  have present := Feed.bars_get held page
  have front : (feed.page page)[0]? = some first := by rw [starts]; rfl
  rw [feed.page_eq, List.getElem?_drop, List.getElem?_take, Nat.add_zero] at front
  split at front
  next =>
    obtain ⟨inside, rfl⟩ := List.getElem?_eq_some_iff.mp present
    obtain ⟨inside', rfl⟩ := List.getElem?_eq_some_iff.mp front
    exact List.pairwise_iff_getElem.mp (feed.ascending page) _ _ inside inside' below
  next => cases front

theorem Feed.asks_succ {first : Bar} {rest : List Bar} (asks : feed.Asks startDate page)
    (starts : feed.page page = first :: rest) (newer : startDate < first.time) :
    feed.Asks startDate (page + 1) := by
  intro earlier before
  rcases Nat.lt_succ_iff_lt_or_eq.mp before with before | rfl
  · exact asks earlier before
  · exact ⟨first, rest, starts, newer⟩

theorem Feed.fetchPages_succ (feed : Feed) (left page : Nat) :
    fetchPages feed.client startDate (left + 1) page =
      match feed.page page with
      | [] => ([], false)
      | first :: rest =>
        if first.time ≤ startDate then ([first :: rest], false)
        else
          let older := fetchPages feed.client startDate left (page + 1)
          ((first :: rest) :: older.1, older.2) := by
  cases bars : feed.client page (page * barsPage) barsPage with
  | nil => simp only [fetchPages, Feed.page, bars]
  | cons first rest => simp only [fetchPages, Feed.page, bars]

variable {left : Nat}

theorem Feed.passed_count (steady : feed.Steady startDate endDate)
    (held : (feed.bars 0)[i]? = some bar) (inside : inWindow startDate endDate bar = true)
    (pages : page + left = maxPages) (asks : feed.Asks startDate page)
    (above : left = 0 ∨ feed.upTo page ≤ i) :
    (fetchPages feed.client startDate left page).1.flatten.count bar = 0 := by
  induction left generalizing page with
  | zero => rfl
  | succ left ih =>
    have past := above.resolve_left (Nat.succ_ne_zero left)
    have absent : (feed.page page).count bar = 0 := by
      rw [Feed.page_count held, if_neg fun among => absurd among.2 past.not_gt]
    rw [feed.fetchPages_succ]
    split
    next => rfl
    next first rest starts =>
      rw [starts] at absent
      split
      next => simpa using absent
      next newer =>
        have asks' := Feed.asks_succ asks starts (not_le.mp newer)
        have older := (@ih (page + 1)) (by omega) asks' (by
          rcases Nat.eq_zero_or_pos left with none | more
          · exact .inl none
          · refine .inr (steady.unpushed page (by omega) asks' i bar held inside ?_)
            exact (Nat.sub_le _ _).trans past)
        rw [List.flatten_cons, List.count_append, absent, older]

theorem Feed.wanted_count (steady : feed.Steady startDate endDate)
    (held : (feed.bars 0)[i]? = some bar) (inside : inWindow startDate endDate bar = true)
    (pages : page + left = maxPages) (asks : feed.Asks startDate page)
    (below : page = 0 ∨ i < feed.from_ (page - 1)) :
    (fetchPages feed.client startDate left page).1.flatten.count bar = 1 := by
  induction left generalizing page with
  | zero =>
    rw [Nat.add_zero] at pages
    subst pages
    rcases below with none | below
    · cases none
    · exact absurd (steady.reached asks i bar held inside) below.not_ge
  | succ left ih =>
    have under : i < feed.upTo page := by
      rcases below with rfl | below
      · have := (List.getElem?_eq_some_iff.mp held).1
        simpa [Feed.upTo] using this
      · cases page with
        | zero => exact below.trans_le ((Nat.sub_le _ _).trans (by simp [Feed.upTo]))
        | succ page => exact below.trans_le (feed.upTo_succ page)
    have found := (@Feed.page_count feed page) held
    rw [feed.fetchPages_succ]
    split
    next none => exact absurd none (Feed.page_ne_nil under)
    next first rest starts =>
      rw [starts] at found
      by_cases among : feed.from_ page ≤ i
      · rw [if_pos ⟨among, under⟩] at found
        split
        next => simpa using found
        next newer =>
          have asks' := Feed.asks_succ asks starts (not_le.mp newer)
          have older := (@Feed.passed_count feed _ _ (page + 1) _ _ left) steady held inside
            (by omega) asks' (by
              rcases Nat.eq_zero_or_pos left with none | more
              · exact .inl none
              · exact .inr (steady.unpushed page (by omega) asks' i bar held inside among))
          rw [List.flatten_cons, List.count_append, found, older]
      · have earlier := Feed.before_first held (not_le.mp among) starts
        rw [if_neg fun both => among both.1] at found
        split
        next reached =>
          have since : startDate ≤ bar.time := by
            simpa using (Bool.and_eq_true_iff.mp inside).1
          exact absurd (earlier.trans_le reached) since.not_gt
        next newer =>
          have older := (@ih (page + 1)) (by omega)
            (Feed.asks_succ asks starts (not_le.mp newer)) (.inr (not_le.mp among))
          rw [List.flatten_cons, List.count_append, found, older]

end Pages

/-- A download during which no bar of the window moves to a later page, and whose start date is not
beyond the cap, loses nothing and repeats nothing. -/
theorem download_delivers (feed : Feed) {startDate endDate : ℚ}
    (steady : feed.Steady startDate endDate) : feed.Delivers startDate endDate := by
  refine .inl ⟨?_, fun bar mem inside priced => ?_⟩
  · rw [fetchBarsPaginated_getD]
    exact normalizeBars_sorted
  · obtain ⟨i, held⟩ := List.mem_iff_getElem?.mp mem
    rw [fetchBarsPaginated_getD, normalizeBars_count inside priced]
    exact Feed.wanted_count steady held inside (Nat.zero_add _)
      (fun _ before => absurd before (Nat.not_lt_zero _)) (.inl rfl)

section Minutes

def minuteBar (n : Nat) : Bar := ⟨60 * n, .finite 10, .finite 10, .finite 10, .finite 10, .finite 1⟩

def minutes (sizes : Nat → Nat) (grows : ∀ request, sizes request ≤ sizes (request + 1)) : Feed where
  bars request := (List.range (sizes request)).map minuteBar
  grows request := by
    obtain ⟨more, same⟩ := Nat.exists_eq_add_of_le (grows request)
    rw [same, List.range_add, List.map_append]
    exact List.prefix_append _ _
  ascending request := by
    rw [List.pairwise_map]
    exact List.pairwise_lt_range.imp fun before => by simpa [minuteBar] using before

def oneMore (request : Nat) : Nat := if request = 0 then 801 else 802

theorem oneMore_grows (request : Nat) : oneMore request ≤ oneMore (request + 1) := by
  unfold oneMore
  split <;> simp

-- A bar that comes between the first page and the second: the last bar of the one is the first of
-- the other.
def arrival : Feed := minutes oneMore oneMore_grows

theorem arrival_repeats : ¬ arrival.Delivers 0 0 := by
  have twice : (fetchPages arrival.client 0 maxPages 0).1.flatten.count (minuteBar 1) = 2 := by
    decide +kernel
  have counted : ((fetchBarsPaginated arrival.client 0 0).1.getD []).count (minuteBar 1) = 2 := by
    rw [fetchBarsPaginated_getD, normalizeBars_count (by decide +kernel) (by decide +kernel), twice]
  rintro (⟨-, once⟩ | ⟨-, none⟩)
  · have := once (minuteBar 1) (by decide +kernel) (by decide +kernel) (by decide +kernel)
    omega
  · rw [none] at counted
    cases counted

def always (size : Nat) (_request : Nat) : Nat := size

theorem always_grows (size request : Nat) : always size request ≤ always size (request + 1) := le_rfl

def quiet : Feed := minutes (always 801) (always_grows 801)

theorem quiet_steady : quiet.Steady 0 0 where
  unpushed page _ _ i _ _ _ := by
    simp only [Feed.from_, Feed.upTo, quiet, minutes, always, List.length_map, List.length_range,
      Nat.succ_mul]
    omega
  reached _ i _ _ _ := by
    simp [Feed.from_, quiet, minutes, always, maxPages, barsPage]

theorem quiet_delivers : quiet.Delivers 0 0 := download_delivers quiet quiet_steady

end Minutes

end SynapseYield.Backtest.Mootdx
