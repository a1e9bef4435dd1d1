import SynapseYield.Properties.Pnl
import SynapseYield.Risk.Rules

set_option autoImplicit false

namespace SynapseYield.LocalSim

open Shared OrderService

variable {config : LocalSimConfig} {order : Order} {quote : MarketQuote} {price : ℚ}
  {db db' : Database} {target : OrderStatus} {accountId : String} {w w' : World}

def realizedOf (db : Database) (accountId : String) : Option ℚ :=
  (db.accounts.find? accountId).map Account.realizedPnl

-- What the sales of an account realize, each against the average cost before it.
def realizedIn (accountId : String) (db db' : Database) : ℚ :=
  ((db'.fills.drop db.fills.length).map fun fill =>
    if fill.side = .sell ∧ ownerOf db' fill.orderId = some accountId then
      (fill.price - avgCostOf db accountId fill.symbol) * fill.quantity - fill.commission
    else 0).sum

theorem realizedIn_none (fills : db'.fills = db.fills) : realizedIn accountId db db' = 0 := by
  simp [realizedIn, fills]

theorem realizedOf_same (update : Account → Account) (fills : db'.fills = db.fills)
    (row : db'.accounts.find? accountId = (db.accounts.find? accountId).map update)
    (same : ∀ account, (update account).realizedPnl = account.realizedPnl) :
    realizedOf db' accountId =
      (realizedOf db accountId).map (· + realizedIn accountId db db') := by
  rw [realizedIn_none fills, realizedOf, realizedOf, row, Option.map_map, Option.map_map]
  congr 1
  funext account
  simp [same]

theorem realizedOf_untouched (accounts : db'.accounts = db.accounts)
    (fills : db'.fills = db.fills) :
    realizedOf db' accountId =
      (realizedOf db accountId).map (· + realizedIn accountId db db') :=
  realizedOf_same id fills (by simp [accounts]) fun _ => rfl

theorem Accepted.realized (accepted : Accepted config order quote db db') (accountId : String) :
    realizedOf db' accountId = realizedOf db accountId := by
  rw [realizedOf_same _ accepted.fills (accepted.accountRow accountId) fun account => ?_,
    realizedIn_none accepted.fills]
  · simp
  · split <;> rfl

theorem Accepted.realizedIn {mid : Database} (accepted : Accepted config order quote db mid)
    (accountId : String) (db' : Database) :
    realizedIn accountId db db' = realizedIn accountId mid db' := by
  unfold LocalSim.realizedIn
  rw [← accepted.fills]
  congr 1
  refine List.map_congr_left fun fill _ => ?_
  have cost : avgCostOf mid accountId fill.symbol = avgCostOf db accountId fill.symbol :=
    accepted.position_same (fun _ _ => rfl) _ _
  rw [cost]

theorem Settled.realized (settled : Settled config order price db db') (accountId : String) :
    realizedOf db' accountId =
      (realizedOf db accountId).map (· + realizedIn accountId db db') := by
  obtain ⟨fill, fills, filled, symbol, side, quantity, priced, charge⟩ := settled.fills
  have owner : ownerOf db' fill.orderId = some order.accountId := by
    rw [filled, settled.owners, settled.owner]
  have amount : realizedIn accountId db db' =
      if order.side = .sell ∧ order.accountId = accountId then
        (price - avgCostOf db accountId order.symbol) * order.quantity.value -
          commission config (order.quantity.value * price)
      else 0 := by
    simp [realizedIn, fills, owner, symbol, side, quantity, priced, charge]
  rw [realizedOf, realizedOf, settled.accountRow, Option.map_map, Option.map_map, amount]
  congr 1
  funext account
  by_cases own : order.accountId = accountId
  · subst own
    cases sided : order.side with
    | buy => simp [revalued, filledAccount, sided, boughtAccount]
    | sell => simp [revalued, filledAccount, sided, soldAccount, avgCostOf]
  · simp [own]

theorem Step.realized {meets : Database → Order → ℚ → Prop} (step : Step config meets db db')
    (accountId : String) :
    realizedOf db' accountId =
      (realizedOf db accountId).map (· + realizedIn accountId db db') := by
  cases step with
  | quiet same => exact realizedOf_untouched same.accounts same.fills
  | created order fresh => exact realizedOf_untouched fresh.accounts fresh.fills
  | restatused order target changed => exact realizedOf_untouched changed.accounts changed.fills
  | rested order quote accepted =>
    rw [accepted.realized, realizedIn_none accepted.fills]
    simp
  | crossed order submitted quote price accepted matched met settled same =>
    rw [accepted.realizedIn, ← accepted.realized]
    exact settled.realized accountId
  | settled order quote price resting matched met settled => exact settled.realized accountId
  | cancelled order cancelled =>
    exact realizedOf_same _ cancelled.fills (cancelled.accountRow accountId) fun account => by
      split <;> rfl

inductive Realizing (config : LocalSimConfig) (accountId : String) :
    Database → List ℚ → Database → Prop
  | none (db : Database) : Realizing config accountId db [] db
  | step {db mid db' : Database} {amounts : List ℚ}
      (earlier : Realizing config accountId db amounts mid) (step : Step config anyFill mid db') :
      Realizing config accountId db (amounts ++ [realizedIn accountId mid db']) db'

theorem Realizing.of_steps (steps : Steps config anyFill db db') (accountId : String) :
    ∃ amounts, Realizing config accountId db amounts db' := by
  induction steps with
  | refl => exact ⟨[], .none db⟩
  | tail _ step ih =>
    obtain ⟨amounts, earlier⟩ := ih
    exact ⟨_, .step earlier step⟩

theorem Realizing.realized {amounts : List ℚ} (realizing : Realizing config accountId db amounts db') :
    realizedOf db' accountId = (realizedOf db accountId).map (· + amounts.sum) := by
  induction realizing with
  | none => simp
  | step earlier step ih =>
    rw [step.realized, ih, Option.map_map, List.sum_append]
    congr 1
    funext opening
    simp [add_assoc]

structure Realization where
  time : Int
  amount : ℚ

-- A run, with what its fills realize for an account and when.
inductive History (config : LocalSimConfig) (accountId : String) :
    World → List Realization → World → Prop
  | start (w : World) : History config accountId w [] w
  | performed {start w : World} {entries : List Realization} {operation : Operation}
      {amounts : List ℚ} (history : History config accountId start entries w)
      (allowed : Allowed config anyFill operation w)
      (realizing : Realizing config accountId w.db amounts (perform operation w).db) :
      History config accountId start (entries ++ amounts.map fun amount => ⟨w.now, amount⟩)
        (perform operation w)

theorem History.realized {entries : List Realization}
    (history : History config accountId w entries w') :
    realizedOf w'.db accountId =
      (realizedOf w.db accountId).map (· + (entries.map Realization.amount).sum) := by
  induction history with
  | start => simp
  | performed history allowed realizing ih =>
    rw [realizing.realized, ih, Option.map_map, List.map_append, List.sum_append, List.map_map]
    congr 1
    funext opening
    have amounts : ∀ (now : Int) (amounts : List ℚ),
        amounts.map (Realization.amount ∘ fun amount => ⟨now, amount⟩) = amounts := by
      intro now amounts
      exact List.map_id amounts
    simp [amounts, add_assoc]

theorem History.of_run (dated : Int → Prop)
    (run : Run (fun operation w => Allowed config anyFill operation w ∧ dated w.now) w w')
    (accountId : String) :
    ∃ entries, History config accountId w entries w' ∧ ∀ entry ∈ entries, dated entry.time := by
  induction run with
  | refl => exact ⟨[], .start w, by simp⟩
  | @tail mid _ _ last ih =>
    obtain ⟨operation, ⟨allowed, now⟩, rfl⟩ := last
    obtain ⟨entries, history, earlier⟩ := ih
    obtain ⟨amounts, realizing⟩ := Realizing.of_steps (perform_steps allowed) accountId
    refine ⟨_, .performed history allowed realizing, fun entry member => ?_⟩
    rcases List.mem_append.mp member with old | new
    · exact earlier entry old
    · obtain ⟨amount, -, rfl⟩ := List.mem_map.mp new
      exact now

section Verdict

open RiskEngine

variable {riskConfig : RiskConfig} {intent : IntentFields} {excluded : Option String}
  {offered : Option MarketQuote} {marketIsOpen : Option Bool}

-- The profit or loss realized on the UTC day of now, and what is carried over to that day.
def dayPnl (now : Int) (entries : List Realization) : ℚ :=
  ((entries.filter fun entry => dayStart entry.time = dayStart now).map Realization.amount).sum

def carriedPnl (opening : ℚ) (now : Int) (entries : List Realization) : ℚ :=
  opening +
    ((entries.filter fun entry => dayStart entry.time ≠ dayStart now).map Realization.amount).sum

theorem pnl_split (opening : ℚ) (now : Int) (entries : List Realization) :
    opening + (entries.map Realization.amount).sum =
      carriedPnl opening now entries + dayPnl now entries := by
  unfold carriedPnl dayPnl
  rw [add_assoc]
  congr 1
  induction entries with
  | nil => simp
  | cons entry rest ih =>
    by_cases today : dayStart entry.time = dayStart now
    · simp only [List.map_cons, List.sum_cons, ih, List.filter_cons, today, ne_eq,
        not_true_eq_false, decide_false, decide_true, if_true, Bool.false_eq_true, if_false]
      ring
    · simp only [List.map_cons, List.sum_cons, ih, List.filter_cons, today, ne_eq,
        not_false_eq_true, decide_false, decide_true, if_true, Bool.false_eq_true, if_false]
      ring

structure OtherwiseEqual (accountId : String) (w w' : World) : Prop where
  now : w'.now = w.now
  account : (w'.db.accounts.find? accountId).map (fun row => { row with realizedPnl := 0 }) =
    (w.db.accounts.find? accountId).map fun row => { row with realizedPnl := 0 }
  positions : w'.db.positions = w.db.positions
  orders : w'.db.orders = w.db.orders

def lossBlocked (riskConfig : RiskConfig) (intent : IntentFields) (excluded : Option String)
    (offered : Option MarketQuote) (marketIsOpen : Option Bool) (w : World) : Prop :=
  (check riskConfig w.db w.now intent excluded offered marketIsOpen).reasonCode =
    "DAILY_LOSS_LIMIT_EXCEEDED"

instance (w : World) : Decidable (lossBlocked riskConfig intent excluded offered marketIsOpen w) := by
  unfold lossBlocked
  infer_instance

def ReachesLimit (riskConfig : RiskConfig) (intent : IntentFields)
    (offered : Option MarketQuote) (marketIsOpen : Option Bool) (w : World) : Prop :=
  ∃ account, w.db.accounts.find? intent.accountId = some account ∧
    Screened riskConfig account w.db intent offered marketIsOpen

theorem OtherwiseEqual.reaches (same : OtherwiseEqual intent.accountId w w') :
    ReachesLimit riskConfig intent offered marketIsOpen w' ↔
      ReachesLimit riskConfig intent offered marketIsOpen w := by
  have rows := same.account
  have screened : ∀ row row' : Account, row'.cashAvailable = row.cashAvailable →
      (Screened riskConfig row' w'.db intent offered marketIsOpen ↔
        Screened riskConfig row w.db intent offered marketIsOpen) := by
    intro row row' cash
    simp only [RiskEngine.screened_iff, availableQuantity, same.positions, cash]
  unfold ReachesLimit
  cases found : w.db.accounts.find? intent.accountId with
  | none =>
    rw [found, Option.map_none, Option.map_eq_none_iff] at rows
    simp [rows]
  | some row =>
    rw [found, Option.map_some, Option.map_eq_some_iff] at rows
    obtain ⟨row', found', equal⟩ := rows
    have cash := congrArg Account.cashAvailable equal
    simp only [found', Option.some.injEq, exists_eq_left']
    exact screened row row' cash

theorem History.pnl {opening : ℚ} {entries : List Realization}
    (history : History config accountId w entries w')
    (opened : realizedOf w.db accountId = some opening) :
    realizedOf w'.db accountId =
      some (carriedPnl opening w'.now entries + dayPnl w'.now entries) := by
  rw [history.realized, opened, Option.map_some, pnl_split opening w'.now]

theorem lossBlocked_iff {opening : ℚ} {entries : List Realization}
    (history : History config intent.accountId w entries w')
    (opened : realizedOf w.db intent.accountId = some opening) :
    lossBlocked riskConfig intent excluded offered marketIsOpen w' ↔
      ReachesLimit riskConfig intent offered marketIsOpen w' ∧
        carriedPnl opening w'.now entries + dayPnl w'.now entries ≤ -riskConfig.maxDailyLoss := by
  obtain ⟨account, found, pnl⟩ := Option.map_eq_some_iff.mp (history.pnl opened)
  unfold lossBlocked ReachesLimit
  rw [check_lossLimit, ← pnl]
  simp only [found, Option.some.injEq, exists_eq_left']

theorem lossLimit_daily_iff {config' : LocalSimConfig} {start start' : World}
    {opening opening' : ℚ} {entries entries' : List Realization}
    (history : History config intent.accountId start entries w)
    (history' : History config' intent.accountId start' entries' w')
    (opened : realizedOf start.db intent.accountId = some opening)
    (opened' : realizedOf start'.db intent.accountId = some opening')
    (same : OtherwiseEqual intent.accountId w w')
    (day : dayPnl w'.now entries' = dayPnl w.now entries) :
    ((lossBlocked riskConfig intent excluded offered marketIsOpen w ↔
        lossBlocked riskConfig intent excluded offered marketIsOpen w') ∧
      (lossBlocked riskConfig intent excluded offered marketIsOpen w →
        dayPnl w.now entries ≤ -riskConfig.maxDailyLoss)) ↔
    (ReachesLimit riskConfig intent offered marketIsOpen w →
      let left := -riskConfig.maxDailyLoss - dayPnl w.now entries
      (left < carriedPnl opening w.now entries ∧ left < carriedPnl opening' w.now entries') ∨
        (carriedPnl opening w.now entries ≤ left ∧ carriedPnl opening' w.now entries' ≤ left ∧
          0 ≤ left)) := by
  have first := @lossBlocked_iff _ _ _ riskConfig _ excluded offered marketIsOpen _ _ history opened
  have second := @lossBlocked_iff _ _ _ riskConfig _ excluded offered marketIsOpen _ _ history' opened'
  rw [same.reaches, day, same.now] at second
  rw [first, second]
  dsimp only
  by_cases reaches : ReachesLimit riskConfig intent offered marketIsOpen w
  · simp only [reaches, true_and, true_imp_iff, ← le_sub_iff_add_le, sub_nonneg]
    constructor
    · rintro ⟨both, daily⟩
      by_cases used : carriedPnl opening w.now entries ≤
          -riskConfig.maxDailyLoss - dayPnl w.now entries
      · exact .inr ⟨used, both.mp used, daily used⟩
      · exact .inl ⟨not_le.mp used, not_le.mp fun used' => used (both.mpr used')⟩
    · rintro (⟨free, free'⟩ | ⟨used, used', daily⟩)
      · exact ⟨iff_of_false free.not_ge free'.not_ge, fun used => absurd used free.not_ge⟩
      · exact ⟨iff_of_true used used', fun _ => daily⟩
  · simp only [reaches, false_and, false_imp_iff, and_self]

theorem dayPnl_none {now : Int} {entries : List Realization}
    (earlier : ∀ entry ∈ entries, dayStart entry.time ≠ dayStart now) : dayPnl now entries = 0 := by
  have none : (entries.filter fun entry => dayStart entry.time = dayStart now) = [] :=
    List.filter_eq_nil_iff.mpr fun entry member => by simpa using earlier entry member
  rw [dayPnl, none]
  rfl

def soldAtLoss (start : World) : World :=
  perform (.elapse microsecondsPerDay)
    (perform (.submitOrder (.localSim {}) "t" "ord_6" (quoteAt 50))
      (perform (.runRiskCheck {} "t" "ord_6" none none)
        (perform (.createOrder "t" (limitIntent .sell .limit 10 50))
          (perform (.submitOrder (.localSim {}) "t" "ord_0" (quoteAt 100))
            (perform (.runRiskCheck {} "t" "ord_0" none none)
              (perform (.createOrder "t" (limitIntent .buy .limit 10 100)) start))))))

def earlierProfit : World where
  db := { accounts := ⟨[{ accountId := "acct", cashAvailable := 5000, equity := 5000
                          realizedPnl := 500 }], by simp⟩ }

def nextBuy : IntentFields := (limitIntent .buy .limit 10 100).toIntentFields

abbrev firstDay (operation : Operation) (w : World) : Prop :=
  Allowed {} anyFill operation w ∧ w.now = 0

theorem soldAtLoss_history {start : World} (run : Run firstDay start (soldAtLoss start))
    (now : (soldAtLoss start).now = microsecondsPerDay) :
    ∃ entries, History {} "acct" start entries (soldAtLoss start) ∧
      dayPnl (soldAtLoss start).now entries = 0 := by
  obtain ⟨entries, history, dated⟩ := History.of_run (· = 0) run "acct"
  refine ⟨entries, history, dayPnl_none fun entry member => ?_⟩
  rw [dated entry member, now]
  decide

theorem cashOnly_soldAtLoss : Run firstDay (cashOnly 5000) (soldAtLoss (cashOnly 5000)) :=
  .followed (.followed (.followed (.followed (.followed (.followed (.followed .refl
    _ ⟨trivial, by decide +kernel⟩) _ ⟨trivial, by decide +kernel⟩)
    _ ⟨⟨rfl, submitMeets_any _ _ _⟩, by decide +kernel⟩)
    _ ⟨trivial, by decide +kernel⟩) _ ⟨trivial, by decide +kernel⟩)
    _ ⟨⟨rfl, submitMeets_any _ _ _⟩, by decide +kernel⟩) _ ⟨trivial, by decide +kernel⟩

theorem earlierProfit_soldAtLoss : Run firstDay earlierProfit (soldAtLoss earlierProfit) :=
  .followed (.followed (.followed (.followed (.followed (.followed (.followed .refl
    _ ⟨trivial, by decide +kernel⟩) _ ⟨trivial, by decide +kernel⟩)
    _ ⟨⟨rfl, submitMeets_any _ _ _⟩, by decide +kernel⟩)
    _ ⟨trivial, by decide +kernel⟩) _ ⟨trivial, by decide +kernel⟩)
    _ ⟨⟨rfl, submitMeets_any _ _ _⟩, by decide +kernel⟩) _ ⟨trivial, by decide +kernel⟩

theorem soldAtLoss_equal :
    OtherwiseEqual "acct" (soldAtLoss (cashOnly 5000)) (soldAtLoss earlierProfit) where
  now := by decide +kernel
  account := by decide +kernel
  positions := Table.eq_of_rows (by decide +kernel)
  orders := Table.eq_of_rows (by decide +kernel)

-- Two accounts that lost nothing today, and one of them is blocked.
theorem soldAtLoss_blocked :
    (∃ entries, History {} "acct" (cashOnly 5000) entries (soldAtLoss (cashOnly 5000)) ∧
      dayPnl (soldAtLoss (cashOnly 5000)).now entries = 0) ∧
    (∃ entries, History {} "acct" earlierProfit entries (soldAtLoss earlierProfit) ∧
      dayPnl (soldAtLoss earlierProfit).now entries = 0) ∧
    OtherwiseEqual "acct" (soldAtLoss (cashOnly 5000)) (soldAtLoss earlierProfit) ∧
    lossBlocked { maxDailyLoss := 400 } nextBuy none none none (soldAtLoss (cashOnly 5000)) ∧
    ¬ lossBlocked { maxDailyLoss := 400 } nextBuy none none none (soldAtLoss earlierProfit) :=
  ⟨soldAtLoss_history cashOnly_soldAtLoss (by decide +kernel),
    soldAtLoss_history earlierProfit_soldAtLoss (by decide +kernel), soldAtLoss_equal,
    by decide +kernel, by decide +kernel⟩

-- With a limit of 3000 what the accounts carry over makes no difference.
theorem lossLimit_daily_small :
    lossBlocked {} nextBuy none none none (soldAtLoss (cashOnly 5000)) ↔
      lossBlocked {} nextBuy none none none (soldAtLoss earlierProfit) := by
  obtain ⟨entries, history, day⟩ := soldAtLoss_history cashOnly_soldAtLoss (by decide +kernel)
  obtain ⟨entries', history', day'⟩ :=
    soldAtLoss_history earlierProfit_soldAtLoss (by decide +kernel)
  have opened : realizedOf (cashOnly 5000).db "acct" = some 0 := by decide +kernel
  have opened' : realizedOf earlierProfit.db "acct" = some 500 := by decide +kernel
  have closed : realizedOf (soldAtLoss (cashOnly 5000)).db "acct" = some (-500) := by
    decide +kernel
  have closed' : realizedOf (soldAtLoss earlierProfit).db "acct" = some 0 := by decide +kernel
  have carried := Option.some.inj ((history.pnl opened).symm.trans closed)
  have carried' := Option.some.inj ((history'.pnl opened').symm.trans closed')
  rw [day, add_zero] at carried
  rw [day', add_zero, soldAtLoss_equal.now] at carried'
  have same : dayPnl (soldAtLoss earlierProfit).now entries' =
      dayPnl (soldAtLoss (cashOnly 5000)).now entries := day'.trans day.symm
  refine ((lossLimit_daily_iff (show History {} nextBuy.accountId _ _ _ from history)
    (show History {} nextBuy.accountId _ _ _ from history') opened opened' soldAtLoss_equal
    same).mpr fun _ => .inl ?_).1
  rw [carried, carried', day]
  decide +kernel

end Verdict

end SynapseYield.LocalSim
