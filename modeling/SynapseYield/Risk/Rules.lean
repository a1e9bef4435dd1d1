import SynapseYield.Risk.Engine

set_option autoImplicit false

namespace SynapseYield.RiskEngine

open Shared

variable {config : RiskConfig} {db : Database} {now : Int} {intent : IntentFields}
  {excluded : Option String} {quote : Option MarketQuote} {marketIsOpen : Option Bool}

def availableQuantity (db : Database) (intent : IntentFields) : ℚ :=
  match db.positions.find? (intent.accountId, intent.symbol) with
  | some position => position.availableQuantity
  | none => 0

-- The rules before the loss limit let the intent of this account through.
structure Screened (config : RiskConfig) (account : Account) (db : Database)
    (intent : IntentFields) (quote : Option MarketQuote) (marketIsOpen : Option Bool) : Prop where
  symbol : ∀ given ∈ quote, given.symbol = intent.symbol
  session : ¬ (config.requireMarketSession ∧ marketIsOpen = some false)
  value : estimateOrderValue intent quote ≤ config.maxSingleOrderValue
  cash : intent.side = .buy → estimateOrderValue intent quote ≤ account.cashAvailable
  shares : intent.side = .sell → intent.quantity.value ≤ availableQuantity db intent

-- Neither an open order nor a recent one has the exposure of the intent.
structure Unexposed (config : RiskConfig) (db : Database) (now : Int) (intent : IntentFields)
    (excluded : Option String) : Prop where
  unopened : countOrders db excluded (fun order =>
    sameExposure intent order && openStatuses.contains order.status) = 0
  cooled : countOrders db excluded (fun order => sameExposure intent order &&
    decide (order.createdAt ≥ now - config.duplicateOrderCooldownSeconds * 1000000)) = 0

-- One rule of the list: a result that is approved has passed it and is that of the rest.
theorem rule_passed {refused : Prop} [Decidable refused] {reasonCode message : String}
    {checkedRules : List String} {snapshot : RiskSnapshot} {rest : RiskCheckResult}
    (approved : (if refused then rejected reasonCode message checkedRules snapshot
      else rest).approved) :
    ¬ refused ∧ (if refused then rejected reasonCode message checkedRules snapshot else rest) =
      rest ∧ rest.approved := by
  by_cases broken : refused
  · rw [if_pos broken] at approved
    cases approved
  · rw [if_neg broken] at approved ⊢
    exact ⟨broken, rfl, approved⟩

theorem checkExposure_approved {account : Account} {estimatedValue : ℚ}
    {checkedRules : List String} {snapshot : RiskSnapshot}
    (approved : (checkExposure config db now intent excluded quote account estimatedValue
      checkedRules snapshot).approved) :
    Unexposed config db now intent excluded ∧
      (checkExposure config db now intent excluded quote account estimatedValue checkedRules
        snapshot).inputSnapshot.estimatedValue = snapshot.estimatedValue := by
  unfold checkExposure at approved ⊢
  obtain ⟨-, same, approved⟩ := rule_passed approved
  rw [same]
  obtain ⟨-, same, approved⟩ := rule_passed approved
  rw [same]
  obtain ⟨unopened, same, approved⟩ := rule_passed approved
  rw [same]
  obtain ⟨cooled, same, -⟩ := rule_passed approved
  rw [same]
  exact ⟨⟨not_not.mp unopened, not_not.mp cooled⟩, rfl⟩

structure Passed (config : RiskConfig) (db : Database) (now : Int) (intent : IntentFields)
    (excluded : Option String) (quote : Option MarketQuote) (marketIsOpen : Option Bool) : Prop
    extends Unexposed config db now intent excluded where
  account : ∃ account, db.accounts.find? intent.accountId = some account ∧
    Screened config account db intent quote marketIsOpen

theorem screened_iff {account : Account} :
    Screened config account db intent quote marketIsOpen ↔
      ¬ quote.any (fun given => given.symbol != intent.symbol) ∧
      ¬ (config.requireMarketSession && marketIsOpen == some false) ∧
      ¬ estimateOrderValue intent quote > config.maxSingleOrderValue ∧
      ¬ (intent.side = .buy ∧ account.cashAvailable < estimateOrderValue intent quote) ∧
      ¬ (intent.side = .sell ∧ availableQuantity db intent < intent.quantity.value) := by
  constructor
  · rintro ⟨symbol, session, value, cash, shares⟩
    refine ⟨?_, by simpa using session, not_lt.mpr value, fun short => ?_, fun short => ?_⟩
    · cases quote with
      | none => simp
      | some given => simpa using symbol given rfl
    · exact short.2.not_ge (cash short.1)
    · exact short.2.not_ge (shares short.1)
  · rintro ⟨symbol, session, value, cash, shares⟩
    exact {
      symbol := by rintro _ ⟨⟩; simpa using symbol
      session := by simpa using session
      value := not_lt.mp value
      cash := fun buying => not_lt.mp fun short => cash ⟨buying, short⟩
      shares := fun selling => not_lt.mp fun short => shares ⟨selling, short⟩ }

theorem check_approved
    (approved : (check config db now intent excluded quote marketIsOpen).approved) :
    Passed config db now intent excluded quote marketIsOpen ∧
      (check config db now intent excluded quote marketIsOpen).inputSnapshot.estimatedValue =
        some (estimateOrderValue intent quote) := by
  unfold check at approved ⊢
  cases found : db.accounts.find? intent.accountId with
  | none => simp [found, rejected] at approved
  | some account =>
    simp only [found] at approved ⊢
    obtain ⟨symbol, same, approved⟩ := rule_passed approved
    rw [same]
    obtain ⟨session, same, approved⟩ := rule_passed approved
    rw [same]
    obtain ⟨value, same, approved⟩ := rule_passed approved
    rw [same]
    obtain ⟨cash, same, approved⟩ := rule_passed approved
    rw [same]
    obtain ⟨shares, same, approved⟩ := rule_passed approved
    rw [same]
    obtain ⟨-, same, approved⟩ := rule_passed approved
    rw [same]
    obtain ⟨-, same, approved⟩ := rule_passed approved
    rw [same]
    obtain ⟨unexposed, estimated⟩ := checkExposure_approved approved
    refine ⟨{ unexposed with account := ⟨account, found, ?_⟩ }, ?_⟩
    · exact screened_iff.mpr ⟨symbol, session, value, cash, shares⟩
    · rw [estimated]
      split <;> rfl

theorem rule_blamed {refused : Prop} [Decidable refused] {reasonCode message blamed : String}
    {checkedRules : List String} {snapshot : RiskSnapshot} {rest : RiskCheckResult} :
    (if refused then rejected reasonCode message checkedRules snapshot
      else rest).reasonCode = blamed ↔
      (refused ∧ reasonCode = blamed) ∨ (¬ refused ∧ rest.reasonCode = blamed) := by
  by_cases broken : refused <;> simp [broken, rejected]

theorem checkExposure_unblamed {account : Account} {estimatedValue : ℚ}
    {checkedRules : List String} {snapshot : RiskSnapshot} :
    (checkExposure config db now intent excluded quote account estimatedValue checkedRules
      snapshot).reasonCode ≠ "DAILY_LOSS_LIMIT_EXCEEDED" := by
  unfold checkExposure
  simp only [ne_eq, rule_blamed]
  simp

theorem check_lossLimit :
    (check config db now intent excluded quote marketIsOpen).reasonCode =
        "DAILY_LOSS_LIMIT_EXCEEDED" ↔
      ∃ account, db.accounts.find? intent.accountId = some account ∧
        Screened config account db intent quote marketIsOpen ∧
        account.realizedPnl ≤ -config.maxDailyLoss := by
  unfold check
  cases found : db.accounts.find? intent.accountId with
  | none => simp [rejected]
  | some account =>
    simp only [rule_blamed, checkExposure_unblamed, Option.some.injEq, exists_eq_left',
      screened_iff]
    simp only [availableQuantity]
    simp
    tauto

end SynapseYield.RiskEngine
