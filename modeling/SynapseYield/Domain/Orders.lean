import Mathlib.Data.List.Basic

set_option autoImplicit false

namespace SynapseYield

inductive OrderSide where
  | buy | sell
deriving DecidableEq, Repr

def OrderSide.value : OrderSide → String
  | .buy => "BUY"
  | .sell => "SELL"

inductive OrderType where
  | market | limit | limitIfTouched | stopLimit
deriving DecidableEq, Repr

def OrderType.value : OrderType → String
  | .market => "MARKET"
  | .limit => "LIMIT"
  | .limitIfTouched => "LIMIT_IF_TOUCHED"
  | .stopLimit => "STOP_LIMIT"

inductive TimeInForce where
  | day | gtc
deriving DecidableEq, Repr

inductive OrderStatus where
  | created | riskRejected | riskApproved | submitting | submitted | partiallyFilled
  | filled | cancelPending | cancelled | failed | reconciling
deriving DecidableEq, Repr

def OrderStatus.value : OrderStatus → String
  | .created => "CREATED"
  | .riskRejected => "RISK_REJECTED"
  | .riskApproved => "RISK_APPROVED"
  | .submitting => "SUBMITTING"
  | .submitted => "SUBMITTED"
  | .partiallyFilled => "PARTIALLY_FILLED"
  | .filled => "FILLED"
  | .cancelPending => "CANCEL_PENDING"
  | .cancelled => "CANCELLED"
  | .failed => "FAILED"
  | .reconciling => "RECONCILING"

inductive RiskDecisionStatus where
  | approved | rejected | requiresManualReview
deriving DecidableEq, Repr

inductive OutboxStatus where
  | pending | published | failed
deriving DecidableEq, Repr

inductive TradeAction where
  | buy | sell | hold
deriving DecidableEq, Repr

inductive LLMTradingRunStatus where
  | awaitingApproval | rejected | noAction | completed
deriving DecidableEq, Repr

-- ALLOWED_ORDER_TRANSITIONS
def allowedOrderTransitions : OrderStatus → List OrderStatus
  | .created => [.riskApproved, .riskRejected, .failed]
  | .riskRejected => []
  | .riskApproved => [.submitting, .failed]
  | .submitting => [.submitted, .failed, .reconciling]
  | .submitted => [.partiallyFilled, .filled, .cancelPending, .cancelled, .failed, .reconciling]
  | .partiallyFilled => [.filled, .cancelPending, .cancelled, .reconciling]
  | .filled => []
  | .cancelPending => [.cancelled, .partiallyFilled, .filled, .reconciling]
  | .cancelled => []
  | .failed => [.reconciling]
  | .reconciling => [.submitted, .partiallyFilled, .filled, .cancelled, .failed]

-- What the modelled code raises; a text is the message of the exception.
inductive PyException where
  | validationError (message : String)
  | valueError (message : String)
  | runtimeError (message : String)
  | invalidOrderTransition (current target : OrderStatus)
  | integrityError (column : String)
  | noSuchRow (table : String)
deriving DecidableEq, Repr

-- What execute raises when the risk check or the broker refuses the order.
def PyException.refusal : PyException → Bool
  | .runtimeError _ => true
  | _ => false

def assertOrderTransition (current target : OrderStatus) : Except PyException Unit :=
  if target ∈ allowedOrderTransitions current then .ok ()
  else .error (.invalidOrderTransition current target)

theorem assertOrderTransition_error {current target : OrderStatus} {raised : PyException}
    (failed : assertOrderTransition current target = .error raised) : raised.refusal = false := by
  unfold assertOrderTransition at failed
  split at failed
  next => cases failed
  next =>
    cases failed
    rfl

end SynapseYield
