import SynapseYield.Shared.Json

set_option autoImplicit false

namespace SynapseYield.Goal

open Shared

inductive GoalStatus where
  | active
  | paused
  | waitingUser
  | needsRefresh
  | insufficientEvidence
  | complianceBlocked
  | blocked
  | budgetLimited
  | usageLimited
  | complete
  | cancelled
  | superseded
deriving DecidableEq, Repr

namespace GoalStatus

def value : GoalStatus → PyString
  | active => "active"
  | paused => "paused"
  | waitingUser => "waiting_user"
  | needsRefresh => "needs_refresh"
  | insufficientEvidence => "insufficient_evidence"
  | complianceBlocked => "compliance_blocked"
  | blocked => "blocked"
  | budgetLimited => "budget_limited"
  | usageLimited => "usage_limited"
  | complete => "complete"
  | cancelled => "cancelled"
  | superseded => "superseded"

-- _CURRENT_STATUSES
def current : GoalStatus → Bool
  | active | paused | waitingUser | needsRefresh | insufficientEvidence | complianceBlocked
  | budgetLimited => true
  | _ => false

-- The statuses that set completed_at.
def ends : GoalStatus → Bool
  | complete | blocked | cancelled | superseded | usageLimited => true
  | _ => false

@[simp] theorem ends_eq (status : GoalStatus) : status.ends = !status.current := by
  cases status <;> rfl

end GoalStatus

inductive RiskTier where
  | researchGeneral
  | marketSpecificShortTerm
  | personalizedAdviceOrPositionSizing
  | liveTradingOrExecution
deriving DecidableEq, Repr

structure GoalRecord where
  goalId : PyString
  sessionId : PyString
  status : GoalStatus
  objective : PyString
  uiSummary : PyString
  source : PyString
  protocol : PyString
  riskTier : RiskTier
  tokenBudget : Option Int := none
  tokensUsed : Int := 0
  turnBudget : Option Int := none
  turnsUsed : Int := 0
  timeBudgetSeconds : Option Int := none
  timeUsedSeconds : Int := 0
  createdAt : PyString := .empty
  updatedAt : PyString := .empty
  completedAt : Option PyString := none
  recap : Option PyString := none

structure GoalClaim where
  claimId : PyString
  goalId : PyString
  sessionId : PyString
  claimType : PyString
  text : PyString
  status : PyString
  createdAt : PyString := .empty
  updatedAt : PyString := .empty

structure GoalCriterion where
  criterionId : PyString
  goalId : PyString
  sessionId : PyString
  text : PyString
  required : Bool := true
  status : PyString := "pending"
  protocolStep : Option PyString := none
  createdAt : PyString := .empty
  updatedAt : PyString := .empty

structure EvidenceInput where
  text : PyString
  criterionId : Option PyString := none
  claimId : Option PyString := none
  evidenceType : PyString := "evidence"
  toolCallId : Option PyString := none
  runId : Option PyString := none
  sourceProvider : Option PyString := none
  sourceType : Option PyString := none
  sourceUri : Option PyString := none
  symbolUniverse : List PyString := []
  benchmark : List PyString := []
  timeframe : Option PyString := none
  method : Option PyString := none
  assumptions : PyDict := []
  artifactPath : Option PyString := none
  artifactHash : Option PyString := none
  dataAsOf : Option PyString := none
  confidence : Option PyString := none
  caveat : Option PyString := none
  contradictsClaimIds : List PyString := []

-- A row of goal_evidence: what was given, and what the store adds to it.
structure EvidenceRecord where
  evidenceId : PyString
  goalId : PyString
  sessionId : PyString
  given : EvidenceInput
  retrievedAt : PyString
  freshnessStatus : PyString
  verificationStatus : PyString
  createdAt : PyString

structure AuditRow where
  criterionId : PyString
  result : PyString
  evidenceIds : List PyString
  notes : PyString := .empty

-- A row of goal_audits.
structure GoalAudit where
  auditId : PyString
  goalId : PyString
  sessionId : PyString
  auditType : PyString
  result : PyString
  rows : List AuditRow
  createdAt : PyString

end SynapseYield.Goal
