import SynapseYield.Goal.Models
import SynapseYield.Shared.Program
import SynapseYield.Shared.Table

set_option autoImplicit false

namespace SynapseYield.Goal

open Shared

-- idx_goals_one_current_per_session
def OneCurrent (rows : List GoalRecord) : Prop :=
  rows.Pairwise fun a b =>
    ¬ (a.status.current = true ∧ b.status.current = true ∧ a.sessionId = b.sessionId)

instance (rows : List GoalRecord) : Decidable (OneCurrent rows) :=
  inferInstanceAs (Decidable (List.Pairwise _ rows))

abbrev Goals := Table PyString GoalRecord GoalRecord.goalId

structure Ledger where
  goals : Goals
  claims : Table PyString GoalClaim GoalClaim.claimId
  criteria : Table PyString GoalCriterion GoalCriterion.criterionId
  evidence : Table PyString EvidenceRecord EvidenceRecord.evidenceId
  audits : Table PyString GoalAudit GoalAudit.auditId
  indexed : OneCurrent goals.rows

def Ledger.empty : Ledger := ⟨.empty, .empty, .empty, .empty, .empty, List.Pairwise.nil⟩

inductive GoalError where
  | stale (message : PyString)
  | value (message : PyString)
  | runtime (message : PyString)
  -- sqlite3.OperationalError and sqlite3.IntegrityError
  | operational
  | integrity
  | python (raised : PyError)

abbrev Store := EStateM GoalError Ledger

-- The twelve digits of uuid4().hex[:12].
abbrev HexId := Fin (16 ^ 12)

def hexDigit (n : Nat) : CodePoint := Fin.ofNat _ (if n < 10 then 48 + n else 87 + n)

def HexId.text (hex : HexId) : PyString :=
  ⟨(List.range 12).map fun i => hexDigit (hex.val / 16 ^ (11 - i) % 16)⟩

-- _id
def newId (kind : PyString) (hex : HexId) : PyString := kind ++ ("_" : PyString) ++ hex.text

structure Files where
  safeDocumentPath : PyString → Except PyError PyString
  isFile : PyString → Except PyError Bool
  -- hashlib.sha256(path.read_bytes()).hexdigest()
  digest : PyString → Except PyError PyString
  safeRunId : PyString → Except PyError PyString
  isDir : PyString → Except PyError Bool

-- What one call meets: a lock held by another connection, the clock, new ids, the files.
structure Host where
  busy : Bool := false
  now : PyString
  hex : Nat → HexId
  files : Files

-- re.search, with re.I or without
class Patterns where
  search : (ignoreCase : Bool) → (pattern text : PyString) → Bool

-- _EXECUTION_PATTERNS
def executionPatterns : List (Bool × PyString) :=
  [(true, "\\b(place|submit|execute|send)\\b.\x7b0,40\x7d\\b(order|trade)\\b"),
    (true, "\\b(buy|sell|short|long)\\b.\x7b0,40\x7d\\b(now|immediately|market order|limit order|shares?|contracts?|btc|eth|usdt)\\b"),
    (false, "(下单|市价单|限价单|马上买|立即买|现在买|马上卖|立即卖|现在卖)")]

def lift {α : Type} : Except PyError α → Store α
  | .ok a => pure a
  | .error raised => throw (.python raised)

-- if bad: raise error
def refuse (bad : Prop) [Decidable bad] (raised : GoalError) : Store Unit :=
  if bad then throw raised else pure ()

-- Parameters of a statement.
def bindText (texts : List PyString) : Store Unit :=
  if texts.all PyString.encodable then pure () else throw (.python .valueError)

def bindInt (values : List Int) : Store Unit :=
  if values.all fun n => -2 ^ 63 ≤ n && n < 2 ^ 63 then pure () else throw (.python .overflowError)

-- _write_transaction: an exception rolls back.
def writeTransaction {α : Type} (host : Host) (body : Store α) : Store α := fun ledger =>
  if host.busy then .error .operational ledger
  else match body ledger with
    | .ok a after => .ok a after
    | .error raised _ => .error raised ledger

def setGoals (goals : Goals) : Store Unit := fun ledger =>
  if indexed : OneCurrent goals.rows then .ok () { ledger with goals, indexed }
  else .error .integrity ledger

def insertGoal (goal : GoalRecord) : Store Unit := do
  match (← get).goals.insert? goal with
  | some goals => setGoals goals
  | none => throw .integrity

def insertRow {ρ : Type} {key : ρ → PyString} (table : Ledger → Table PyString ρ key)
    (stored : Ledger → Table PyString ρ key → Ledger) (goalId : ρ → PyString) (row : ρ) :
    Store Unit := do
  let ledger ← get
  match (table ledger).insert? row with
  | some grown =>
    if (ledger.goals.find? (goalId row)).isSome then set (stored ledger grown)
    else throw .integrity
  | none => throw .integrity

def insertClaim : GoalClaim → Store Unit :=
  insertRow (·.claims) (fun ledger claims => { ledger with claims }) (·.goalId)

def insertCriterion : GoalCriterion → Store Unit :=
  insertRow (·.criteria) (fun ledger criteria => { ledger with criteria }) (·.goalId)

def insertEvidence : EvidenceRecord → Store Unit :=
  insertRow (·.evidence) (fun ledger evidence => { ledger with evidence }) (·.goalId)

def insertAudit : GoalAudit → Store Unit :=
  insertRow (·.audits) (fun ledger audits => { ledger with audits }) (·.goalId)

-- value[:80]
def clipped (value : PyString) : PyString := ⟨value.points.take 80⟩

-- value or default
def orElse (value fallback : PyString) : PyString := if value = .empty then fallback else value

section Policy

variable [PyText]

def normalizeRequiredText (value fieldName : PyString) : Store PyString :=
  if value.strip = .empty then throw (.value (fieldName ++ (" cannot be empty" : PyString)))
  else pure value.strip

def rejectLiveExecutionObjective [Patterns] (objective : PyString) : Store Unit :=
  if executionPatterns.any fun (ignoreCase, pattern) =>
      Patterns.search ignoreCase pattern objective.strip then
    throw (.value "live trading or execution goals are not supported")
  else pure ()

end Policy

section Reads

variable [PyText]

def getGoal (goalId : PyString) : Store (Option GoalRecord) := do
  let goalId ← normalizeRequiredText goalId "goal_id"
  bindText [goalId]
  return (← get).goals.find? goalId

-- The index leaves ORDER BY one row.
def getCurrentGoal (sessionId : PyString) : Store (Option GoalRecord) := do
  let sessionId ← normalizeRequiredText sessionId "session_id"
  bindText [sessionId]
  return (← get).goals.rows.find? fun goal =>
    decide (goal.sessionId = sessionId ∧ goal.status.current = true)

-- The goal, reloaded after the commit.
def reload (goalId message : PyString) : Store GoalRecord := do
  match ← getGoal goalId with
  | some goal => pure goal
  | none => throw (.runtime message)

-- CAST(substr(protocol_step, 6) AS INTEGER) where the step is step_ and a digit, else the last
-- place.
def stepOrder : Option PyString → Nat
  | some step =>
    let digits := (step.points.drop 5).takeWhile Ascii.isDigit
    if (⟨step.points.take 5⟩ : PyString) = "step_" ∧ digits ≠ [] then Ascii.natural digits
    else 2147483647
  | none => 2147483647

def listedBefore (a b : GoalCriterion) : Bool :=
  if stepOrder a.protocolStep ≠ stepOrder b.protocolStep then
    stepOrder a.protocolStep < stepOrder b.protocolStep
  else if a.createdAt ≠ b.createdAt then a.createdAt.points < b.createdAt.points
  else ! decide (b.criterionId.points < a.criterionId.points)

def listCriteria (goalId : PyString) : Store (List GoalCriterion) := do
  let goalId ← normalizeRequiredText goalId "goal_id"
  bindText [goalId]
  return ((← get).criteria.rows.filter fun criterion =>
    decide (criterion.goalId = goalId)).mergeSort listedBefore

-- _get_evidence
def findEvidence (evidenceId : PyString) : Store (Option EvidenceRecord) := do
  bindText [evidenceId]
  return (← get).evidence.find? evidenceId

def requireMutableGoal (sessionId goalId expectedGoalId : PyString) : Store GoalRecord := do
  refuse (expectedGoalId ≠ goalId) (.stale "expected_goal_id does not match target goal")
  let sessionId ← normalizeRequiredText sessionId "session_id"
  let goalId ← normalizeRequiredText goalId "goal_id"
  match ← getGoal goalId with
  | none => throw (.stale "goal is not available for this session")
  | some goal =>
    refuse (goal.sessionId ≠ sessionId) (.stale "goal is not available for this session")
    refuse (goal.status.current = false)
      (.stale (("goal status '" : PyString) ++ goal.status.value ++
        ("' is not mutable" : PyString)))
    match ← getCurrentGoal sessionId with
    | none => throw (.stale "goal is not current for this session")
    | some current =>
      refuse (current.goalId ≠ goalId) (.stale "goal is not current for this session")
      pure goal

end Reads

-- Where no criterion has the row's id, the update finds nothing.
def setCriteria (chosen : GoalCriterion → Bool)
    (update : RowUpdate PyString GoalCriterion GoalCriterion.criterionId) : Store Unit :=
  modify fun ledger => { ledger with criteria := ledger.criteria.updateWhere chosen update }

variable [PyText]

section ReplaceGoal

structure NewGoal where
  sessionId : PyString
  objective : PyString
  criteria : List PyString
  uiSummary : PyString := .empty
  source : PyString := "api"
  protocol : PyString := "thesis_review"
  riskTier : RiskTier := .researchGeneral
  tokenBudget : Option Int := none
  turnBudget : Option Int := none
  timeBudgetSeconds : Option Int := none

def requirePositive (name : PyString) (budget : Option Int) : Store Unit :=
  match budget with
  | some value =>
    if value ≤ 0 then throw (.value (name ++ (" must be positive" : PyString))) else pure ()
  | none => pure ()

def supersede (now : PyString) : RowUpdate PyString GoalRecord GoalRecord.goalId where
  apply goal := { goal with
    status := .superseded, updatedAt := now, completedAt := some (goal.completedAt.getD now) }

def supersedeCurrent (sessionId now : PyString) : Store Unit := do
  bindText [now, sessionId]
  let ledger ← get
  setGoals (ledger.goals.updateWhere
    (fun goal => decide (goal.sessionId = sessionId) && goal.status.current) (supersede now))

def newCriterion (host : Host) (goalId sessionId : PyString) (text : PyString) (index : Nat) :
    GoalCriterion where
  criterionId := newId "crit" (host.hex (index + 2))
  goalId
  sessionId
  text
  protocolStep := some (("step_" : PyString) ++ ((toString (index + 1) : String) : PyString))
  createdAt := host.now
  updatedAt := host.now

def addCriterion (host : Host) (goalId sessionId : PyString) (item : PyString × Nat) :
    Store Unit := do
  bindText [item.1]
  insertCriterion (newCriterion host goalId sessionId item.1 item.2)

def newClaim (host : Host) (goalId sessionId text : PyString) : GoalClaim where
  claimId := newId "claim" (host.hex 1)
  goalId
  sessionId
  claimType := "thesis"
  text
  status := "active"
  createdAt := host.now
  updatedAt := host.now

-- The session, the objective and the criteria, as they are stored.
def checkNewGoal [Patterns] (input : NewGoal) : Store (PyString × PyString × List PyString) := do
  let sessionId ← normalizeRequiredText input.sessionId "session_id"
  let objective ← normalizeRequiredText input.objective "goal objective"
  rejectLiveExecutionObjective objective
  refuse (input.riskTier = .liveTradingOrExecution)
    (.value "live trading or execution goals are not supported")
  let criteria := (input.criteria.map PyString.strip).filter fun text => decide (text ≠ .empty)
  refuse (criteria = []) (.value "at least one goal criterion is required")
  criteria.forM rejectLiveExecutionObjective
  requirePositive "token_budget" input.tokenBudget
  requirePositive "turn_budget" input.turnBudget
  requirePositive "time_budget_seconds" input.timeBudgetSeconds
  pure (sessionId, objective, criteria)

def newGoal (host : Host) (input : NewGoal) (sessionId objective : PyString) : GoalRecord where
  goalId := newId "goal" (host.hex 0)
  sessionId
  status := .active
  objective
  uiSummary := orElse input.uiSummary.strip (clipped objective)
  source := input.source
  protocol := input.protocol
  riskTier := input.riskTier
  tokenBudget := input.tokenBudget
  turnBudget := input.turnBudget
  timeBudgetSeconds := input.timeBudgetSeconds
  createdAt := host.now
  updatedAt := host.now

def writeNewGoal (host : Host) (goal : GoalRecord) (criteria : List PyString) : Store Unit := do
  supersedeCurrent goal.sessionId host.now
  bindText [goal.objective, goal.uiSummary, goal.source, goal.protocol]
  bindInt (goal.tokenBudget.toList ++ goal.turnBudget.toList ++ goal.timeBudgetSeconds.toList)
  insertGoal goal
  insertClaim (newClaim host goal.goalId goal.sessionId goal.objective)
  criteria.zipIdx.forM (addCriterion host goal.goalId goal.sessionId)

def replaceGoal [Patterns] (host : Host) (input : NewGoal) : Store GoalRecord := do
  let (sessionId, objective, criteria) ← checkNewGoal input
  let goal := newGoal host input sessionId objective
  writeTransaction host (writeNewGoal host goal criteria)
  reload goal.goalId "created goal could not be reloaded"

end ReplaceGoal

structure Target where
  sessionId : PyString
  goalId : PyString
  expectedGoalId : PyString

section UpdateGoal

def describe (objective uiSummary now : PyString) :
    RowUpdate PyString GoalRecord GoalRecord.goalId where
  apply goal := { goal with objective, uiSummary, updatedAt := now }

def restate (objective now : PyString) : RowUpdate PyString GoalClaim GoalClaim.claimId where
  apply claim := { claim with text := objective, updatedAt := now }

-- UPDATE goals ... WHERE goal_id = ? AND session_id = ?
def updateRow (goal : GoalRecord) (update : RowUpdate PyString GoalRecord GoalRecord.goalId) :
    Store Unit := do
  let ledger ← get
  setGoals (ledger.goals.updateWhere
    (fun row => decide (row.goalId = goal.goalId ∧ row.sessionId = goal.sessionId)) update)

def restateThesis (goal : GoalRecord) (objective now : PyString) : Store Unit :=
  modify fun ledger => { ledger with
    claims := ledger.claims.updateWhere (fun claim => decide (claim.goalId = goal.goalId ∧
      claim.sessionId = goal.sessionId ∧ claim.claimType = "thesis" ∧ claim.status = "active"))
      (restate objective now) }

def nextObjective [Patterns] (goal : GoalRecord) : Option PyString → Store PyString
  | some objective => do
    let objective ← normalizeRequiredText objective "goal objective"
    rejectLiveExecutionObjective objective
    pure objective
  | none => pure goal.objective

def nextSummary (goal : GoalRecord) (given uiSummary : Option PyString) (objective : PyString) :
    PyString :=
  match uiSummary with
  | some summary => orElse summary.strip (clipped objective)
  | none =>
    if given.isSome ∧ goal.uiSummary = clipped goal.objective then clipped objective
    else goal.uiSummary

def describeGoal [Patterns] (host : Host) (target : Target)
    (objective uiSummary : Option PyString) : Store GoalRecord := do
  let goal ← requireMutableGoal target.sessionId target.goalId target.expectedGoalId
  let next ← nextObjective goal objective
  let summary := nextSummary goal objective uiSummary next
  bindText [next, summary, host.now]
  updateRow goal (describe next summary host.now)
  if objective.isSome then restateThesis goal next host.now
  pure goal

def updateGoal [Patterns] (host : Host) (target : Target) (objective uiSummary : Option PyString) :
    Store GoalRecord := do
  let goal ← writeTransaction host (describeGoal host target objective uiSummary)
  reload goal.goalId "updated goal could not be reloaded"

end UpdateGoal

section AppendEvidence

-- lower().removeprefix("sha256:")
def plainHash (hash : PyString) : PyString :=
  let lowered := hash.lower
  let mark : PyString := "sha256:"
  if mark.points.isPrefixOf lowered.points then ⟨lowered.points.drop mark.points.length⟩
  else lowered

def artifactHashMatches (files : Files) (path : PyString) (expected : Option PyString) :
    Except PyError Bool :=
  match expected with
  | none => .ok false
  | some hash =>
    if hash = .empty then .ok false
    else match files.digest path with
      | .ok digest => .ok (digest = plainHash hash)
      | .error .osError => .ok false
      | .error raised => .error raised

-- The path, unless the check raises ValueError.
def allowed : Except PyError PyString → Except PyError (Option PyString)
  | .ok path => .ok (some path)
  | .error .valueError => .ok none
  | .error raised => .error raised

def nonempty (value : Option PyString) : Option PyString := value.filter fun s => decide (s ≠ .empty)

def artifactVerified (files : Files) (evidence : EvidenceInput) : Except PyError Bool := do
  match nonempty evidence.artifactPath with
  | none => return false
  | some path =>
    match ← allowed (files.safeDocumentPath path) with
    | none => return false
    | some artifact =>
      if ← files.isFile artifact then artifactHashMatches files artifact evidence.artifactHash
      else return false

def runVerified (files : Files) (evidence : EvidenceInput) : Except PyError Bool := do
  match nonempty evidence.runId with
  | none => return false
  | some runId =>
    match ← allowed (files.safeRunId runId) with
    | none => return false
    | some runDir => files.isDir runDir

-- _verification_status
def verificationStatus (files : Files) (evidence : EvidenceInput) : Except PyError PyString := do
  if ← artifactVerified files evidence then return "verified"
  if ← runVerified files evidence then return "verified"
  return "unverified"

def requireCriterion (goalId : PyString) (criterionId : PyString) : Store Unit := do
  bindText [criterionId]
  match (← get).criteria.find? criterionId with
  | some criterion =>
    refuse (criterion.goalId ≠ goalId)
      (.value (("unknown criterion_id: " : PyString) ++ criterionId))
  | none => throw (.value (("unknown criterion_id: " : PyString) ++ criterionId))

def requireClaim (goalId : PyString) (claimId : PyString) : Store Unit := do
  bindText [claimId]
  match (← get).claims.find? claimId with
  | some claim =>
    refuse (claim.goalId ≠ goalId) (.value (("unknown claim_id: " : PyString) ++ claimId))
  | none => throw (.value (("unknown claim_id: " : PyString) ++ claimId))

-- The text columns of goal_evidence, lists and dicts as JSON.
def bindEvidence (text : PyString) (evidence : EvidenceInput) : Store Unit := do
  lift (PyValue.dict evidence.assumptions).dumpsSorted
  bindText (evidence.symbolUniverse ++ evidence.benchmark ++ evidence.contradictsClaimIds)
  lift (PyValue.dict evidence.assumptions).encode
  bindText ([text, evidence.evidenceType] ++ [evidence.criterionId, evidence.claimId,
    evidence.toolCallId, evidence.runId, evidence.sourceProvider, evidence.sourceType,
    evidence.sourceUri, evidence.timeframe, evidence.method, evidence.artifactPath,
    evidence.artifactHash, evidence.dataAsOf, evidence.confidence, evidence.caveat].reduceOption)

def cover (now : PyString) : RowUpdate PyString GoalCriterion GoalCriterion.criterionId where
  apply criterion := { criterion with status := "covered", updatedAt := now }

def uncovered (status : PyString) : Bool :=
  decide (status = "pending" ∨ status = "open" ∨ status = "unsatisfied")

def newEvidence (host : Host) (goal : GoalRecord) (evidence : EvidenceInput)
    (verification : PyString) : EvidenceRecord where
  evidenceId := newId "ev" (host.hex 0)
  goalId := goal.goalId
  sessionId := goal.sessionId
  given := { evidence with text := evidence.text.strip }
  retrievedAt := host.now
  freshnessStatus := if (nonempty evidence.dataAsOf).isSome then "fresh" else "unknown"
  verificationStatus := verification
  createdAt := host.now

def coverCriterion (goal : GoalRecord) (now criterionId : PyString) : Store Unit :=
  setCriteria (fun criterion => decide (criterion.goalId = goal.goalId ∧
    criterion.sessionId = goal.sessionId ∧ criterion.criterionId = criterionId) &&
      uncovered criterion.status) (cover now)

def writeEvidence (host : Host) (goal : GoalRecord) (evidence : EvidenceInput) : Store Unit := do
  refuse (evidence.text.strip = .empty) (.value "evidence text cannot be empty")
  evidence.criterionId.forM (requireCriterion goal.goalId)
  evidence.claimId.forM (requireClaim goal.goalId)
  let verification ← lift (verificationStatus host.files evidence)
  bindEvidence evidence.text.strip evidence
  bindText [host.now]
  insertEvidence (newEvidence host goal evidence verification)
  evidence.criterionId.forM (coverCriterion goal host.now)

def appendEvidence (host : Host) (target : Target) (evidence : EvidenceInput) :
    Store EvidenceRecord := do
  let evidenceId := newId "ev" (host.hex 0)
  writeTransaction host do
    let goal ← requireMutableGoal target.sessionId target.goalId target.expectedGoalId
    writeEvidence host goal evidence
  match ← findEvidence evidenceId with
  | some record => pure record
  | none => throw (.runtime "created evidence could not be reloaded")

end AppendEvidence

section UpdateStatus

-- _COMPLETION_RESULTS
def completing (result : PyString) : Bool :=
  decide (result = "satisfied" ∨ result = "satisfied_with_caveat" ∨
    result = "not_applicable_user_accepted")

def satisfying (result : PyString) : Bool :=
  decide (result = "satisfied" ∨ result = "satisfied_with_caveat")

-- A repeated criterion keeps its last row.
def rowFor (audit : List AuditRow) (criterionId : PyString) : Option AuditRow :=
  audit.reverse.find? fun row => decide (row.criterionId = criterionId)

-- Whether the evidence is verified, once it is known to be the criterion's.
def checkEvidence (goal : GoalRecord) (criterion : GoalCriterion) (verified : Bool)
    (evidenceId : PyString) : Store Bool := do
  match ← findEvidence evidenceId with
  | none => throw (.value (("unknown evidence_id: " : PyString) ++ evidenceId))
  | some evidence =>
    refuse (evidence.goalId ≠ goal.goalId)
      (.value (("unknown evidence_id: " : PyString) ++ evidenceId))
    refuse (evidence.given.criterionId ≠ some criterion.criterionId)
      (.value (("evidence " : PyString) ++ evidenceId ++
        (" does not match criterion " : PyString) ++ criterion.criterionId))
    return verified || decide (evidence.verificationStatus = "verified")

def checkRow (goal : GoalRecord) (criterion : GoalCriterion) (row : AuditRow) : Store Unit := do
  refuse (completing row.result = false)
    (.value (("criterion " : PyString) ++ criterion.criterionId ++
      (" is not satisfied" : PyString)))
  refuse (satisfying row.result ∧ row.evidenceIds = [])
    (.value "complete goals require verified evidence")
  refuse (row.result = "not_applicable_user_accepted" ∧ row.notes.strip = .empty)
    (.value "not-applicable criteria require acceptance notes")
  let verified ← row.evidenceIds.foldlM (checkEvidence goal criterion) false
  refuse (satisfying row.result ∧ verified = false)
    (.value "complete goals require verified evidence")

def checkCriterion (goal : GoalRecord) (audit : List AuditRow) (criterion : GoalCriterion) :
    Store Unit :=
  if criterion.required then
    match rowFor audit criterion.criterionId with
    | none =>
      throw (.value (("missing audit row for criterion " : PyString) ++ criterion.criterionId))
    | some row => checkRow goal criterion row
  else pure ()

def validateCompletionAudit (goal : GoalRecord) (audit : List AuditRow) : Store Unit := do
  let criteria ← listCriteria goal.goalId
  criteria.forM (checkCriterion goal audit)

def moveTo (status : GoalStatus) (now : PyString) (recap : Option PyString) :
    RowUpdate PyString GoalRecord GoalRecord.goalId where
  apply goal := { goal with
    status, updatedAt := now,
    completedAt := if status.ends then some now else goal.completedAt
    recap := recap <|> goal.recap }

def judge (result now : PyString) : RowUpdate PyString GoalCriterion GoalCriterion.criterionId where
  apply criterion := { criterion with status := result, updatedAt := now }

def bindAudit (rows : List AuditRow) : Store Unit :=
  bindText (rows.flatMap fun row => [row.criterionId, row.result, row.notes] ++ row.evidenceIds)

def storeAudit (host : Host) (goal : GoalRecord) (status : GoalStatus) (rows : List AuditRow) :
    Store Unit :=
  if rows = [] then pure ()
  else do
    bindAudit rows
    insertAudit
      { auditId := newId "audit" (host.hex 0), goalId := goal.goalId, sessionId := goal.sessionId,
        auditType := "completion", result := status.value, rows, createdAt := host.now }

-- The last row of a criterion has the last word.
def applyRow (goal : GoalRecord) (now : PyString) (row : AuditRow) : Store Unit := do
  bindText [row.result, row.criterionId]
  setCriteria (fun criterion => decide (criterion.goalId = goal.goalId ∧
    criterion.sessionId = goal.sessionId ∧ criterion.criterionId = row.criterionId))
    (judge row.result now)

def writeStatus (host : Host) (goal : GoalRecord) (status : GoalStatus) (audit : List AuditRow)
    (recap : Option PyString) : Store Unit := do
  bindText (host.now :: recap.toList)
  updateRow goal (moveTo status host.now recap)
  storeAudit host goal status audit
  if status = .complete then audit.forM (applyRow goal host.now)

def moveGoal (host : Host) (target : Target) (status : GoalStatus) (audit : List AuditRow)
    (recap : Option PyString) : Store GoalRecord := do
  let goal ← requireMutableGoal target.sessionId target.goalId target.expectedGoalId
  if status = .complete then validateCompletionAudit goal audit
  writeStatus host goal status audit recap
  pure goal

def updateStatus (host : Host) (target : Target) (status : GoalStatus) (audit : List AuditRow)
    (recap : Option PyString) : Store GoalRecord := do
  let goal ← writeTransaction host (moveGoal host target status audit recap)
  reload goal.goalId "updated goal could not be reloaded"

end UpdateStatus

section AccountUsage

structure Usage where
  tokenDelta : Int := 0
  timeDeltaSeconds : Int := 0
  turnDelta : Int := 0

def GoalRecord.use (goal : GoalRecord) (usage : Usage) : GoalRecord :=
  { goal with
    tokensUsed := goal.tokensUsed + usage.tokenDelta
    timeUsedSeconds := goal.timeUsedSeconds + usage.timeDeltaSeconds
    turnsUsed := goal.turnsUsed + usage.turnDelta }

def reached (used : Int) : Option Int → Bool
  | some budget => budget ≤ used
  | none => false

-- crosses_budget
def GoalRecord.spent (goal : GoalRecord) : Bool :=
  reached goal.tokensUsed goal.tokenBudget || reached goal.timeUsedSeconds goal.timeBudgetSeconds ||
    reached goal.turnsUsed goal.turnBudget

-- The columns take the values that were computed from the row as it was read.
def account (used : GoalRecord) (status : GoalStatus) (now : PyString) :
    RowUpdate PyString GoalRecord GoalRecord.goalId where
  apply goal := { goal with
    tokensUsed := used.tokensUsed
    timeUsedSeconds := used.timeUsedSeconds
    turnsUsed := used.turnsUsed
    status, updatedAt := now }

def nextStatus (goal : GoalRecord) (usage : Usage) : GoalStatus :=
  if (goal.use usage).spent then .budgetLimited else goal.status

def useGoal (host : Host) (target : Target) (usage : Usage) : Store GoalRecord := do
  let goal ← requireMutableGoal target.sessionId target.goalId target.expectedGoalId
  let used := goal.use usage
  bindInt [used.tokensUsed, used.timeUsedSeconds, used.turnsUsed]
  bindText [host.now]
  updateRow goal (account used (nextStatus goal usage) host.now)
  pure goal

def accountUsage (host : Host) (target : Target) (usage : Usage) : Store GoalRecord := do
  refuse (min (min usage.tokenDelta usage.timeDeltaSeconds) usage.turnDelta < 0)
    (.value "usage deltas must be non-negative")
  let goal ← writeTransaction host (useGoal host target usage)
  reload goal.goalId "usage-updated goal could not be reloaded"

end AccountUsage

section DeleteSessionGoals

-- FOREIGN KEY(goal_id) REFERENCES goals(goal_id)
def Ledger.referenced (ledger : Ledger) : Bool :=
  let known (goalId : PyString) : Bool := (ledger.goals.find? goalId).isSome
  (ledger.claims.rows.all fun row => known row.goalId) &&
    (ledger.criteria.rows.all fun row => known row.goalId) &&
    (ledger.evidence.rows.all fun row => known row.goalId) &&
    (ledger.audits.rows.all fun row => known row.goalId)

def Ledger.forget (ledger : Ledger) (sessionId : PyString) : Ledger where
  goals := ledger.goals.deleteWhere fun row => decide (row.sessionId = sessionId)
  claims := ledger.claims.deleteWhere fun row => decide (row.sessionId = sessionId)
  criteria := ledger.criteria.deleteWhere fun row => decide (row.sessionId = sessionId)
  evidence := ledger.evidence.deleteWhere fun row => decide (row.sessionId = sessionId)
  audits := ledger.audits.deleteWhere fun row => decide (row.sessionId = sessionId)
  indexed := List.Pairwise.filter _ ledger.indexed

def deleteSessionGoals (host : Host) (sessionId : PyString) : Store Nat := do
  let sessionId ← normalizeRequiredText sessionId "session_id"
  writeTransaction host do
    bindText [sessionId]
    let ledger ← get
    let forgotten := ledger.forget sessionId
    refuse (forgotten.referenced = false) .integrity
    set forgotten
    return (ledger.goals.rows.filter fun goal => decide (goal.sessionId = sessionId)).length

end DeleteSessionGoals

section Calls

variable [Patterns]

inductive Call where
  | replaceGoal (host : Host) (goal : NewGoal)
  | updateGoal (host : Host) (target : Target) (objective uiSummary : Option PyString)
  | appendEvidence (host : Host) (target : Target) (evidence : EvidenceInput)
  | updateStatus (host : Host) (target : Target) (status : GoalStatus) (audit : List AuditRow)
      (recap : Option PyString)
  | accountUsage (host : Host) (target : Target) (usage : Usage)
  | deleteSessionGoals (host : Host) (sessionId : PyString)

def Call.run : Call → Store Unit
  | .replaceGoal host goal => discarded (Goal.replaceGoal host goal)
  | .updateGoal host target objective uiSummary =>
    discarded (Goal.updateGoal host target objective uiSummary)
  | .appendEvidence host target evidence => discarded (Goal.appendEvidence host target evidence)
  | .updateStatus host target status audit recap =>
    discarded (Goal.updateStatus host target status audit recap)
  | .accountUsage host target usage => discarded (Goal.accountUsage host target usage)
  | .deleteSessionGoals host sessionId => discarded (Goal.deleteSessionGoals host sessionId)

-- The ledger after the calls, whether they returned or raised.
def ledgerAfter (calls : List Call) : Ledger :=
  calls.foldl (fun ledger call => leaves (call.run ledger)) .empty

end Calls

end SynapseYield.Goal
