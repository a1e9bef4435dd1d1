import SynapseYield.Goal.Store

set_option autoImplicit false

namespace SynapseYield.Goal

open Shared

section Statements

variable {ledger after : Ledger}

theorem writeTransaction_ok {α : Type} {host : Host} {body : Store α} {a : α} :
    writeTransaction host body ledger = .ok a after ↔
      host.busy = false ∧ body ledger = .ok a after := by
  unfold writeTransaction
  cases host.busy with
  | true => simp
  | false => cases ran : body ledger <;> simp

theorem writeTransaction_error {α : Type} {host : Host} {body : Store α} {raised : GoalError}
    (failed : writeTransaction host body ledger = .error raised after) : after = ledger := by
  unfold writeTransaction at failed
  split at failed
  · cases failed; rfl
  · split at failed
    · cases failed
    · cases failed; rfl

theorem refuse_ok {bad : Prop} [Decidable bad] {raised : GoalError} {u : Unit} :
    refuse bad raised ledger = .ok u after ↔ ¬ bad ∧ ledger = after := by
  unfold refuse
  split
  next holds => simp [holds, throw_ok]
  next fails => simp [fails, pure_ok]

theorem lift_ok {α : Type} {x : Except PyError α} {a : α} :
    lift x ledger = .ok a after ↔ x = .ok a ∧ ledger = after := by
  cases x with
  | ok value => simp [lift, pure_ok]
  | error raised => simp [lift, throw_ok]

theorem bindText_ok {texts : List PyString} {u : Unit} :
    bindText texts ledger = .ok u after ↔ texts.all PyString.encodable = true ∧ ledger = after := by
  unfold bindText
  split
  next bound => simp [bound, pure_ok]
  next unbound => simp [unbound, throw_ok]

theorem bindInt_ok {values : List Int} {u : Unit} (bound : bindInt values ledger = .ok u after) :
    ledger = after := by
  unfold bindInt at bound
  split at bound
  next => exact (pure_ok.mp bound).2
  next => cases bound

theorem setGoals_ok {goals : Goals} {u : Unit} (ran : setGoals goals ledger = .ok u after) :
    ∃ indexed, after = { ledger with goals, indexed } := by
  unfold setGoals at ran
  split at ran
  next indexed => cases ran; exact ⟨indexed, rfl⟩
  next => cases ran

theorem insertGoal_ok {goal : GoalRecord} {u : Unit} (ran : insertGoal goal ledger = .ok u after) :
    ∃ goals indexed, ledger.goals.insert? goal = some goals ∧
      after = { ledger with goals, indexed } := by
  unfold insertGoal at ran
  obtain ⟨_, _, got, ran⟩ := bind_ok.mp ran
  obtain ⟨rfl, rfl⟩ := get_ok.mp got
  cases inserted : ledger.goals.insert? goal with
  | some goals =>
    rw [inserted] at ran
    obtain ⟨indexed, rfl⟩ := setGoals_ok ran
    exact ⟨goals, indexed, rfl, rfl⟩
  | none =>
    rw [inserted] at ran
    cases ran

theorem insertRow_ok {ρ : Type} {key : ρ → PyString} {table : Ledger → Table PyString ρ key}
    {stored : Ledger → Table PyString ρ key → Ledger} {goalId : ρ → PyString} {row : ρ} {u : Unit}
    (ran : insertRow table stored goalId row ledger = .ok u after) :
    ∃ grown, (table ledger).insert? row = some grown ∧ after = stored ledger grown := by
  unfold insertRow at ran
  obtain ⟨_, _, got, ran⟩ := bind_ok.mp ran
  obtain ⟨rfl, rfl⟩ := get_ok.mp got
  cases inserted : (table ledger).insert? row with
  | some grown =>
    rw [inserted] at ran
    dsimp only at ran
    split at ran
    next => cases ran; exact ⟨grown, rfl, rfl⟩
    next => cases ran
  | none =>
    rw [inserted] at ran
    cases ran

theorem setCriteria_ok {chosen : GoalCriterion → Bool}
    {update : RowUpdate PyString GoalCriterion GoalCriterion.criterionId} {u : Unit} :
    setCriteria chosen update ledger = .ok u after ↔
      { ledger with criteria := ledger.criteria.updateWhere chosen update } = after := modify_ok

theorem updateRow_ok {goal : GoalRecord} {update : RowUpdate PyString GoalRecord GoalRecord.goalId}
    {u : Unit} (ran : updateRow goal update ledger = .ok u after) :
    ∃ indexed, after = { ledger with
      goals := ledger.goals.updateWhere
        (fun row => decide (row.goalId = goal.goalId ∧ row.sessionId = goal.sessionId)) update
      indexed } := by
  unfold updateRow at ran
  obtain ⟨_, _, got, ran⟩ := bind_ok.mp ran
  obtain ⟨rfl, rfl⟩ := get_ok.mp got
  exact setGoals_ok ran

theorem findEvidence_ok {evidenceId : PyString} {found : Option EvidenceRecord} :
    findEvidence evidenceId ledger = .ok found after ↔ evidenceId.encodable = true ∧
      ledger.evidence.find? evidenceId = found ∧ ledger = after := by
  unfold findEvidence
  simp only [bind_ok, bindText_ok, get_ok, pure_ok, List.all_cons, List.all_nil, Bool.and_true]
  constructor
  · rintro ⟨_, _, ⟨bound, rfl⟩, _, _, ⟨rfl, rfl⟩, found, rfl⟩
    exact ⟨bound, found, rfl⟩
  · rintro ⟨bound, found, rfl⟩
    exact ⟨(), ledger, ⟨bound, rfl⟩, ledger, ledger, ⟨rfl, rfl⟩, found, rfl⟩

theorem requirePositive_ok {name : PyString} {budget : Option Int} {u : Unit}
    (ran : requirePositive name budget ledger = .ok u after) :
    ledger = after ∧ ∀ value, budget = some value → 0 < value := by
  unfold requirePositive at ran
  cases budget with
  | none => exact ⟨(pure_ok.mp ran).2, fun _ impossible => by cases impossible⟩
  | some value =>
    dsimp only at ran
    split at ran
    next => cases ran
    next positive =>
      refine ⟨(pure_ok.mp ran).2, fun value' same => ?_⟩
      cases same
      omega

theorem insertCriteria_ok {host : Host} {goalId sessionId : PyString}
    {texts : List (PyString × Nat)} {u : Unit}
    (ran : texts.forM (addCriterion host goalId sessionId) ledger = .ok u after) :
    after.goals = ledger.goals ∧ after.evidence = ledger.evidence ∧
      (∀ criterion ∈ ledger.criteria.rows, criterion ∈ after.criteria.rows) ∧
      ∀ criterion ∈ after.criteria.rows, criterion ∈ ledger.criteria.rows ∨
        ∃ text index, criterion = newCriterion host goalId sessionId text index := by
  induction texts generalizing ledger with
  | nil =>
    obtain ⟨-, rfl⟩ := pure_ok.mp ran
    exact ⟨rfl, rfl, fun _ => id, fun _ => .inl⟩
  | cons first texts ih =>
    obtain ⟨_, middle, first_ran, rest⟩ := bind_ok.mp ran
    obtain ⟨goals, evidence, kept, made⟩ := ih rest
    obtain ⟨_, _, bound, inserts⟩ := bind_ok.mp first_ran
    obtain ⟨-, rfl⟩ := bindText_ok.mp bound
    obtain ⟨grown, inserted, rfl⟩ := insertRow_ok inserts
    have grows := Table.mem_insert inserted
    refine ⟨goals, evidence, fun criterion old => kept criterion ((grows criterion).mpr (.inl old)),
      fun criterion new => ?_⟩
    obtain earlier | later := made criterion new
    · obtain old | same := (grows criterion).mp earlier
      · exact .inl old
      · exact .inr ⟨first.1, first.2, same⟩
    · exact .inr later

theorem requireCriterion_ok {goalId criterionId : PyString} {u : Unit}
    (ran : requireCriterion goalId criterionId ledger = .ok u after) : ledger = after := by
  unfold requireCriterion at ran
  obtain ⟨_, _, bound, ran⟩ := bind_ok.mp ran
  obtain ⟨-, rfl⟩ := bindText_ok.mp bound
  obtain ⟨_, _, got, ran⟩ := bind_ok.mp ran
  obtain ⟨rfl, rfl⟩ := get_ok.mp got
  cases found : ledger.criteria.find? criterionId with
  | some row =>
    rw [found] at ran
    exact (refuse_ok.mp ran).2
  | none =>
    rw [found] at ran
    cases ran

theorem requireClaim_ok {goalId claimId : PyString} {u : Unit}
    (ran : requireClaim goalId claimId ledger = .ok u after) : ledger = after := by
  unfold requireClaim at ran
  obtain ⟨_, _, bound, ran⟩ := bind_ok.mp ran
  obtain ⟨-, rfl⟩ := bindText_ok.mp bound
  obtain ⟨_, _, got, ran⟩ := bind_ok.mp ran
  obtain ⟨rfl, rfl⟩ := get_ok.mp got
  cases found : ledger.claims.find? claimId with
  | some row =>
    rw [found] at ran
    exact (refuse_ok.mp ran).2
  | none =>
    rw [found] at ran
    cases ran

theorem given_ok {value : Option PyString} {check : PyString → Store Unit} {u : Unit}
    (reads : ∀ {ledger after : Ledger} {given : PyString} {u : Unit},
      check given ledger = .ok u after → ledger = after)
    (ran : value.forM check ledger = .ok u after) : ledger = after := by
  cases value with
  | none => exact (pure_ok.mp ran).2
  | some given => exact reads ran

theorem bindEvidence_ok {text : PyString} {evidence : EvidenceInput} {u : Unit}
    (ran : bindEvidence text evidence ledger = .ok u after) : ledger = after := by
  unfold bindEvidence at ran
  obtain ⟨_, _, dumped, ran⟩ := bind_ok.mp ran
  obtain ⟨-, rfl⟩ := lift_ok.mp dumped
  obtain ⟨_, _, bound, ran⟩ := bind_ok.mp ran
  obtain ⟨-, rfl⟩ := bindText_ok.mp bound
  obtain ⟨_, _, encoded, ran⟩ := bind_ok.mp ran
  obtain ⟨-, rfl⟩ := lift_ok.mp encoded
  exact (bindText_ok.mp ran).2

theorem forM_reads {α : Type} {xs : List α} {f : α → Store Unit} {u : Unit}
    (reads : ∀ {x : α} {ledger after : Ledger} {u : Unit}, f x ledger = .ok u after →
      ledger = after) (ran : xs.forM f ledger = .ok u after) :
    ledger = after ∧ ∀ x ∈ xs, f x ledger = .ok () ledger := by
  induction xs generalizing ledger with
  | nil => exact ⟨(pure_ok.mp ran).2, List.forall_mem_nil _⟩
  | cons x xs ih =>
    obtain ⟨_, _, head, tail⟩ := bind_ok.mp ran
    obtain rfl := reads head
    obtain ⟨rfl, rest⟩ := ih tail
    exact ⟨rfl, List.forall_mem_cons.mpr ⟨head, rest⟩⟩

theorem checkEvidence_ok {goal : GoalRecord} {criterion : GoalCriterion} {verified result : Bool}
    {evidenceId : PyString}
    (ran : checkEvidence goal criterion verified evidenceId ledger = .ok result after) :
    ledger = after ∧ (result = true → verified = true ∨ ∃ evidence ∈ ledger.evidence.rows,
      evidence.goalId = goal.goalId ∧ evidence.given.criterionId = some criterion.criterionId ∧
        evidence.verificationStatus = "verified") := by
  unfold checkEvidence at ran
  obtain ⟨found, _, read, ran⟩ := bind_ok.mp ran
  obtain ⟨-, found_eq, rfl⟩ := findEvidence_ok.mp read
  cases found with
  | none => cases ran
  | some evidence =>
    obtain ⟨_, _, owned, ran⟩ := bind_ok.mp ran
    obtain ⟨same_goal, rfl⟩ := refuse_ok.mp owned
    obtain ⟨_, _, linked, ran⟩ := bind_ok.mp ran
    obtain ⟨same_criterion, rfl⟩ := refuse_ok.mp linked
    obtain ⟨rfl, rfl⟩ := pure_ok.mp ran
    refine ⟨rfl, fun holds => (Bool.or_eq_true_iff.mp holds).imp_right fun status => ?_⟩
    exact ⟨evidence, Table.find?_mem found_eq, not_not.mp same_goal, not_not.mp same_criterion,
      of_decide_eq_true status⟩

theorem checkEvidences_ok {goal : GoalRecord} {criterion : GoalCriterion} {verified result : Bool}
    {evidenceIds : List PyString}
    (ran : evidenceIds.foldlM (checkEvidence goal criterion) verified ledger = .ok result after) :
    ledger = after ∧ (result = true → verified = true ∨ ∃ evidence ∈ ledger.evidence.rows,
      evidence.goalId = goal.goalId ∧ evidence.given.criterionId = some criterion.criterionId ∧
        evidence.verificationStatus = "verified") := by
  induction evidenceIds generalizing verified ledger with
  | nil =>
    obtain ⟨rfl, rfl⟩ := pure_ok.mp ran
    exact ⟨rfl, .inl⟩
  | cons first evidenceIds ih =>
    rw [List.foldlM_cons] at ran
    obtain ⟨middle, _, head, tail⟩ := bind_ok.mp ran
    obtain ⟨rfl, here⟩ := checkEvidence_ok head
    obtain ⟨rfl, later⟩ := ih tail
    exact ⟨rfl, fun holds => (later holds).elim here .inr⟩

def judged (goal : GoalRecord) (now : PyString) (audit : List AuditRow)
    (criteria : Table PyString GoalCriterion GoalCriterion.criterionId) :
    Table PyString GoalCriterion GoalCriterion.criterionId :=
  audit.foldl (fun criteria row => criteria.updateWhere
    (fun criterion => decide (criterion.goalId = goal.goalId ∧
      criterion.sessionId = goal.sessionId ∧ criterion.criterionId = row.criterionId))
    (judge row.result now)) criteria

theorem applyRows_ok {goal : GoalRecord} {now : PyString} {audit : List AuditRow} {u : Unit}
    (ran : audit.forM (applyRow goal now) ledger = .ok u after) :
    after = { ledger with criteria := judged goal now audit ledger.criteria } := by
  induction audit generalizing ledger with
  | nil => exact (pure_ok.mp ran).2.symm
  | cons row audit ih =>
    obtain ⟨_, _, head, tail⟩ := bind_ok.mp ran
    obtain ⟨_, _, bound, head⟩ := bind_ok.mp head
    obtain ⟨-, rfl⟩ := bindText_ok.mp bound
    obtain rfl := setCriteria_ok.mp head
    exact ih tail

theorem storeAudit_ok {host : Host} {goal : GoalRecord} {status : GoalStatus}
    {rows : List AuditRow} {u : Unit} (ran : storeAudit host goal status rows ledger = .ok u after) :
    ∃ audits, after = { ledger with audits } := by
  unfold storeAudit bindAudit at ran
  split at ran
  next =>
    obtain ⟨-, rfl⟩ := pure_ok.mp ran
    exact ⟨ledger.audits, rfl⟩
  next =>
    obtain ⟨_, _, bound, ran⟩ := bind_ok.mp ran
    obtain ⟨-, rfl⟩ := bindText_ok.mp bound
    obtain ⟨audits, -, rfl⟩ := insertRow_ok ran
    exact ⟨audits, rfl⟩

theorem writeStatus_ok {host : Host} {goal : GoalRecord} {status : GoalStatus}
    {audit : List AuditRow} {recap : Option PyString} {u : Unit}
    (ran : writeStatus host goal status audit recap ledger = .ok u after) :
    after.goals = ledger.goals.updateWhere
      (fun row => decide (row.goalId = goal.goalId ∧ row.sessionId = goal.sessionId))
      (moveTo status host.now recap) ∧ after.evidence = ledger.evidence ∧
    after.criteria =
      if status = .complete then judged goal host.now audit ledger.criteria
      else ledger.criteria := by
  unfold writeStatus at ran
  obtain ⟨_, _, bound, ran⟩ := bind_ok.mp ran
  obtain ⟨-, rfl⟩ := bindText_ok.mp bound
  obtain ⟨_, _, updates, ran⟩ := bind_ok.mp ran
  obtain ⟨_, rfl⟩ := updateRow_ok updates
  obtain ⟨_, _, stores, judges⟩ := bind_ok.mp ran
  obtain ⟨audits, rfl⟩ := storeAudit_ok stores
  split at judges
  next completes =>
    rw [if_pos completes, applyRows_ok judges]
    exact ⟨rfl, rfl, rfl⟩
  next other =>
    obtain ⟨-, rfl⟩ := pure_ok.mp judges
    rw [if_neg other]
    exact ⟨rfl, rfl, rfl⟩

theorem writeNewGoal_ok {host : Host} {goal : GoalRecord} {criteria : List PyString} {u : Unit}
    (body : writeNewGoal host goal criteria ledger = .ok u after) :
    (∃ superseded : Goals,
      superseded = ledger.goals.updateWhere (fun row =>
        decide (row.sessionId = goal.sessionId) && row.status.current) (supersede host.now) ∧
      superseded.insert? goal = some after.goals) ∧
    after.evidence = ledger.evidence ∧
    ∀ criterion ∈ after.criteria.rows, criterion ∈ ledger.criteria.rows ∨
      ∃ text index, criterion = newCriterion host goal.goalId goal.sessionId text index := by
  unfold writeNewGoal supersedeCurrent at body
  obtain ⟨_, _, supersedes, body⟩ := bind_ok.mp body
  obtain ⟨_, _, bound, supersedes⟩ := bind_ok.mp supersedes
  obtain ⟨-, rfl⟩ := bindText_ok.mp bound
  obtain ⟨_, _, got, supersedes⟩ := bind_ok.mp supersedes
  obtain ⟨rfl, rfl⟩ := get_ok.mp got
  obtain ⟨_, rfl⟩ := setGoals_ok supersedes
  obtain ⟨_, _, bound, body⟩ := bind_ok.mp body
  obtain ⟨-, rfl⟩ := bindText_ok.mp bound
  obtain ⟨_, _, bound, body⟩ := bind_ok.mp body
  obtain rfl := bindInt_ok bound
  obtain ⟨_, _, inserts, body⟩ := bind_ok.mp body
  obtain ⟨goals, _, inserted, rfl⟩ := insertGoal_ok inserts
  obtain ⟨_, _, claims, body⟩ := bind_ok.mp body
  obtain ⟨_, -, rfl⟩ := insertRow_ok claims
  obtain ⟨same, evidence, -, made⟩ := insertCriteria_ok body
  exact ⟨⟨_, rfl, same ▸ inserted⟩, evidence, made⟩

end Statements

section Reads

variable [PyText] {ledger after : Ledger}

theorem normalizeRequiredText_ok {value fieldName text : PyString} :
    normalizeRequiredText value fieldName ledger = .ok text after ↔
      value.strip ≠ .empty ∧ value.strip = text ∧ ledger = after := by
  unfold normalizeRequiredText
  split
  next missing => simp [missing, throw_ok]
  next given => simp [given, pure_ok]

theorem getGoal_ok {goalId : PyString} {found : Option GoalRecord}
    (read : getGoal goalId ledger = .ok found after) :
    ledger.goals.find? goalId.strip = found ∧ ledger = after := by
  unfold getGoal at read
  obtain ⟨_, _, named, read⟩ := bind_ok.mp read
  obtain ⟨-, rfl, rfl⟩ := normalizeRequiredText_ok.mp named
  obtain ⟨_, _, bound, read⟩ := bind_ok.mp read
  obtain ⟨-, rfl⟩ := bindText_ok.mp bound
  obtain ⟨_, _, got, read⟩ := bind_ok.mp read
  obtain ⟨rfl, rfl⟩ := get_ok.mp got
  obtain ⟨rfl, rfl⟩ := pure_ok.mp read
  exact ⟨rfl, rfl⟩

theorem getCurrentGoal_ok {sessionId : PyString} {found : Option GoalRecord}
    (read : getCurrentGoal sessionId ledger = .ok found after) : ledger = after := by
  unfold getCurrentGoal at read
  obtain ⟨_, _, named, read⟩ := bind_ok.mp read
  obtain ⟨-, rfl, rfl⟩ := normalizeRequiredText_ok.mp named
  obtain ⟨_, _, bound, read⟩ := bind_ok.mp read
  obtain ⟨-, rfl⟩ := bindText_ok.mp bound
  obtain ⟨_, _, got, read⟩ := bind_ok.mp read
  obtain ⟨rfl, rfl⟩ := get_ok.mp got
  exact (pure_ok.mp read).2

-- The guard strips the id, and so does the read.
structure Meant (target : Target) (goal : GoalRecord) : Prop where
  goalId : goal.goalId = target.goalId.strip.strip
  sessionId : goal.sessionId = target.sessionId.strip
  expected : target.expectedGoalId = target.goalId
  current : goal.status.current = true

theorem requireMutableGoal_ok {target : Target} {goal : GoalRecord}
    (ran : requireMutableGoal target.sessionId target.goalId target.expectedGoalId ledger =
      .ok goal after) :
    ledger = after ∧ goal ∈ ledger.goals.rows ∧ Meant target goal := by
  unfold requireMutableGoal at ran
  obtain ⟨_, _, guarded, ran⟩ := bind_ok.mp ran
  obtain ⟨expected, rfl⟩ := refuse_ok.mp guarded
  obtain ⟨_, _, named, ran⟩ := bind_ok.mp ran
  obtain ⟨-, rfl, rfl⟩ := normalizeRequiredText_ok.mp named
  obtain ⟨_, _, named, ran⟩ := bind_ok.mp ran
  obtain ⟨-, rfl, rfl⟩ := normalizeRequiredText_ok.mp named
  obtain ⟨found, _, read, ran⟩ := bind_ok.mp ran
  obtain ⟨found_eq, rfl⟩ := getGoal_ok read
  cases found with
  | none => cases ran
  | some row =>
    obtain ⟨_, _, guarded, ran⟩ := bind_ok.mp ran
    obtain ⟨owned, rfl⟩ := refuse_ok.mp guarded
    obtain ⟨_, _, mutable, ran⟩ := bind_ok.mp ran
    obtain ⟨current, rfl⟩ := refuse_ok.mp mutable
    obtain ⟨other, _, read, ran⟩ := bind_ok.mp ran
    obtain rfl := getCurrentGoal_ok read
    cases other with
    | none => cases ran
    | some other =>
      obtain ⟨_, _, same, ran⟩ := bind_ok.mp ran
      obtain ⟨-, rfl⟩ := refuse_ok.mp same
      obtain ⟨rfl, rfl⟩ := pure_ok.mp ran
      exact ⟨rfl, Table.find?_mem found_eq, Table.find?_key found_eq, not_not.mp owned,
        not_not.mp expected, by simpa using current⟩

theorem reload_ok {goalId message : PyString} {goal : GoalRecord}
    (read : reload goalId message ledger = .ok goal after) : ledger = after := by
  unfold reload at read
  obtain ⟨found, _, got, read⟩ := bind_ok.mp read
  obtain ⟨-, rfl⟩ := getGoal_ok got
  cases found with
  | none => cases read
  | some row => exact (pure_ok.mp read).2

theorem committed_ok {host : Host} {body : Store GoalRecord} {message : PyString}
    {goal : GoalRecord} (ran : (do
      let goal ← writeTransaction host body
      reload goal.goalId message) ledger = .ok goal after) :
    ∃ goal, body ledger = .ok goal after := by
  obtain ⟨goal, _, written, reloaded⟩ := bind_ok.mp ran
  obtain rfl := reload_ok reloaded
  exact ⟨goal, (writeTransaction_ok.mp written).2⟩

theorem listCriteria_ok {goalId : PyString} {criteria : List GoalCriterion}
    (read : listCriteria goalId ledger = .ok criteria after) :
    ledger = after ∧ ∀ criterion, criterion ∈ criteria ↔
      criterion ∈ ledger.criteria.rows ∧ criterion.goalId = goalId.strip := by
  unfold listCriteria at read
  obtain ⟨_, _, named, read⟩ := bind_ok.mp read
  obtain ⟨-, rfl, rfl⟩ := normalizeRequiredText_ok.mp named
  obtain ⟨_, _, bound, read⟩ := bind_ok.mp read
  obtain ⟨-, rfl⟩ := bindText_ok.mp bound
  obtain ⟨_, _, got, read⟩ := bind_ok.mp read
  obtain ⟨rfl, rfl⟩ := get_ok.mp got
  obtain ⟨rfl, rfl⟩ := pure_ok.mp read
  exact ⟨rfl, fun criterion => by simp⟩

end Reads

section Effects

variable [PyText] {ledger after : Ledger}

structure Appended (host : Host) (evidence : EvidenceInput) (goal : GoalRecord)
    (ledger after : Ledger) : Prop where
  member : goal ∈ ledger.goals.rows
  current : goal.status.current = true
  goals : after.goals = ledger.goals
  evidence : ∃ verification,
    ledger.evidence.insert? (newEvidence host goal evidence verification) = some after.evidence
  criteria : after.criteria = ledger.criteria ∨ ∃ criterionId, after.criteria =
    ledger.criteria.updateWhere (fun criterion => decide (criterion.goalId = goal.goalId ∧
      criterion.sessionId = goal.sessionId ∧ criterion.criterionId = criterionId) &&
        uncovered criterion.status) (cover host.now)

theorem writeEvidence_ok {host : Host} {goal : GoalRecord} {evidence : EvidenceInput} {u : Unit}
    (member : goal ∈ ledger.goals.rows) (current : goal.status.current = true)
    (ran : writeEvidence host goal evidence ledger = .ok u after) :
    Appended host evidence goal ledger after := by
  unfold writeEvidence at ran
  obtain ⟨_, _, given, ran⟩ := bind_ok.mp ran
  obtain ⟨-, rfl⟩ := refuse_ok.mp given
  obtain ⟨_, _, criterion, ran⟩ := bind_ok.mp ran
  obtain rfl := given_ok requireCriterion_ok criterion
  obtain ⟨_, _, claim, ran⟩ := bind_ok.mp ran
  obtain rfl := given_ok requireClaim_ok claim
  obtain ⟨verification, _, verified, ran⟩ := bind_ok.mp ran
  obtain ⟨-, rfl⟩ := lift_ok.mp verified
  obtain ⟨_, _, bound, ran⟩ := bind_ok.mp ran
  obtain rfl := bindEvidence_ok bound
  obtain ⟨_, _, bound, ran⟩ := bind_ok.mp ran
  obtain ⟨-, rfl⟩ := bindText_ok.mp bound
  obtain ⟨_, _, inserts, ran⟩ := bind_ok.mp ran
  obtain ⟨_, inserted, rfl⟩ := insertRow_ok inserts
  cases named : evidence.criterionId with
  | none =>
    rw [named] at ran
    obtain ⟨-, rfl⟩ := pure_ok.mp ran
    exact ⟨member, current, rfl, ⟨verification, inserted⟩, .inl rfl⟩
  | some criterionId =>
    rw [named] at ran
    obtain rfl := setCriteria_ok.mp ran
    exact ⟨member, current, rfl, ⟨verification, inserted⟩, .inr ⟨criterionId, rfl⟩⟩

theorem appendEvidence_ok {host : Host} {target : Target} {evidence : EvidenceInput}
    {record : EvidenceRecord} (ran : appendEvidence host target evidence ledger = .ok record after) :
    ∃ goal, Appended host evidence goal ledger after := by
  unfold appendEvidence at ran
  obtain ⟨_, _, written, reloaded⟩ := bind_ok.mp ran
  obtain ⟨found, _, read, reloaded⟩ := bind_ok.mp reloaded
  obtain ⟨-, -, rfl⟩ := findEvidence_ok.mp read
  cases found with
  | none => cases reloaded
  | some record =>
    obtain ⟨-, rfl⟩ := pure_ok.mp reloaded
    obtain ⟨-, body⟩ := writeTransaction_ok.mp written
    obtain ⟨goal, _, required, body⟩ := bind_ok.mp body
    obtain ⟨rfl, member, meant⟩ := requireMutableGoal_ok required
    exact ⟨goal, writeEvidence_ok member meant.current body⟩

structure Audited (goal : GoalRecord) (audit : List AuditRow) (ledger : Ledger) : Prop where
  completing : ∀ criterion ∈ ledger.criteria.rows, criterion.goalId = goal.goalId.strip →
    criterion.required = true → ∃ row, rowFor audit criterion.criterionId = some row ∧
      completing row.result = true ∧ (satisfying row.result = true →
        ∃ evidence ∈ ledger.evidence.rows, evidence.goalId = goal.goalId ∧
          evidence.given.criterionId = some criterion.criterionId ∧
          evidence.verificationStatus = "verified")

theorem checkCriterion_ok {goal : GoalRecord} {audit : List AuditRow} {criterion : GoalCriterion}
    {u : Unit} (ran : checkCriterion goal audit criterion ledger = .ok u after) :
    ledger = after ∧ (criterion.required = true →
      ∃ row, rowFor audit criterion.criterionId = some row ∧ completing row.result = true ∧
        (satisfying row.result = true → ∃ evidence ∈ ledger.evidence.rows,
          evidence.goalId = goal.goalId ∧
          evidence.given.criterionId = some criterion.criterionId ∧
          evidence.verificationStatus = "verified")) := by
  unfold checkCriterion at ran
  split at ran
  next =>
    cases found : rowFor audit criterion.criterionId with
    | none =>
      rw [found] at ran
      cases ran
    | some row =>
      rw [found] at ran
      change checkRow goal criterion row ledger = _ at ran
      unfold checkRow at ran
      obtain ⟨_, _, judged, ran⟩ := bind_ok.mp ran
      obtain ⟨completes, rfl⟩ := refuse_ok.mp judged
      obtain ⟨_, _, linked, ran⟩ := bind_ok.mp ran
      obtain ⟨-, rfl⟩ := refuse_ok.mp linked
      obtain ⟨_, _, noted, ran⟩ := bind_ok.mp ran
      obtain ⟨-, rfl⟩ := refuse_ok.mp noted
      obtain ⟨verified, _, checked, ran⟩ := bind_ok.mp ran
      obtain ⟨rfl, backed⟩ := checkEvidences_ok checked
      obtain ⟨enough, rfl⟩ := refuse_ok.mp ran
      refine ⟨rfl, fun _ => ⟨row, rfl, by simpa using completes, fun satisfied => ?_⟩⟩
      have sound : verified = true := by simpa [satisfied] using enough
      exact (backed sound).resolve_left Bool.false_ne_true
  next optional =>
    exact ⟨(pure_ok.mp ran).2, fun required => absurd required optional⟩

theorem validateCompletionAudit_ok {goal : GoalRecord} {audit : List AuditRow} {u : Unit}
    (ran : validateCompletionAudit goal audit ledger = .ok u after) :
    ledger = after ∧ Audited goal audit ledger := by
  unfold validateCompletionAudit at ran
  obtain ⟨criteria, _, listed, ran⟩ := bind_ok.mp ran
  obtain ⟨rfl, mem_criteria⟩ := listCriteria_ok listed
  obtain ⟨rfl, all⟩ := forM_reads (fun ran => (checkCriterion_ok ran).1) ran
  refine ⟨rfl, ⟨fun criterion member named required => ?_⟩⟩
  exact (checkCriterion_ok (all criterion ((mem_criteria criterion).mpr ⟨member, named⟩))).2 required

-- One current goal is changed, wherever a row has its id and its session.
structure Edits (goal : GoalRecord) (update : RowUpdate PyString GoalRecord GoalRecord.goalId)
    (ledger after : Ledger) : Prop where
  member : goal ∈ ledger.goals.rows
  current : goal.status.current = true
  goals : after.goals = ledger.goals.updateWhere
    (fun row => decide (row.goalId = goal.goalId ∧ row.sessionId = goal.sessionId)) update

structure Moved (host : Host) (status : GoalStatus) (audit : List AuditRow)
    (recap : Option PyString) (goal : GoalRecord) (ledger after : Ledger) : Prop where
  edits : Edits goal (moveTo status host.now recap) ledger after
  evidence : after.evidence = ledger.evidence
  criteria : after.criteria =
    if status = .complete then judged goal host.now audit ledger.criteria else ledger.criteria
  audited : status = .complete → Audited goal audit ledger

theorem moveGoal_ok {host : Host} {target : Target} {status : GoalStatus}
    {audit : List AuditRow} {recap : Option PyString} {goal : GoalRecord}
    (body : moveGoal host target status audit recap ledger = .ok goal after) :
    Meant target goal ∧ Moved host status audit recap goal ledger after := by
  obtain ⟨found, _, required, body⟩ := bind_ok.mp body
  obtain ⟨rfl, member, meant⟩ := requireMutableGoal_ok required
  split at body
  next completes =>
    obtain ⟨_, _, validated, body⟩ := bind_ok.mp body
    obtain ⟨rfl, audited⟩ := validateCompletionAudit_ok validated
    obtain ⟨_, _, writes, body⟩ := bind_ok.mp body
    obtain ⟨rfl, rfl⟩ := pure_ok.mp body
    obtain ⟨goals, evidence, criteria⟩ := writeStatus_ok writes
    exact ⟨meant, ⟨member, meant.current, goals⟩, evidence, criteria, fun _ => audited⟩
  next other =>
    obtain ⟨_, _, writes, body⟩ := bind_ok.mp body
    obtain ⟨rfl, rfl⟩ := pure_ok.mp body
    obtain ⟨goals, evidence, criteria⟩ := writeStatus_ok writes
    exact ⟨meant, ⟨member, meant.current, goals⟩, evidence, criteria, fun completes =>
      absurd completes other⟩

structure Accounted (host : Host) (usage : Usage) (goal : GoalRecord) (ledger after : Ledger) :
    Prop where
  edits : Edits goal (account (goal.use usage) (nextStatus goal usage) host.now) ledger after
  criteria : after.criteria = ledger.criteria
  evidence : after.evidence = ledger.evidence

theorem useGoal_ok {host : Host} {target : Target} {usage : Usage} {goal : GoalRecord}
    (body : useGoal host target usage ledger = .ok goal after) :
    Meant target goal ∧ Accounted host usage goal ledger after := by
  obtain ⟨found, _, required, body⟩ := bind_ok.mp body
  obtain ⟨rfl, member, meant⟩ := requireMutableGoal_ok required
  obtain ⟨_, _, bound, body⟩ := bind_ok.mp body
  obtain rfl := bindInt_ok bound
  obtain ⟨_, _, bound, body⟩ := bind_ok.mp body
  obtain ⟨-, rfl⟩ := bindText_ok.mp bound
  obtain ⟨_, _, updates, body⟩ := bind_ok.mp body
  obtain ⟨_, rfl⟩ := updateRow_ok updates
  obtain ⟨rfl, rfl⟩ := pure_ok.mp body
  exact ⟨meant, ⟨member, meant.current, rfl⟩, rfl, rfl⟩

theorem deleteSessionGoals_ok {host : Host} {sessionId : PyString} {count : Nat}
    (ran : deleteSessionGoals host sessionId ledger = .ok count after) :
    after = ledger.forget sessionId.strip := by
  unfold deleteSessionGoals at ran
  obtain ⟨_, _, named, ran⟩ := bind_ok.mp ran
  obtain ⟨-, rfl, rfl⟩ := normalizeRequiredText_ok.mp named
  obtain ⟨-, body⟩ := writeTransaction_ok.mp ran
  obtain ⟨_, _, bound, body⟩ := bind_ok.mp body
  obtain ⟨-, rfl⟩ := bindText_ok.mp bound
  obtain ⟨_, _, got, body⟩ := bind_ok.mp body
  obtain ⟨rfl, rfl⟩ := get_ok.mp got
  obtain ⟨_, _, safe, body⟩ := bind_ok.mp body
  obtain ⟨-, rfl⟩ := refuse_ok.mp safe
  obtain ⟨_, _, stores, body⟩ := bind_ok.mp body
  cases stores
  exact (pure_ok.mp body).2.symm

variable [Patterns]

structure Replaced (host : Host) (input : NewGoal) (ledger after : Ledger) : Prop where
  goals : ∃ objective, ∃ superseded : Goals,
    superseded = ledger.goals.updateWhere (fun row =>
      decide (row.sessionId = input.sessionId.strip) && row.status.current) (supersede host.now) ∧
    superseded.insert? (newGoal host input input.sessionId.strip objective) = some after.goals
  evidence : after.evidence = ledger.evidence
  criteria : ∀ criterion ∈ after.criteria.rows, criterion ∈ ledger.criteria.rows ∨
    ∃ text index, criterion =
      newCriterion host (newId "goal" (host.hex 0)) input.sessionId.strip text index
  positive : ∀ budget ∈ [input.tokenBudget, input.turnBudget, input.timeBudgetSeconds],
    ∀ value, budget = some value → 0 < value

theorem rejectLive_ok {objective : PyString} {u : Unit}
    (ran : rejectLiveExecutionObjective objective ledger = .ok u after) : ledger = after := by
  unfold rejectLiveExecutionObjective at ran
  split at ran
  next => cases ran
  next => exact (pure_ok.mp ran).2

theorem checkNewGoal_ok {input : NewGoal} {sessionId objective : PyString}
    {criteria : List PyString}
    (ran : checkNewGoal input ledger = .ok (sessionId, objective, criteria) after) :
    ledger = after ∧ sessionId = input.sessionId.strip ∧
      ∀ budget ∈ [input.tokenBudget, input.turnBudget, input.timeBudgetSeconds],
        ∀ value, budget = some value → 0 < value := by
  unfold checkNewGoal at ran
  obtain ⟨_, _, named, ran⟩ := bind_ok.mp ran
  obtain ⟨-, rfl, rfl⟩ := normalizeRequiredText_ok.mp named
  obtain ⟨_, _, named, ran⟩ := bind_ok.mp ran
  obtain ⟨-, rfl, rfl⟩ := normalizeRequiredText_ok.mp named
  obtain ⟨_, _, safe, ran⟩ := bind_ok.mp ran
  obtain rfl := rejectLive_ok safe
  obtain ⟨_, _, tier, ran⟩ := bind_ok.mp ran
  obtain ⟨-, rfl⟩ := refuse_ok.mp tier
  obtain ⟨_, _, given, ran⟩ := bind_ok.mp ran
  obtain ⟨-, rfl⟩ := refuse_ok.mp given
  obtain ⟨_, _, safe, ran⟩ := bind_ok.mp ran
  obtain ⟨rfl, -⟩ := forM_reads rejectLive_ok safe
  obtain ⟨_, _, tokens, ran⟩ := bind_ok.mp ran
  obtain ⟨rfl, token_positive⟩ := requirePositive_ok tokens
  obtain ⟨_, _, turns, ran⟩ := bind_ok.mp ran
  obtain ⟨rfl, turn_positive⟩ := requirePositive_ok turns
  obtain ⟨_, _, time, ran⟩ := bind_ok.mp ran
  obtain ⟨rfl, time_positive⟩ := requirePositive_ok time
  obtain ⟨same, rfl⟩ := pure_ok.mp ran
  cases same
  exact ⟨rfl, rfl, by simpa using ⟨token_positive, turn_positive, time_positive⟩⟩

theorem replaceGoal_ok {host : Host} {input : NewGoal} {goal : GoalRecord}
    (ran : replaceGoal host input ledger = .ok goal after) : Replaced host input ledger after := by
  unfold replaceGoal at ran
  obtain ⟨⟨sessionId, objective, criteria⟩, _, checked, ran⟩ := bind_ok.mp ran
  obtain ⟨rfl, rfl, positive⟩ := checkNewGoal_ok checked
  obtain ⟨_, _, written, reloaded⟩ := bind_ok.mp ran
  obtain rfl := reload_ok reloaded
  obtain ⟨⟨superseded, supersedes, inserted⟩, evidence, made⟩ :=
    writeNewGoal_ok (writeTransaction_ok.mp written).2
  exact ⟨⟨objective, superseded, supersedes, inserted⟩, evidence, made, positive⟩

theorem nextObjective_ok {goal : GoalRecord} {objective : Option PyString} {next : PyString}
    (ran : nextObjective goal objective ledger = .ok next after) : ledger = after := by
  cases objective with
  | none => exact (pure_ok.mp ran).2
  | some objective =>
    obtain ⟨_, _, named, ran⟩ := bind_ok.mp ran
    obtain ⟨-, rfl, rfl⟩ := normalizeRequiredText_ok.mp named
    obtain ⟨_, _, safe, ran⟩ := bind_ok.mp ran
    obtain rfl := rejectLive_ok safe
    exact (pure_ok.mp ran).2

theorem describeGoal_ok {host : Host} {target : Target} {objective uiSummary : Option PyString}
    {goal : GoalRecord}
    (body : describeGoal host target objective uiSummary ledger = .ok goal after) :
    ∃ next summary, Edits goal (describe next summary host.now) ledger after ∧
      after.criteria = ledger.criteria ∧ after.evidence = ledger.evidence := by
  obtain ⟨found, _, required, body⟩ := bind_ok.mp body
  obtain ⟨rfl, member, meant⟩ := requireMutableGoal_ok required
  obtain ⟨next, _, described, body⟩ := bind_ok.mp body
  obtain rfl := nextObjective_ok described
  obtain ⟨_, _, bound, body⟩ := bind_ok.mp body
  obtain ⟨-, rfl⟩ := bindText_ok.mp bound
  obtain ⟨_, _, updates, body⟩ := bind_ok.mp body
  obtain ⟨_, rfl⟩ := updateRow_ok updates
  split at body
  next =>
    obtain ⟨_, _, restates, body⟩ := bind_ok.mp body
    obtain rfl := modify_ok.mp restates
    obtain ⟨rfl, rfl⟩ := pure_ok.mp body
    exact ⟨_, _, ⟨member, meant.current, rfl⟩, rfl, rfl⟩
  next =>
    obtain ⟨rfl, rfl⟩ := pure_ok.mp body
    exact ⟨_, _, ⟨member, meant.current, rfl⟩, rfl, rfl⟩

inductive Effect (ledger : Ledger) : Call → Ledger → Prop where
  | replaced {host : Host} {input : NewGoal} {after : Ledger}
      (done : Replaced host input ledger after) : Effect ledger (.replaceGoal host input) after
  | described {host : Host} {target : Target} {objective uiSummary : Option PyString}
      {goal : GoalRecord} {next summary : PyString} {after : Ledger}
      (edits : Edits goal (describe next summary host.now) ledger after)
      (criteria : after.criteria = ledger.criteria) (evidence : after.evidence = ledger.evidence) :
      Effect ledger (.updateGoal host target objective uiSummary) after
  | appended {host : Host} {target : Target} {evidence : EvidenceInput} {goal : GoalRecord}
      {after : Ledger} (done : Appended host evidence goal ledger after) :
      Effect ledger (.appendEvidence host target evidence) after
  | moved {host : Host} {target : Target} {status : GoalStatus} {audit : List AuditRow}
      {recap : Option PyString} {goal : GoalRecord} {after : Ledger}
      (meant : Meant target goal) (done : Moved host status audit recap goal ledger after) :
      Effect ledger (.updateStatus host target status audit recap) after
  | accounted {host : Host} {target : Target} {usage : Usage} {goal : GoalRecord} {after : Ledger}
      (tokens : 0 ≤ usage.tokenDelta) (time : 0 ≤ usage.timeDeltaSeconds)
      (turns : 0 ≤ usage.turnDelta) (meant : Meant target goal)
      (done : Accounted host usage goal ledger after) :
      Effect ledger (.accountUsage host target usage) after
  | forgotten {host : Host} {sessionId : PyString} :
      Effect ledger (.deleteSessionGoals host sessionId) (ledger.forget sessionId.strip)

theorem call_ok {call : Call} (ran : call.run ledger = .ok () after) :
    Effect ledger call after := by
  cases call with
  | replaceGoal host goal =>
    obtain ⟨_, ran⟩ := discarded_ok.mp ran
    exact .replaced (replaceGoal_ok ran)
  | updateGoal host target objective uiSummary =>
    obtain ⟨_, ran⟩ := discarded_ok.mp ran
    obtain ⟨_, body⟩ := committed_ok ran
    obtain ⟨_, _, edits, criteria, evidence⟩ := describeGoal_ok body
    exact .described edits criteria evidence
  | appendEvidence host target evidence =>
    obtain ⟨_, ran⟩ := discarded_ok.mp ran
    obtain ⟨_, done⟩ := appendEvidence_ok ran
    exact .appended done
  | updateStatus host target status audit recap =>
    obtain ⟨_, ran⟩ := discarded_ok.mp ran
    obtain ⟨_, body⟩ := committed_ok ran
    obtain ⟨meant, done⟩ := moveGoal_ok body
    exact .moved meant done
  | accountUsage host target usage =>
    obtain ⟨_, ran⟩ := discarded_ok.mp ran
    obtain ⟨_, _, deltas, ran⟩ := bind_ok.mp ran
    obtain ⟨deltas, rfl⟩ := refuse_ok.mp deltas
    obtain ⟨_, body⟩ := committed_ok ran
    obtain ⟨meant, done⟩ := useGoal_ok body
    exact .accounted (by omega) (by omega) (by omega) meant done
  | deleteSessionGoals host sessionId =>
    obtain ⟨_, ran⟩ := discarded_ok.mp ran
    exact deleteSessionGoals_ok ran ▸ .forgotten

end Effects

end SynapseYield.Goal
