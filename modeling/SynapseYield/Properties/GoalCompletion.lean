import SynapseYield.Properties.GoalLedger

set_option autoImplicit false

namespace SynapseYield.Goal

open Shared

-- A goal that has reached a budget is not active.
def WithinBudget (ledger : Ledger) : Prop :=
  ∀ goal ∈ ledger.goals.rows, goal.spent = true → goal.status ≠ .active

def CountersGrow (ledger after : Ledger) : Prop :=
  ∀ goal ∈ ledger.goals.rows, ∀ row ∈ after.goals.rows, row.goalId = goal.goalId →
    goal.tokensUsed ≤ row.tokensUsed ∧ goal.turnsUsed ≤ row.turnsUsed ∧
      goal.timeUsedSeconds ≤ row.timeUsedSeconds

def OnlyActiveReplaced (call : Call) (ledger after : Ledger) : Prop :=
  ∀ host target usage, call = .accountUsage host target usage →
    ∀ goal ∈ ledger.goals.rows, goal.status ≠ .active →
      ∀ row ∈ after.goals.rows, row.goalId = goal.goalId → row.status = goal.status

section Steps

variable [PyText] {ledger after : Ledger}

-- update_status does not activate a goal that has reached a budget; usage is not added to a goal
-- that is neither active nor limited already, where that reaches a budget.
def Mindful (ledger : Ledger) : Call → Prop
  | .updateStatus _ target status _ _ => status = .active →
    ∀ goal ∈ ledger.goals.rows, Meant target goal → goal.spent = false
  | .accountUsage _ target usage => ∀ goal ∈ ledger.goals.rows, Meant target goal →
    goal.status ≠ .active → goal.status ≠ .budgetLimited → (goal.use usage).spent = false
  | _ => True

theorem newGoal_unspent {host : Host} {input : NewGoal} {sessionId objective : PyString}
    (positive : ∀ budget ∈ [input.tokenBudget, input.turnBudget, input.timeBudgetSeconds],
      ∀ value, budget = some value → 0 < value) :
    (newGoal host input sessionId objective).spent = false := by
  have unreached : ∀ budget ∈ [input.tokenBudget, input.turnBudget, input.timeBudgetSeconds],
      reached 0 budget = false := by
    intro budget member
    cases given : budget with
    | none => rfl
    | some value =>
      have above := positive budget member value given
      simp only [reached, decide_eq_false_iff_not]
      omega
  simp only [List.mem_cons, List.not_mem_nil, or_false, forall_eq_or_imp, forall_eq] at unreached
  simp [GoalRecord.spent, newGoal, unreached]

theorem within_effect {call : Call} (within_ : WithinBudget ledger) (mindful : Mindful ledger call)
    (effect : Effect ledger call after) : WithinBudget after := by
  intro row member spent
  obtain ⟨old, there, touched⟩ | ⟨host, input, objective, -, done, rfl⟩ := goal_before effect member
  · cases touched with
    | same => exact within_ row there spent
    | superseded => exact fun impossible => by cases impossible
    | described => exact within_ old there spent
    | @moved host target status audit recap _ meant =>
      intro activated
      have unspent := mindful activated old there meant
      change old.spent = true at spent
      rw [unspent] at spent
      cases spent
    | @accounted host target usage _ tokens time turns meant =>
      change (old.use usage).spent = true at spent
      change nextStatus old usage ≠ .active
      rw [nextStatus, if_pos spent]
      exact fun impossible => by cases impossible
  · rw [newGoal_unspent done.positive] at spent
    cases spent

theorem touched_of_effect {call : Call} (effect : Effect ledger call after) {goal row : GoalRecord}
    (before : goal ∈ ledger.goals.rows) (member : row ∈ after.goals.rows)
    (same : row.goalId = goal.goalId) : Touched call goal row := by
  obtain ⟨old, there, touched⟩ | ⟨host, input, objective, -, done, rfl⟩ := goal_before effect member
  · obtain rfl := goal_unique there before (touched.goalId.1.symm.trans same)
    exact touched
  · exact absurd same.symm (done.fresh goal before)

theorem counters_effect {call : Call} (effect : Effect ledger call after) :
    CountersGrow ledger after := by
  intro goal before row member same
  cases touched_of_effect effect before member same with
  | same => exact ⟨le_refl _, le_refl _, le_refl _⟩
  | superseded => exact ⟨le_refl _, le_refl _, le_refl _⟩
  | described => exact ⟨le_refl _, le_refl _, le_refl _⟩
  | moved => exact ⟨le_refl _, le_refl _, le_refl _⟩
  | accounted tokens time turns =>
    exact ⟨Int.le_add_of_nonneg_right tokens, Int.le_add_of_nonneg_right turns,
      Int.le_add_of_nonneg_right time⟩

theorem replaced_effect {call : Call} (mindful : Mindful ledger call)
    (effect : Effect ledger call after) : OnlyActiveReplaced call ledger after := by
  rintro host target usage rfl goal before inactive row member same
  cases touched_of_effect effect before member same with
  | same => rfl
  | accounted tokens time turns meant =>
    change nextStatus goal usage = goal.status
    unfold nextStatus
    split
    next spent =>
      by_contra other
      have unspent := mindful goal before meant inactive (Ne.symm other)
      rw [unspent] at spent
      cases spent
    next => rfl

end Steps

theorem counters_refl (ledger : Ledger) : CountersGrow ledger ledger := by
  intro goal before row member same
  obtain rfl := goal_unique member before same
  exact ⟨le_refl _, le_refl _, le_refl _⟩

theorem replaced_refl (call : Call) (ledger : Ledger) : OnlyActiveReplaced call ledger ledger := by
  intro _ _ _ _ goal before _ row member same
  rw [goal_unique member before same]

section Runs

variable [PyText] [Patterns]

structure Budgeted (calls : List Call) : Prop where
  within_ : ∀ before rest, calls = before ++ rest → WithinBudget (ledgerAfter before)
  counters : ∀ before call rest, calls = before ++ call :: rest →
    CountersGrow (ledgerAfter before) (ledgerAfter (before ++ [call]))
  replaced : ∀ before call rest, calls = before ++ call :: rest →
    OnlyActiveReplaced call (ledgerAfter before) (ledgerAfter (before ++ [call]))

def EveryMindful (calls : List Call) : Prop :=
  ∀ before call rest, calls = before ++ call :: rest → Mindful (ledgerAfter before) call

theorem within_after {calls : List Call} (mindful : EveryMindful calls) :
    WithinBudget (ledgerAfter calls) := by
  induction calls using List.reverseRecOn with
  | nil => exact List.forall_mem_nil _
  | append_singleton calls call ih =>
    have holds : WithinBudget (ledgerAfter calls) := ih fun before earlier rest split =>
      mindful before earlier (rest ++ [call]) (by rw [split, List.append_assoc, List.cons_append])
    obtain same | effect := next_effect calls call
    · exact same ▸ holds
    · exact within_effect holds (mindful calls call [] rfl) effect

theorem budget_kept (calls : List Call) (mindful : EveryMindful calls) : Budgeted calls where
  within_ before rest split := within_after fun earlier call later inside =>
    mindful earlier call (later ++ rest) (by rw [split, inside, List.append_assoc, List.cons_append])
  counters before call rest _ := by
    obtain same | effect := next_effect before call
    · exact same ▸ counters_refl _
    · exact counters_effect effect
  replaced before call rest split := by
    obtain same | effect := next_effect before call
    · exact same ▸ replaced_refl call _
    · exact replaced_effect (mindful before call rest split) effect

end Runs

section Example

def frugalGoal : NewGoal where
  sessionId := "s"
  objective := "study"
  criteria := ["sources"]
  tokenBudget := some 1

def frugalHost (n : Nat) : Host where
  now := "2026-01-01"
  hex i := Fin.ofNat _ (100 * n + i)
  files :=
    { safeDocumentPath := .ok, isFile := fun _ => .ok true, digest := .ok, safeRunId := .ok,
      isDir := fun _ => .ok true }

def frugalTarget : Target where
  sessionId := "s"
  goalId := newId "goal" 0
  expectedGoalId := newId "goal" 0

@[reducible] def noPatterns : Patterns where
  search _ _ _ := false

def frugalCalls : List Call :=
  [.replaceGoal (frugalHost 0) frugalGoal,
    .accountUsage (frugalHost 1) frugalTarget { tokenDelta := 1 }]

theorem budget_kept_frugal : @Budgeted asciiText noPatterns frugalCalls := by
  let _ := asciiText
  let _ := noPatterns
  refine budget_kept frugalCalls fun before call rest split => ?_
  unfold frugalCalls at split
  obtain _ | ⟨first, before⟩ := before
  · cases split
    trivial
  obtain _ | ⟨second, before⟩ := before
  · cases split
    intro goal member _ inactive
    have active : (ledgerAfter [.replaceGoal (frugalHost 0) frugalGoal]).goals.rows.all
        (fun goal => decide (goal.status = .active)) = true := by decide +kernel
    exact absurd (of_decide_eq_true (List.all_eq_true.mp active goal member)) inactive
  · simp at split

-- update_status activates the goal again, although its token is used.
theorem budget_kept_fails :
    ¬ ∀ (text : PyText) (patterns : Patterns) (calls : List Call), @Budgeted text patterns calls := by
  intro holds
  let activated : List Call :=
    frugalCalls ++ [.updateStatus (frugalHost 2) frugalTarget .active [] none]
  have spent : (@ledgerAfter asciiText noPatterns activated).goals.rows.any
      (fun goal => goal.spent && decide (goal.status = .active)) = true := by decide +kernel
  obtain ⟨goal, member, both⟩ := List.any_eq_true.mp spent
  simp only [Bool.and_eq_true, decide_eq_true_eq] at both
  have kept := @Budgeted.within_ asciiText noPatterns activated
    (holds asciiText noPatterns activated) activated [] (List.append_nil _).symm
  exact kept goal member both.1 both.2

end Example

end SynapseYield.Goal

namespace SynapseYield.Goal

open Shared

section Judgement

theorem rowFor_snoc (audit : List AuditRow) (row : AuditRow) (criterionId : PyString) :
    rowFor (audit ++ [row]) criterionId =
      if row.criterionId = criterionId then some row else rowFor audit criterionId := by
  unfold rowFor
  rw [List.reverse_append, List.reverse_singleton, List.singleton_append, List.find?_cons]
  by_cases same : row.criterionId = criterionId <;> simp [same]

-- The status a criterion has once the rows of the audit are applied.
def verdict (goal : GoalRecord) (audit : List AuditRow) (criterion : GoalCriterion) : PyString :=
  if criterion.goalId = goal.goalId ∧ criterion.sessionId = goal.sessionId then
    ((rowFor audit criterion.criterionId).map (·.result)).getD criterion.status
  else criterion.status

structure SameCriterion (old new : GoalCriterion) : Prop where
  criterionId : new.criterionId = old.criterionId
  goalId : new.goalId = old.goalId
  sessionId : new.sessionId = old.sessionId
  required : new.required = old.required

theorem SameCriterion.refl (criterion : GoalCriterion) : SameCriterion criterion criterion :=
  ⟨rfl, rfl, rfl, rfl⟩

theorem judged_before {goal : GoalRecord} {now : PyString} {audit : List AuditRow}
    {criteria : Table PyString GoalCriterion GoalCriterion.criterionId} {new : GoalCriterion}
    (member : new ∈ (judged goal now audit criteria).rows) :
    ∃ old ∈ criteria.rows, SameCriterion old new ∧ new.status = verdict goal audit old := by
  induction audit using List.reverseRecOn generalizing new with
  | nil =>
    refine ⟨new, member, .refl new, ?_⟩
    simp [verdict, rowFor]
  | append_singleton audit row ih =>
    rw [judged, List.foldl_append, List.foldl_cons, List.foldl_nil, Table.mem_updateWhere] at member
    obtain ⟨middle, there, image⟩ := member
    obtain ⟨old, present, same, status⟩ := ih there
    refine ⟨old, present, ?_⟩
    rw [verdict, rowFor_snoc]
    rw [verdict] at status
    by_cases hit : middle.goalId = goal.goalId ∧ middle.sessionId = goal.sessionId ∧
        middle.criterionId = row.criterionId
    · rw [if_pos (decide_eq_true hit)] at image
      subst image
      obtain ⟨of_goal, of_session, of_row⟩ := hit
      refine ⟨⟨same.criterionId, same.goalId, same.sessionId, same.required⟩, ?_⟩
      rw [if_pos ⟨same.goalId ▸ of_goal, same.sessionId ▸ of_session⟩,
        if_pos (same.criterionId ▸ of_row.symm)]
      rfl
    · rw [if_neg (by simpa using hit)] at image
      subst image
      refine ⟨same, ?_⟩
      by_cases owned : old.goalId = goal.goalId ∧ old.sessionId = goal.sessionId
      · rw [if_pos owned] at status ⊢
        rw [if_neg, status]
        intro named
        exact hit ⟨same.goalId ▸ owned.1, same.sessionId ▸ owned.2, same.criterionId ▸ named.symm⟩
      · rw [if_neg owned] at status ⊢
        exact status

end Judgement

-- A verified row of evidence that belongs to the goal and the criterion.
def Backed (ledger : Ledger) (criterion : GoalCriterion) : Prop :=
  ∃ evidence ∈ ledger.evidence.rows, evidence.goalId = criterion.goalId ∧
    evidence.given.criterionId = some criterion.criterionId ∧
    evidence.verificationStatus = "verified"

structure Sound (ledger : Ledger) : Prop where
  required : ∀ criterion ∈ ledger.criteria.rows, criterion.required = true
  criteria_owned : ∀ criterion ∈ ledger.criteria.rows, ∃ goal ∈ ledger.goals.rows,
    goal.goalId = criterion.goalId ∧ goal.sessionId = criterion.sessionId
  evidence_owned : ∀ evidence ∈ ledger.evidence.rows, ∃ goal ∈ ledger.goals.rows,
    goal.goalId = evidence.goalId ∧ goal.sessionId = evidence.sessionId
  complete : ∀ goal ∈ ledger.goals.rows, goal.status = .complete →
    ∀ criterion ∈ ledger.criteria.rows, criterion.goalId = goal.goalId →
      criterion.required = true → completing criterion.status = true
  backed : ∀ criterion ∈ ledger.criteria.rows, satisfying criterion.status = true →
    Backed ledger criterion

section Steps

variable {ledger after : Ledger}

theorem complete_settled {status : GoalStatus} (completes : status = .complete) :
    status.current = false := completes ▸ rfl

def Keeps (ledger after : Ledger) : Prop :=
  ∀ goal ∈ ledger.goals.rows, ∃ row ∈ after.goals.rows,
    row.goalId = goal.goalId ∧ row.sessionId = goal.sessionId

theorem Keeps.owner {goalId sessionId : PyString} (keeps : Keeps ledger after)
    (owned : ∃ goal ∈ ledger.goals.rows, goal.goalId = goalId ∧ goal.sessionId = sessionId) :
    ∃ goal ∈ after.goals.rows, goal.goalId = goalId ∧ goal.sessionId = sessionId := by
  obtain ⟨goal, member, rfl, rfl⟩ := owned
  exact keeps goal member

theorem Edits.keeps {goal : GoalRecord} {update : RowUpdate PyString GoalRecord GoalRecord.goalId}
    (edits : Edits goal update ledger after)
    (session : (update.apply goal).sessionId = goal.sessionId) : Keeps ledger after := by
  intro row member
  by_cases same : row.goalId = goal.goalId
  · obtain rfl := goal_unique member edits.member same
    exact ⟨_, (edits.mem _).mpr (.inr rfl), update.keeps row, session⟩
  · exact ⟨row, (edits.mem row).mpr (.inl ⟨member, same⟩), rfl, rfl⟩

theorem Edits.complete {goal row : GoalRecord}
    {update : RowUpdate PyString GoalRecord GoalRecord.goalId} (edits : Edits goal update ledger after)
    (other : (update.apply goal).status ≠ .complete) (member : row ∈ after.goals.rows)
    (completes : row.status = .complete) : row ∈ ledger.goals.rows := by
  obtain ⟨there, -⟩ | rfl := (edits.mem row).mp member
  · exact there
  · exact absurd completes other

theorem Sound.transfer (sound : Sound ledger) (keeps : Keeps ledger after)
    (complete : ∀ goal ∈ after.goals.rows, goal.status = .complete → goal ∈ ledger.goals.rows)
    (criteria : after.criteria = ledger.criteria) (evidence : after.evidence = ledger.evidence) :
    Sound after where
  required criterion member := sound.required criterion (criteria ▸ member)
  criteria_owned criterion member := keeps.owner (sound.criteria_owned criterion (criteria ▸ member))
  evidence_owned row member := keeps.owner (sound.evidence_owned row (evidence ▸ member))
  complete goal member completes criterion present :=
    sound.complete goal (complete goal member completes) completes criterion (criteria ▸ present)
  backed criterion member satisfied := by
    obtain ⟨row, there, facts⟩ := sound.backed criterion (criteria ▸ member) satisfied
    exact ⟨row, evidence ▸ there, facts⟩

theorem Sound.appended [PyText] {host : Host} {evidence : EvidenceInput} {goal : GoalRecord}
    (sound : Sound ledger) (done : Appended host evidence goal ledger after) : Sound after := by
  obtain ⟨verification, inserted⟩ := done.evidence
  have grows := Table.mem_insert inserted
  have before : ∀ new ∈ after.criteria.rows, ∃ old ∈ ledger.criteria.rows,
      SameCriterion old new ∧ (new = old ∨
        (old.goalId = goal.goalId ∧ new.status = "covered")) := by
    intro new member
    obtain same | ⟨criterionId, covered⟩ := done.criteria
    · exact ⟨new, same ▸ member, .refl new, .inl rfl⟩
    · rw [covered, Table.mem_updateWhere] at member
      obtain ⟨old, present, image⟩ := member
      refine ⟨old, present, ?_⟩
      split at image
      next hit =>
        subst image
        simp only [Bool.and_eq_true, decide_eq_true_eq] at hit
        exact ⟨⟨rfl, rfl, rfl, rfl⟩, .inr ⟨hit.1.1, rfl⟩⟩
      next => exact ⟨image ▸ .refl old, .inl image.symm⟩
  constructor
  · intro criterion member
    obtain ⟨old, present, same, -⟩ := before criterion member
    rw [same.required]
    exact sound.required old present
  · intro criterion member
    obtain ⟨old, present, same, -⟩ := before criterion member
    rw [done.goals, same.goalId, same.sessionId]
    exact sound.criteria_owned old present
  · intro row member
    rw [done.goals]
    obtain there | rfl := (grows row).mp member
    · exact sound.evidence_owned row there
    · exact ⟨goal, done.member, rfl, rfl⟩
  · intro complete member completes criterion present named required
    rw [done.goals] at member
    obtain ⟨old, there, same, rfl | ⟨owned, -⟩⟩ := before criterion present
    · exact sound.complete complete member completes criterion there named required
    · have current := done.current
      obtain rfl := goal_unique member done.member (by rw [← named, same.goalId, owned])
      rw [complete_settled completes] at current
      cases current
  · intro criterion member satisfied
    obtain ⟨old, there, -, rfl | ⟨-, covered⟩⟩ := before criterion member
    · obtain ⟨row, backing, facts⟩ := sound.backed criterion there satisfied
      exact ⟨row, (grows row).mpr (.inl backing), facts⟩
    · rw [covered] at satisfied
      exact absurd satisfied (by decide)

theorem Sound.forget (sound : Sound ledger) (sessionId : PyString) :
    Sound (ledger.forget sessionId) where
  required criterion member := sound.required criterion ((Table.mem_deleteWhere ..).mp member).1
  criteria_owned criterion member := by
    obtain ⟨there, other⟩ := (Table.mem_deleteWhere ..).mp member
    obtain ⟨goal, present, goal_eq, session_eq⟩ := sound.criteria_owned criterion there
    exact ⟨goal, (Table.mem_deleteWhere ..).mpr ⟨present, session_eq ▸ other⟩, goal_eq, session_eq⟩
  evidence_owned row member := by
    obtain ⟨there, other⟩ := (Table.mem_deleteWhere ..).mp member
    obtain ⟨goal, present, goal_eq, session_eq⟩ := sound.evidence_owned row there
    exact ⟨goal, (Table.mem_deleteWhere ..).mpr ⟨present, session_eq ▸ other⟩, goal_eq, session_eq⟩
  complete goal member completes criterion present :=
    sound.complete goal ((Table.mem_deleteWhere ..).mp member).1 completes criterion
      ((Table.mem_deleteWhere ..).mp present).1
  backed criterion member satisfied := by
    obtain ⟨there, other⟩ := (Table.mem_deleteWhere ..).mp member
    obtain ⟨row, backing, of_goal, facts⟩ := sound.backed criterion there satisfied
    -- The evidence is the goal's, hence of the criterion's session, which is not deleted.
    obtain ⟨goal, present, goal_eq, session_eq⟩ := sound.criteria_owned criterion there
    obtain ⟨owner, owns, owner_eq, owner_session⟩ := sound.evidence_owned row backing
    obtain rfl := goal_unique owns present (by rw [owner_eq, of_goal, goal_eq])
    refine ⟨row, (Table.mem_deleteWhere ..).mpr ⟨backing, ?_⟩, of_goal, facts⟩
    rwa [← owner_session, session_eq]

theorem Sound.replaced [PyText] {host : Host} {input : NewGoal} (sound : Sound ledger)
    (done : Replaced host input ledger after) : Sound after := by
  obtain ⟨objective, mem⟩ := done.mem
  have keeps : Keeps ledger after := by
    intro goal member
    refine ⟨_, (mem _).mpr (.inl ⟨goal, member, rfl⟩), ?_⟩
    split <;> exact ⟨rfl, rfl⟩
  have complete : ∀ goal ∈ after.goals.rows, goal.status = .complete →
      goal ∈ ledger.goals.rows := by
    intro goal member completes
    obtain ⟨old, there, image⟩ | rfl := (mem goal).mp member
    · split at image
      next => subst image; cases completes
      next => exact image ▸ there
    · cases completes
  constructor
  · intro criterion member
    obtain there | ⟨text, index, rfl⟩ := done.criteria criterion member
    · exact sound.required criterion there
    · rfl
  · intro criterion member
    obtain there | ⟨text, index, rfl⟩ := done.criteria criterion member
    · exact keeps.owner (sound.criteria_owned criterion there)
    · exact ⟨_, (mem _).mpr (.inr rfl), rfl, rfl⟩
  · intro row member
    exact keeps.owner (sound.evidence_owned row (done.evidence ▸ member))
  · intro goal member completes criterion present named required
    have there := complete goal member completes
    obtain old | ⟨text, index, rfl⟩ := done.criteria criterion present
    · exact sound.complete goal there completes criterion old named required
    · exact absurd named.symm (done.fresh goal there)
  · intro criterion member satisfied
    obtain there | ⟨text, index, rfl⟩ := done.criteria criterion member
    · obtain ⟨row, backing, facts⟩ := sound.backed criterion there satisfied
      exact ⟨row, done.evidence ▸ backing, facts⟩
    · exact absurd satisfied (by decide : ¬ satisfying "pending" = true)

theorem Sound.completed [PyText] {host : Host} {audit : List AuditRow} {recap : Option PyString}
    {goal : GoalRecord} (sound : Sound ledger) (plain : Plain goal.goalId)
    (done : Moved host .complete audit recap goal ledger after) : Sound after := by
  have audited := (done.audited rfl).completing
  have keeps := done.edits.keeps rfl
  have criteria := done.criteria
  rw [if_pos rfl] at criteria
  rw [plain.stripped] at audited
  have before : ∀ new ∈ after.criteria.rows, ∃ old ∈ ledger.criteria.rows,
      SameCriterion old new ∧ new.status = verdict goal audit old := by
    intro new member
    rw [criteria] at member
    exact judged_before member
  -- A criterion of the goal has the goal's session, so the audit's word counts.
  have session : ∀ old ∈ ledger.criteria.rows, old.goalId = goal.goalId →
      old.sessionId = goal.sessionId := by
    intro old present same
    obtain ⟨owner, owns, owner_eq, owner_session⟩ := sound.criteria_owned old present
    obtain rfl := goal_unique owns done.edits.member (owner_eq.trans same)
    exact owner_session.symm
  have judged_row : ∀ old ∈ ledger.criteria.rows, old.goalId = goal.goalId → ∃ row : AuditRow,
      verdict goal audit old = row.result ∧ completing row.result = true ∧
        (satisfying row.result = true → Backed ledger old) := by
    intro old present same
    obtain ⟨row, found, completes, backs⟩ := audited old present same (sound.required old present)
    refine ⟨row, ?_, completes, fun satisfied => ?_⟩
    · rw [verdict, if_pos ⟨same, session old present same⟩, found]
      rfl
    · obtain ⟨evidence, there, of_goal, facts⟩ := backs satisfied
      exact ⟨evidence, there, of_goal.trans same.symm, facts⟩
  have backing : ∀ {old new : GoalCriterion}, SameCriterion old new → Backed ledger old →
      Backed after new := by
    rintro old new same ⟨row, there, of_goal, linked, verified⟩
    exact ⟨row, done.evidence ▸ there, of_goal.trans same.goalId.symm,
      linked.trans (congrArg some same.criterionId.symm), verified⟩
  constructor
  · intro criterion member
    obtain ⟨old, present, same, -⟩ := before criterion member
    rw [same.required]
    exact sound.required old present
  · intro criterion member
    obtain ⟨old, present, same, -⟩ := before criterion member
    rw [same.goalId, same.sessionId]
    exact keeps.owner (sound.criteria_owned old present)
  · intro row member
    exact keeps.owner (sound.evidence_owned row (done.evidence ▸ member))
  · intro row member completes criterion present named required
    obtain ⟨old, there, same, status⟩ := before criterion present
    rw [status]
    by_cases owned : old.goalId = goal.goalId
    · obtain ⟨last, same_result, completing, -⟩ := judged_row old there owned
      rwa [same_result]
    · obtain ⟨was, -⟩ | rfl := (done.edits.mem row).mp member
      · rw [verdict, if_neg fun hit => owned hit.1]
        exact sound.complete row was completes old there (same.goalId ▸ named)
          (sound.required old there)
      · exact absurd (same.goalId ▸ named) owned
  · intro criterion member satisfied
    obtain ⟨old, there, same, status⟩ := before criterion member
    rw [status] at satisfied
    refine backing same ?_
    by_cases owned : old.goalId = goal.goalId
    · obtain ⟨last, same_result, -, backs⟩ := judged_row old there owned
      exact backs (same_result ▸ satisfied)
    · rw [verdict, if_neg fun hit => owned hit.1] at satisfied
      exact sound.backed old there satisfied

theorem Sound.effect [PyText] {call : Call} (named : Named ledger) (sound : Sound ledger)
    (effect : Effect ledger call after) : Sound after := by
  cases effect with
  | replaced done => exact sound.replaced done
  | @described host target objective uiSummary goal _ _ _ edits criteria evidence =>
    refine sound.transfer (edits.keeps rfl) (fun _ => edits.complete fun completes => ?_)
      criteria evidence
    have current := edits.current
    change goal.status = .complete at completes
    rw [complete_settled completes] at current
    cases current
  | appended done => exact sound.appended done
  | @moved host target status audit recap goal _ meant done =>
    by_cases completes : status = .complete
    · subst completes
      exact sound.completed (named goal done.edits.member) done
    · have criteria := done.criteria
      rw [if_neg completes] at criteria
      exact sound.transfer (done.edits.keeps rfl) (fun _ => done.edits.complete completes)
        criteria done.evidence
  | @accounted host target usage goal _ tokens time turns meant done =>
    refine sound.transfer (done.edits.keeps rfl) (fun _ => done.edits.complete ?_)
      done.criteria done.evidence
    intro completes
    have current := done.edits.current
    change nextStatus goal usage = .complete at completes
    unfold nextStatus at completes
    split at completes
    next => cases completes
    next =>
      rw [complete_settled completes] at current
      cases current
  | forgotten => exact sound.forget _

end Steps

theorem sound_empty : Sound .empty where
  required := List.forall_mem_nil _
  criteria_owned := List.forall_mem_nil _
  evidence_owned := List.forall_mem_nil _
  complete := List.forall_mem_nil _
  backed := List.forall_mem_nil _

theorem completion_is_backed [PyText] [Patterns] (calls : List Call) :
    (∀ goal ∈ (ledgerAfter calls).goals.rows, goal.status = .complete →
      ∀ criterion ∈ (ledgerAfter calls).criteria.rows, criterion.goalId = goal.goalId →
        criterion.required = true → completing criterion.status = true) ∧
    ∀ criterion ∈ (ledgerAfter calls).criteria.rows, satisfying criterion.status = true →
      Backed (ledgerAfter calls) criterion := by
  have sound := (ledgerAfter_induction _ sound_empty (fun named sound => sound.effect named) calls).2
  exact ⟨sound.complete, sound.backed⟩

end SynapseYield.Goal
