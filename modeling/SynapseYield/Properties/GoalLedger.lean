import Mathlib.Data.List.Induction
import Mathlib.Data.List.Pairwise
import SynapseYield.Goal.Effects

set_option autoImplicit false

namespace SynapseYield.Goal

open Shared

section Names

theorem dropWhile_space {points : List CodePoint}
    (solid : ∀ c ∈ points, Ascii.isSpace c = false) : points.dropWhile Ascii.isSpace = points := by
  cases points with
  | nil => rfl
  | cons c points =>
    exact List.dropWhile_cons_of_neg (by simp [solid c List.mem_cons_self])

theorem hexDigit_solid (n : Nat) (small : n < 16) :
    (hexDigit n).val < 128 ∧ Ascii.isSpace (hexDigit n) = false := by
  revert n
  decide

variable [PyText]

structure Plain (text : PyString) : Prop where
  stripped : text.strip = text
  nonempty : text ≠ .empty
  encodable : text.encodable = true

theorem strip_solid {text : PyString} (ascii : text.isAscii = true)
    (solid : ∀ c ∈ text.points, Ascii.isSpace c = false) : text.strip = text := by
  rw [PyString.strip, if_pos ascii, Ascii.strip, dropWhile_space solid,
    dropWhile_space fun c member => solid c (List.mem_reverse.mp member), List.reverse_reverse]

theorem newId_plain {kind : PyString}
    (solid : kind.points.all (fun c => c.val < 128 && ! Ascii.isSpace c) = true) (hex : HexId) :
    Plain (newId kind hex) := by
  have all : ∀ c ∈ (newId kind hex).points, c.val < 128 ∧ Ascii.isSpace c = false := by
    intro c member
    obtain member | member := List.mem_append.mp member
    · obtain member | member := List.mem_append.mp member
      · simpa using List.all_eq_true.mp solid c member
      · obtain rfl := List.mem_singleton.mp member
        exact ⟨by decide, by decide⟩
    · obtain ⟨i, -, rfl⟩ := List.mem_map.mp member
      exact hexDigit_solid _ (Nat.mod_lt _ (by decide))
  have plain : (newId kind hex).isAscii = true :=
    List.all_eq_true.mpr fun c member => decide_eq_true (all c member).1
  refine ⟨strip_solid plain fun c member => (all c member).2, ?_,
    PyString.encodable_of_isAscii plain⟩
  intro empty
  have underscore : (95 : CodePoint) ∈ (newId kind hex).points :=
    List.mem_append_left _ (List.mem_append_right _ (List.mem_singleton_self _))
  rw [empty] at underscore
  cases underscore

theorem goalId_plain (hex : HexId) : Plain (newId "goal" hex) :=
  newId_plain (by decide) hex

end Names

section Touches

variable {ledger after : Ledger}

theorem goal_unique {goals : Goals} {a b : GoalRecord} (left : a ∈ goals.rows)
    (right : b ∈ goals.rows) (same : a.goalId = b.goalId) : a = b := by
  have found := Table.find?_of_mem left
  rw [same, Table.find?_of_mem right] at found
  exact (Option.some.inj found).symm

theorem Edits.mem {goal : GoalRecord} {update : RowUpdate PyString GoalRecord GoalRecord.goalId}
    (edits : Edits goal update ledger after) (row : GoalRecord) :
    row ∈ after.goals.rows ↔
      (row ∈ ledger.goals.rows ∧ row.goalId ≠ goal.goalId) ∨ row = update.apply goal := by
  rw [edits.goals, Table.mem_updateWhere]
  constructor
  · rintro ⟨old, member, rfl⟩
    by_cases same : old.goalId = goal.goalId
    · obtain rfl := goal_unique member edits.member same
      exact .inr (if_pos (by simp))
    · rw [if_neg (by simp [same])]
      exact .inl ⟨member, same⟩
  · rintro (⟨member, other⟩ | rfl)
    · exact ⟨row, member, if_neg (by simp [other])⟩
    · exact ⟨goal, edits.member, if_pos (by simp)⟩

theorem oneCurrent_unique {rows : List GoalRecord} (indexed : OneCurrent rows) {a b : GoalRecord}
    (left : a ∈ rows) (right : b ∈ rows) (current : a.status.current = true)
    (other : b.status.current = true) (same : a.sessionId = b.sessionId) : a = b := by
  by_contra different
  have symmetric : Std.Symm fun x y : GoalRecord =>
      ¬ (x.status.current = true ∧ y.status.current = true ∧ x.sessionId = y.sessionId) :=
    ⟨fun x y apart both => apart ⟨both.2.1, both.1, both.2.2.symm⟩⟩
  exact List.Pairwise.forall indexed left right different ⟨current, other, same⟩

variable [PyText]

inductive Touched : Call → GoalRecord → GoalRecord → Prop where
  | same {call : Call} {goal : GoalRecord} : Touched call goal goal
  | superseded {host : Host} {input : NewGoal} {goal : GoalRecord}
      (current : goal.status.current = true) :
      Touched (.replaceGoal host input) goal ((supersede host.now).apply goal)
  | described {host : Host} {target : Target} {objective uiSummary : Option PyString}
      {goal : GoalRecord} {next summary : PyString} (current : goal.status.current = true) :
      Touched (.updateGoal host target objective uiSummary) goal
        ((describe next summary host.now).apply goal)
  | moved {host : Host} {target : Target} {status : GoalStatus} {audit : List AuditRow}
      {recap : Option PyString} {goal : GoalRecord} (meant : Meant target goal) :
      Touched (.updateStatus host target status audit recap) goal
        ((moveTo status host.now recap).apply goal)
  | accounted {host : Host} {target : Target} {usage : Usage} {goal : GoalRecord}
      (tokens : 0 ≤ usage.tokenDelta) (time : 0 ≤ usage.timeDeltaSeconds)
      (turns : 0 ≤ usage.turnDelta) (meant : Meant target goal) :
      Touched (.accountUsage host target usage) goal
        ((account (goal.use usage) (nextStatus goal usage) host.now).apply goal)

theorem Touched.goalId {call : Call} {goal row : GoalRecord} (touched : Touched call goal row) :
    row.goalId = goal.goalId ∧ row.sessionId = goal.sessionId := by
  cases touched <;> exact ⟨rfl, rfl⟩

theorem Touched.settled {call : Call} {goal row : GoalRecord} (touched : Touched call goal row)
    (settled : goal.status.current = false) : row = goal := by
  cases touched with
  | same => rfl
  | superseded current => simp [settled] at current
  | described current => simp [settled] at current
  | moved meant =>
    have current := meant.current
    simp [settled] at current
  | accounted tokens time turns meant =>
    have current := meant.current
    simp [settled] at current

def Dated (goal : GoalRecord) : Prop := goal.completedAt.isSome = !goal.status.current

theorem Touched.dated {call : Call} {goal row : GoalRecord} (touched : Touched call goal row)
    (dated : Dated goal) : Dated row := by
  unfold Dated at dated ⊢
  cases touched with
  | same => exact dated
  | superseded => rfl
  | described => exact dated
  | @moved host target status audit recap _ meant =>
    rw [meant.current] at dated
    have fresh : goal.completedAt = none := by simpa using dated
    cases ended : status.current <;> simp [moveTo, ended, fresh]
  | @accounted host target usage _ tokens time turns meant =>
    rw [meant.current] at dated
    have stays : (nextStatus goal usage).current = true := by
      unfold nextStatus
      split
      next => rfl
      next => exact meant.current
    simpa [account, stays] using dated

theorem Edits.touches {goal old : GoalRecord} {call : Call}
    {update : RowUpdate PyString GoalRecord GoalRecord.goalId} (edits : Edits goal update ledger after)
    (touches : Touched call goal (update.apply goal)) (member : old ∈ ledger.goals.rows) :
    ∃ row ∈ after.goals.rows, Touched call old row := by
  by_cases same : old.goalId = goal.goalId
  · obtain rfl := goal_unique member edits.member same
    exact ⟨_, (edits.mem _).mpr (.inr rfl), touches⟩
  · exact ⟨old, (edits.mem old).mpr (.inl ⟨member, same⟩), .same⟩

end Touches

theorem unchanged {ledger after : Ledger} {α : Type} {x : Store α}
    (keeps : Keeps (· = ledger) x) 
    {raised : GoalError} (failed : x ledger = .error raised after) : after = ledger := by
  have same := keeps ledger rfl
  rwa [failed] at same

theorem refuse_keeps {inv : Ledger → Prop} (bad : Prop) [Decidable bad] (raised : GoalError) :
    Keeps inv (refuse bad raised) := .ite (.throw raised) (.pure ())

theorem requirePositive_keeps {inv : Ledger → Prop} (name : PyString) (budget : Option Int) :
    Keeps inv (requirePositive name budget) := by
  cases budget with
  | none => exact .pure ()
  | some value => exact .ite (.throw _) (.pure ())

variable [PyText]

def Named (ledger : Ledger) : Prop := ∀ goal ∈ ledger.goals.rows, Plain goal.goalId

section Raises

variable {ledger after : Ledger}

theorem reload_returns {goalId message : PyString} (plain : Plain goalId)
    (found : goalId ∈ ledger.goals.rows.map (·.goalId)) {raised : GoalError} :
    reload goalId message ledger ≠ .error raised after := by
  obtain ⟨goal, read⟩ : ∃ goal, ledger.goals.find? goalId = some goal := by
    obtain ⟨goal, member, rfl⟩ := List.mem_map.mp found
    exact ⟨goal, Table.find?_of_mem member⟩
  have named : normalizeRequiredText goalId "goal_id" ledger = .ok goalId ledger :=
    normalizeRequiredText_ok.mpr ⟨by rw [plain.stripped]; exact plain.nonempty, plain.stripped, rfl⟩
  have bound : bindText [goalId] ledger = .ok () ledger :=
    bindText_ok.mpr ⟨by simp [plain.encodable], rfl⟩
  have got : getGoal goalId ledger = .ok (some goal) ledger := by
    unfold getGoal
    rw [bind_of_ok named, bind_of_ok bound, ← read]
    rfl
  unfold reload
  rw [bind_of_ok got]
  intro failed
  cases failed

theorem committed_error {host : Host} {body : Store GoalRecord} {message : PyString}
    {raised : GoalError} (sound : ∀ goal after, body ledger = .ok goal after →
      Plain goal.goalId ∧ goal.goalId ∈ after.goals.rows.map (·.goalId))
    (failed : (do
      let goal ← writeTransaction host body
      reload goal.goalId message) ledger = .error raised after) : after = ledger := by
  obtain failed | ⟨goal, _, written, failed⟩ := bind_error.mp failed
  · exact writeTransaction_error failed
  · obtain ⟨plain, found⟩ := sound goal _ (writeTransaction_ok.mp written).2
    exact absurd failed (reload_returns plain found)

theorem Edits.found {goal : GoalRecord}
    {update : RowUpdate PyString GoalRecord GoalRecord.goalId}
    (edits : Edits goal update ledger after) (named : Named ledger) :
    Plain goal.goalId ∧ goal.goalId ∈ after.goals.rows.map (·.goalId) := by
  refine ⟨named goal edits.member, List.mem_map.mpr ?_⟩
  rw [edits.goals]
  refine ⟨_, (Table.mem_updateWhere ..).mpr ⟨goal, edits.member, rfl⟩, ?_⟩
  rw [if_pos (by simp)]
  exact update.keeps goal

theorem normalizeRequiredText_keeps {inv : Ledger → Prop} (value fieldName : PyString) :
    Keeps inv (normalizeRequiredText value fieldName) := .ite (.throw _) (.pure _)

variable [Patterns]

theorem checkNewGoal_keeps {inv : Ledger → Prop} (input : NewGoal) :
    Keeps inv (checkNewGoal input) := by
  have safe : ∀ text, Keeps inv (rejectLiveExecutionObjective text) := fun text =>
    .ite (.throw _) (.pure ())
  unfold checkNewGoal
  refine Keeps.bind (normalizeRequiredText_keeps _ _) fun sessionId => ?_
  refine Keeps.bind (normalizeRequiredText_keeps _ _) fun objective => ?_
  refine Keeps.bind (safe objective) fun _ => Keeps.bind (refuse_keeps _ _) fun _ => ?_
  refine Keeps.bind (refuse_keeps _ _) fun _ => Keeps.bind (Keeps.forM safe) fun _ => ?_
  refine Keeps.bind (requirePositive_keeps _ _) fun _ => ?_
  refine Keeps.bind (requirePositive_keeps _ _) fun _ => ?_
  exact Keeps.bind (requirePositive_keeps _ _) fun _ => .pure _

theorem replaceGoal_error {host : Host} {input : NewGoal} {raised : GoalError}
    (failed : replaceGoal host input ledger = .error raised after) : after = ledger := by
  unfold replaceGoal at failed
  obtain failed | ⟨⟨sessionId, objective, criteria⟩, _, checked, failed⟩ := bind_error.mp failed
  · exact unchanged (checkNewGoal_keeps input) failed
  · obtain ⟨rfl, -, -⟩ := checkNewGoal_ok checked
    obtain failed | ⟨_, _, written, failed⟩ := bind_error.mp failed
    · exact writeTransaction_error failed
    · obtain ⟨⟨_, -, inserted⟩, -⟩ := writeNewGoal_ok (writeTransaction_ok.mp written).2
      refine absurd failed (reload_returns (goalId_plain _) (List.mem_map.mpr ?_))
      exact ⟨_, (Table.mem_insert inserted _).mpr (.inr rfl), rfl⟩

omit [Patterns] in
theorem appendEvidence_error {host : Host} {target : Target} {evidence : EvidenceInput}
    {raised : GoalError} (failed : appendEvidence host target evidence ledger = .error raised after) :
    after = ledger := by
  unfold appendEvidence at failed
  obtain failed | ⟨_, _, written, failed⟩ := bind_error.mp failed
  · exact writeTransaction_error failed
  · obtain ⟨goal, _, required, body⟩ := bind_ok.mp (writeTransaction_ok.mp written).2
    obtain ⟨rfl, member, meant⟩ := requireMutableGoal_ok required
    obtain ⟨verification, inserted⟩ := (writeEvidence_ok member meant.current body).evidence
    have found := Table.find?_insert inserted (newEvidence host goal evidence verification).evidenceId
    rw [if_pos rfl] at found
    rw [bind_of_ok (findEvidence_ok.mpr ⟨(newId_plain (by decide) (host.hex 0)).encodable, found, rfl⟩)] at failed
    cases failed

theorem call_error {call : Call} {raised : GoalError} (named : Named ledger)
    (failed : call.run ledger = .error raised after) : after = ledger := by
  cases call with
  | replaceGoal host goal => exact replaceGoal_error (discarded_error.mp failed)
  | updateGoal host target objective uiSummary =>
    refine committed_error (fun goal after body => ?_) (discarded_error.mp failed)
    obtain ⟨_, _, edits, -⟩ := describeGoal_ok body
    exact edits.found named
  | appendEvidence host target evidence => exact appendEvidence_error (discarded_error.mp failed)
  | updateStatus host target status audit recap =>
    refine committed_error (fun goal after body => ?_) (discarded_error.mp failed)
    exact (moveGoal_ok body).2.edits.found named
  | accountUsage host target usage =>
    obtain failed | ⟨_, _, deltas, failed⟩ := bind_error.mp (discarded_error.mp failed)
    · exact unchanged (refuse_keeps _ _) failed
    · obtain ⟨-, rfl⟩ := refuse_ok.mp deltas
      exact committed_error (fun goal after body => (useGoal_ok body).2.edits.found named) failed
  | deleteSessionGoals host sessionId =>
    obtain failed | ⟨_, _, checked, failed⟩ := bind_error.mp (discarded_error.mp failed)
    · exact unchanged (normalizeRequiredText_keeps _ _) failed
    · obtain ⟨-, -, rfl⟩ := normalizeRequiredText_ok.mp checked
      exact writeTransaction_error failed

end Raises

section Goals

variable {ledger after : Ledger}

theorem Replaced.mem {host : Host} {input : NewGoal} (done : Replaced host input ledger after) :
    ∃ objective, ∀ row, row ∈ after.goals.rows ↔
      (∃ old ∈ ledger.goals.rows, (if decide (old.sessionId = input.sessionId.strip) &&
        old.status.current then (supersede host.now).apply old else old) = row) ∨
      row = newGoal host input input.sessionId.strip objective := by
  obtain ⟨objective, _, rfl, inserted⟩ := done.goals
  refine ⟨objective, fun row => ?_⟩
  rw [Table.mem_insert inserted, Table.mem_updateWhere]

theorem Replaced.fresh {host : Host} {input : NewGoal} (done : Replaced host input ledger after) :
    ∀ goal ∈ ledger.goals.rows, goal.goalId ≠ newId "goal" (host.hex 0) := by
  obtain ⟨_, _, rfl, inserted⟩ := done.goals
  intro goal member taken
  refine ((Table.insert?_eq_some ..).mp inserted).1 (List.mem_map.mpr ?_)
  refine ⟨_, (Table.mem_updateWhere ..).mpr ⟨goal, member, rfl⟩, ?_⟩
  split <;> exact taken

theorem goal_before {call : Call} (effect : Effect ledger call after) {row : GoalRecord}
    (member : row ∈ after.goals.rows) :
    (∃ old ∈ ledger.goals.rows, Touched call old row) ∨
      ∃ host input objective, call = .replaceGoal host input ∧
        Replaced host input ledger after ∧
        row = newGoal host input input.sessionId.strip objective := by
  cases effect with
  | @replaced host input _ done =>
    obtain ⟨objective, mem⟩ := done.mem
    obtain ⟨old, there, image⟩ | fresh := (mem row).mp member
    · refine .inl ⟨old, there, ?_⟩
      split at image
      next hit => exact image ▸ .superseded ((Bool.and_eq_true_iff.mp hit).2)
      next => exact image ▸ .same
    · exact .inr ⟨host, input, objective, rfl, done, fresh⟩
  | described edits =>
    obtain ⟨there, -⟩ | rfl := (edits.mem row).mp member
    · exact .inl ⟨row, there, .same⟩
    · exact .inl ⟨_, edits.member, .described edits.current⟩
  | appended done => exact .inl ⟨row, done.goals ▸ member, .same⟩
  | moved meant done =>
    obtain ⟨there, -⟩ | rfl := (done.edits.mem row).mp member
    · exact .inl ⟨row, there, .same⟩
    · exact .inl ⟨_, done.edits.member, .moved meant⟩
  | accounted tokens time turns meant done =>
    obtain ⟨there, -⟩ | rfl := (done.edits.mem row).mp member
    · exact .inl ⟨row, there, .same⟩
    · exact .inl ⟨_, done.edits.member, .accounted tokens time turns meant⟩
  | forgotten => exact .inl ⟨row, ((Table.mem_deleteWhere ..).mp member).1, .same⟩

def Call.deletes (sessionId : PyString) : Call → Prop
  | .deleteSessionGoals _ given => given.strip = sessionId
  | _ => False

theorem goal_after {call : Call} (effect : Effect ledger call after) {goal : GoalRecord}
    (member : goal ∈ ledger.goals.rows) :
    (∃ row ∈ after.goals.rows, Touched call goal row) ∨ call.deletes goal.sessionId := by
  cases effect with
  | @replaced host input _ done =>
    obtain ⟨objective, mem⟩ := done.mem
    refine .inl ⟨_, (mem _).mpr (.inl ⟨goal, member, rfl⟩), ?_⟩
    split
    next hit => exact .superseded ((Bool.and_eq_true_iff.mp hit).2)
    next => exact .same
  | described edits => exact .inl (edits.touches (.described edits.current) member)
  | appended done => exact .inl ⟨goal, done.goals ▸ member, .same⟩
  | moved meant done => exact .inl (done.edits.touches (.moved meant) member)
  | accounted tokens time turns meant done =>
    exact .inl (done.edits.touches (.accounted tokens time turns meant) member)
  | @forgotten _ given =>
    by_cases deleted : goal.sessionId = given.strip
    · exact .inr deleted.symm
    · exact .inl ⟨goal, (Table.mem_deleteWhere ..).mpr ⟨member, decide_eq_false deleted⟩, .same⟩

theorem named_effect {call : Call} (named : Named ledger) (effect : Effect ledger call after) :
    Named after := by
  intro goal member
  obtain ⟨old, there, touched⟩ | ⟨host, input, objective, -, -, rfl⟩ := goal_before effect member
  · exact touched.goalId.1 ▸ named old there
  · exact goalId_plain _

end Goals

section Runs

variable [Patterns]

theorem ledgerAfter_snoc (calls : List Call) (call : Call) :
    ledgerAfter (calls ++ [call]) = leaves (call.run (ledgerAfter calls)) := by
  simp [ledgerAfter]

theorem ledgerAfter_induction (inv : Ledger → Prop) (start : inv .empty)
    (step : ∀ {ledger after : Ledger} {call : Call}, Named ledger → inv ledger →
      Effect ledger call after → inv after) (calls : List Call) :
    Named (ledgerAfter calls) ∧ inv (ledgerAfter calls) := by
  induction calls using List.reverseRecOn with
  | nil => exact ⟨List.forall_mem_nil _, start⟩
  | append_singleton calls call ih =>
    obtain ⟨named, holds⟩ := ih
    rw [ledgerAfter_snoc]
    cases ran : call.run (ledgerAfter calls) with
    | ok done after =>
      have effect := call_ok ran
      exact ⟨named_effect named effect, step named holds effect⟩
    | error raised after =>
      obtain rfl := call_error named ran
      exact ⟨named, holds⟩

theorem ledgerAfter_named (calls : List Call) : Named (ledgerAfter calls) :=
  (ledgerAfter_induction (fun _ => True) trivial (fun _ _ _ => trivial) calls).1

theorem next_effect (calls : List Call) (call : Call) :
    ledgerAfter (calls ++ [call]) = ledgerAfter calls ∨
      Effect (ledgerAfter calls) call (ledgerAfter (calls ++ [call])) := by
  rw [ledgerAfter_snoc]
  cases ran : call.run (ledgerAfter calls) with
  | ok done after => exact .inr (call_ok ran)
  | error raised after => exact .inl (call_error (ledgerAfter_named calls) ran)

theorem ledgerAfter_dated (calls : List Call) :
    ∀ goal ∈ (ledgerAfter calls).goals.rows, Dated goal := by
  refine (ledgerAfter_induction (fun ledger => ∀ goal ∈ ledger.goals.rows, Dated goal)
    (List.forall_mem_nil _) ?_ calls).2
  intro ledger after call _ dated effect goal member
  obtain ⟨old, there, touched⟩ | ⟨host, input, objective, -, -, rfl⟩ := goal_before effect member
  · exact touched.dated (dated old there)
  · rfl

theorem settled_stays {calls : List Call} {goal : GoalRecord}
    (member : goal ∈ (ledgerAfter calls).goals.rows) (settled : goal.status.current = false)
    (more : List Call) :
    goal ∈ (ledgerAfter (calls ++ more)).goals.rows ∨
      ∃ call ∈ more, call.deletes goal.sessionId := by
  induction more using List.reverseRecOn with
  | nil => exact .inl (by rwa [List.append_nil])
  | append_singleton more call ih =>
    obtain there | ⟨earlier, among, deletes⟩ := ih
    · rw [← List.append_assoc]
      obtain same | effect := next_effect (calls ++ more) call
      · exact .inl (same ▸ there)
      · obtain ⟨row, present, touched⟩ | deletes := goal_after effect there
        · exact .inl (touched.settled settled ▸ present)
        · exact .inr ⟨call, List.mem_append_right _ (List.mem_singleton_self _), deletes⟩
    · exact .inr ⟨earlier, List.mem_append_left _ among, deletes⟩

-- One current goal a session, settled goals for ever, completed_at where a goal is settled, and
-- nothing done where a call raises.
structure Orderly (calls : List Call) : Prop where
  unique : ∀ a ∈ (ledgerAfter calls).goals.rows, ∀ b ∈ (ledgerAfter calls).goals.rows,
    a.status.current = true → b.status.current = true → a.sessionId = b.sessionId → a = b
  settled : ∀ goal ∈ (ledgerAfter calls).goals.rows, goal.status.current = false →
    ∀ more : List Call, goal ∈ (ledgerAfter (calls ++ more)).goals.rows ∨
      ∃ call ∈ more, call.deletes goal.sessionId
  dated : ∀ goal ∈ (ledgerAfter calls).goals.rows,
    goal.completedAt.isSome = true ↔ goal.status.current = false
  raises : ∀ (call : Call) (raised : GoalError) (after : Ledger),
    call.run (ledgerAfter calls) = .error raised after → after = ledgerAfter calls

theorem goals_orderly (calls : List Call) : Orderly calls where
  unique a left b right current other same :=
    oneCurrent_unique (ledgerAfter calls).indexed left right current other same
  settled _ member settled more := settled_stays member settled more
  dated goal member := by
    rw [ledgerAfter_dated calls goal member, Bool.not_eq_true']
  raises _ _ _ failed := call_error (ledgerAfter_named calls) failed

end Runs

end SynapseYield.Goal
