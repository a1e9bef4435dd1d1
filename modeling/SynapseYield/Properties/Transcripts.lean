import SynapseYield.Agent.Loop
import SynapseYield.Properties.ToolCalls
import SynapseYield.Shared.Answers

set_option autoImplicit false

namespace SynapseYield.Agent.Loop

open Shared Shared.Answers

section Pairs

variable {messages kept : List Message} {message : Message} {seen : List PyString}
  {calls : List ToolCall} {call : ToolCall} {id : PyString}

def Message.entry : Message → Entry PyString
  | .tool result => .answer result.toolCallId
  | message => .calls (message.calls.map (·.id))

def entries (messages : List Message) : List (Entry PyString) := messages.map Message.entry

theorem calledIds_eq : calledIds messages = called (entries messages) := by
  induction messages with
  | nil => rfl
  | cons message rest ih =>
    rw [entries, List.map_cons, called_cons]
    change _ ++ calledIds rest = _ ++ called (entries rest)
    rw [ih]
    cases message <;> rfl

theorem resultIds_eq : resultIds messages = answered (entries messages) := by
  induction messages with
  | nil => rfl
  | cons message rest ih =>
    rw [entries, List.map_cons, answered_cons]
    change _ = _ ++ answered (entries rest)
    rw [← ih]
    cases message <;> rfl

@[simp] theorem calledIds_cons :
    calledIds (message :: messages) = message.calls.map (·.id) ++ calledIds messages := rfl

theorem calledIds_append {more : List Message} :
    calledIds (messages ++ more) = calledIds messages ++ calledIds more := List.flatMap_append

theorem resultIds_append {more : List Message} :
    resultIds (messages ++ more) = resultIds messages ++ resultIds more := List.filterMap_append

theorem mem_resultIds : id ∈ resultIds messages ↔
    ∃ result, Message.tool result ∈ messages ∧ result.toolCallId = id := by
  rw [resultIds, List.mem_filterMap]
  constructor
  · rintro ⟨message, listed, told⟩
    cases message with
    | tool result => exact ⟨result, listed, Option.some.inj told⟩
    | system content => cases told
    | user content => cases told
    | assistant content calls => cases told
  · rintro ⟨result, listed, rfl⟩
    exact ⟨_, listed, rfl⟩

theorem mem_unanswered :
    call ∈ unanswered seen calls → call ∈ calls ∧ call.id ≠ "" ∧ call.id ∉ seen := by
  induction calls generalizing seen with
  | nil => nofun
  | cons first rest ih =>
    intro listed
    unfold unanswered at listed
    split at listed
    next =>
      obtain ⟨member, named, fresh⟩ := ih listed
      exact ⟨List.mem_cons_of_mem _ member, named, fresh⟩
    next open_ =>
      rw [not_or] at open_
      obtain rfl | later := List.mem_cons.mp listed
      · exact ⟨List.mem_cons_self, open_.1, open_.2⟩
      · obtain ⟨member, named, fresh⟩ := ih later
        exact ⟨List.mem_cons_of_mem _ member, named, fun old => fresh (List.mem_cons_of_mem _ old)⟩

theorem unanswered_nil (all : ∀ call ∈ calls, call.id = "" ∨ call.id ∈ seen) :
    unanswered seen calls = [] := by
  induction calls with
  | nil => rfl
  | cons first rest ih =>
    unfold unanswered
    rw [if_pos (all first List.mem_cons_self)]
    exact ih fun call member => all call (List.mem_cons_of_mem _ member)

theorem insertStubs_same (all : ∀ id ∈ calledIds messages, id = "" ∨ id ∈ seen) :
    insertStubs seen messages = messages := by
  induction messages with
  | nil => rfl
  | cons message rest ih =>
    have none : unanswered seen message.calls = [] := unanswered_nil fun call member =>
      all call.id (List.mem_append_left _ (List.mem_map_of_mem member))
    rw [insertStubs]
    rw [none]
    exact congrArg (message :: ·) (ih fun id member => all id (List.mem_append_right _ member))

theorem insertStubs_others (other : Message → Bool)
    (stubs : ∀ result, other (.tool result) = false) :
    (insertStubs seen messages).filter other = messages.filter other := by
  induction messages generalizing seen with
  | nil => rfl
  | cons message rest ih =>
    have none : ((unanswered seen message.calls).map fun call =>
        Message.tool (stub call)).filter other = [] := by
      refine List.filter_eq_nil_iff.mpr fun added listed => ?_
      obtain ⟨call, -, rfl⟩ := List.mem_map.mp listed
      simp [stubs]
    rw [insertStubs]
    rw [List.cons_append, List.filter_cons, List.filter_cons, List.filter_append, none,
      List.nil_append, ih]

theorem calledIds_others : calledIds (messages.filter fun message => ! message.isTool) =
    calledIds messages := by
  induction messages with
  | nil => rfl
  | cons message rest ih =>
    rw [List.filter_cons]
    cases message with
    | tool result => exact ih
    | system content => exact congrArg ([] ++ ·) ih
    | user content => exact congrArg ([] ++ ·) ih
    | assistant content calls => exact congrArg (calls.map (·.id) ++ ·) ih

theorem insertStubs_results {result : ToolMessage}
    (member : Message.tool result ∈ insertStubs seen messages) :
    Message.tool result ∈ messages ∨ ∃ call, result = stub call ∧ call.id ≠ "" ∧
      call.id ∈ calledIds messages ∧ call.id ∉ seen := by
  induction messages generalizing seen with
  | nil => cases member
  | cons message rest ih =>
    rw [insertStubs] at member
    obtain same | later := List.mem_cons.mp member
    · exact .inl (same ▸ List.mem_cons_self)
    · obtain added | kept := List.mem_append.mp later
      · obtain ⟨call, missing, same⟩ := List.mem_map.mp added
        obtain ⟨own, named, fresh⟩ := mem_unanswered missing
        exact .inr ⟨call, (Message.tool.inj same).symm, named,
          List.mem_append_left _ (List.mem_map_of_mem own), fresh⟩
      · obtain old | ⟨call, rfl, named, called, fresh⟩ := ih kept
        · exact .inl (List.mem_cons_of_mem _ old)
        · exact .inr ⟨call, rfl, named, List.mem_append_right _ called,
            fun known => fresh (List.mem_append_right _ known)⟩

theorem unanswered_count : ((unanswered seen calls).map (·.id)).count id =
    if id ≠ "" ∧ id ∈ calls.map (·.id) ∧ id ∉ seen then 1 else 0 := by
  induction calls generalizing seen with
  | nil => simp [unanswered]
  | cons first rest ih =>
    unfold unanswered
    split
    next skipped =>
      rw [ih]
      refine if_congr ?_ rfl rfl
      grind
    next open_ =>
      rw [List.map_cons, List.count_cons, ih]
      grind

theorem resultIds_stubs : resultIds (calls.map fun call => Message.tool (stub call)) =
    calls.map (·.id) := by
  rw [resultIds, List.filterMap_map]
  exact congrFun (List.filterMap_eq_map (f := fun call : ToolCall => call.id)) calls

theorem insertStubs_count : (resultIds (insertStubs seen messages)).count id =
    (resultIds messages).count id +
      if id ≠ "" ∧ id ∈ calledIds messages ∧ id ∉ seen then 1 else 0 := by
  induction messages generalizing seen with
  | nil => simp [insertStubs, calledIds]
  | cons message rest ih =>
    rw [insertStubs]
    change (resultIds ([message] ++ (_ ++ _))).count id =
      (resultIds ([message] ++ rest)).count id + _
    have here := @unanswered_count seen message.calls id
    rw [resultIds_append, resultIds_append, resultIds_append, resultIds_stubs, List.count_append,
      List.count_append, List.count_append, ih, here]
    have fresh : id ∈ (unanswered seen message.calls).map (·.id) ↔
        id ≠ "" ∧ id ∈ message.calls.map (·.id) ∧ id ∉ seen := by
      rw [← List.one_le_count_iff, here]
      split
      next present => simp [present]
      next absent => exact iff_of_false (by decide) absent
    rw [calledIds_cons]
    grind

theorem kept_count {ids : List PyString} :
    (resultIds (messages.filter (paired ids))).count id =
      if id ≠ "" ∧ id ∈ ids then (resultIds messages).count id else 0 := by
  induction messages with
  | nil => simp [resultIds]
  | cons message rest ih =>
    change _ = if _ then (resultIds ([message] ++ rest)).count id else 0
    rw [resultIds_append, List.count_append, List.filter_cons]
    cases message with
    | tool result =>
      have own : (resultIds [.tool result]).count id =
          if result.toolCallId = id then 1 else 0 := by
        simp [resultIds, List.count_cons]
      split
      next kept =>
        change (resultIds ([.tool result] ++ _)).count id = _
        rw [resultIds_append, List.count_append, ih]
        rw [own]
        have := of_decide_eq_true kept
        grind
      next dropped =>
        rw [ih]
        rw [own]
        have : ¬ (result.toolCallId ≠ "" ∧ result.toolCallId ∈ ids) :=
          fun both => dropped (decide_eq_true both)
        grind
    | system content => exact ih.trans (by simp [resultIds])
    | user content => exact ih.trans (by simp [resultIds])
    | assistant content calls => exact ih.trans (by simp [resultIds])

theorem kept_others {ids : List PyString} :
    (messages.filter (paired ids)).filter (fun message => ! message.isTool) =
      messages.filter fun message => ! message.isTool := by
  rw [List.filter_filter]
  refine List.filter_congr fun message _ => ?_
  cases message <;> rfl

theorem kept_called {ids : List PyString} :
    calledIds (messages.filter (paired ids)) = calledIds messages := by
  rw [← calledIds_others, kept_others, calledIds_others]

theorem fixToolPairs_count : (resultIds (fixToolPairs messages)).count id =
    if id ≠ "" ∧ id ∈ calledIds messages then max 1 ((resultIds messages).count id) else 0 := by
  rw [fixToolPairs]
  rw [insertStubs_count, kept_called, kept_count]
  have present := List.one_le_count_iff (a := id)
    (l := resultIds (messages.filter (paired (calledIds messages))))
  rw [kept_count] at present
  grind

theorem fixToolPairs_others : (fixToolPairs messages).filter (fun message => ! message.isTool) =
    messages.filter fun message => ! message.isTool :=
  (insertStubs_others _ fun _ => rfl).trans kept_others

theorem fixToolPairs_called : calledIds (fixToolPairs messages) = calledIds messages := by
  rw [← calledIds_others, fixToolPairs_others, calledIds_others]

theorem fixToolPairs_same (named : ∀ id ∈ resultIds messages, id ≠ "" ∧ id ∈ calledIds messages)
    (all : ∀ id ∈ calledIds messages, id = "" ∨ id ∈ resultIds messages) :
    fixToolPairs messages = messages := by
  have kept : messages.filter (paired (calledIds messages)) = messages := by
    refine List.filter_eq_self.mpr fun message listed => ?_
    cases message with
    | tool result => exact decide_eq_true (named _ (mem_resultIds.mpr ⟨result, listed, rfl⟩))
    | system content => rfl
    | user content => rfl
    | assistant content calls => rfl
  rw [fixToolPairs]
  rw [kept]
  exact insertStubs_same all

theorem insertStubs_sublist : messages.Sublist (insertStubs seen messages) := by
  induction messages generalizing seen with
  | nil => exact .slnil
  | cons message rest ih =>
    rw [insertStubs]
    exact (ih.trans (List.sublist_append_right _ _)).cons_cons _

end Pairs

theorem results_repaired (messages : List Message) :
    (fixToolPairs messages).filter (fun message => ! message.isTool) =
        messages.filter (fun message => ! message.isTool) ∧
      (∀ id, (resultIds (fixToolPairs messages)).count id =
        if id ≠ "" ∧ id ∈ calledIds messages then max 1 ((resultIds messages).count id) else 0) ∧
      (∀ result, .tool result ∈ fixToolPairs messages →
        .tool result ∈ messages ∨ ∃ call, result = stub call ∧ call.id ∉ resultIds messages) ∧
      (messages.filter (paired (calledIds messages))).Sublist (fixToolPairs messages) ∧
      fixToolPairs (fixToolPairs messages) = fixToolPairs messages := by
  refine ⟨fixToolPairs_others, fun id => fixToolPairs_count, fun result member => ?_,
    insertStubs_sublist, fixToolPairs_same (fun id listed => ?_) fun id listed => ?_⟩
  · obtain kept | ⟨call, rfl, named, called, fresh⟩ := insertStubs_results member
    · exact .inl (List.mem_filter.mp kept).1
    · refine .inr ⟨call, rfl, fun old => fresh ?_⟩
      rw [kept_called] at called
      rw [← List.one_le_count_iff, kept_count, if_pos ⟨named, called⟩]
      exact List.one_le_count_iff.mpr old
  · have present := List.one_le_count_iff.mpr listed
    rw [fixToolPairs_count] at present
    rw [fixToolPairs_called]
    by_contra bad
    rw [if_neg bad] at present
    exact absurd present (by decide)
  · refine or_iff_not_imp_left.mpr fun named => ?_
    rw [fixToolPairs_called] at listed
    rw [← List.one_le_count_iff, fixToolPairs_count, if_pos ⟨named, listed⟩]
    exact Nat.le_max_left _ _

section Budget

variable {message : Message} {messages body : List Message} {budget cut : Nat}

def tokensOf (messages : List Message) : Nat := (messages.map Message.tokens).sum

theorem recent_fits : tokensOf (messages.take (recent budget messages)) ≤ budget := by
  induction messages generalizing budget with
  | nil => exact Nat.zero_le _
  | cons message rest ih =>
    rw [recent]
    split
    · exact Nat.zero_le _
    next room =>
      rw [List.take_succ_cons, tokensOf, List.map_cons, List.sum_cons]
      have fits := @ih (budget - message.tokens)
      rw [tokensOf] at fits
      omega

theorem recent_most {count : Nat} (more : recent budget messages < count)
    (listed : count ≤ messages.length) : budget < tokensOf (messages.take count) := by
  induction messages generalizing budget count with
  | nil => exact absurd (more.trans_le listed) (Nat.not_lt_zero _)
  | cons message rest ih =>
    obtain _ | count := count
    · exact absurd more (Nat.not_lt_zero _)
    · rw [List.take_succ_cons, tokensOf, List.map_cons, List.sum_cons]
      rw [recent] at more
      split at more
      next full => omega
      next room =>
        have exceeds := ih (Nat.lt_of_succ_lt_succ more) (Nat.le_of_succ_le_succ listed)
        rw [tokensOf] at exceeds
        omega

theorem tokensOf_reverse_take {count : Nat} :
    tokensOf (body.reverse.take count) = tokensOf (body.drop (body.length - count)) := by
  rw [List.take_reverse, tokensOf, List.map_reverse, List.sum_reverse]
  rfl

def budgetStart (body : List Message) : Nat :=
  body.length - recent tailTokenBudget body.reverse

theorem budgetStart_fits : tokensOf (body.drop (budgetStart body)) ≤ tailTokenBudget :=
  tokensOf_reverse_take.symm.trans_le recent_fits

theorem budgetStart_most {place : Nat} (earlier : place < budgetStart body) :
    tailTokenBudget < tokensOf (body.drop place) := by
  have listed : body.length - place ≤ body.length := Nat.sub_le _ _
  have more : recent tailTokenBudget body.reverse < body.length - place := by
    unfold budgetStart at earlier
    omega
  have exceeds := recent_most more (listed.trans_eq List.length_reverse.symm)
  rw [tokensOf_reverse_take] at exceeds
  have same : body.length - (body.length - place) = place := by
    unfold budgetStart at earlier
    omega
  rwa [same] at exceeds

theorem tokensOf_drop_le {count : Nat} : tokensOf (messages.drop count) ≤ tokensOf messages := by
  conv_rhs =>
    rw [← List.take_append_drop count messages, tokensOf, List.map_append, List.sum_append]
  exact Nat.le_add_left _ _

theorem tokensOf_drop_drop {first second : Nat} (onwards : first ≤ second) :
    tokensOf (messages.drop second) ≤ tokensOf (messages.drop first) := by
  have same : messages.drop second = (messages.drop first).drop (second - first) := by
    rw [List.drop_drop, Nat.add_sub_of_le onwards]
  exact same ▸ tokensOf_drop_le

theorem takeWhile_drop {p : Message → Bool} :
    (messages.drop (messages.takeWhile p).length).head?.any p = false := by
  induction messages with
  | nil => rfl
  | cons message rest ih =>
    rw [List.takeWhile_cons]
    split
    next => exact ih
    next stops => exact eq_false_of_ne_true stops

theorem tailStart_zero : tailStart body = 0 ↔ tokensOf body ≤ tailTokenBudget := by
  change (if budgetStart body = 0 then 0 else budgetStart body + _) = 0 ↔ _
  have fits := @budgetStart_fits body
  split
  next whole =>
    rw [whole] at fits
    exact iff_of_true rfl fits
  next cut =>
    have exceeds : tailTokenBudget < tokensOf body := budgetStart_most (Nat.pos_of_ne_zero cut)
    exact iff_of_false (fun none => cut (Nat.eq_zero_of_add_eq_zero_right none))
      (Nat.not_le_of_lt exceeds)

theorem exists_of_isTool (tool : message.isTool = true) : ∃ result, message = .tool result := by
  cases message with
  | tool result => exact ⟨result, rfl⟩
  | system content => cases tool
  | user content => cases tool
  | assistant content calls => cases tool

theorem tailStart_tools (exceeds : tailTokenBudget < tokensOf body) :
    budgetStart body ≤ tailStart body ∧ tailStart body ≤ body.length ∧
      (∀ place, budgetStart body ≤ place → place < tailStart body →
        ∃ result, body[place]? = some (Message.tool result)) ∧
      (body.drop (tailStart body)).head?.any Message.isTool = false := by
  have start : tailStart body = budgetStart body +
      ((body.drop (budgetStart body)).takeWhile Message.isTool).length := by
    change (if budgetStart body = 0 then 0 else budgetStart body + _) = _
    refine if_neg fun whole => ?_
    have fits := @budgetStart_fits body
    rw [whole] at fits
    exact absurd fits (Nat.not_le_of_lt exceeds)
  have shorter :=
    (List.takeWhile_prefix (l := body.drop (budgetStart body)) Message.isTool).length_le
  rw [List.length_drop] at shorter
  have inside : budgetStart body ≤ body.length := Nat.sub_le _ _
  refine ⟨start ▸ Nat.le_add_right _ _, by omega, fun place from_ upto => ?_, ?_⟩
  · have within : place - budgetStart body <
        ((body.drop (budgetStart body)).takeWhile Message.isTool).length := by omega
    have tool := List.mem_takeWhile_imp (List.getElem_mem within)
    have same := (List.takeWhile_prefix (l := body.drop (budgetStart body)) Message.isTool).getElem
      within
    rw [same, List.getElem_drop] at tool
    simp only [Nat.add_sub_of_le from_] at tool
    obtain ⟨result, same⟩ := exists_of_isTool tool
    exact ⟨result, List.getElem?_eq_some_iff.mpr ⟨_, same⟩⟩
  · rw [start, ← List.drop_drop]
    exact takeWhile_drop

end Budget

/-- What a compaction keeps: all, where that is at most two messages within the budget; else what
follows some place of the body, which is within the budget and as much as fits there, but for the
results whose calls are cut off and the older half of a body that fits. -/
theorem autoCompact_keeps (handoff : PyString) (first : Message) (body : List Message) :
    autoCompact handoff (first :: body) = first :: body ∧
        tokensOf body ≤ tailTokenBudget ∧ body.length ≤ 2 ∨
      ∃ cut, 0 < cut ∧ cut ≤ body.length ∧
        autoCompact handoff (first :: body) =
          fixToolPairs (first :: .user handoff :: body.drop cut) ∧
        tokensOf (body.drop cut) ≤ tailTokenBudget ∧
        (tokensOf body ≤ tailTokenBudget ∧ cut = body.length / 2 ∨
          tailTokenBudget < tokensOf body ∧ (body.drop cut).head?.any Message.isTool = false ∧
            ∀ place < cut, tailTokenBudget < tokensOf (body.drop place) ∨
              ∃ result, body[place]? = some (Message.tool result)) := by
  rw [autoCompact, cutIndex]
  by_cases fits : tokensOf body ≤ tailTokenBudget
  · rw [if_neg (not_not.mpr (tailStart_zero.mpr fits))]
    split_ifs with long
    · exact .inr ⟨max 1 (body.length / 2), by omega, by omega, rfl, tokensOf_drop_le.trans fits,
        .inl ⟨fits, by omega⟩⟩
    · exact .inl ⟨rfl, fits, by omega⟩
  · have start := mt tailStart_zero.mp fits
    rw [if_pos start]
    obtain ⟨after, inside, tools, stops⟩ := tailStart_tools (Nat.lt_of_not_le fits)
    refine .inr ⟨tailStart body, Nat.pos_of_ne_zero start, inside, rfl,
      (tokensOf_drop_drop after).trans budgetStart_fits,
      .inr ⟨Nat.lt_of_not_le fits, stops, fun place before => ?_⟩⟩
    obtain early | late := Nat.lt_or_ge place (budgetStart body)
    · exact .inl (budgetStart_most early)
    · exact .inr (tools place late before)

section Results

variable {registry : ToolRegistry} {calledOk : List PyString} {toolCalls : List ToolCall}
  {call : ToolCall} {sorted : Sorted}

theorem notices_sortCall : (sortCall registry calledOk sorted call).notices.map (·.toolCallId) =
    sorted.notices.map (·.toolCallId) ++
      ([call].filter fun call => ! executable registry calledOk call).map (·.id) := by
  rw [sortCall]
  split
  next compact => simp [executable, compact, formatToolResult]
  next other =>
    split
    next done => simp [executable, done, formatToolResult]
    next open_ =>
      have fits : executable registry calledOk call = true := by
        rw [executable, decide_eq_true other, Bool.true_and]
        by_contra both
        simp only [Bool.not_eq_true', Bool.not_eq_false, Bool.and_eq_true,
          decide_eq_true_eq] at both
        exact open_ both
      simp [fits]

theorem notices_foldl :
    (toolCalls.foldl (sortCall registry calledOk) sorted).notices.map (·.toolCallId) =
      sorted.notices.map (·.toolCallId) ++
        (toolCalls.filter fun call => ! executable registry calledOk call).map (·.id) := by
  induction toolCalls generalizing sorted with
  | nil => exact (List.append_nil _).symm
  | cons call rest ih =>
    rw [List.foldl_cons, ih, notices_sortCall, List.append_assoc, ← List.map_append,
      ← List.filter_append]
    rfl

theorem sortCalls_perm :
    ((sortCalls registry calledOk toolCalls).notices.map (·.toolCallId) ++
      (sortCalls registry calledOk toolCalls).toExecute.map (·.id)).Perm
        (toolCalls.map (·.id)) := by
  rw [toExecute_eq, sortCalls, notices_foldl]
  change ((toolCalls.filter _).map _ ++ _).Perm _
  rw [← List.map_append]
  refine (List.perm_append_comm.trans ?_).map _
  exact List.filter_append_perm _ _

variable {tools after : State} {turn : Turn} {results : List ToolMessage}

theorem launches_all {toExecute : List ToolCall} {clear : Nat}
    (enough : toExecute.length = 1 ∨ (batchesOf registry toExecute).length ≤ clear) :
    (launches registry toExecute clear).flatMap Batch.calls = toExecute := by
  unfold launches
  split
  · rfl
  next several =>
    obtain one | enough := enough
    · obtain ⟨call, only⟩ := List.length_eq_one_iff.mp one
      exact absurd only (several call)
    · rw [List.take_of_length_le enough, batchesOf_calls]

theorem Step.answered (step : Step registry tools turn after)
    (whole : interrupted registry tools.calledOk turn = false)
    (appended : after.messages = tools.messages ++ results) :
    (results.map (·.toolCallId)).Perm (turn.toolCalls.map (·.id)) := by
  rw [interrupted, Bool.or_eq_false_iff, decide_eq_false_iff_not, not_and_or, not_not,
    not_lt] at whole
  cases step with
  | cancelled set idle => exact absurd set (by rw [whole.1]; decide)
  | @processed later clear ran =>
    have fields := (@finalize_all turn.runs.flatten
      { tools with messages := tools.messages ++
          (sortCalls registry tools.calledOk turn.toolCalls).notices }).1
    have told := (congrArg State.messages fields).symm.trans appended
    dsimp only at told
    rw [List.append_assoc] at told
    have executed : turn.runs.flatten.map (fun execution => execution.message.toolCallId) =
        (sortCalls registry tools.calledOk turn.toolCalls).toExecute.map (·.id) := by
      have calls := ran.calls
      rw [launches_all whole.2] at calls
      rw [← calls, List.map_map]
      rfl
    rw [← List.append_cancel_left told, List.map_append, List.map_map]
    change (_ ++ turn.runs.flatten.map (fun execution => execution.message.toolCallId)).Perm _
    rw [executed]
    exact sortCalls_perm

end Results

section Passed

variable {messages body rest tail : List Message} {message : Message} {prompt : PyString}
  {used ids : List PyString}

theorem cleared_entry : message.cleared.entry = message.entry := by
  unfold Message.cleared
  split
  · split
    · cases message <;> rfl
    · rfl
  · rfl

theorem collapsed_entry : message.collapsed.entry = message.entry := by
  unfold Message.collapsed
  split
  · dsimp only
    split
    · rfl
    · cases message <;> rfl
  · rfl

theorem clearFirst_entries {count : Nat} :
    entries (clearFirst count messages) = entries messages := by
  induction messages generalizing count with
  | nil => cases count <;> rfl
  | cons message rest ih =>
    cases count with
    | zero => rfl
    | succ count =>
      rw [clearFirst]
      split
      · rw [entries, List.map_cons, cleared_entry]
        exact congrArg (message.entry :: ·) ih
      · exact congrArg (message.entry :: ·) ih

structure Clean (prompt : PyString) (used : List PyString) (messages : List Message) : Prop where
  body : ∃ body, messages = .system prompt :: body ∧ WellFormed (entries body)
  named : ("" : PyString) ∉ calledIds messages
  distinct : (calledIds messages).Nodup
  past : ∀ id ∈ calledIds messages, id ∈ used

theorem Clean.rewrite (clean : Clean prompt used (.system prompt :: body))
    (same : entries rest = entries body) : Clean prompt used (.system prompt :: rest) := by
  obtain ⟨⟨_, whole, wellFormed⟩, named, distinct, past⟩ := clean
  rw [← (List.cons.inj whole).2, ← same] at wellFormed
  have called : calledIds (.system prompt :: rest) = calledIds (.system prompt :: body) := by
    rw [calledIds_cons, calledIds_cons, calledIds_eq, calledIds_eq, same]
  exact ⟨⟨rest, rfl, wellFormed⟩, called ▸ named, called ▸ distinct, called ▸ past⟩

theorem Clean.microcompact (clean : Clean prompt used messages) :
    Clean prompt used (microcompact messages) := by
  obtain ⟨⟨body, rfl, _⟩, _⟩ := id clean
  rw [Loop.microcompact]
  cases count : (Message.system prompt :: body).countP Message.isTool - keepRecent with
  | zero => exact clean
  | succ count => exact clean.rewrite clearFirst_entries

theorem Clean.contextCollapse (clean : Clean prompt used messages) :
    Clean prompt used (contextCollapse messages) := by
  obtain ⟨⟨body, rfl, _⟩, _⟩ := id clean
  rw [Loop.contextCollapse]
  split
  · exact clean
  next long =>
    have last : (Message.system prompt :: body).length - collapsePreserveRecent =
        (body.length - collapsePreserveRecent) + 1 := by
      rw [List.length_cons] at long ⊢
      omega
    rw [last, List.take_succ_cons, List.take_succ_cons, List.drop_succ_cons, List.drop_succ_cons]
    refine clean.rewrite ?_
    change entries ((body.take (body.length - collapsePreserveRecent)).map Message.collapsed ++
      body.drop (body.length - collapsePreserveRecent)) = _
    rw [entries, List.map_append, List.map_map]
    have each : Message.entry ∘ Message.collapsed = Message.entry := funext fun _ => collapsed_entry
    rw [each, ← List.map_append, List.take_append_drop]
    rfl

theorem entries_tools {tools : List Message} (same : entries tools = ids.map .answer)
    (member : message ∈ tools) : ∃ result, message = .tool result ∧ result.toolCallId ∈ ids := by
  have listed : message.entry ∈ entries tools := List.mem_map_of_mem member
  rw [same] at listed
  obtain ⟨id, known, told⟩ := List.mem_map.mp listed
  cases message with
  | tool result => exact ⟨result, rfl, Entry.answer.inj told ▸ known⟩
  | system content => cases told
  | user content => cases told
  | assistant content calls => cases told

theorem fixToolPairs_orphans {front tools kept : List Message} (plain : calledIds front = [])
    (none : resultIds front = []) (same : entries tools = ids.map .answer)
    (gone : ∀ id ∈ ids, id ∉ calledIds kept) (paired : WellFormed (entries kept))
    (named : ("" : PyString) ∉ calledIds kept) :
    fixToolPairs (front ++ (tools ++ kept)) = front ++ kept := by
  have noCalls : calledIds tools = [] := by rw [calledIds_eq, same, called_answers]
  have called : calledIds (front ++ (tools ++ kept)) = calledIds kept := by
    rw [calledIds_append, calledIds_append, plain, noCalls]
    rfl
  have perm : (resultIds kept).Perm (calledIds kept) := by
    rw [resultIds_eq, calledIds_eq]
    exact paired.perm
  have known {result : ToolMessage} (listed : .tool result ∈ kept) :
      result.toolCallId ∈ calledIds kept :=
    perm.mem_iff.mp (mem_resultIds.mpr ⟨result, listed, rfl⟩)
  have first : front.filter (Loop.paired (calledIds kept)) = front := by
    refine List.filter_eq_self.mpr fun message listed => ?_
    cases message with
    | tool result =>
      have absent : result.toolCallId ∈ resultIds front := mem_resultIds.mpr ⟨result, listed, rfl⟩
      rw [none] at absent
      cases absent
    | system content => rfl
    | user content => rfl
    | assistant content calls => rfl
  have second : tools.filter (Loop.paired (calledIds kept)) = [] := by
    refine List.filter_eq_nil_iff.mpr fun message listed => ?_
    obtain ⟨result, rfl, old⟩ := entries_tools same listed
    exact fun fits => gone _ old (of_decide_eq_true fits).2
  have third : kept.filter (Loop.paired (calledIds kept)) = kept := by
    refine List.filter_eq_self.mpr fun message listed => ?_
    cases message with
    | tool result =>
      exact decide_eq_true ⟨fun empty => named (empty ▸ known listed), known listed⟩
    | system content => rfl
    | user content => rfl
    | assistant content calls => rfl
  rw [fixToolPairs, called, List.filter_append, List.filter_append, first, second, third]
  refine insertStubs_same fun id member => .inr ?_
  rw [List.nil_append, calledIds_append, plain, List.nil_append] at member
  rw [List.nil_append, resultIds_append]
  exact List.mem_append_right _ (perm.mem_iff.mpr member)

theorem Clean.autoCompact {handoff : PyString} (clean : Clean prompt used messages) :
    Clean prompt used (autoCompact handoff messages) := by
  obtain ⟨⟨body, rfl, wellFormed⟩, named, distinct, past⟩ := id clean
  rw [Loop.autoCompact]
  split
  · exact clean
  next cut _ =>
    have halves : calledIds (.system prompt :: body) =
        calledIds (body.take cut) ++ calledIds (body.drop cut) := by
      rw [← calledIds_append, List.take_append_drop]
      rfl
    rw [halves] at named distinct past
    have split : WellFormed (entries (body.take cut) ++ entries (body.drop cut)) := by
      rw [entries, entries, ← List.map_append, List.take_append_drop]
      exact wellFormed
    obtain ⟨orphans, rest, same, paired, old⟩ := split.suffix
    obtain ⟨tools, kept, whole, orphaned, rfl⟩ := List.map_eq_append_iff.mp same
    rw [whole, calledIds_append] at named distinct past
    have gone : ∀ id ∈ orphans, id ∉ calledIds kept := fun id orphan present => by
      have before := old orphan
      rw [← calledIds_eq] at before
      exact (List.nodup_append.mp distinct).2.2 id before id (List.mem_append_right _ present) rfl
    have unnamed : ("" : PyString) ∉ calledIds kept := fun present =>
      named (List.mem_append_right _ (List.mem_append_right _ present))
    rw [whole]
    change Clean prompt used (fixToolPairs ([.system prompt, .user handoff] ++ (tools ++ kept)))
    rw [fixToolPairs_orphans rfl rfl orphaned gone paired unnamed]
    refine ⟨⟨.user handoff :: kept, rfl, paired.plain⟩, unnamed, ?_, fun id present => ?_⟩
    · exact (List.nodup_append.mp (List.nodup_append.mp distinct).2.1).2.1
    · exact past id (List.mem_append_right _ (List.mem_append_right _ present))

theorem Clean.append (clean : Clean prompt used messages) (wellFormed : WellFormed (entries tail))
    (named : ("" : PyString) ∉ calledIds tail) (distinct : (used ++ calledIds tail).Nodup) :
    Clean prompt (used ++ calledIds tail) (messages ++ tail) := by
  obtain ⟨⟨body, rfl, before⟩, old, once, past⟩ := clean
  refine ⟨⟨body ++ tail, rfl, ?_⟩, ?_, ?_, ?_⟩
  · rw [entries, List.map_append]
    exact before.append wellFormed
  · rw [calledIds_append]
    exact fun member => (List.mem_append.mp member).elim old named
  · rw [calledIds_append]
    obtain ⟨-, new, apart⟩ := List.nodup_append.mp distinct
    exact List.nodup_append.mpr ⟨once, new, fun id member => apart id (past id member)⟩
  · rw [calledIds_append]
    exact fun id member => List.mem_append.mpr ((List.mem_append.mp member).imp_left (past id))

theorem Clean.add (clean : Clean prompt used messages) (plain : message.entry = .calls []) :
    Clean prompt used (messages ++ [message]) := by
  have added : entries [message] = [.calls []] := congrArg (· :: []) plain
  have none : calledIds [message] = [] := by rw [calledIds_eq, added]; rfl
  obtain ⟨⟨body, rfl, before⟩, named, distinct, past⟩ := clean
  have same : calledIds (.system prompt :: body ++ [message]) =
      calledIds (.system prompt :: body) := by
    rw [calledIds_append, none, List.append_nil]
  refine ⟨⟨body ++ [message], rfl, ?_⟩, same ▸ named, same ▸ distinct, same ▸ past⟩
  change WellFormed (List.map _ _)
  rw [List.map_append]
  exact before.append (by rw [List.map_singleton, plain]; exact WellFormed.plain .nil)

theorem Clean.addOption (clean : Clean prompt used messages) (content : Option PyString) :
    Clean prompt used (messages ++ (content.map Message.user).toList) := by
  cases content with
  | none => exact (List.append_nil messages).symm ▸ clean
  | some content => exact clean.add rfl

variable {settings : Settings} {iteration : Iteration}

theorem Clean.choose {p : Prop} [Decidable p] (left : Clean prompt used messages)
    (right : Clean prompt used rest) : Clean prompt used (if p then messages else rest) := by
  split
  · exact left
  · exact right

theorem Clean.compact {handoff : PyString} (clean : Clean prompt used messages) :
    Clean prompt used (compact settings handoff messages) := by
  have folded {pruned : List Message} (clean : Clean prompt used pruned) :
      Clean prompt used (if settings.collapseThreshold < settings.estimateTokens pruned then
        Loop.contextCollapse pruned else pruned) := clean.contextCollapse.choose clean
  have summed {folded : List Message} (clean : Clean prompt used folded) :
      Clean prompt used (if settings.tokenThreshold < settings.estimateTokens folded then
        Loop.autoCompact handoff folded else folded) := clean.autoCompact.choose clean
  exact summed (folded (clean.microcompact.choose clean))

theorem Clean.given (clean : Clean prompt used messages) :
    Clean prompt used (given settings messages iteration) :=
  (clean.addOption iteration.notifications).compact.addOption iteration.wrapUp

def Outcome.callIds : Outcome → List PyString
  | .called _ turn _ => turn.toolCalls.map (·.id)
  | .ended => []
  | .filtered _ => []
  | .continued _ _ => []

theorem entries_results {results : List ToolMessage} :
    entries (results.map Message.tool) = (results.map (·.toolCallId)).map .answer := by
  rw [entries, List.map_map, List.map_map]
  rfl

theorem Clean.follows {registry : ToolRegistry} {tools : State} {outcome : Outcome}
    {after : Session} (clean : Clean prompt used messages)
    (follows : Follows registry messages tools outcome after)
    (goes : after.closed = false) (named : ("" : PyString) ∉ outcome.callIds)
    (distinct : (used ++ outcome.callIds).Nodup) :
    Clean prompt (used ++ outcome.callIds) after.messages := by
  cases follows with
  | ended => cases goes
  | filtered skipMessage =>
    rw [Outcome.callIds, List.append_nil]
    exact clean.add rfl
  | continued answer question =>
    rw [Outcome.callIds, List.append_nil]
    have answered : Clean prompt used (messages ++ [.assistant (some answer) []]) := clean.add rfl
    have asked : Clean prompt used (messages ++ _ ++ [.user question]) := answered.add rfl
    rwa [List.append_assoc] at asked
  | @called turn after results content handoff some step appended =>
    have answers := step.answered goes appended
    have added : entries (.assistant content turn.toolCalls :: results.map Message.tool) =
        .calls (turn.toolCalls.map (·.id)) :: (results.map (·.toolCallId)).map .answer := by
      rw [entries, List.map_cons]
      exact congrArg (_ :: ·) entries_results
    have ids : calledIds (.assistant content turn.toolCalls :: results.map Message.tool) =
        turn.toolCalls.map (·.id) := by
      rw [calledIds_eq, added, called_cons, called_answers]
      exact List.append_nil _
    have paired : WellFormed
        (entries (.assistant content turn.toolCalls :: results.map Message.tool)) := by
      rw [added]
      have block := WellFormed.block answers .nil
      rwa [List.append_nil] at block
    have longer := clean.append paired (ids ▸ named) (ids ▸ distinct)
    rw [ids] at longer
    dsimp only
    split
    · exact longer.autoCompact
    · exact longer

end Passed

/-- In a run whose calls have ids of their own the model is never given a result without its call or
a call without its result: behind the system prompt the results of each message's calls follow it,
whatever has been compacted. -/
theorem given_paired {settings : Settings} {registry : ToolRegistry} {initial body : List Message}
    {iterations : List Iteration} {passed : List (List Message)} {session : Session}
    {prompt : PyString} (run : Conversation settings registry initial iterations passed session)
    (start : initial = .system prompt :: body) (paired : WellFormed (entries body))
    (named : ("" : PyString) ∉
      calledIds initial ++ iterations.flatMap fun iteration => iteration.outcome.callIds)
    (distinct : (calledIds initial ++
      iterations.flatMap fun iteration => iteration.outcome.callIds).Nodup) :
    ∀ messages ∈ passed, ∃ rest, messages = .system prompt :: rest ∧ WellFormed (entries rest) := by
  suffices held : (session.closed = false → Clean prompt (calledIds initial ++
      iterations.flatMap fun iteration => iteration.outcome.callIds) session.messages) ∧
      ∀ messages ∈ passed, ∃ rest, messages = .system prompt :: rest ∧
        WellFormed (entries rest) from held.2
  induction run with
  | nil =>
    rw [List.flatMap_nil, List.append_nil] at named distinct ⊢
    exact ⟨fun _ => ⟨⟨body, start, paired⟩, named, distinct, fun id member => member⟩,
      List.forall_mem_nil _⟩
  | @snoc past passed before after iteration run open_ follows ih =>
    rw [List.flatMap_append, List.flatMap_singleton, ← List.append_assoc] at named distinct ⊢
    obtain ⟨clean, kept⟩ := ih (fun old => named (List.mem_append_left _ old))
      (List.nodup_append.mp distinct).1
    have given : Clean prompt _ (given settings before.messages iteration) := (clean open_).given
    refine ⟨fun goes => given.follows follows goes ?_ distinct,
      List.forall_mem_append.mpr ⟨kept, List.forall_mem_singleton.mpr given.body⟩⟩
    exact fun new => named (List.mem_append_right _ new)

section Reading

def readTurn : Turn where
  toolCalls := [readFile "a"]
  cancelled := false
  clear := 0
  runs := [[⟨readFile "a", "text", 0, 1⟩]]

def smallSettings : Settings := ⟨List.length, 0, 0, 2⟩

def asked : List Message := [.system "You are a trading agent.", .user "Read the file."]

def readIteration : Iteration := ⟨none, "Summary", none, .called none readTurn "Summary"⟩

def lastIteration : Iteration := ⟨none, "Summary", none, .ended⟩

theorem given_paired_reader : ∃ passed session,
    Conversation smallSettings sampleRegistry asked [readIteration, lastIteration] passed session ∧
      passed.map List.length = [2, 4] ∧
      ∀ messages ∈ passed, ∃ rest, messages = .system "You are a trading agent." :: rest ∧
        WellFormed (entries rest) := by
  have ran : RanAll 0 [⟨false, [readFile "a"]⟩] readTurn.runs 1 :=
    .cons ⟨rfl, by simp, by simp, by simp, by decide⟩ (.nil 1)
  have step : Step sampleRegistry ⟨[], [], [], 0⟩ readTurn _ := .processed rfl ran
  have called : Follows sampleRegistry (given smallSettings asked readIteration) ⟨[], [], [], 0⟩
      readIteration.outcome _ :=
    .called none "Summary" (List.cons_ne_nil _ _) step (List.nil_append [_]).symm
  have first : Conversation smallSettings sampleRegistry asked [readIteration] _ _ :=
    .snoc .nil rfl called
  have second : Conversation smallSettings sampleRegistry asked
      [readIteration, lastIteration] _ _ := .snoc first rfl .ended
  refine ⟨_, _, second, ?_, given_paired second rfl ?_ ?_ ?_⟩
  · decide
  · exact WellFormed.plain .nil
  · decide
  · decide

end Reading

end SynapseYield.Agent.Loop
