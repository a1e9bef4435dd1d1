import Mathlib.Data.List.Forall2
import SynapseYield.Properties.DurableJobs
import SynapseYield.Providers.OpenaiCodex
import SynapseYield.Shared.JsonMembers
import SynapseYield.Shared.Padding

set_option autoImplicit false

namespace SynapseYield.Providers.OpenaiCodex

open Shared JsonText

-- What the messages have to say to the provider, in order
inductive Turn where
  | user (content : UserContent)
  | text (text : PyString)
  | call (call : ToolCall)
  | result (toolCallId : Option PyString) (output : PyString)

namespace Message

def parts : Message → List Turn
  | system _ => []
  | user content => [.user content]
  | assistant content calls =>
    (if orElse content "" = "" then [] else [.text (orElse content "")]) ++ calls.map .call
  | tool toolCallId content => [.result toolCallId content]

def calls : Message → List ToolCall
  | assistant _ calls => calls
  | _ => []

def hasText : Message → Bool
  | assistant content _ => orElse content "" ≠ ""
  | _ => false

def instruction : Message → Option PyString
  | system content => some content
  | _ => none

end Message

def ToolCall.itemPart (call : ToolCall) : Option PyString := (splitToolCallId call.id).2

namespace InputItem

def itemId : InputItem → Option PyString
  | message id _ => some id
  | functionCall id _ _ _ => some id
  | _ => none

def answers : InputItem → Option PyString
  | functionCall _ callId _ _ => some callId
  | functionCallOutput callId _ => some callId
  | _ => none

end InputItem

-- What the provider is shown of a part of a user's message: texts, and the images that have a url.
def ContentPart.shown : ContentPart → List InputContent
  | .text words => [.inputText words]
  | .imageUrl (some url) => if url = "" then [] else [.inputImage url]
  | _ => []

-- A message with nothing to show is an empty text.
def UserContent.shown : UserContent → List InputContent
  | .text words => [.inputText words]
  | .parts listed =>
    if listed.flatMap ContentPart.shown = [] then [.inputText ""]
    else listed.flatMap ContentPart.shown
  | .other => [.inputText ""]

def Shows : Turn → InputItem → Prop
  | .user content, .user shown => shown = content.shown
  | .text text, .message _ shown => shown = text
  | .call call, .functionCall _ _ name arguments => name = call.name ∧ arguments = call.arguments
  | .result _ output, .functionCallOutput _ shown => shown = output
  | _, _ => False

def ContainsAll : List PyString → Text → Prop
  | [], _ => True
  | part :: rest, text => ∃ before after, text = before ++ part.points ++ after ∧
    ContainsAll rest after

def instructions (messages : List Message) : List PyString :=
  messages.filterMap Message.instruction

def explicitIds (messages : List Message) : List PyString :=
  messages.flatMap fun msg => msg.calls.filterMap ToolCall.itemPart

/-- Nothing is lost on the way to the provider: the instructions, an item for every part, ids that
tell the items apart, and every result with its call. -/
structure Preserves (messages : List Message) : Prop where
  instructed : ContainsAll (instructions messages) (convertMessages messages).1.points
  shown : List.Forall₂ Shows (messages.flatMap Message.parts) (convertMessages messages).2
  apart : ((convertMessages messages).2.filterMap InputItem.itemId).Nodup
  answered : ∀ (i j : Nat) call id output, (messages.flatMap Message.parts)[i]? =
    some (Turn.call call) →
    (messages.flatMap Message.parts)[j]? = some (Turn.result id output) → id = call.id →
    (convertMessages messages).2[i]?.bind InputItem.answers =
      (convertMessages messages).2[j]?.bind InputItem.answers

/-- What the messages must not have: two instructions, calls that share an item id or have one that
is made up for another item, and an answered call without a call id. -/
structure Plain (messages : List Message) : Prop where
  instructed : ∀ content ∈ (instructions messages).dropLast, content = ""
  filled : ∀ msg ∈ messages, ∀ call ∈ msg.calls, call.arguments ≠ ""
  apart : (explicitIds messages).Nodup
  anonymous : ∀ msg ∈ messages, (msg.calls.filter (·.itemPart = none)).length ≤ 1
  unmade : ∀ msg idx, (msg, idx) ∈ messages.zipIdx →
    (msg.hasText = true → numbered "msg_" idx ∉ explicitIds messages) ∧
    (∀ call ∈ msg.calls, call.itemPart = none → numbered "fc_" idx ∉ explicitIds messages)
  answered : ∀ call output, Turn.call call ∈ messages.flatMap Message.parts →
    Turn.result call.id output ∈ messages.flatMap Message.parts →
    ∀ id, call.id = some id → id.points.head? ≠ some 0x7C

def itemOf (idx : Nat) : Turn → InputItem
  | .user content => convertUserMessage content
  | .text text => .message (numbered "msg_" idx) text
  | .call call => callItem idx call
  | .result id output => .functionCallOutput (splitToolCallId id).1 output

section Conversion

variable {messages : List Message} {msg : Message} {idx : Nat}

theorem messageItems_eq (idx : Nat) (msg : Message) :
    messageItems idx msg = msg.parts.map (itemOf idx) := by
  cases msg with
  | system content => rfl
  | user content => rfl
  | assistant content calls =>
    rw [messageItems, Message.parts, List.map_append, List.map_map]
    split <;> rfl
  | tool toolCallId content => rfl

theorem convertStep_eq (state : PyString × List InputItem) (entry : Message × Nat) :
    convertStep state entry =
      (entry.1.instruction.getD state.1, state.2 ++ messageItems entry.2 entry.1) := by
  obtain ⟨msg, idx⟩ := entry
  cases msg with
  | system content => simp [convertStep, messageItems, Message.instruction]
  | user content => rfl
  | assistant content calls => rfl
  | tool toolCallId content => rfl

theorem convertFold (entries : List (Message × Nat)) (state : PyString × List InputItem) :
    entries.foldl convertStep state =
      (((entries.filterMap fun entry => entry.1.instruction).getLast?).getD state.1,
        state.2 ++ entries.flatMap fun entry => messageItems entry.2 entry.1) := by
  induction entries generalizing state with
  | nil => simp
  | cons entry entries ih =>
    rw [List.foldl_cons, ih, convertStep_eq]
    cases instruction : entry.1.instruction with
    | none => simp [instruction]
    | some content =>
      simp only [List.filterMap_cons, instruction, List.getLast?_cons, List.flatMap_cons,
        List.append_assoc, Option.getD_some]

theorem convertMessages_instructions (messages : List Message) :
    (convertMessages messages).1 = ((instructions messages).getLast?).getD "" := by
  have same : (messages.zipIdx.filterMap fun entry => entry.1.instruction) =
    instructions messages := by
    rw [instructions]
    conv_rhs => rw [← List.zipIdx_map_fst 0 messages]
    rw [List.filterMap_map]
    rfl
  rw [convertMessages, convertFold, same]

theorem convertMessages_items (messages : List Message) : (convertMessages messages).2 =
    messages.zipIdx.flatMap fun entry => entry.1.parts.map (itemOf entry.2) := by
  rw [convertMessages, convertFold]
  simp only [List.nil_append, messageItems_eq]

theorem parts_eq (messages : List Message) : messages.flatMap Message.parts =
    messages.zipIdx.flatMap fun entry => entry.1.parts := by
  conv_lhs => rw [← List.zipIdx_map_fst 0 messages]
  rw [List.flatMap_map]

theorem converted (messages : List Message) :
    List.Forall₂ (fun part item => ∃ idx, item = itemOf idx part) (messages.flatMap Message.parts)
      (convertMessages messages).2 := by
  rw [parts_eq, convertMessages_items]
  induction messages.zipIdx with
  | nil => exact .nil
  | cons entry entries ih =>
    rw [List.flatMap_cons, List.flatMap_cons]
    refine List.rel_append ?_ ih
    rw [List.forall₂_map_right_iff]
    exact List.forall₂_same.mpr fun part _ => ⟨entry.2, rfl⟩

theorem getElem_forall₂ {α β : Type} {related : α → β → Prop} {xs : List α} {ys : List β}
    (all : List.Forall₂ related xs ys) {i : Nat} {x : α} (here : xs[i]? = some x) :
    ∃ y, ys[i]? = some y ∧ related x y := by
  induction all generalizing i with
  | nil => cases here
  | cons first rest ih =>
    cases i with
    | zero =>
      obtain rfl := Option.some.inj here
      exact ⟨_, rfl, first⟩
    | succ i => exact ih here

theorem convertUserMessage_eq (content : UserContent) :
    convertUserMessage content = .user content.shown := by
  cases content with
  | text text => rfl
  | other => rfl
  | parts parts =>
    have same : parts.filterMap convertPart = parts.flatMap ContentPart.shown := by
      induction parts with
      | nil => rfl
      | cons part parts ih =>
        have own : (convertPart part).toList = part.shown := by
          cases part with
          | text text => rfl
          | other => rfl
          | imageUrl url =>
            cases url with
            | none => rfl
            | some url =>
              by_cases empty : url = "" <;> simp [convertPart, ContentPart.shown, orElse, empty]
        rw [List.flatMap_cons, ← own, ← ih, List.filterMap_cons]
        cases convertPart part <;> rfl
    rw [convertUserMessage, UserContent.shown, same]
    cases parts.flatMap ContentPart.shown <;> rfl

theorem itemOf_shows (idx : Nat) (part : Turn) (filled : ∀ call, part = .call call →
    call.arguments ≠ "") :
    Shows part (itemOf idx part) := by
  cases part with
  | user content =>
    rw [itemOf, convertUserMessage_eq]
    rfl
  | text text => rfl
  | call call => exact ⟨rfl, if_neg (filled call rfl)⟩
  | result id output => rfl

theorem mem_calls_iff {call : ToolCall} :
    Turn.call call ∈ messages.flatMap Message.parts ↔ ∃ msg ∈ messages, call ∈ msg.calls := by
  rw [List.mem_flatMap]
  refine exists_congr fun msg => and_congr_right fun _ => ?_
  cases msg with
  | system content => simp [Message.parts, Message.calls]
  | user content => simp [Message.parts, Message.calls]
  | assistant content calls =>
    rw [Message.parts, Message.calls]
    split <;> simp
  | tool toolCallId content => simp [Message.parts, Message.calls]

theorem shown_iff :
    List.Forall₂ Shows (messages.flatMap Message.parts) (convertMessages messages).2 ↔
    ∀ msg ∈ messages, ∀ call ∈ msg.calls, call.arguments ≠ "" := by
  constructor
  · intro shown msg member call within empty
    have among := mem_calls_iff.mpr ⟨msg, member, within⟩
    obtain ⟨i, here⟩ := List.mem_iff_getElem?.mp among
    obtain ⟨item, there, idx, rfl⟩ := getElem_forall₂ (converted messages) here
    obtain ⟨same, also, shows⟩ := getElem_forall₂ shown here
    rw [there] at also
    obtain rfl := Option.some.inj also
    have made : orElse (some call.arguments) "{}" = call.arguments := shows.2
    rw [empty] at made
    exact absurd made (by decide)
  · intro filled
    have members : ∀ part ∈ messages.flatMap Message.parts, ∀ call, part = Turn.call call →
        call.arguments ≠ "" := by
      rintro part member call rfl
      obtain ⟨msg, among, within⟩ := mem_calls_iff.mp member
      exact filled msg among call within
    have all := converted messages
    revert members
    generalize messages.flatMap Message.parts = parts at all
    generalize (convertMessages messages).2 = items at all
    intro members
    induction all with
    | nil => exact .nil
    | cons first rest ih =>
      obtain ⟨idx, rfl⟩ := first
      exact .cons (itemOf_shows idx _ (members _ (List.mem_cons_self ..)))
        (ih fun part member => members part (List.mem_cons_of_mem _ member))

theorem containsAll_length {parts : List PyString} {text : Text} (contained :
    ContainsAll parts text) :
    (parts.map fun part => part.points.length).sum ≤ text.length := by
  induction parts generalizing text with
  | nil => exact Nat.zero_le _
  | cons part parts ih =>
    obtain ⟨before, after, rfl, rest⟩ := contained
    have bound := ih rest
    simp only [List.map_cons, List.sum_cons, List.length_append]
    omega

theorem containsAll_empty {parts : List PyString} (empty : ∀ part ∈ parts, part = "")
    (last : PyString) : ContainsAll (parts ++ [last]) last.points := by
  induction parts with
  | nil => exact ⟨[], [], (List.append_nil _).symm, trivial⟩
  | cons part parts ih =>
    refine ⟨[], last.points, ?_, ih fun part member => empty part (List.mem_cons_of_mem _ member)⟩
    rw [empty part (List.mem_cons_self ..)]
    rfl

theorem instructed_iff : ContainsAll (instructions messages) (convertMessages messages).1.points ↔
    ∀ content ∈ (instructions messages).dropLast, content = "" := by
  rw [convertMessages_instructions]
  rcases List.eq_nil_or_concat (instructions messages) with none | ⟨earlier, last, split⟩
  · rw [none]
    exact iff_of_true trivial fun content member => by cases member
  · rw [split, List.concat_eq_append, List.getLast?_concat, List.dropLast_concat, Option.getD_some]
    refine ⟨fun contained content member => ?_, fun empty => containsAll_empty empty last⟩
    have bound := containsAll_length contained
    rw [List.map_append, List.sum_append, List.map_singleton, List.sum_singleton] at bound
    have zero : (earlier.map fun part => part.points.length).sum = 0 := by omega
    have none : content.points = [] := List.length_eq_zero_iff.mp
      (List.sum_eq_zero_iff_forall_eq_nat.mp zero _ (List.mem_map_of_mem member))
    exact congrArg PyString.mk none

theorem orElse_filled {text : PyString} (filled : text ≠ "") (default : PyString) :
    orElse (some text) default = text := if_neg filled

theorem splitToolCallId_call {id : PyString} (filled : id ≠ "") :
    (splitToolCallId (some id)).1 = ⟨(Ascii.cut 0x7C id.points).1⟩ := by
  rw [splitToolCallId, if_neg filled]
  split
  next callId itemId cut => rw [cut]
  next callId cut =>
    rw [cut]
    unfold Ascii.cut at cut
    split at cut
    · exact congrArg PyString.mk (Prod.mk.inj cut).1
    · cases (Prod.mk.inj cut).2

theorem cut_nil_iff {text : Text} (filled : text ≠ []) :
    (Ascii.cut 0x7C text).1 = [] ↔ text.head? = some 0x7C := by
  cases text with
  | nil => exact absurd rfl filled
  | cons c text =>
    by_cases bar : c = 0x7C
    · subst bar
      simp [Ascii.cut]
    · unfold Ascii.cut
      split <;> simp [bar]

theorem answers_iff (idx : Nat) (call : ToolCall) (output : PyString) :
    (callItem idx call).answers =
        (InputItem.functionCallOutput (splitToolCallId call.id).1 output).answers ↔
      ∀ id, call.id = some id → id.points.head? ≠ some 0x7C := by
  have made : (numbered "call_" idx) ≠ "" := fun empty => by
    have none := congrArg PyString.points empty
    rw [numbered] at none
    exact absurd (List.append_eq_nil_iff.mp none).1 (by decide)
  have answers : (callItem idx call).answers =
      some (orElse (some (splitToolCallId call.id).1) (numbered "call_" idx)) := rfl
  rw [answers, InputItem.answers, Option.some_inj]
  cases given : call.id with
  | none => exact iff_of_true (orElse_filled (by decide) _) fun id same => by cases same
  | some id =>
    by_cases empty : id = ""
    · subst empty
      refine iff_of_true (orElse_filled (by decide) _) fun id same => ?_
      rw [← Option.some.inj same]
      decide
    · have filled : id.points ≠ [] := fun none => empty (congrArg PyString.mk none)
      simp only [Option.some.injEq, forall_eq']
      rw [ne_eq, ← cut_nil_iff filled]
      have same := splitToolCallId_call empty
      constructor
      · intro equal none
        rw [same, none] at equal
        exact made equal
      · intro some
        refine if_neg fun none => some ?_
        rw [same] at none
        exact congrArg PyString.points none

theorem answered_iff :
    (∀ (i j : Nat) call id output, (messages.flatMap Message.parts)[i]? = some (Turn.call call) →
      (messages.flatMap Message.parts)[j]? = some (Turn.result id output) → id = call.id →
      (convertMessages messages).2[i]?.bind InputItem.answers =
        (convertMessages messages).2[j]?.bind InputItem.answers) ↔
    ∀ call output, Turn.call call ∈ messages.flatMap Message.parts →
      Turn.result call.id output ∈ messages.flatMap Message.parts →
      ∀ id, call.id = some id → id.points.head? ≠ some 0x7C := by
  constructor
  · intro answered call output called resulted
    obtain ⟨i, here⟩ := List.mem_iff_getElem?.mp called
    obtain ⟨j, there⟩ := List.mem_iff_getElem?.mp resulted
    have same := answered i j call _ output here there rfl
    obtain ⟨item, first, idx, rfl⟩ := getElem_forall₂ (converted messages) here
    obtain ⟨other, second, idx', rfl⟩ := getElem_forall₂ (converted messages) there
    rw [first, second] at same
    exact (answers_iff idx call output).mp same
  · rintro plain i j call id output here there rfl
    obtain ⟨item, first, idx, rfl⟩ := getElem_forall₂ (converted messages) here
    obtain ⟨other, second, idx', rfl⟩ := getElem_forall₂ (converted messages) there
    rw [first, second]
    exact (answers_iff idx call output).mpr (plain call output (List.mem_of_getElem? here)
      (List.mem_of_getElem? there))

theorem decimal_injective {i j : Nat} (same : decimal i = decimal j) : i = j := by
  rw [← Runtime.JobStore.natural_decimal i, same, Runtime.JobStore.natural_decimal]

theorem numbered_injective {before : PyString} {i j : Nat}
    (same : numbered before i = numbered before j) : i = j :=
  decimal_injective (List.append_cancel_left (congrArg PyString.points same))

theorem msg_ne_fc (i j : Nat) : numbered "msg_" i ≠ numbered "fc_" j := by
  intro same
  have first := congrArg (fun text => text.points.head?) same
  exact absurd first (by
    show some (0x6D : CodePoint) ≠ some 0x66
    decide)

def madeIds (entry : Message × Nat) : List PyString :=
  (if entry.1.hasText then [numbered "msg_" entry.2] else []) ++
    (entry.1.calls.filter (·.itemPart = none)).map fun _ => numbered "fc_" entry.2

theorem ids_calls (idx : Nat) (calls : List ToolCall) :
    (calls.map fun call => call.itemPart.getD (numbered "fc_" idx)).Perm
      (((calls.filter (·.itemPart = none)).map fun _ => numbered "fc_" idx) ++
        calls.filterMap ToolCall.itemPart) := by
  induction calls with
  | nil => exact .refl _
  | cons call calls ih =>
    cases part : call.itemPart with
    | none => simpa [part] using ih
    | some itemId =>
      simp only [List.map_cons, part, Option.getD_some, reduceCtorEq, decide_false,
        Bool.false_eq_true,
        not_false_eq_true, List.filter_cons_of_neg, List.filterMap_cons]
      exact (ih.cons _).trans List.perm_middle.symm

theorem ids_message (entry : Message × Nat) :
    ((entry.1.parts.map (itemOf entry.2)).filterMap InputItem.itemId).Perm
      (madeIds entry ++ entry.1.calls.filterMap ToolCall.itemPart) := by
  obtain ⟨msg, idx⟩ := entry
  cases msg with
  | system content => exact .refl _
  | user content =>
    have user : (convertUserMessage content).itemId = none := by
      unfold convertUserMessage
      split
      · rfl
      · split <;> rfl
      · rfl
    simp [Message.parts, itemOf, user, madeIds, Message.hasText, Message.calls]
  | assistant content calls =>
    have ids : ((calls.map Turn.call).map (itemOf idx)).filterMap InputItem.itemId =
        calls.map fun call => call.itemPart.getD (numbered "fc_" idx) := by
      rw [List.map_map, List.filterMap_map]
      exact List.filterMap_eq_map (f := fun call :
        ToolCall => call.itemPart.getD (numbered "fc_" idx)) ▸ rfl
    rw [Message.parts, List.map_append, List.filterMap_append, ids]
    by_cases empty : orElse content "" = ""
    · simpa [madeIds, Message.hasText, Message.calls, empty] using ids_calls idx calls
    · simpa [madeIds, Message.hasText, Message.calls, empty, itemOf, InputItem.itemId] using
        ids_calls idx calls
  | tool toolCallId content => exact .refl _

theorem ids_converted (messages : List Message) :
    ((convertMessages messages).2.filterMap InputItem.itemId).Perm
      (messages.zipIdx.flatMap madeIds ++ explicitIds messages) := by
  have explicit : explicitIds messages =
      messages.zipIdx.flatMap fun entry => entry.1.calls.filterMap ToolCall.itemPart := by
    rw [explicitIds]
    conv_lhs => rw [← List.zipIdx_map_fst 0 messages]
    rw [List.flatMap_map]
  rw [convertMessages_items, List.filterMap_flatMap, explicit]
  exact (List.Perm.flatMap_left _ fun entry _ => ids_message entry).trans
    (List.flatMap_append_perm _ _ _).symm

theorem mem_madeIds {entry : Message × Nat} {id : PyString} : id ∈ madeIds entry ↔
    entry.1.hasText = true ∧ id = numbered "msg_" entry.2 ∨
      (∃ call ∈ entry.1.calls, call.itemPart = none) ∧ id = numbered "fc_" entry.2 := by
  rw [madeIds, List.mem_append]
  refine or_congr ?_ ?_
  · by_cases text : entry.1.hasText = true <;> simp [text]
  · simp only [List.mem_map, List.mem_filter, decide_eq_true_eq]
    constructor
    · rintro ⟨call, member, same⟩
      exact ⟨⟨call, member⟩, same.symm⟩
    · rintro ⟨⟨call, member⟩, same⟩
      exact ⟨call, member, same.symm⟩

theorem madeIds_index {entry other : Message × Nat} {id : PyString} (mine : id ∈ madeIds entry)
    (also : id ∈ madeIds other) : entry.2 = other.2 := by
  rw [mem_madeIds] at mine also
  rcases mine with ⟨-, rfl⟩ | ⟨-, rfl⟩
  · rcases also with ⟨-, same⟩ | ⟨-, same⟩
    · exact numbered_injective same
    · exact absurd same (msg_ne_fc _ _)
  · rcases also with ⟨-, same⟩ | ⟨-, same⟩
    · exact absurd same.symm (msg_ne_fc _ _)
    · exact numbered_injective same

theorem nodup_madeIds (entry : Message × Nat) :
    (madeIds entry).Nodup ↔ (entry.1.calls.filter (·.itemPart = none)).length ≤ 1 := by
  have other : numbered "msg_" entry.2 ≠ numbered "fc_" entry.2 := msg_ne_fc _ _
  rw [madeIds, List.map_const']
  by_cases text : entry.1.hasText = true
  · rw [if_pos text, List.singleton_append, List.nodup_cons, List.nodup_replicate]
    refine and_iff_right fun member => other (List.eq_of_mem_replicate member)
  · rw [if_neg text, List.nil_append, List.nodup_replicate]

theorem nodup_made (messages : List Message) : (messages.zipIdx.flatMap madeIds).Nodup ↔
    ∀ msg ∈ messages, (msg.calls.filter (·.itemPart = none)).length ≤ 1 := by
  have apart : messages.zipIdx.Pairwise (Function.onFun List.Disjoint madeIds) := by
    have indices : (messages.zipIdx.map Prod.snd).Nodup := by
      rw [List.zipIdx_map_snd]
      exact List.nodup_range'
    refine (List.pairwise_map.mp indices).imp fun different id mine also => ?_
    exact different (madeIds_index mine also)
  rw [List.nodup_flatMap, and_iff_left apart]
  constructor
  · intro each msg member
    obtain ⟨idx, here⟩ := List.mem_iff_getElem?.mp member
    exact (nodup_madeIds (msg, idx)).mp (each (msg, idx) (List.mem_zipIdx_iff_getElem?.mpr here))
  · intro each entry member
    exact (nodup_madeIds entry).mpr (each _ (List.mem_of_getElem? (List.mem_zipIdx_iff_getElem?.mp member)))

theorem apart_iff : ((convertMessages messages).2.filterMap InputItem.itemId).Nodup ↔
    (explicitIds messages).Nodup ∧
    (∀ msg ∈ messages, (msg.calls.filter (·.itemPart = none)).length ≤ 1) ∧
    ∀ msg idx, (msg, idx) ∈ messages.zipIdx →
      (msg.hasText = true → numbered "msg_" idx ∉ explicitIds messages) ∧
      (∀ call ∈ msg.calls, call.itemPart = none → numbered "fc_" idx ∉ explicitIds messages) := by
  rw [(ids_converted messages).nodup_iff, List.nodup_append', nodup_made, and_left_comm]
  refine and_congr_right fun _ => and_congr_right fun _ => ?_
  constructor
  · intro disjoint msg idx member
    have made {id : PyString} (mine : id ∈ madeIds (msg, idx)) : id ∉ explicitIds messages :=
      disjoint (List.mem_flatMap.mpr ⟨_, member, mine⟩)
    exact ⟨fun text => made (mem_madeIds.mpr (.inl ⟨text, rfl⟩)),
      fun call within none => made (mem_madeIds.mpr (.inr ⟨⟨call, within, none⟩, rfl⟩))⟩
  · intro unmade id made
    obtain ⟨entry, member, mine⟩ := List.mem_flatMap.mp made
    have each := unmade entry.1 entry.2 member
    rcases mem_madeIds.mp mine with ⟨text, rfl⟩ | ⟨⟨call, within, none⟩, rfl⟩
    · exact each.1 text
    · exact each.2 call within none

theorem preserves_iff : Preserves messages ↔ Plain messages := by
  constructor
  · intro preserves
    have apart := apart_iff.mp preserves.apart
    exact ⟨instructed_iff.mp preserves.instructed, shown_iff.mp preserves.shown, apart.1, apart.2.1,
      apart.2.2, answered_iff.mp preserves.answered⟩
  · intro plain
    exact ⟨instructed_iff.mpr plain.instructed, shown_iff.mpr plain.filled,
      apart_iff.mpr ⟨plain.apart, plain.anonymous, plain.unmade⟩, answered_iff.mpr plain.answered⟩

end Conversion

def given (text : Option PyString) : Option PyString := text.filter (· ≠ "")

def OutputItem.calls (item : OutputItem) : Option PyString :=
  if item.isFunctionCall = true then given item.callId else none

-- A call that the provider has finished, with the events before that
structure Finish where
  before : List Event
  item : OutputItem

def Event.isFailure : Event → Bool
  | failed _ => true
  | _ => false

-- The item of a call that an event finishes, or announces
def Event.finished : Event → Option OutputItem
  | outputItemDone item => if item.calls = none then none else some item
  | _ => none

def Event.announced : Event → Option OutputItem
  | outputItemAdded item => some item
  | _ => none

-- The finished calls of a stream, in order, up to a failure
def finishes : List Event → List Event → List Finish
  | _, [] => []
  | before, event :: rest =>
    if event.isFailure then []
    else (event.finished.map (Finish.mk before)).toList ++ finishes (before ++ [event]) rest

-- The last announcement of a call among the events, with those since
def announcement (callId : PyString) : List Event → Option (OutputItem × List Event)
  | [] => none
  | event :: rest => (announcement callId rest).or
    ((event.announced.filter (·.calls = some callId)).map fun item => (item, rest))

-- The arguments of a call after the events: pieces come after what is there, a whole replaces it.
def streamed (callId start : PyString) (events : List Event) : PyString :=
  events.foldl (fun text event =>
    match event with
    | .argumentsDelta other delta => if other = some callId then text ++ delta else text
    | .argumentsDone other whole => if other = some callId then whole else text
    | _ => text) start

namespace Finish

variable (finish : Finish)

def announced : Option (OutputItem × List Event) :=
  finish.item.calls.bind fun callId => announcement callId finish.before

-- What the provider has said of the call: the announcement and what was streamed since come before
-- what the finished item says.
def itemId : Option PyString :=
  (finish.announced.bind fun added => given added.1.id).or (given finish.item.id)

def name : Option PyString :=
  (finish.announced.bind fun added => given added.1.name).or (given finish.item.name)

def arguments : Option PyString :=
  (finish.item.calls.bind fun callId => finish.announced.bind fun added =>
    given (some (streamed callId (added.1.arguments.getD "") added.2))).or
      (given finish.item.arguments)

-- The arguments as a value, where none are an empty object
def value : Option Json := loads (finish.arguments.getD "{}")

end Finish

def InputItem.isCall : InputItem → Bool
  | functionCall .. => true
  | _ => false

-- The ids and the name are the provider's, where it gives them, and the arguments the same value in
-- whatever text.
def Reproduces (finish : Finish) : InputItem → Prop
  | .functionCall id callId name arguments => finish.item.calls = some callId ∧
      (∀ own ∈ finish.itemId, id = own) ∧ name = finish.name.getD "" ∧
      ∃ value, finish.value = some value ∧ loads arguments = some value
  | _ => False

/-- The calls of a stream, fed back in the message with any index, are the provider's again. -/
def Reproduced (events : List Event) : Prop :=
  ∀ idx content, List.Forall₂ Reproduces (finishes [] events)
    ((messageItems idx (formatAssistantToolCalls
      (toolCalls (messageChunksFromEvents (fun _ => none) events).1) content)).filter
        InputItem.isCall)

/-- The call id has no bar of its own, an announcement gives the item id, if there is one, and the
arguments are an object. -/
structure Returnable (finish : Finish) : Prop where
  unbarred : ∀ callId ∈ finish.item.calls, 0x7C ∉ callId.points
  named : ∀ added ∈ finish.announced, given added.1.id = none →
    ∀ own ∈ given finish.item.id, own = "fc_0"
  object : ∃ members, finish.value = some (.obj members)

section Feedback

theorem orElse_given (text : Option PyString) (default : PyString) :
    orElse text default = (given text).getD default := by
  cases text with
  | none => rfl
  | some text =>
    rw [orElse, given, Option.filter_some]
    by_cases empty : text = "" <;> simp [empty]

theorem orElse_empty (text : Option PyString) : orElse text "" = text.getD "" := by
  cases text with
  | none => rfl
  | some text => by_cases empty : text = "" <;> simp [orElse, empty]

theorem orElse_ne {value : Option PyString} {default : PyString} (filled : default ≠ "") :
    orElse value default ≠ "" := by
  cases value with
  | none => exact filled
  | some text =>
    rw [orElse]
    split
    · exact filled
    · assumption

theorem given_getD (text : Option PyString) : given (some (text.getD "")) = given text := by
  cases text with
  | none => rfl
  | some text => rfl

theorem orElse_or (first second : Option PyString) (default : PyString) :
    orElse first (orElse second default) = ((given first).or (given second)).getD default := by
  rw [orElse_given, orElse_given]
  cases given first <;> rfl

theorem calls_some {item : OutputItem} {callId : PyString} (calls : item.calls = some callId) :
    item.isFunctionCall = true ∧ item.callId = some callId ∧ callId ≠ "" := by
  unfold OutputItem.calls at calls
  split at calls
  next function =>
    obtain ⟨text, filled⟩ := Option.filter_eq_some_iff.mp calls
    exact ⟨function, text, by simpa using filled⟩
  next => cases calls

theorem calls_none {item : OutputItem} (none : item.calls = none) :
    ¬ (item.isFunctionCall = true ∧ orElse item.callId "" ≠ "") := by
  rintro ⟨function, filled⟩
  rw [OutputItem.calls, if_pos function] at none
  rw [orElse_given, none] at filled
  exact filled rfl

section Buffers

variable {callId : PyString} {before : List Event} {event : Event}

def bufferStep (buffers : ToolBuffers) : Event → ToolBuffers
  | .outputItemAdded item => bufferAdded buffers item
  | .argumentsDelta callId delta => bufferArguments buffers callId (· ++ delta)
  | .argumentsDone callId arguments => bufferArguments buffers callId fun _ => arguments
  | _ => buffers

def buffersAfter (events : List Event) : ToolBuffers := events.foldl bufferStep fun _ => none

theorem announcement_append (before : List Event) (event : Event) :
    announcement callId (before ++ [event]) =
      ((event.announced.filter (·.calls = some callId)).map fun item => (item, [])).or
        ((announcement callId before).map fun added => (added.1, added.2 ++ [event])) := by
  induction before with
  | nil => simp [announcement]
  | cons first rest ih =>
    rw [List.cons_append, announcement, announcement, ih]
    cases event.announced.filter (·.calls = some callId) with
    | some item => rfl
    | none =>
      cases announcement callId rest with
      | some later => rfl
      | none =>
        rw [Option.map_none, Option.none_or, Option.none_or, Option.none_or, Option.map_map]
        rfl

def bufferOf (callId : PyString) (added : OutputItem × List Event) : ToolBuffer where
  id := orElse added.1.id "fc_0"
  name := added.1.name.getD ""
  arguments := streamed callId (added.1.arguments.getD "") added.2

theorem bufferAdded_calls (buffers : ToolBuffers) {item : OutputItem}
    (calls : item.calls = some callId) :
    bufferAdded buffers item = Function.update buffers callId (some (bufferOf callId (item, []))) := by
  obtain ⟨function, text, filled⟩ := calls_some calls
  have own : orElse item.callId "" = callId := by rw [text, orElse_empty, Option.getD_some]
  rw [bufferAdded, own, if_pos ⟨function, filled⟩, orElse_empty, orElse_empty]
  rfl

theorem bufferArguments_at (buffers : ToolBuffers) (other : Option PyString)
    (change : PyString → PyString) :
    bufferArguments buffers other change callId = (buffers callId).map fun buffer =>
      { buffer with
        arguments := if other = some callId then change buffer.arguments else buffer.arguments } := by
  unfold bufferArguments
  cases other with
  | none => simp
  | some other =>
    dsimp only
    by_cases same : other = callId
    · subst same
      cases held : buffers other <;> simp [held]
    · have different : ¬ some other = some callId := fun equal => same (Option.some.inj equal)
      cases buffers other with
      | none => simp [different]
      | some buffer => simp [different, Function.update_of_ne (Ne.symm same)]

theorem bufferOf_later (callId : PyString) (event : Event) (added : OutputItem × List Event) :
    bufferOf callId (added.1, added.2 ++ [event]) =
      { bufferOf callId added with
        arguments := streamed callId (bufferOf callId added).arguments [event] } := by
  simp only [bufferOf, streamed, List.foldl_append]

theorem bufferStep_at (buffers : ToolBuffers) (event : Event) :
    bufferStep buffers event callId =
      ((event.announced.filter (·.calls = some callId)).map fun item =>
        bufferOf callId (item, [])).or ((buffers callId).map fun buffer =>
          { buffer with arguments := streamed callId buffer.arguments [event] }) := by
  cases event with
  | outputItemAdded item =>
    rw [bufferStep, Event.announced, Option.filter_some]
    cases calls : item.calls with
    | none => simp [bufferAdded, calls_none calls, streamed]
    | some other =>
      rw [bufferAdded_calls _ calls]
      by_cases own : other = callId
      · subst own
        simp
      · simp [own, Function.update_of_ne (Ne.symm own), streamed]
  | argumentsDelta other delta => exact bufferArguments_at buffers other (· ++ delta)
  | argumentsDone other whole => exact bufferArguments_at buffers other fun _ => whole
  | _ => exact Option.map_id'.symm

theorem buffersAfter_eq (before : List Event) (callId : PyString) :
    buffersAfter before callId = (announcement callId before).map (bufferOf callId) := by
  induction before using List.reverseRecOn with
  | nil => rfl
  | append_singleton before event ih =>
    have stepped : buffersAfter (before ++ [event]) = bufferStep (buffersAfter before) event := by
      rw [buffersAfter, List.foldl_append]
      rfl
    rw [stepped, bufferStep_at, ih, announcement_append, Option.map_or, Option.map_map,
      Option.map_map, Option.map_map]
    simp only [Function.comp_def, bufferOf_later]

end Buffers

def Finish.made (finish : Finish) (callId : PyString) : ProviderCall where
  callId
  itemId := orElse (match finish.announced with
    | some added => added.1.id
    | none => finish.item.id) "fc_0"
  name := finish.name.getD ""
  arguments := finish.arguments.getD "{}"

theorem finishedCall_made {finish : Finish} {callId : PyString}
    (calls : finish.item.calls = some callId) :
    finishedCall (buffersAfter finish.before) finish.item = some (finish.made callId) := by
  obtain ⟨function, text, filled⟩ := calls_some calls
  have own : orElse finish.item.callId "" = callId := by rw [text, orElse_empty, Option.getD_some]
  have announced : finish.announced = announcement callId finish.before := by
    rw [Finish.announced, calls, Option.bind_some]
  rw [finishedCall, own, if_pos ⟨function, filled⟩, buffersAfter_eq, Finish.made, Finish.name,
    Finish.arguments, announced, calls]
  cases announcement callId finish.before with
  | none =>
    have missing : given none = none := rfl
    simp [orElse_given, missing]
  | some added =>
    have id : orElse (some (bufferOf callId added).id) (orElse finish.item.id "fc_0") =
        orElse added.1.id "fc_0" := orElse_filled (orElse_ne (by decide)) _
    simp only [Option.map_some, id]
    simp [orElse_or, bufferOf, given_getD]

theorem toolCalls_eq (before rest : List Event) :
    toolCalls (messageChunksFromEvents (buffersAfter before) rest).1 =
      (finishes before rest).filterMap fun finish =>
        finish.item.calls.map fun callId => toolCallOf (finish.made callId) := by
  induction rest generalizing before with
  | nil => rfl
  | cons event rest ih =>
    have later := ih (before ++ [event])
    have stepped : buffersAfter (before ++ [event]) = bufferStep (buffersAfter before) event := by
      rw [buffersAfter, List.foldl_append]
      rfl
    rw [stepped] at later
    cases event with
    | outputItemAdded item => exact later
    | outputTextDelta delta =>
      rw [messageChunksFromEvents]
      · dsimp only
        split
        · exact later
        · exact later
    | argumentsDelta callId delta => exact later
    | argumentsDone callId arguments => exact later
    | outputItemDone item =>
      have unfinished : finishes before (.outputItemDone item :: rest) =
          ((if item.calls = none then none else some item).map (Finish.mk before)).toList ++
            finishes (before ++ [.outputItemDone item]) rest := rfl
      rw [messageChunksFromEvents, unfinished]
      cases calls : item.calls with
      | none =>
        rw [finishedCall, if_neg (calls_none calls)]
        exact later
      | some callId =>
        have made := @finishedCall_made ⟨before, item⟩ callId calls
        rw [made]
        simp only [toolCalls, List.filterMap_cons] at later ⊢
        simpa [calls, bufferStep] using later
    | completed status => exact later
    | failed detail => rfl
    | other => exact later

theorem finishes_call (before rest : List Event) :
    ∀ finish ∈ finishes before rest, ∃ callId, finish.item.calls = some callId := by
  induction rest generalizing before with
  | nil => exact List.forall_mem_nil _
  | cons event rest ih =>
    rw [finishes]
    split
    · exact List.forall_mem_nil _
    refine List.forall_mem_append.mpr ⟨fun finish member => ?_, ih _⟩
    obtain ⟨item, finished, rfl⟩ := Option.map_eq_some_iff.mp (Option.mem_toList.mp member)
    cases event with
    | outputItemDone done =>
      unfold Event.finished at finished
      dsimp only at finished
      split at finished
      next => cases finished
      next calls =>
        cases finished
        exact Option.ne_none_iff_exists'.mp calls
    | _ => cases finished

theorem filter_calls (idx : Nat) (requests : List ToolCallRequest) (content : Option PyString) :
    (messageItems idx (formatAssistantToolCalls requests content)).filter InputItem.isCall =
      requests.map fun request => callItem idx (formatToolCall request) := by
  rw [formatAssistantToolCalls, messageItems, List.filter_append, List.map_map]
  have text : (if orElse content "" = "" then []
      else [InputItem.message (numbered "msg_" idx) (orElse content "")]).filter
        InputItem.isCall = [] := by
    split <;> rfl
  rw [text, List.nil_append, List.filter_eq_self.mpr]
  · rfl
  · intro item member
    obtain ⟨request, -, rfl⟩ := List.mem_map.mp member
    rfl

theorem loads_empty : loads "" = none := rfl

theorem formed_decodeToolArgs (raw : PyString) : wellFormed (.obj (decodeToolArgs raw)) = true := by
  unfold decodeToolArgs
  split
  · rfl
  · split
    next loaded => exact formed_loads loaded
    next => rfl

theorem decodeToolArgs_iff (raw : PyString) :
    loads raw = some (.obj (decodeToolArgs raw)) ↔ ∃ members, loads raw = some (.obj members) := by
  constructor
  · exact fun loaded => ⟨_, loaded⟩
  · rintro ⟨members, loaded⟩
    have filled : raw ≠ "" := fun empty => by
      rw [empty, loads_empty] at loaded
      cases loaded
    rw [decodeToolArgs, if_neg filled, loaded]

theorem formatToolCall_arguments (request : ToolCallRequest) :
    (formatToolCall request).arguments ≠ "" := by
  intro empty
  have none : write Style.spaced 0 (.obj request.arguments) = [] := congrArg PyString.points empty
  cases members : request.arguments with
  | nil =>
    rw [members, write] at none
    cases none
  | cons member rest =>
    rw [members, write] at none
    cases none

theorem numbered_bar (idx : Nat) : 0x7C ∉ (numbered "call_" idx).points := by
  intro member
  rcases List.mem_append.mp member with before | number
  · exact absurd before (by decide)
  · exact absurd ((decimal_digits idx).1 _ number) (by decide)

theorem splitToolCallId_bar {id : PyString} (filled : id ≠ "") :
    0x7C ∉ (splitToolCallId (some id)).1.points := by
  rw [splitToolCallId_call filled, cut_fst]
  intro member
  exact absurd (List.mem_takeWhile_imp member) (by decide)

theorem orElse_bar {text default : PyString} (unbarred : 0x7C ∉ text.points)
    (also : 0x7C ∉ default.points) : 0x7C ∉ (orElse (some text) default).points := by
  rw [orElse]
  split
  · exact also
  · exact unbarred

theorem joined_ne {callId itemId : PyString} (filled : callId ≠ "") :
    callId ++ "|" ++ itemId ≠ "" := by
  intro empty
  have none := congrArg PyString.points empty
  exact filled (congrArg PyString.mk (List.append_eq_nil_iff.mp (List.append_eq_nil_iff.mp none).1).1)

theorem splitToolCallId_joined {callId itemId : PyString} (filled : callId ≠ "")
    (also : itemId ≠ "") (unbarred : 0x7C ∉ callId.points) :
    splitToolCallId (some (callId ++ "|" ++ itemId)) = (callId, some itemId) := by
  have points : (callId ++ "|" ++ itemId : PyString).points =
      callId.points ++ 0x7C :: itemId.points :=
    List.append_assoc callId.points [0x7C] itemId.points
  have some : itemId.points ≠ [] := fun none => also (congrArg PyString.mk none)
  rw [splitToolCallId, if_neg (joined_ne filled), points, cut_append unbarred]
  dsimp only
  rw [if_neg some]

theorem item_iff (finish : Finish) (callId : PyString) :
    (∀ own ∈ finish.itemId, (finish.made callId).itemId = own) ↔
      ∀ added ∈ finish.announced, given added.1.id = none →
        ∀ own ∈ given finish.item.id, own = "fc_0" := by
  unfold Finish.itemId Finish.made
  dsimp only
  cases finish.announced with
  | none =>
    simp only [Option.bind_none, Option.none_or, orElse_given, reduceCtorEq, Option.mem_def]
    cases given finish.item.id <;> simp
  | some added =>
    cases named : given added.1.id with
    | none => simp [orElse_given, named, eq_comm]
    | some own => simp [orElse_given, named]

theorem reproduces_iff (idx : Nat) {finish : Finish} {callId : PyString}
    (calls : finish.item.calls = some callId) :
    Reproduces finish (callItem idx (formatToolCall (toolCallOf (finish.made callId)))) ↔
      Returnable finish := by
  let call := finish.made callId
  have filled : callId ≠ "" := (calls_some calls).2.2
  have also : call.itemId ≠ "" := orElse_ne (by decide)
  have text : loads (orElse (some (formatToolCall (toolCallOf call)).arguments) "{}") =
      some (.obj (decodeToolArgs call.arguments)) := by
    rw [orElse_filled (formatToolCall_arguments _)]
    exact loads_write _ (formed_decodeToolArgs call.arguments)
  have arguments : (∃ value, finish.value = some value ∧
      loads (orElse (some (formatToolCall (toolCallOf call)).arguments) "{}") = some value) ↔
        ∃ members, finish.value = some (.obj members) := by
    rw [text, Finish.value, ← decodeToolArgs_iff]
    constructor
    · rintro ⟨value, loaded, same⟩
      rw [loaded, ← same]
      rfl
    · exact fun loaded => ⟨_, loaded, rfl⟩
  constructor
  · rintro ⟨own, item, -, value⟩
    have unbarred : 0x7C ∉ callId.points := by
      rw [Option.some.inj (calls.symm.trans own)]
      exact orElse_bar (splitToolCallId_bar (joined_ne filled)) (numbered_bar idx)
    have split : splitToolCallId (formatToolCall (toolCallOf call)).id =
        (callId, some call.itemId) := splitToolCallId_joined filled also unbarred
    have item : ∀ own ∈ finish.itemId, call.itemId = own := by
      intro own member
      have same : (splitToolCallId (formatToolCall (toolCallOf call)).id).2.getD
        (numbered "fc_" idx) = own := item own member
      rw [split] at same
      exact same
    refine ⟨fun other also => ?_, (item_iff finish callId).mp item, arguments.mp value⟩
    rwa [Option.some.inj (also.symm.trans calls)]
  · rintro ⟨unbarred, named, value⟩
    have split : splitToolCallId (formatToolCall (toolCallOf call)).id =
        (callId, some call.itemId) := splitToolCallId_joined filled also (unbarred callId calls)
    rw [callItem, split]
    refine ⟨?_, ?_, rfl, arguments.mpr value⟩
    · rw [orElse_filled filled]
      exact calls
    · exact (item_iff finish callId).mpr named

theorem reproduced_iff (events : List Event) :
    Reproduced events ↔ ∀ finish ∈ finishes [] events, Returnable finish := by
  have each (idx : Nat) (content : Option PyString) :
      List.Forall₂ Reproduces (finishes [] events)
        ((messageItems idx (formatAssistantToolCalls
          (toolCalls (messageChunksFromEvents (fun _ => none) events).1) content)).filter
            InputItem.isCall) ↔ ∀ finish ∈ finishes [] events, Returnable finish := by
    have calls : toolCalls (messageChunksFromEvents (fun _ => none) events).1 = _ :=
      toolCalls_eq [] events
    rw [filter_calls, calls]
    have called := finishes_call [] events
    generalize finishes [] events = all at called ⊢
    induction all with
    | nil => simp
    | cons finish rest ih =>
      obtain ⟨⟨callId, own⟩, called⟩ := List.forall_mem_cons.mp called
      rw [List.filterMap_cons, own]
      simp only [Option.map_some, List.map_cons, List.forall₂_cons, List.forall_mem_cons]
      exact and_congr (reproduces_iff idx own) (ih called)
  exact ⟨fun reproduced => (each 0 none).mp (reproduced 0 none),
    fun returnable idx content => (each idx content).mpr returnable⟩

end Feedback

-- A later instruction, and two calls of one turn without item parts
def skipped : List Message :=
  [.system "prompt", .user (.text "question"), .system "skipped"]

def twoCalls : List Message :=
  [.user (.text "question"),
    .assistant none [⟨some "call_1", "quotes", "{}"⟩, ⟨some "call_2", "news", "{}"⟩],
    .tool (some "call_1") "1", .tool (some "call_2") "2"]

end SynapseYield.Providers.OpenaiCodex
