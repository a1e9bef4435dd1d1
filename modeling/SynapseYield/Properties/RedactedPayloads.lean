import SynapseYield.Live.Audit
import SynapseYield.Shared.Json
import SynapseYield.Shared.Outcome

set_option autoImplicit false

namespace SynapseYield.Live

open Shared

section Payloads

variable [PyText]

/-- `Stored payload key value`: a dict of the payload, at any depth, has the value at the key. -/
inductive Stored : PyValue → PyValue → PyValue → Prop where
  | entry {entries : PyDict} {key value : PyValue} (member : (key, value) ∈ entries) :
      Stored (.dict entries) key value
  | dict {entries : PyDict} {at_ item key value : PyValue} (member : (at_, item) ∈ entries)
      (stored : Stored item key value) : Stored (.dict entries) key value
  | list {items : List PyValue} {item key value : PyValue} (member : item ∈ items)
      (stored : Stored item key value) : Stored (.list items) key value
  | tuple {items : List PyValue} {item key value : PyValue} (member : item ∈ items)
      (stored : Stored item key value) : Stored (.tuple items) key value

-- is_sensitive_arg(str(key))
def SensitiveKey (key : PyValue) : Prop := ∃ name, key.toStr = .ok name ∧ isSensitiveArg name = true

def PlainKey (key : PyValue) : Prop := ∃ name, key.toStr = .ok name ∧ isSensitiveArg name = false

mutual

/-- The two payloads differ in values under sensitive keys at most. -/
inductive SameOutside : PyValue → PyValue → Prop where
  | same (value : PyValue) : SameOutside value value
  | dict {entries found : PyDict} (rest : SameEntries entries found) :
      SameOutside (.dict entries) (.dict found)
  | list {items found : List PyValue} (rest : SameItems items found) :
      SameOutside (.list items) (.list found)
  | tuple {items found : List PyValue} (rest : SameItems items found) :
      SameOutside (.tuple items) (.tuple found)

inductive SameEntries : PyDict → PyDict → Prop where
  | nil : SameEntries [] []
  | hidden {key value other : PyValue} {entries found : PyDict} (sensitive : SensitiveKey key)
      (rest : SameEntries entries found) :
      SameEntries ((key, value) :: entries) ((key, other) :: found)
  | kept {key value other : PyValue} {entries found : PyDict} (same : SameOutside value other)
      (rest : SameEntries entries found) :
      SameEntries ((key, value) :: entries) ((key, other) :: found)

inductive SameItems : List PyValue → List PyValue → Prop where
  | nil : SameItems [] []
  | cons {value other : PyValue} {items found : List PyValue} (same : SameOutside value other)
      (rest : SameItems items found) : SameItems (value :: items) (other :: found)

end

structure Scrubbed (payload out : PyValue) : Prop where
  hidden : ∀ key value, Stored out key value → SensitiveKey key → value = redacted
  others : SameOutside payload out
  again : redactPayload out = .ok out

/-- What the walk of `redact_payload` meets: it goes into dicts and lists, and into nothing else. -/
inductive Walked : PyValue → PyValue → Prop where
  | here (payload : PyValue) : Walked payload payload
  | dict {entries : PyDict} {key item part : PyValue} (member : (key, item) ∈ entries)
      (plain : ¬ SensitiveKey key) (walked : Walked item part) : Walked (.dict entries) part
  | list {items : List PyValue} {item part : PyValue} (member : item ∈ items)
      (walked : Walked item part) : Walked (.list items) part

-- A tuple in the way of the walk, with something below it that is not redacted yet
def Smuggled (payload : PyValue) : Prop :=
  ∃ items key value, Walked payload (.tuple items) ∧ Stored (.tuple items) key value ∧
    SensitiveKey key ∧ value ≠ redacted

def KeysPrint (payload : PyValue) : Prop :=
  ∀ key value, Stored payload key value → ∃ name, key.toStr = .ok name

section Steps

variable {entries found : PyDict} {items left : List PyValue} {payload out : PyValue}

theorem redactPayload_dict :
    redactPayload (.dict entries) = .ok out ↔
      ∃ found, redactEntries entries = .ok found ∧ .dict found = out := by
  rw [redactPayload, Outcome.map_ok]

theorem redactPayload_list :
    redactPayload (.list items) = .ok out ↔
      ∃ left, redactItems items = .ok left ∧ .list left = out := by
  rw [redactPayload, Outcome.map_ok]

structure Entry (entry out : PyValue × PyValue) : Prop where
  key : out.1 = entry.1
  value : SensitiveKey entry.1 ∧ out.2 = redacted ∨
    PlainKey entry.1 ∧ redactPayload entry.2 = .ok out.2

theorem plain_of_not_sensitive {key : PyValue} (plain : PlainKey key) : ¬ SensitiveKey key := by
  rintro ⟨name, printed, sensitive⟩
  obtain ⟨name', printed', insensitive⟩ := plain
  cases printed.symm.trans printed'
  rw [sensitive] at insensitive
  cases insensitive

theorem redactEntries_cons (key item : PyValue) (rest : PyDict) :
    redactEntries ((key, item) :: rest) = key.toStr >>= fun name =>
      (if isSensitiveArg name = true then .ok redacted else redactPayload item) >>= fun value =>
        redactEntries rest >>= fun others => .ok ((key, value) :: others) := by
  rw [redactEntries]
  refine congrArg _ (funext fun name => ?_)
  split <;> rfl

theorem redactEntries_ok :
    redactEntries entries = .ok found ↔ List.Forall₂ Entry entries found := by
  induction entries generalizing found with
  | nil => rw [redactEntries, Except.ok.injEq, List.forall₂_nil_left_iff, eq_comm]
  | cons entry rest ih =>
    obtain ⟨key, item⟩ := entry
    rw [redactEntries_cons]
    simp only [Outcome.bind_ok, Except.ok.injEq, ih, List.forall₂_cons_left_iff]
    constructor
    · rintro ⟨name, printed, value, walked, tail, others, rfl⟩
      refine ⟨(key, value), tail, ⟨rfl, ?_⟩, others, rfl⟩
      split at walked
      next sensitive => exact .inl ⟨⟨name, printed, sensitive⟩, (Except.ok.inj walked).symm⟩
      next plain => exact .inr ⟨⟨name, printed, Bool.eq_false_iff.mpr plain⟩, walked⟩
    · rintro ⟨⟨key', value⟩, tail, ⟨same, walked⟩, others, rfl⟩
      cases same
      obtain ⟨⟨name, printed, sensitive⟩, value_eq⟩ | ⟨⟨name, printed, plain⟩, walked⟩ := walked
      · cases value_eq
        exact ⟨name, printed, redacted, by rw [if_pos sensitive], tail, others, rfl⟩
      · refine ⟨name, printed, value, ?_, tail, others, rfl⟩
        rw [if_neg (Bool.eq_false_iff.mp plain)]
        exact walked

theorem redactItems_ok :
    redactItems items = .ok left ↔
      List.Forall₂ (fun item out => redactPayload item = .ok out) items left := by
  induction items generalizing left with
  | nil => rw [redactItems, Except.ok.injEq, List.forall₂_nil_left_iff, eq_comm]
  | cons item rest ih =>
    rw [redactItems]
    simp only [Outcome.bind_ok, Outcome.pure_ok, ih, List.forall₂_cons_left_iff]
    constructor
    · rintro ⟨value, walked, tail, others, rfl⟩
      exact ⟨value, tail, walked, others, rfl⟩
    · rintro ⟨value, tail, walked, others, rfl⟩
      exact ⟨value, walked, tail, others, rfl⟩

/-- Induction along the walk: what it does not enter is returned as it is. -/
theorem walk_induction {motive : PyValue → Prop}
    (dict : ∀ entries : PyDict, (∀ entry ∈ entries, motive entry.2) → motive (.dict entries))
    (list : ∀ items : List PyValue, (∀ item ∈ items, motive item) → motive (.list items))
    (leaf : ∀ value, (∀ entries, value ≠ .dict entries) → (∀ items, value ≠ .list items) →
      redactPayload value = .ok value → motive value) (payload : PyValue) : motive payload := by
  cases payload with
  | dict entries =>
    refine dict entries fun entry member => ?_
    have smaller : sizeOf entry.2 < 1 + sizeOf entries := by
      have inside := List.sizeOf_lt_of_mem member
      cases entry
      simp only [Prod.mk.sizeOf_spec] at inside ⊢
      omega
    exact walk_induction dict list leaf entry.2
  | list items =>
    refine list items fun item member => ?_
    have smaller : sizeOf item < 1 + sizeOf items := by
      have inside := List.sizeOf_lt_of_mem member
      omega
    exact walk_induction dict list leaf item
  | _ => exact leaf _ (fun _ => by rintro ⟨⟩) (fun _ => by rintro ⟨⟩) rfl
termination_by sizeOf payload

end Steps

section Walks

variable {payload out part : PyValue}

theorem redactPayload_returns (payload : PyValue) (print : KeysPrint payload) :
    ∃ out, redactPayload payload = .ok out := by
  induction payload using walk_induction with
  | dict entries ih =>
    have each : ∀ entry ∈ entries, ∃ found, Entry entry found := by
      rintro ⟨key, item⟩ member
      obtain ⟨name, printed⟩ := print key item (.entry member)
      cases sensitive : isSensitiveArg name with
      | true => exact ⟨(key, redacted), rfl, .inl ⟨⟨name, printed, sensitive⟩, rfl⟩⟩
      | false =>
        obtain ⟨value, walked⟩ := ih _ member fun key value stored =>
          print key value (.dict member stored)
        exact ⟨(key, value), rfl, .inr ⟨⟨name, printed, sensitive⟩, walked⟩⟩
    obtain ⟨found, all⟩ := Outcome.exists_forall₂ each
    exact ⟨_, redactPayload_dict.mpr ⟨found, redactEntries_ok.mpr all, rfl⟩⟩
  | list items ih =>
    obtain ⟨left, all⟩ := Outcome.exists_forall₂ fun item member =>
      ih item member fun key value stored => print key value (.list member stored)
    exact ⟨_, redactPayload_list.mpr ⟨left, redactItems_ok.mpr all, rfl⟩⟩
  | leaf value noDict noList kept => exact ⟨value, kept⟩

theorem redactPayload_same (walked : redactPayload payload = .ok out) :
    SameOutside payload out := by
  induction payload using walk_induction generalizing out with
  | dict entries ih =>
    obtain ⟨found, all, rfl⟩ := redactPayload_dict.mp walked
    rw [redactEntries_ok] at all
    clear walked
    refine .dict ?_
    induction all with
    | nil => exact .nil
    | @cons entry other rest others head _ tail =>
      obtain ⟨first, later⟩ := List.forall_mem_cons.mp ih
      have same := tail later
      obtain ⟨key, item⟩ := entry
      obtain ⟨key', value⟩ := other
      obtain ⟨rfl, ⟨sensitive, _⟩ | ⟨_, entered⟩⟩ := head
      · exact .hidden sensitive same
      · exact .kept (first entered) same
  | list items ih =>
    obtain ⟨left, all, rfl⟩ := redactPayload_list.mp walked
    rw [redactItems_ok] at all
    clear walked
    refine .list ?_
    induction all with
    | nil => exact .nil
    | cons head _ tail =>
      obtain ⟨first, later⟩ := List.forall_mem_cons.mp ih
      exact .cons (first head) (tail later)
  | leaf value noDict noList kept =>
    cases kept.symm.trans walked
    exact .same value

theorem redactPayload_again (walked : redactPayload payload = .ok out) :
    redactPayload out = .ok out := by
  induction payload using walk_induction generalizing out with
  | dict entries ih =>
    obtain ⟨found, all, rfl⟩ := redactPayload_dict.mp walked
    refine redactPayload_dict.mpr ⟨found, redactEntries_ok.mpr (List.forall₂_same.mpr ?_), rfl⟩
    intro other member
    obtain ⟨entry, given, same, kept⟩ := Outcome.forall₂_left (redactEntries_ok.mp all) member
    rw [← same] at kept
    refine ⟨rfl, kept.imp id fun plain => ⟨plain.1, ?_⟩⟩
    exact ih entry given plain.2
  | list items ih =>
    obtain ⟨left, all, rfl⟩ := redactPayload_list.mp walked
    refine redactPayload_list.mpr ⟨left, redactItems_ok.mpr (List.forall₂_same.mpr ?_), rfl⟩
    intro other member
    obtain ⟨item, given, entered⟩ := Outcome.forall₂_left (redactItems_ok.mp all) member
    exact ih item given entered
  | leaf value noDict noList kept =>
    cases kept.symm.trans walked
    exact kept

theorem redactPayload_part (met : Walked payload part) (walked : redactPayload payload = .ok out) :
    ∃ left, redactPayload part = .ok left ∧
      ∀ key value, Stored left key value → Stored out key value := by
  induction met generalizing out with
  | here payload => exact ⟨out, walked, fun _ _ stored => stored⟩
  | dict member plain _ ih =>
    obtain ⟨found, all, rfl⟩ := redactPayload_dict.mp walked
    obtain ⟨⟨key, value⟩, present, same, kept⟩ :=
      Outcome.forall₂_right (redactEntries_ok.mp all) member
    obtain ⟨sensitive, _⟩ | ⟨_, entered⟩ := kept
    · exact absurd sensitive plain
    · obtain ⟨left, result, lifted⟩ := ih entered
      exact ⟨left, result, fun key value stored => .dict present (lifted key value stored)⟩
  | list member _ ih =>
    obtain ⟨found, all, rfl⟩ := redactPayload_list.mp walked
    obtain ⟨value, present, entered⟩ := Outcome.forall₂_right (redactItems_ok.mp all) member
    obtain ⟨left, result, lifted⟩ := ih entered
    exact ⟨left, result, fun key value stored => .list present (lifted key value stored)⟩

omit [PyText] in
theorem redacted_stores_nothing {key value : PyValue} : ¬ Stored redacted key value := by
  rintro ⟨⟩

theorem redactPayload_hidden (walked : redactPayload payload = .ok out)
    (clean : ¬ Smuggled payload) {key value : PyValue} (stored : Stored out key value)
    (sensitive : SensitiveKey key) : value = redacted := by
  induction payload using walk_induction generalizing out with
  | dict entries ih =>
    obtain ⟨found, all, rfl⟩ := redactPayload_dict.mp walked
    rw [redactEntries_ok] at all
    cases stored with
    | entry member =>
      obtain ⟨entry, _, same, kept⟩ := Outcome.forall₂_left all member
      obtain ⟨_, hidden⟩ | ⟨plain, _⟩ := kept
      · exact hidden
      · rw [← same] at plain
        exact absurd sensitive (plain_of_not_sensitive plain)
    | dict member stored =>
      obtain ⟨entry, given, _, kept⟩ := Outcome.forall₂_left all member
      obtain ⟨_, hidden⟩ | ⟨plain, entered⟩ := kept
      · cases hidden
        exact absurd stored redacted_stores_nothing
      · refine ih entry given entered ?_ stored
        rintro ⟨items, at_, left, met, below⟩
        exact clean ⟨items, at_, left, .dict given (plain_of_not_sensitive plain) met, below⟩
  | list items ih =>
    obtain ⟨left, all, rfl⟩ := redactPayload_list.mp walked
    cases stored with
    | list member stored =>
      obtain ⟨item, given, entered⟩ := Outcome.forall₂_left (redactItems_ok.mp all) member
      refine ih item given entered ?_ stored
      rintro ⟨items, at_, left, met, below⟩
      exact clean ⟨items, at_, left, .list given met, below⟩
  | leaf whole noDict noList kept =>
    cases kept.symm.trans walked
    by_contra other
    cases stored with
    | entry | dict => exact noDict _ rfl
    | list => exact noList _ rfl
    | tuple member stored =>
      exact clean ⟨_, _, _, .here _, .tuple member stored, sensitive, other⟩

end Walks

/-- Exactly the tuples are left alone: the walk redacts every payload that keeps its secrets out of
them, and returns whenever the keys print. -/
theorem redactPayload_scrubs (payload : PyValue) :
    (KeysPrint payload → ∃ out, redactPayload payload = .ok out) ∧
      ∀ out, redactPayload payload = .ok out → (Scrubbed payload out ↔ ¬ Smuggled payload) := by
  refine ⟨redactPayload_returns payload, fun out walked => ?_⟩
  constructor
  · rintro scrubbed ⟨items, key, value, met, stored, sensitive, shown⟩
    obtain ⟨left, result, lifted⟩ := redactPayload_part met walked
    cases result
    exact shown (scrubbed.hidden key value (lifted key value stored) sensitive)
  · intro clean
    exact ⟨fun key value stored => redactPayload_hidden walked clean stored,
      redactPayload_same walked, redactPayload_again walked⟩

end Payloads

theorem accountNumber_sensitive :
    @isSensitiveArg asciiText "account_number" = true ∧
      @isSensitiveArg asciiText "accounts" = false := by
  decide +kernel

/-- The accounts of a broker's answer, as a tuple. -/
def accountTuple : PyValue :=
  .dict [(.str "accounts", .tuple [.dict [(.str "account_number", .str "123456789")]])]

theorem accountTuple_dumps : accountTuple.dumps = .ok () := by
  unfold PyValue.dumps
  rfl

theorem accountTuple_leaks :
    ¬ ∀ payload, payload.dumps = .ok () →
      ∃ out, @redactPayload asciiText payload = .ok out ∧ @Scrubbed asciiText payload out := by
  let text := asciiText
  intro always
  obtain ⟨out, walked, scrubbed⟩ := always accountTuple accountTuple_dumps
  have kept : redactPayload accountTuple = .ok accountTuple := by
    refine redactPayload_dict.mpr ⟨_, redactEntries_ok.mpr (.cons ⟨rfl, .inr ⟨?_, rfl⟩⟩ .nil), rfl⟩
    exact ⟨_, rfl, accountNumber_sensitive.2⟩
  cases kept.symm.trans walked
  have hidden := scrubbed.hidden (.str "account_number") (.str "123456789")
    (.dict (.head _) (.tuple (.head _) (.entry (.head _)))) ⟨_, rfl, accountNumber_sensitive.1⟩
  exact absurd (PyValue.str.inj hidden) (by decide +kernel)

end SynapseYield.Live
