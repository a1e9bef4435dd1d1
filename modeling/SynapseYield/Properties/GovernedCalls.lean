import SynapseYield.Governance.Runtime
import SynapseYield.Shared.Outcome

set_option autoImplicit false

namespace SynapseYield.Governance

open Shared JsonText

section Surrogates

variable {c : CodePoint}

theorem not_encodable {s : PyString} (encodable : s.encodable = true)
    (surrogate : isSurrogate c = true) : c ∉ s.points := fun member => by
  have plain := List.all_eq_true.mp encodable c member
  rw [surrogate] at plain
  cases plain

theorem not_redacted (surrogate : isSurrogate c = true) : c ∉ redacted.points :=
  not_encodable (by rfl) surrogate

theorem wide_surrogate (surrogate : isSurrogate c = true) : 0x80 ≤ c.val := by
  simp only [isSurrogate, Bool.and_eq_true, decide_eq_true_eq] at surrogate
  omega

theorem encodable_write (style : Style) {value : Json} :
    PyString.encodable ⟨write style 0 (canonical value)⟩ = true ↔
      ∀ c ∈ contents value, isSurrogate c = false := by
  simp only [PyString.encodable, List.all_eq_true, Bool.not_eq_true']
  constructor
  · intro plain c member
    by_contra surrogate
    rw [Bool.not_eq_false] at surrogate
    have written : c ∈ write style 0 (canonical value) :=
      (mem_write (wide_surrogate surrogate) 0 _).mpr ((mem_contents_canonical value).mpr member)
    rw [plain c written] at surrogate
    cases surrogate
  · intro plain c member
    by_contra surrogate
    rw [Bool.not_eq_false] at surrogate
    have given := (mem_contents_canonical value).mp
      ((mem_write (wide_surrogate surrogate) 0 _).mp member)
    rw [plain c given] at surrogate
    cases surrogate

theorem contents_params {preview : Members} :
    (∀ c ∈ contents (.obj [("params", .obj preview)]), isSurrogate c = false) ↔
      ∀ c ∈ memberContents preview, isSurrogate c = false := by
  have ascii (c : CodePoint) (member : c ∈ ("params" : PyString).points) :
      isSurrogate c = false := by
    by_contra surrogate
    rw [Bool.not_eq_false] at surrogate
    exact not_encodable (by rfl) surrogate member
  rw [contents, memberContents, memberContents, List.append_nil, List.forall_mem_append, contents]
  exact and_iff_right ascii

section Hashes

variable [AuditText]

theorem not_reprStart {value : Json} (surrogate : isSurrogate c = true) :
    c ∉ contents (reprStart value) := fun member =>
  not_encodable (AuditText.repr_encodable value) surrogate (List.mem_of_mem_take member)

theorem jsonSafe_str {depth : Nat} {s : PyString} :
    jsonSafe depth (.str s) = if maxDepth < depth then reprStart (.str s) else .str s := by
  simp only [jsonSafe]

theorem hashText_ok {style : Style} {value : Json} :
    (∃ hash, hashText (write style 0 (canonical value)) = .ok hash) ↔
      ∀ c ∈ contents value, isSurrogate c = false := by
  rw [← encodable_write style, hashText]
  split
  next plain => exact iff_of_true ⟨_, rfl⟩ plain
  next other => exact iff_of_false (fun ⟨_, impossible⟩ => by cases impossible) other

theorem paramsHash_ok {preview : Members} :
    (∃ hash, paramsHash preview = .ok hash) ↔
      ∀ c ∈ memberContents preview, isSurrogate c = false := by
  unfold paramsHash
  cases hashed : sha256Json (.obj [("params", .obj preview)]) with
  | ok hash =>
    unfold sha256Json at hashed
    split at hashed
    next => exact iff_of_true ⟨hash, rfl⟩ (contents_params.mp (hashText_ok.mp ⟨hash, hashed⟩))
    next => cases hashed
  | error raised => exact hashText_ok

end Hashes

end Surrogates

section Audits

variable [PyText]

mutual

-- How many calls of redact_secrets stand on one another for a value
def redactionDepth : Json → Nat
  | .arr items => itemsDepth items + 1
  | .obj members => membersDepth members + 1
  | _ => 1

def itemsDepth : List Json → Nat
  | [] => 0
  | item :: rest => max (redactionDepth item) (itemsDepth rest)

def membersDepth : List (PyString × Json) → Nat
  | [] => 0
  | (key, value) :: rest =>
    max (if keyIsSecretLike key then 0 else redactionDepth value) (membersDepth rest)

end

mutual

-- The characters of a value that come into the preview as they are
def auditedContents (depth : Nat) : Json → List CodePoint
  | .number literal => if maxDepth < depth then [] else literal
  | .str s => if maxDepth < depth || valueIsSecretLike s then [] else s.points
  | .arr items => if maxDepth < depth then [] else auditedItems depth maxItems items
  | .obj members => if maxDepth < depth then [] else auditedMembers depth maxItems members
  | _ => []

def auditedItems (depth left : Nat) : List Json → List CodePoint
  | [] => []
  | item :: rest =>
    match left with
    | 0 => []
    | left + 1 => auditedContents (depth + 1) item ++ auditedItems depth left rest

def auditedMembers (depth left : Nat) : List (PyString × Json) → List CodePoint
  | [] => []
  | (key, value) :: rest =>
    match left with
    | 0 => []
    | left + 1 =>
      key.points ++ (if keyIsSecretLike key then [] else auditedContents (depth + 1) value) ++
        auditedMembers depth left rest

end

-- The parameters fit the stack, and no lone surrogate comes into the preview.
def Auditable (room : Nat) (params : Members) : Prop :=
  redactionDepth (.obj params) ≤ room ∧
    ∀ c ∈ auditedMembers 0 maxItems params, isSurrogate c = false

variable {room depth left : Nat} {c : CodePoint}

theorem redactMembers_cons {key : PyString} {value : Json} {rest kept : Members} :
    redactMembers room ((key, value) :: rest) = .ok kept ↔
      ∃ first, (if keyIsSecretLike key then .ok (.str redacted) else redactSecrets room value) =
          .ok first ∧
        ∃ others, redactMembers room rest = .ok others ∧ (key, first) :: others = kept := by
  rw [redactMembers]
  split
  next => simp only [Outcome.bind_ok, Outcome.pure_ok]
  next => simp only [Outcome.bind_ok, Outcome.pure_ok]

mutual

theorem redactSecrets_ok (room : Nat) : (value : Json) →
    ((∃ kept, redactSecrets room value = .ok kept) ↔ redactionDepth value ≤ room)
  | .null => by cases room <;> simp [redactSecrets, redactionDepth]
  | .bool _ => by cases room <;> simp [redactSecrets, redactionDepth]
  | .number _ => by cases room <;> simp [redactSecrets, redactionDepth]
  | .str _ => by cases room <;> simp [redactSecrets, redactionDepth]
  | .arr items => by
    cases room with
    | zero => simp [redactSecrets, redactionDepth]
    | succ room =>
      rw [redactionDepth, Nat.add_le_add_iff_right, ← redactItems_ok room items]
      simp only [redactSecrets, Outcome.map_ok]
      exact ⟨fun ⟨_, kept, given, _⟩ => ⟨kept, given⟩, fun ⟨kept, given⟩ => ⟨_, kept, given, rfl⟩⟩
  | .obj members => by
    cases room with
    | zero => simp [redactSecrets, redactionDepth]
    | succ room =>
      rw [redactionDepth, Nat.add_le_add_iff_right, ← redactMembers_ok room members]
      simp only [redactSecrets, Outcome.map_ok]
      exact ⟨fun ⟨_, kept, given, _⟩ => ⟨kept, given⟩, fun ⟨kept, given⟩ => ⟨_, kept, given, rfl⟩⟩

theorem redactItems_ok (room : Nat) : (items : List Json) →
    ((∃ kept, redactItems room items = .ok kept) ↔ itemsDepth items ≤ room)
  | [] => by simp [redactItems, itemsDepth]
  | item :: rest => by
    rw [itemsDepth, Nat.max_le, ← redactSecrets_ok room item, ← redactItems_ok room rest]
    simp only [redactItems, Outcome.bind_ok, Outcome.pure_ok]
    constructor
    · rintro ⟨_, first, given, others, kept, rfl⟩
      exact ⟨⟨first, given⟩, others, kept⟩
    · rintro ⟨⟨first, given⟩, others, kept⟩
      exact ⟨_, first, given, others, kept, rfl⟩

theorem redactMembers_ok (room : Nat) : (members : Members) →
    ((∃ kept, redactMembers room members = .ok kept) ↔ membersDepth members ≤ room)
  | [] => by simp [redactMembers, membersDepth]
  | (key, value) :: rest => by
    rw [membersDepth, Nat.max_le, ← redactMembers_ok room rest]
    simp only [redactMembers_cons]
    split
    next => simp
    next =>
      rw [← redactSecrets_ok room value]
      constructor
      · rintro ⟨_, first, given, others, kept, rfl⟩
        exact ⟨⟨first, given⟩, others, kept⟩
      · rintro ⟨⟨first, given⟩, others, kept⟩
        exact ⟨_, first, given, others, kept, rfl⟩

end

variable [AuditText]

mutual

theorem mem_preview (surrogate : isSurrogate c = true) (room depth : Nat) :
    (value kept : Json) → redactSecrets room value = .ok kept →
      (c ∈ contents (jsonSafe depth kept) ↔ c ∈ auditedContents depth value)
  | .null, kept, given => by
    obtain rfl : kept = .null := by cases room <;> simp_all [redactSecrets]
    simp only [jsonSafe, auditedContents]
    split
    next => exact iff_of_false (not_reprStart surrogate) List.not_mem_nil
    next => rfl
  | .bool b, kept, given => by
    obtain rfl : kept = .bool b := by cases room <;> simp_all [redactSecrets]
    simp only [jsonSafe, auditedContents]
    split
    next => exact iff_of_false (not_reprStart surrogate) List.not_mem_nil
    next => rfl
  | .number literal, kept, given => by
    obtain rfl : kept = .number literal := by cases room <;> simp_all [redactSecrets]
    simp only [jsonSafe, auditedContents]
    split
    next => exact iff_of_false (not_reprStart surrogate) List.not_mem_nil
    next => rfl
  | .str s, kept, given => by
    obtain rfl : kept = .str (if valueIsSecretLike s then redacted else s) := by
      cases room <;> simp_all [redactSecrets]
    rw [jsonSafe_str, auditedContents]
    split
    next deep =>
      rw [decide_eq_true deep, Bool.true_or, if_pos rfl]
      exact iff_of_false (not_reprStart surrogate) List.not_mem_nil
    next shallow =>
      rw [decide_eq_false shallow, Bool.false_or, contents]
      split
      next => exact iff_of_false (not_redacted surrogate) List.not_mem_nil
      next => rfl
  | .arr items, kept, given => by
    cases room with
    | zero => cases given
    | succ room =>
      obtain ⟨inner, read, rfl⟩ := Outcome.map_ok.mp given
      rw [jsonSafe, auditedContents]
      split
      next => exact iff_of_false (not_reprStart surrogate) List.not_mem_nil
      next =>
        rw [contents]
        exact mem_previewItems surrogate room depth maxItems items inner read
  | .obj members, kept, given => by
    cases room with
    | zero => cases given
    | succ room =>
      obtain ⟨inner, read, rfl⟩ := Outcome.map_ok.mp given
      rw [jsonSafe, auditedContents]
      split
      next => exact iff_of_false (not_reprStart surrogate) List.not_mem_nil
      next =>
        rw [contents]
        exact mem_previewMembers surrogate room depth maxItems members inner read

theorem mem_previewItems (surrogate : isSurrogate c = true) (room depth left : Nat) :
    (items kept : List Json) → redactItems room items = .ok kept →
      (c ∈ itemContents (safeItems depth left kept) ↔ c ∈ auditedItems depth left items)
  | [], kept, given => by
    cases given
    rfl
  | item :: rest, kept, given => by
    obtain ⟨first, read, given⟩ := Outcome.bind_ok.mp given
    obtain ⟨others, later, given⟩ := Outcome.bind_ok.mp given
    cases given
    cases left with
    | zero => rfl
    | succ left =>
      rw [safeItems, auditedItems, itemContents, List.mem_append, List.mem_append,
        mem_preview surrogate room (depth + 1) item first read,
        mem_previewItems surrogate room depth left rest others later]

theorem mem_previewMembers (surrogate : isSurrogate c = true) (room depth left : Nat) :
    (members kept : Members) → redactMembers room members = .ok kept →
      (c ∈ memberContents (safeMembers depth left kept) ↔ c ∈ auditedMembers depth left members)
  | [], kept, given => by
    cases given
    rfl
  | (key, value) :: rest, kept, given => by
    obtain ⟨first, read, others, later, rfl⟩ := redactMembers_cons.mp given
    cases left with
    | zero => rfl
    | succ left =>
      have shown : c ∈ contents (jsonSafe (depth + 1) first) ↔
          c ∈ (if keyIsSecretLike key then [] else auditedContents (depth + 1) value) := by
        split at read
        next secret =>
          cases read
          rw [if_pos secret, jsonSafe_str]
          split
          next => exact iff_of_false (not_reprStart surrogate) List.not_mem_nil
          next => exact iff_of_false (not_redacted surrogate) List.not_mem_nil
        next plain =>
          rw [if_neg plain]
          exact mem_preview surrogate room (depth + 1) value first read
      rw [safeMembers, auditedMembers, memberContents, List.mem_append, List.mem_append,
        List.mem_append, List.mem_append, shown,
        mem_previewMembers surrogate room depth left rest others later]

end

theorem buildParamAudit_ok {params : Members} :
    (∃ audit, buildParamAudit room params = .ok audit) ↔ Auditable room params := by
  unfold buildParamAudit Auditable
  rw [redactionDepth]
  cases room with
  | zero => simp [bind, Except.bind]
  | succ room =>
    rw [Nat.add_le_add_iff_right, ← redactMembers_ok room params]
    simp only [Outcome.bind_ok, Outcome.pure_ok]
    have shown {kept : Members} (read : redactMembers room params = .ok kept) :
        (∃ hash, paramsHash (safeMembers 0 maxItems kept) = .ok hash) ↔
          ∀ c ∈ auditedMembers 0 maxItems params, isSurrogate c = false := by
      rw [paramsHash_ok]
      refine forall_congr' fun c => ?_
      cases surrogate : isSurrogate c with
      | false => simp
      | true => rw [mem_previewMembers surrogate room 0 maxItems params kept read]
    constructor
    · rintro ⟨_, kept, read, hash, hashed, rfl⟩
      exact ⟨⟨kept, read⟩, (shown read).mp ⟨hash, hashed⟩⟩
    · rintro ⟨⟨kept, read⟩, plain⟩
      obtain ⟨hash, hashed⟩ := (shown read).mpr plain
      exact ⟨_, kept, read, hash, hashed, rfl⟩

end Audits

section Decisions

variable {call : ToolCall} {audit : ParamAudit} {decision : PolicyDecision}

theorem firstDecision_cases {rules : List PolicyRule}
    (decided : firstDecision call audit rules = .ok decision) :
    (∃ rule ∈ rules, rule.applies call = .ok true ∧ decision = decisionForRule rule call audit) ∨
      decision.action = .deny := by
  induction rules with
  | nil =>
    cases decided
    exact .inr rfl
  | cons rule rest ih =>
    obtain ⟨applies, asked, decided⟩ := Outcome.bind_ok.mp decided
    cases applies with
    | true =>
      cases decided
      exact .inl ⟨rule, List.mem_cons_self, asked, rfl⟩
    | false =>
      obtain ⟨other, member, rest⟩ | denied := ih decided
      · exact .inl ⟨other, List.mem_cons_of_mem _ member, rest⟩
      · exact .inr denied

variable (audit) in
theorem firstDecision_total {rules : List PolicyRule}
    (total : ∀ rule ∈ rules, ∃ applies, rule.applies call = .ok applies) :
    ∃ decision, firstDecision call audit rules = .ok decision := by
  induction rules with
  | nil => exact ⟨_, rfl⟩
  | cons rule rest ih =>
    obtain ⟨⟨applies, asked⟩, others⟩ := List.forall_mem_cons.mp total
    obtain ⟨decision, later⟩ := ih others
    cases applies with
    | true => exact ⟨_, Outcome.bind_ok.mpr ⟨true, asked, rfl⟩⟩
    | false => exact ⟨decision, Outcome.bind_ok.mpr ⟨false, asked, later⟩⟩

theorem sortedRules_builtin : sortedRules builtinRules = builtinRules := by rfl

variable (call) in
theorem builtinRules_total : ∀ rule ∈ builtinRules, ∃ applies, rule.applies call = .ok applies := by
  have total {rule : PolicyRule}
      (answers : ∀ predicate, rule.predicate = some predicate → ∃ b, predicate call = .ok b) :
      ∃ applies, rule.applies call = .ok applies := by
    unfold PolicyRule.applies
    split
    next => exact ⟨_, rfl⟩
    next =>
      split
      next => exact ⟨_, rfl⟩
      next =>
        split
        next => exact ⟨_, rfl⟩
        next =>
          split
          next predicate given => exact answers predicate given
          next => exact ⟨_, rfl⟩
  simp only [builtinRules, List.forall_mem_cons, List.not_mem_nil, IsEmpty.forall_iff, implies_true,
    and_true]
  have silent {rule : PolicyRule} (none_ : rule.predicate = none) :
      ∃ applies, rule.applies call = .ok applies :=
    total fun predicate given => by rw [none_] at given; cases given
  have asks {rule : PolicyRule} {ask : ToolCall → Bool}
      (pure_ : rule.predicate = some fun call => .ok (ask call)) :
      ∃ applies, rule.applies call = .ok applies :=
    total fun predicate given => by
      rw [pure_] at given
      cases given
      exact ⟨_, rfl⟩
  exact ⟨asks rfl, silent rfl, silent rfl, asks rfl, silent rfl, asks rfl, asks rfl, silent rfl,
    silent rfl⟩

theorem applies_risk {rule : PolicyRule} (applies : rule.applies call = .ok true)
    {levels : List RiskLevel} (given : rule.riskLevels = some levels) :
    call.manifest.riskLevel ∈ levels := by
  unfold PolicyRule.applies at applies
  split at applies
  next => cases applies
  next =>
    split at applies
    next => cases applies
    next within =>
      rw [given] at within
      simpa using within

theorem decisionForRule_checks {rule : PolicyRule} (all : rule.action = .allowIfAll) :
    (decisionForRule rule call audit).action = .deny ∨
      ∀ check ∈ rule.requiredChecks, checkState call.context check = true := by
  unfold decisionForRule
  rw [if_pos all]
  dsimp only
  split
  next missing =>
    refine .inr fun check needed => ?_
    have held := List.filter_eq_nil_iff.mp (List.isEmpty_iff.mp missing) check needed
    simpa using held
  next => exact .inl rfl

-- What the rules may let through of a risk: nothing of the shell, and of the trade writes what
-- has all its checks.
theorem builtin_shell (risk : call.manifest.riskLevel = .r5Shell)
    (decided : firstDecision call audit builtinRules = .ok decision) : decision.action = .deny := by
  obtain ⟨rule, member, applies, rfl⟩ | denied := firstDecision_cases decided
  · have levels := @applies_risk call rule applies
    rw [risk] at levels
    simp only [builtinRules, List.mem_cons, List.not_mem_nil, or_false] at member
    rcases member with rfl | rfl | rfl | rfl | rfl | rfl | rfl | rfl | rfl
    · rfl
    · rfl
    · rfl
    · rfl
    · exact absurd (levels rfl) (by decide)
    · rfl
    · exact absurd (levels rfl) (by decide)
    · exact absurd (levels rfl) (by decide)
    · rfl
  · exact denied

theorem builtin_trade (risk : call.manifest.riskLevel = .r4TradeWrite)
    (decided : firstDecision call audit builtinRules = .ok decision) :
    decision.action = .deny ∨ ∀ check ∈ liveWriteChecks, checkState call.context check = true := by
  obtain ⟨rule, member, applies, rfl⟩ | denied := firstDecision_cases decided
  · have levels := @applies_risk call rule applies
    rw [risk] at levels
    simp only [builtinRules, List.mem_cons, List.not_mem_nil, or_false] at member
    rcases member with rfl | rfl | rfl | rfl | rfl | rfl | rfl | rfl | rfl
    · exact .inl rfl
    · exact .inl rfl
    · exact .inl rfl
    · exact .inl rfl
    · exact decisionForRule_checks rfl
    · exact .inl rfl
    · exact absurd (levels rfl) (by decide)
    · exact absurd (levels rfl) (by decide)
    · exact .inl rfl
  · exact .inl denied

variable [PyText] [AuditText] {room : Nat}

theorem evaluate_ok :
    evaluate builtinRules room call = .ok decision ↔
      ∃ audit, buildParamAudit room call.params = .ok audit ∧
        firstDecision call audit builtinRules = .ok decision := by
  unfold evaluate
  rw [Outcome.bind_ok, sortedRules_builtin]
  refine exists_congr fun audit => and_congr_right fun _ => ?_
  obtain ⟨made, decided⟩ := firstDecision_total audit (builtinRules_total call)
  rw [decided]
  rfl

theorem decide_ok :
    GovernedToolRegistry.decide_ room call = .ok decision ↔
      evaluate builtinRules room call = .ok decision := by
  unfold GovernedToolRegistry.decide_
  cases evaluated : evaluate builtinRules room call with
  | ok made => rfl
  | error raised =>
    dsimp only
    refine iff_of_false (fun impossible => ?_) (fun impossible => by cases impossible)
    split at impossible
    next =>
      obtain ⟨audit, audited, -⟩ := Outcome.bind_ok.mp impossible
      obtain ⟨made, decided⟩ :=
        firstDecision_total audit (builtinRules_total call)
      have ended := evaluate_ok.mpr ⟨audit, audited, decided⟩
      rw [ended] at evaluated
      cases evaluated
    next => cases impossible

theorem decide_exists :
    (∃ decision, GovernedToolRegistry.decide_ room call = .ok decision) ↔
      Auditable room call.params := by
  rw [← buildParamAudit_ok]
  simp only [decide_ok, evaluate_ok]
  constructor
  · rintro ⟨decision, audit, audited, -⟩
    exact ⟨audit, audited⟩
  · rintro ⟨audit, audited⟩
    obtain ⟨made, decided⟩ := firstDecision_total audit (builtinRules_total call)
    exact ⟨made, audit, audited, decided⟩

end Decisions

section Registries

variable [PyText] {name : PyString} {surface : ToolSurface}

def GovernedToolRegistry.Known (registry : GovernedToolRegistry) : Prop :=
  ∀ name tool, registry.tools.find? name = some tool →
    registry.manifestCache.manifests.find? name = some (cachedManifest tool registry.manifestCache.surface)

theorem cachedManifest_name (tool : Tool) : (cachedManifest tool surface).name = tool.name := by
  unfold cachedManifest
  dsimp only
  split <;> rfl

theorem cachedManifest_risk {tool : Tool} (classified : classifyRisk tool ≠ .unclassified) :
    (cachedManifest tool surface).riskLevel = classifyRisk tool := by
  have same : (discoverToolManifest tool surface).riskLevel = classifyRisk tool := rfl
  unfold cachedManifest
  dsimp only
  rw [same, if_neg classified]
  exact same

theorem find_register (cache : ManifestCache) (tool : Tool) (name : PyString) :
    (cache.register tool).manifests.find? name =
      if name = tool.name then some (cachedManifest tool cache.surface)
      else cache.manifests.find? name := by
  rw [ManifestCache.register, Table.find?_put, cachedManifest_name]

theorem find_registerAll (tools : List Tool) (distinct : (tools.map Tool.name).Nodup)
    (cache : ManifestCache) :
    (tools.foldl ManifestCache.register cache).surface = cache.surface ∧
      (∀ tool ∈ tools, (tools.foldl ManifestCache.register cache).manifests.find? tool.name =
        some (cachedManifest tool cache.surface)) ∧
      ∀ name ∉ tools.map Tool.name,
        (tools.foldl ManifestCache.register cache).manifests.find? name =
          cache.manifests.find? name := by
  induction tools generalizing cache with
  | nil => exact ⟨rfl, List.forall_mem_nil _, fun _ _ => rfl⟩
  | cons tool rest ih =>
    obtain ⟨fresh, others⟩ := List.nodup_cons.mp distinct
    obtain ⟨surface, found, absent⟩ := ih others (cache.register tool)
    refine ⟨surface, List.forall_mem_cons.mpr ⟨?_, found⟩, fun name missing => ?_⟩
    · rw [List.foldl_cons, absent tool.name fresh, find_register, if_pos rfl]
    · rw [List.map_cons, List.mem_cons, not_or] at missing
      rw [List.foldl_cons, absent name missing.2, find_register, if_neg missing.1]

theorem GovernedToolRegistry.Known.wrap (tools : Table PyString Tool Tool.name) :
    (GovernedToolRegistry.wrap tools surface).Known := by
  intro name tool found
  obtain ⟨kept, all, -⟩ := find_registerAll tools.rows tools.unique ⟨surface, .empty⟩
  obtain ⟨member, rfl⟩ := (Table.find?_eq_some tools name tool).mp found
  have cached := all tool member
  simp only [GovernedToolRegistry.wrap, ManifestCache.fromRegistry, kept]
  exact cached

theorem GovernedToolRegistry.Known.register {registry : GovernedToolRegistry}
    (known : registry.Known) (tool : Tool) : (registry.register tool).Known := by
  intro name other found
  simp only [GovernedToolRegistry.register, Table.find?_put] at found
  simp only [GovernedToolRegistry.register, find_register]
  split at found
  next same =>
    cases found
    rw [if_pos same]
    rfl
  next different =>
    rw [if_neg different]
    exact known name other found

variable [AuditText] {registry : GovernedToolRegistry} {context : RuntimeContext} {host : CallHost}
  {params : Members}

omit [PyText] [AuditText] in
variable (host) in
theorem deny_ends (recorder : DecisionRecorder) (decision : PolicyDecision) (status : TraceStatus)
    (shadow : Bool) :
    let ended := GovernedToolRegistry.deny recorder host decision status shadow
    ended.2.decisions = recorder.decisions ∧ ended.1 ≠ .delegated ∧
      ∀ raised, ended.1 ≠ .raised raised := by
  unfold GovernedToolRegistry.deny GovernedToolRegistry.recordDenied
  dsimp only
  cases host.write (.policyDenied status shadow decision.toolName decision.ruleId) with
  | ok => exact ⟨rfl, nofun, nofun⟩
  | error raised => exact ⟨rfl, nofun, nofun⟩

theorem execute_decided (active : context.mode ≠ .off) {decision : PolicyDecision}
    (decided : GovernedToolRegistry.decide_ host.room
      ⟨name, params, registry.manifestCache.get name, context⟩ = .ok decision) :
    (registry.execute context host name params).2.recorder.decisions =
        registry.recorder.decisions ++ [decision] ∧
      ((registry.execute context host name params).1 = .delegated →
        ¬ (decision.action = .deny ∧
          (context.mode = .enforce ∨ (registry.manifestCache.get name).riskLevel ∈ highRiskDeny))) ∧
      ∀ raised, (registry.execute context host name params).1 ≠ .raised raised := by
  unfold GovernedToolRegistry.execute GovernedToolRegistry.record
  rw [if_neg active]
  simp only [decided]
  cases host.write (.policyDecision decision) with
  | error raised => exact ⟨rfl, nofun, nofun⟩
  | ok =>
    dsimp only
    split
    next =>
      split
      next =>
        obtain ⟨decisions, held, calm⟩ :=
          deny_ends host ⟨registry.recorder.decisions ++ [decision],
            registry.recorder.records ++ [.policyDecision decision]⟩ decision .denied false
        exact ⟨decisions, fun delegated => absurd delegated held, calm⟩
      next =>
        obtain ⟨decisions, held, calm⟩ :=
          deny_ends host ⟨registry.recorder.decisions ++ [decision],
            registry.recorder.records ++ [.policyDecision decision]⟩ decision .skipped true
        exact ⟨decisions, fun delegated => absurd delegated held, calm⟩
    next passed => exact ⟨rfl, fun _ => passed, nofun⟩

-- What a call of execute owes: shell tools never run and trade writes run with all their checks,
-- what runs in enforce mode was decided by the policy, put on record and not denied, and nothing
-- else is raised than PolicyDenied.
structure Lawful (registry : GovernedToolRegistry) (context : RuntimeContext) (host : CallHost)
    (name : PyString) (params : Members) (ended : Execution × GovernedToolRegistry) : Prop where
  shell : ended.1 = .delegated → ∀ tool, registry.tools.find? name = some tool →
    classifyRisk tool ≠ .r5Shell
  trade : ended.1 = .delegated → ∀ tool, registry.tools.find? name = some tool →
    classifyRisk tool = .r4TradeWrite → ∀ check ∈ liveWriteChecks, checkState context check = true
  enforced : context.mode = .enforce → ended.1 = .delegated → ∃ decision,
    evaluate builtinRules host.room ⟨name, params, registry.manifestCache.get name, context⟩ =
        .ok decision ∧
      ended.2.recorder.decisions = registry.recorder.decisions ++ [decision] ∧
      decision.action ≠ .deny
  calm : ∀ raised, ended.1 ≠ .raised raised

omit [AuditText] in
theorem Known.risk (known : registry.Known) {tool : Tool}
    (found : registry.tools.find? name = some tool) (classified : classifyRisk tool ≠ .unclassified) :
    (registry.manifestCache.get name).riskLevel = classifyRisk tool := by
  rw [ManifestCache.get, known name tool found, Option.getD_some]
  exact cachedManifest_risk classified

theorem Lawful.decided (known : registry.Known) (active : context.mode ≠ .off)
    {decision : PolicyDecision}
    (decided : GovernedToolRegistry.decide_ host.room
      ⟨name, params, registry.manifestCache.get name, context⟩ = .ok decision) :
    Lawful registry context host name params (registry.execute context host name params) := by
  obtain ⟨recorded, passed, calm⟩ := execute_decided active decided
  obtain ⟨audit, -, first⟩ := evaluate_ok.mp (decide_ok.mp decided)
  refine ⟨fun delegated tool found risky => ?_, fun delegated tool found risky => ?_,
    fun enforcing delegated => ⟨decision, decide_ok.mp decided, recorded, fun denied => ?_⟩, calm⟩
  · have risk := Known.risk known found (by rw [risky]; decide)
    rw [risky] at risk
    exact passed delegated ⟨builtin_shell risk first, .inr (risk ▸ by decide)⟩
  · have risk := Known.risk known found (by rw [risky]; decide)
    rw [risky] at risk
    obtain denied | checked := builtin_trade risk first
    · exact absurd ⟨denied, .inr (risk ▸ by decide)⟩ (passed delegated)
    · exact checked
  · exact passed delegated ⟨denied, .inl enforcing⟩

theorem lawful_iff (known : registry.Known) (active : context.mode ≠ .off) :
    Lawful registry context host name params (registry.execute context host name params) ↔
      Auditable host.room params := by
  have audited : (∃ decision, GovernedToolRegistry.decide_ host.room
      ⟨name, params, registry.manifestCache.get name, context⟩ = .ok decision) ↔
      Auditable host.room params := decide_exists
  cases decided : GovernedToolRegistry.decide_ host.room
      ⟨name, params, registry.manifestCache.get name, context⟩ with
  | ok decision =>
    exact iff_of_true (.decided known active decided) (audited.mp ⟨decision, decided⟩)
  | error raised =>
    refine iff_of_false (fun lawful => ?_) (fun auditable => ?_)
    · refine lawful.calm raised ?_
      unfold GovernedToolRegistry.execute
      rw [if_neg active]
      simp only [decided]
    · obtain ⟨decision, impossible⟩ := audited.mpr auditable
      rw [decided] at impossible
      cases impossible

end Registries

section Runs

variable [PyText] [AuditText]

inductive RegistryEvent where
  | register (tool : Tool)
  | execute (context : RuntimeContext) (host : CallHost) (name : PyString) (params : Members)

def GovernedToolRegistry.step (registry : GovernedToolRegistry) :
    RegistryEvent → GovernedToolRegistry
  | .register tool => registry.register tool
  | .execute context host name params => (registry.execute context host name params).2

def GovernedToolRegistry.run (registry : GovernedToolRegistry) (events : List RegistryEvent) :
    GovernedToolRegistry :=
  events.foldl GovernedToolRegistry.step registry

theorem execute_keeps (registry : GovernedToolRegistry) (context : RuntimeContext) (host : CallHost)
    (name : PyString) (params : Members) :
    (registry.execute context host name params).2.tools = registry.tools ∧
      (registry.execute context host name params).2.manifestCache = registry.manifestCache := by
  unfold GovernedToolRegistry.execute
  split
  next => exact ⟨rfl, rfl⟩
  next =>
    dsimp only
    split
    next => exact ⟨rfl, rfl⟩
    next =>
      split
      next => exact ⟨rfl, rfl⟩
      next => split <;> exact ⟨rfl, rfl⟩

theorem GovernedToolRegistry.Known.run {registry : GovernedToolRegistry} (known : registry.Known)
    (events : List RegistryEvent) : (registry.run events).Known := by
  induction events generalizing registry with
  | nil => exact known
  | cons event rest ih =>
    refine ih ?_
    cases event with
    | register tool => exact known.register tool
    | execute context host name params =>
      obtain ⟨tools, cache⟩ := execute_keeps registry context host name params
      unfold GovernedToolRegistry.Known GovernedToolRegistry.step
      rw [tools, cache]
      exact known

theorem governed_calls (tools : Table PyString Tool Tool.name) (surface : ToolSurface)
    (events : List RegistryEvent) (context : RuntimeContext) (host : CallHost) (name : PyString)
    (params : Members) (active : context.mode ≠ .off) :
    let registry := (GovernedToolRegistry.wrap tools surface).run events
    Lawful registry context host name params (registry.execute context host name params) ↔
      Auditable host.room params :=
  lawful_iff ((GovernedToolRegistry.Known.wrap tools).run events) active

end Runs

section Examples

@[reducible] def quoteAudit : AuditText where
  repr _ := .empty
  repr_encodable _ := rfl
  sha256 payload :=
    if payload = ("\x7b\"params\":\x7b\"query\":\"AAPL\"\x7d\x7d" : PyString).points then
      "e76464197592d4f4a72ac65a9d0c948151a2c43c8f73511f67f04e147be1831a"
    else .empty

def quoteTool : Tool where
  name := "lookup"
  description := "Look a symbol up"
  className := "LookupTool"
  moduleName := "src.tools.lookup_tool"
  isReadonly := true
  repeatable := true
  timeoutSeconds := none
  liveClassification := none

def cliContext : RuntimeContext := ⟨.cli, .observe, none, none, [], [], []⟩

def quietHost : CallHost := ⟨900, none⟩

theorem governed_calls_quote :
    let _ := asciiText
    let _ := quoteAudit
    Lawful ((GovernedToolRegistry.wrap .empty .cli).run [.register quoteTool]) cliContext quietHost
      "lookup" [("query", .str "AAPL")]
      (((GovernedToolRegistry.wrap .empty .cli).run [.register quoteTool]).execute cliContext
        quietHost "lookup" [("query", .str "AAPL")]) := by
  intro _ _
  refine (governed_calls .empty .cli [.register quoteTool] cliContext quietHost "lookup"
    [("query", .str "AAPL")] (by decide)).mpr ⟨by decide +kernel, ?_⟩
  have plain : (auditedMembers 0 maxItems [("query", .str "AAPL")]).all (! isSurrogate ·) = true := by
    decide +kernel
  exact fun c member => by simpa using List.all_eq_true.mp plain c member

theorem governed_calls_fails :
    ¬ ∀ (_ : PyText) (_ : AuditText) (tools : Table PyString Tool Tool.name) (surface : ToolSurface)
      (events : List RegistryEvent) (context : RuntimeContext) (host : CallHost) (name : PyString)
      (params : Members), context.mode ≠ .off →
        Lawful ((GovernedToolRegistry.wrap tools surface).run events) context host name params
          (((GovernedToolRegistry.wrap tools surface).run events).execute context host name
            params) := by
  intro all
  let _ := asciiText
  let _ := quoteAudit
  have lawful := all asciiText quoteAudit .empty .cli [.register quoteTool] cliContext quietHost
    "lookup" [("query", .str ⟨[0xD800]⟩)] (by decide)
  have wrapped : (GovernedToolRegistry.wrap .empty .cli).Known := .wrap .empty
  have known := wrapped.run [.register quoteTool]
  obtain ⟨-, plain⟩ := (lawful_iff known (by decide)).mp lawful
  have listed : (auditedMembers 0 maxItems [("query", .str ⟨[0xD800]⟩)]).contains 0xD800 = true := by
    decide +kernel
  exact absurd (plain 0xD800 (List.contains_iff_mem.mp listed)) (by decide)

end Examples

end SynapseYield.Governance
