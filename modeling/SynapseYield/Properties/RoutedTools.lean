import Mathlib.Data.List.Nodup
import SynapseYield.Properties.LiveEntries

set_option autoImplicit false

namespace SynapseYield.Tools.McpRegistry

open Shared
open Config.Schema (MCPServerConfig Servers)

theorem append_assoc (first second third : PyString) :
    first ++ second ++ third = first ++ (second ++ third) :=
  congrArg PyString.mk (List.append_assoc _ _ _)

theorem append_cancel {front first second : PyString} (same : front ++ first = front ++ second) :
    first = second :=
  congrArg PyString.mk (List.append_cancel_left (congrArg PyString.points same))

theorem rest_of_same {front segment gap left right : PyString}
    (same : front ++ segment ++ "_" ++ left = front ++ (segment ++ "_" ++ gap) ++ "_" ++ right) :
    left = gap ++ "_" ++ right := by
  simp only [append_assoc] at same
  rw [append_assoc]
  exact append_cancel (append_cancel (append_cancel same))

theorem longer_segment {segment longer : PyString} {gap : List CodePoint}
    (equal : longer.points = segment.points ++ 95 :: gap) :
    longer = segment ++ "_" ++ ⟨gap⟩ := by
  rw [append_assoc]
  exact congrArg PyString.mk equal

section Spellings

variable [PyText] (digests : Digest)

def salted (name : PyString) (salt : Nat) : PyString :=
  sanitizeNameSegment name ++ "_" ++ digests.digest name salt

-- What a server is called after those before it: its sanitized name, where no other server has that
-- and none of them got it, else that name with the first digits that none of them got.
def ServerCalled (names : List PyString) (before : List (PyString × PyString))
    (name segment : PyString) : Prop :=
  if names.countP (fun other => sanitizeNameSegment other = sanitizeNameSegment name) = 1 ∧
      sanitizeNameSegment name ∉ before.map (·.2) then segment = sanitizeNameSegment name
  else Naming.First (· ∉ before.map (·.2)) (salted digests name) segment

-- What a tool is called after those of its server before it, where it may keep the name of a tool
-- that is listed twice.
def ToolCalled (before : List (PyString × PyString)) (tool name : PyString) : Prop :=
  Naming.Untaken before tool (sanitizeNameSegment tool) ∧ name = sanitizeNameSegment tool ∨
    ¬ Naming.Untaken before tool (sanitizeNameSegment tool) ∧
      Naming.First (Naming.Untaken before tool) (salted digests tool) name

def ServerNames (names : List PyString) (segments : List (PyString × PyString)) : Prop :=
  segments.map (·.1) = names ∧ Naming.InTurn (ServerCalled digests names) [] segments

def ToolNames (tools : List PyString) (named : List (PyString × PyString)) : Prop :=
  named.map (·.1) = tools ∧ Naming.InTurn (ToolCalled digests) [] named

variable {digests} {tries : Nat} {segments specs before named others : List (PyString × PyString)}
  {segment name tool : PyString} {names rest tools : List PyString}

theorem ServerNames.unique (first : ServerNames digests names segments)
    (second : ServerNames digests names others) : segments = others := by
  refine first.2.unique (fun before server name name' called called' => ?_) second.2
    (first.1.trans second.1.symm)
  unfold ServerCalled at called called'
  split at called
  next alone =>
    rw [if_pos alone] at called'
    exact called.trans called'.symm
  next shared =>
    rw [if_neg shared] at called'
    exact called.unique called'

theorem ToolNames.unique (first : ToolNames digests tools named)
    (second : ToolNames digests tools others) : named = others := by
  refine first.2.unique (fun before tool name name' called called' => ?_) second.2
    (first.1.trans second.1.symm)
  rcases called with ⟨open_, rfl⟩ | ⟨taken, first⟩
  · rcases called' with ⟨-, rfl⟩ | ⟨taken, -⟩
    · rfl
    · exact absurd open_ taken
  · rcases called' with ⟨open_, -⟩ | ⟨-, second⟩
    · exact absurd open_ taken
    · exact first.unique second

theorem ToolCalled.untaken (called : ToolCalled digests before tool name) :
    Naming.Untaken before tool name := by
  rcases called with ⟨open_, rfl⟩ | ⟨-, -, -, open_, -⟩
  · exact open_
  · exact open_

theorem ToolNames.functional (given : ToolNames digests tools named) : Naming.Functional named := by
  have empty : Naming.Functional ([] : List (PyString × PyString)) := fun _ member => by cases member
  have whole := given.2.functional (fun _ _ _ called => called.untaken) empty
  rwa [List.append_nil] at whole

theorem serverSegment_called
    (chosen : serverSegment digests tries names (before.map (·.2)) name = some segment) :
    ServerCalled digests names before name segment := by
  rw [serverSegment] at chosen
  rw [ServerCalled]
  split at chosen
  next alone =>
    cases chosen
    rw [if_pos alone]
  next shared =>
    rw [if_neg shared]
    obtain ⟨salt, -, rfl, passed⟩ := Naming.firstFree_least chosen
    refine ⟨salt, rfl, of_decide_eq_true (Naming.firstFree_some chosen).1, fun earlier less => ?_⟩
    exact of_decide_eq_false (passed earlier (Nat.zero_le _) less)

theorem resolveFrom_called
    (resolved : resolveFrom digests tries names rest (before.map (·.2)) = some segments) :
    segments.map (·.1) = rest ∧ Naming.InTurn (ServerCalled digests names) before segments := by
  induction rest generalizing before segments with
  | nil =>
    cases resolved
    exact ⟨rfl, trivial⟩
  | cons name rest ih =>
    obtain ⟨own, chosen, resolved⟩ := Option.bind_eq_some_iff.mp resolved
    obtain ⟨later, done, same⟩ := Option.bind_eq_some_iff.mp resolved
    cases same
    have others : later.map (·.1) = rest ∧
        Naming.InTurn (ServerCalled digests names) ((name, own) :: before) later := ih done
    exact ⟨congrArg (name :: ·) others.1, serverSegment_called chosen, others.2⟩

theorem resolve_names
    (resolved : resolveMcpServerToolNameSegments digests tries names = some segments) :
    ServerNames digests names segments :=
  @resolveFrom_called _ _ _ _ [] _ _ resolved

theorem serverSegment_fresh {used : List PyString}
    (chosen : serverSegment digests tries names used name = some segment) : segment ∉ used := by
  rw [serverSegment] at chosen
  split at chosen
  next alone =>
    cases chosen
    exact alone.2
  next => exact of_decide_eq_true (Naming.firstFree_some chosen).1

theorem resolveFrom_distinct {used : List PyString}
    (resolved : resolveFrom digests tries names rest used = some segments) :
    (segments.map (·.2)).Nodup ∧ ∀ entry ∈ segments, entry.2 ∉ used := by
  induction rest generalizing used segments with
  | nil =>
    cases resolved
    exact ⟨.nil, List.forall_mem_nil _⟩
  | cons name rest ih =>
    obtain ⟨own, chosen, resolved⟩ := Option.bind_eq_some_iff.mp resolved
    obtain ⟨later, done, same⟩ := Option.bind_eq_some_iff.mp resolved
    cases same
    obtain ⟨distinct, fresh⟩ := ih done
    refine ⟨?_, ?_⟩
    · refine List.nodup_cons.mpr ⟨fun taken => ?_, distinct⟩
      obtain ⟨entry, member, same⟩ := List.mem_map.mp taken
      exact fresh entry member (same ▸ List.mem_cons_self)
    · refine List.forall_mem_cons.mpr ⟨serverSegment_fresh chosen, fun entry member taken => ?_⟩
      exact fresh entry member (List.mem_cons_of_mem _ taken)

omit [PyText] in
theorem mem_of_lookup {α β : Type} [BEq α] [LawfulBEq α] {entries : List (α × β)} {key : α}
    {value : β} (found : entries.lookup key = some value) : (key, value) ∈ entries := by
  obtain ⟨before, after, rfl, -⟩ := List.lookup_eq_some_iff.mp found
  exact List.mem_append_right before List.mem_cons_self

def fullName (front : PyString) (entry : PyString × PyString) : PyString × PyString :=
  (front ++ entry.2, entry.1)

omit [PyText] in
theorem untaken_iff (front : PyString) (functional : Naming.Functional before) :
    Naming.Untaken before tool name ↔ ∀ existing,
      (before.map (fullName front)).lookup (front ++ name) = some existing → existing = tool := by
  constructor
  · intro open_ existing found
    obtain ⟨entry, member, same⟩ := List.mem_map.mp (mem_of_lookup found)
    obtain ⟨called, rfl⟩ := Prod.mk.inj same
    exact open_ entry member (append_cancel called)
  · rintro only entry member rfl
    cases found : (before.map (fullName front)).lookup (front ++ entry.2) with
    | none =>
      have missing := List.lookup_eq_none_iff.mp found _ (List.mem_map_of_mem member)
      simp [fullName] at missing
    | some existing =>
      obtain ⟨other, present, same⟩ := List.mem_map.mp (mem_of_lookup found)
      obtain ⟨called, rfl⟩ := Prod.mk.inj same
      rw [← only _ found]
      exact functional _ member _ present (append_cancel called).symm

theorem dedupe_called {front : PyString} (functional : Naming.Functional before)
    (deduped : dedupeLocalToolName digests tries (front ++ sanitizeNameSegment tool) tool
      (before.map (fullName front)) = some name) :
    ∃ spelling, name = front ++ spelling ∧ ToolCalled digests before tool spelling := by
  rw [dedupeLocalToolName] at deduped
  split at deduped
  next unseen =>
    cases deduped
    refine ⟨_, rfl, .inl ⟨(untaken_iff front functional).mpr fun existing found => ?_, rfl⟩⟩
    cases unseen.symm.trans found
  next existing found =>
    split at deduped
    next same =>
      cases deduped
      refine ⟨_, rfl, .inl ⟨(untaken_iff front functional).mpr fun other again => ?_, rfl⟩⟩
      exact (Option.some.inj (again.symm.trans found)).trans same
    next different =>
      obtain ⟨salt, -, rfl, passed⟩ := Naming.firstFree_least deduped
      have written (salt : Nat) : front ++ sanitizeNameSegment tool ++ "_" ++
          digests.digest tool salt = front ++ salted digests tool salt := by
        rw [salted, append_assoc, append_assoc, append_assoc]
      have free (salt : Nat) : Naming.Untaken before tool (salted digests tool salt) ↔
          (! ((before.map (fullName front)).lookup (front ++ salted digests tool salt)).any
            (· ≠ tool)) = true := by
        rw [untaken_iff front functional]
        cases (before.map (fullName front)).lookup (front ++ salted digests tool salt) <;> simp
      refine ⟨_, written salt, .inr ⟨fun open_ => different ?_, salt, rfl, ?_, ?_⟩⟩
      · exact (untaken_iff front functional).mp open_ _ found
      · rw [free, ← written]
        exact (Naming.firstFree_some deduped).1
      · intro earlier less
        rw [free, ← written]
        exact Bool.eq_false_iff.mp (passed earlier (Nat.zero_le _) less)

theorem specsFrom_called {front : PyString} (prefixed : front = "mcp_" ++ segment ++ "_")
    (shaped : isSegment segment = true) (functional : Naming.Functional before)
    (found : specsFrom digests tries segment rest (before.map (fullName front)) = some specs) :
    ∃ named, specs = named.map (fullName front) ∧ named.map (·.1) = rest ∧
      Naming.InTurn (ToolCalled digests) before named := by
  induction rest generalizing before specs with
  | nil =>
    cases found
    exact ⟨[], rfl, rfl, trivial⟩
  | cons tool rest ih =>
    obtain ⟨localName, deduped, found⟩ := Option.bind_eq_some_iff.mp found
    obtain ⟨later, done, same⟩ := Option.bind_eq_some_iff.mp found
    cases same
    have candidate : makeMcpToolName segment tool = front ++ sanitizeNameSegment tool := by
      rw [makeMcpToolName, sanitize_eq shaped, prefixed]
    rw [candidate] at deduped
    obtain ⟨spelling, rfl, called⟩ := dedupe_called functional deduped
    obtain ⟨named, rfl, listed, turns⟩ :=
      @ih _ ((tool, spelling) :: before) (functional.cons called.untaken) done
    exact ⟨(tool, spelling) :: named, rfl, congrArg (tool :: ·) listed, called, turns⟩

end Spellings

section Routes

variable [PyText] (digests : Digest) (tries : Nat) (live : PyString → PyString → Bool)
  (listTools : PyString → Option (List PyString)) (servers : Servers)

def Assigned (entry : PyString × Tool) : Prop :=
  ∃ segments, resolveMcpServerToolNameSegments digests tries (servers.map (·.1)) = some segments ∧
    ∃ server ∈ servers, ∃ entries,
      serverEntries digests tries live listTools segments server = some entries ∧ entry ∈ entries

/-- Each name is given to one tool, and each tool is in the registry under its name. -/
structure Routed (full : Registry) : Prop where
  distinct : ∀ first second, Assigned digests tries live listTools servers first →
    Assigned digests tries live listTools servers second → first.1 = second.1 →
      first.2 = second.2
  present : ∀ server ∈ servers, ∀ tool ∈ discoveredTools live listTools server, ∃ name,
    Assigned digests tries live listTools servers (name, .remote server.1 tool) ∧
      full.lookup name = some (.remote server.1 tool)

-- The segment of one server goes on in that of another, and a tool of the first is called like the
-- rest with a tool of the second.
def Clash (first second : PyString × MCPServerConfig) : Prop :=
  ∃ segments, ServerNames digests (servers.map (·.1)) segments ∧ ∃ segment gap,
    (first.1, segment) ∈ segments ∧ (second.1, segment ++ "_" ++ gap) ∈ segments ∧
    ∃ lefts rights, ToolNames digests (discoveredTools live listTools first) lefts ∧
      ToolNames digests (discoveredTools live listTools second) rights ∧
      ∃ left ∈ lefts, ∃ right ∈ rights, left.2 = gap ++ "_" ++ right.2

variable {digests tries live listTools servers} {locals full : Registry}
  {segments : List (PyString × PyString)} {name : PyString} {tool : Tool}
  {entries : List (PyString × Tool)}

omit [PyText] in
theorem foldl_lookup {registry : Registry}
    (agree : ∀ entry ∈ entries, entry.1 = name → entry.2 = tool)
    (given : registry.lookup name = some tool ∨ (name, tool) ∈ entries) :
    (entries.foldl Registry.register registry).lookup name = some tool := by
  induction entries generalizing registry with
  | nil =>
    rcases given with held | member
    · exact held
    · cases member
  | cons entry rest ih =>
    obtain ⟨own, agree⟩ := List.forall_mem_cons.mp agree
    refine ih agree ?_
    rw [lookup_register]
    by_cases same : name = entry.1
    · exact .inl ((if_pos same).trans (congrArg some (own same.symm)))
    · rw [if_neg same]
      refine given.imp_right fun member => ?_
      rcases List.mem_cons.mp member with rfl | later
      · exact absurd rfl same
      · exact later

theorem registerServers_lookup
    (agree : ∀ server ∈ servers, ∀ entries,
      serverEntries digests tries live listTools segments server = some entries →
        ∀ entry ∈ entries, entry.1 = name → entry.2 = tool)
    (given : locals.lookup name = some tool ∨ ∃ server ∈ servers, ∃ entries,
      serverEntries digests tries live listTools segments server = some entries ∧
        (name, tool) ∈ entries)
    (built : registerServers digests tries live listTools segments servers locals = some full) :
    full.lookup name = some tool := by
  induction servers generalizing locals with
  | nil =>
    cases built
    rcases given with held | ⟨server, member, -⟩
    · exact held
    · cases member
  | cons server rest ih =>
    obtain ⟨entries, found, built⟩ := Option.bind_eq_some_iff.mp built
    obtain ⟨own, agree⟩ := List.forall_mem_cons.mp agree
    refine ih agree ?_ built
    rcases given with held | ⟨other, member, others, registered, listed⟩
    · exact .inl (foldl_lookup (own entries found) (.inl held))
    · rcases List.mem_cons.mp member with rfl | later
      · cases found.symm.trans registered
        exact .inl (foldl_lookup (own entries found) (.inr listed))
      · exact .inr ⟨other, later, others, registered, listed⟩

theorem serverEntries_named {server : PyString × MCPServerConfig}
    (shaped : ∀ entry ∈ segments, isSegment entry.2 = true)
    (found : serverEntries digests tries live listTools segments server = some entries) :
    ∃ segment named, (server.1, segment) ∈ segments ∧
      ToolNames digests (discoveredTools live listTools server) named ∧
      entries = named.map fun entry =>
        ("mcp_" ++ segment ++ "_" ++ entry.2, .remote server.1 entry.1) := by
  obtain ⟨segment, given, found⟩ := Option.bind_eq_some_iff.mp found
  obtain ⟨specs, specified, same⟩ := Option.bind_eq_some_iff.mp found
  cases same
  have held := mem_of_lookup given
  obtain ⟨named, rfl, listed, turns⟩ := @specsFrom_called _ _ _ _ [] _ _ _ rfl (shaped _ held)
    (fun _ member => by cases member) specified
  refine ⟨segment, named, held, ⟨listed, turns⟩, ?_⟩
  rw [List.map_map]
  rfl

theorem clash_of_same {first second : PyString × MCPServerConfig} {left right : PyString × PyString}
    {leftSegment rightSegment : PyString} {lefts rights : List (PyString × PyString)}
    (servedBy : ServerNames digests (servers.map (·.1)) segments)
    (leftServer : (first.1, leftSegment) ∈ segments)
    (rightServer : (second.1, rightSegment) ∈ segments)
    (leftTools : ToolNames digests (discoveredTools live listTools first) lefts)
    (rightTools : ToolNames digests (discoveredTools live listTools second) rights)
    (leftListed : left ∈ lefts) (rightListed : right ∈ rights)
    (same : ("mcp_" : PyString) ++ leftSegment ++ "_" ++ left.2 =
      "mcp_" ++ rightSegment ++ "_" ++ right.2) :
    leftSegment = rightSegment ∨ Clash digests live listTools servers first second ∨
      Clash digests live listTools servers second first := by
  have joined := same
  rw [append_assoc, append_assoc, append_assoc, append_assoc] at joined
  rcases Naming.join_eq (congrArg PyString.points (append_cancel joined)) with
    equal | ⟨gap, equal⟩ | ⟨gap, equal⟩
  · exact .inl (congrArg PyString.mk equal)
  · have whole := longer_segment equal
    subst whole
    exact .inr (.inr ⟨segments, servedBy, rightSegment, ⟨gap⟩, rightServer, leftServer, rights,
      lefts, rightTools, leftTools, right, rightListed, left, leftListed, rest_of_same same.symm⟩)
  · have whole := longer_segment equal
    subst whole
    exact .inr (.inl ⟨segments, servedBy, leftSegment, ⟨gap⟩, leftServer, rightServer, lefts,
      rights, leftTools, rightTools, left, leftListed, right, rightListed, rest_of_same same⟩)

theorem assigned_agree {first second : PyString × MCPServerConfig} {others : List (PyString × Tool)}
    {left right : PyString × Tool} (keyed : (servers.map (·.1)).Nodup)
    (apart : ∀ first ∈ servers, ∀ second ∈ servers,
      ¬ Clash digests live listTools servers first second)
    (resolved : resolveMcpServerToolNameSegments digests tries (servers.map (·.1)) = some segments)
    (firstServer : first ∈ servers) (secondServer : second ∈ servers)
    (firstFound : serverEntries digests tries live listTools segments first = some entries)
    (secondFound : serverEntries digests tries live listTools segments second = some others)
    (leftListed : left ∈ entries) (rightListed : right ∈ others) (same : left.1 = right.1) :
    left.2 = right.2 := by
  have shaped := resolveFrom_segments resolved
  obtain ⟨leftSegment, lefts, leftHeld, leftTools, rfl⟩ := serverEntries_named shaped firstFound
  obtain ⟨rightSegment, rights, rightHeld, rightTools, rfl⟩ :=
    serverEntries_named shaped secondFound
  obtain ⟨leftEntry, leftCalled, rfl⟩ := List.mem_map.mp leftListed
  obtain ⟨rightEntry, rightCalled, rfl⟩ := List.mem_map.mp rightListed
  rcases clash_of_same (resolve_names resolved) leftHeld rightHeld leftTools rightTools leftCalled
    rightCalled same with shared | clash | clash
  · -- One segment is one server's, and its tools have names of their own.
    obtain ⟨segmented, -⟩ := resolveFrom_distinct resolved
    have one : first.1 = second.1 :=
      (Prod.mk.inj (List.inj_on_of_nodup_map segmented leftHeld rightHeld shared)).1
    obtain rfl := List.inj_on_of_nodup_map keyed firstServer secondServer one
    subst shared
    obtain rfl := leftTools.unique rightTools
    have spelled := append_cancel same
    exact congrArg (Tool.remote first.1)
      (leftTools.functional _ leftCalled _ rightCalled spelled)
  · exact absurd clash (apart first firstServer second secondServer)
  · exact absurd clash (apart second secondServer first firstServer)

theorem routed_of_apart (keyed : (servers.map (·.1)).Nodup)
    (apart : ∀ first ∈ servers, ∀ second ∈ servers,
      ¬ Clash digests live listTools servers first second)
    (built : buildRegistry digests tries live listTools locals servers none = some full) :
    Routed digests tries live listTools servers full := by
  obtain ⟨segments, resolved, registered⟩ := Option.bind_eq_some_iff.mp built
  constructor
  · rintro left right ⟨_, again, first, firstServer, entries, firstFound, leftListed⟩
      ⟨_, also, second, secondServer, others, secondFound, rightListed⟩
    cases resolved.symm.trans again
    cases resolved.symm.trans also
    exact assigned_agree keyed apart resolved firstServer secondServer firstFound secondFound
      leftListed rightListed
  · intro server member tool enabled
    obtain ⟨entries, found⟩ := Config.Schema.registerServers_entries registered member
    obtain ⟨segment, named, -, tools, same⟩ :=
      serverEntries_named (resolveFrom_segments resolved) found
    rw [← tools.1] at enabled
    obtain ⟨entry, present, rfl⟩ := List.mem_map.mp enabled
    have listed : ("mcp_" ++ segment ++ "_" ++ entry.2, Tool.remote server.1 entry.1) ∈ entries := by
      rw [same]
      exact List.mem_map_of_mem present
    refine ⟨_, ⟨segments, resolved, server, member, entries, found, listed⟩, ?_⟩
    refine registerServers_lookup (fun other present others found' entry also same => ?_)
      (.inr ⟨server, member, entries, found, listed⟩) registered
    exact assigned_agree keyed apart resolved present member found' found also listed same

theorem assigned_named {server : PyString × MCPServerConfig} {segment : PyString}
    {named : List (PyString × PyString)} {entry : PyString × PyString}
    (built : buildRegistry digests tries live listTools locals servers none = some full)
    (servedBy : ServerNames digests (servers.map (·.1)) segments)
    (keyed : (servers.map (·.1)).Nodup) (member : server ∈ servers)
    (given : (server.1, segment) ∈ segments)
    (tools : ToolNames digests (discoveredTools live listTools server) named)
    (listed : entry ∈ named) :
    Assigned digests tries live listTools servers
      ("mcp_" ++ segment ++ "_" ++ entry.2, .remote server.1 entry.1) := by
  obtain ⟨resolvedSegments, resolved, registered⟩ := Option.bind_eq_some_iff.mp built
  obtain rfl := servedBy.unique (resolve_names resolved)
  obtain ⟨entries, found⟩ := Config.Schema.registerServers_entries registered member
  obtain ⟨own, others, held, tools', same⟩ :=
    serverEntries_named (resolveFrom_segments resolved) found
  obtain rfl := tools.unique tools'
  have named : (segments.map (·.1)).Nodup := servedBy.1 ▸ keyed
  obtain rfl : segment = own :=
    congrArg Prod.snd (List.inj_on_of_nodup_map named given held rfl)
  refine ⟨segments, resolved, server, member, entries, found, ?_⟩
  rw [same]
  exact List.mem_map_of_mem listed

theorem unrouted_of_clash {first second : PyString × MCPServerConfig}
    (keyed : (servers.map (·.1)).Nodup) (firstServer : first ∈ servers)
    (secondServer : second ∈ servers) (clash : Clash digests live listTools servers first second)
    (built : buildRegistry digests tries live listTools locals servers none = some full) :
    ¬ Routed digests tries live listTools servers full := by
  intro routed
  obtain ⟨segments, servedBy, segment, gap, firstHeld, secondHeld, lefts, rights, leftTools,
    rightTools, left, leftListed, right, rightListed, rest⟩ := clash
  have leftAssigned :=
    assigned_named built servedBy keyed firstServer firstHeld leftTools leftListed
  have rightAssigned :=
    assigned_named built servedBy keyed secondServer secondHeld rightTools rightListed
  have same : ("mcp_" : PyString) ++ segment ++ "_" ++ left.2 =
      "mcp_" ++ (segment ++ "_" ++ gap) ++ "_" ++ right.2 := by
    rw [rest]
    simp only [append_assoc]
  obtain ⟨server, -⟩ := Tool.remote.inj (routed.distinct _ _ leftAssigned rightAssigned same)
  have named : (segments.map (·.1)).Nodup := servedBy.1 ▸ keyed
  have longer : segment = segment ++ "_" ++ gap :=
    congrArg Prod.snd (List.inj_on_of_nodup_map named firstHeld secondHeld server)
  have lengths := congrArg (fun text : PyString => text.points.length) longer
  change _ = (segment.points ++ [95] ++ gap.points).length at lengths
  rw [List.append_assoc, List.length_append, List.length_append, List.length_singleton] at lengths
  omega

theorem routed_iff (keyed : (servers.map (·.1)).Nodup)
    (built : buildRegistry digests tries live listTools locals servers none = some full) :
    Routed digests tries live listTools servers full ↔ ∀ first ∈ servers, ∀ second ∈ servers,
      ¬ Clash digests live listTools servers first second :=
  ⟨fun routed _ firstServer _ secondServer clash =>
    unrouted_of_clash keyed firstServer secondServer clash built routed,
    fun apart => routed_of_apart keyed apart built⟩

end Routes

section Shadowed

def roomyServers : Servers :=
  [("foo", ⟨"https://foo.example", ["*"], none⟩), ("foo bar", ⟨"https://bar.example", ["*"], none⟩)]

def fooTools : List PyString := ["bar", "Bar"]

def fooNames : List (PyString × PyString) := [("bar", "bar"), ("Bar", "bar_00000000")]

def fooBarTools : List PyString := ["x"]

def fooBarNames : List (PyString × PyString) := [("x", "x")]

def roomyTools (serverName : PyString) : Option (List PyString) :=
  if serverName = "foo" then some fooTools else some fooBarTools

def roomyRegistry : Registry :=
  [("mcp_foo_bar", .remote "foo" "bar"), ("mcp_foo_bar_00000000", .remote "foo" "Bar"),
    ("mcp_foo_bar_x", .remote "foo bar" "x")]

def roomySegments : List (PyString × PyString) := [("foo", "foo"), ("foo bar", "foo_bar")]

-- The second tool of foo gets digits, as the first one has its name.
theorem roomy_names :
    @ToolNames asciiText zeroDigest fooTools fooNames ∧
      @ToolNames asciiText zeroDigest fooBarTools fooBarNames := by
  let text := asciiText
  have empty (tool name : PyString) : Naming.Untaken [] tool name := fun _ member => by cases member
  refine ⟨⟨rfl, .inl ⟨empty _ _, by decide +kernel⟩, .inr ⟨fun open_ => ?_, 0, by decide +kernel, ?_,
    fun _ less => absurd less (Nat.not_lt_zero _)⟩, trivial⟩, rfl, .inl ⟨empty _ _, by decide +kernel⟩,
    trivial⟩
  · exact absurd (open_ ("bar", "bar") List.mem_cons_self (by decide +kernel)) (by decide)
  · intro entry member same
    rw [List.mem_singleton.mp member] at same
    exact absurd same (by decide)

theorem roomy_segment {server segment : PyString} (held : (server, segment) ∈ roomySegments) :
    server = "foo" ∧ segment = "foo" ∨ server = "foo bar" ∧ segment = "foo_bar" := by
  simpa [roomySegments] using held

theorem roomy_discovered : ∀ server ∈ roomyServers,
    (server.1 = "foo" → discoveredTools (fun _ _ => false) roomyTools server = fooTools) ∧
      (server.1 = "foo bar" → discoveredTools (fun _ _ => false) roomyTools server = fooBarTools) := by
  decide +kernel

-- Only the segment of foo goes on, in the one of foo bar, and none of its tools has a name that
-- begins with the rest and an underscore.
theorem roomy_apart (first : PyString × MCPServerConfig) (left : first ∈ roomyServers)
    (second : PyString × MCPServerConfig) (right : second ∈ roomyServers) :
    ¬ @Clash asciiText zeroDigest (fun _ _ => false) roomyTools roomyServers first second := by
  let text := asciiText
  rintro ⟨segments, servedBy, segment, gap, firstHeld, secondHeld, lefts, rights, leftTools,
    rightTools, one, oneListed, two, twoListed, rest⟩
  have resolved : resolveMcpServerToolNameSegments zeroDigest 1 (roomyServers.map (·.1)) =
      some roomySegments := by decide +kernel
  obtain rfl := servedBy.unique (resolve_names resolved)
  have longer (name : PyString) (same : segment ++ "_" ++ gap = name) :
      segment.points.length + 1 + gap.points.length = name.points.length := by
    rw [← same]
    change _ = (segment.points ++ [95] ++ gap.points).length
    rw [List.length_append, List.length_append, List.length_singleton]
  obtain ⟨foo, rfl⟩ | ⟨-, rfl⟩ := roomy_segment firstHeld
  · obtain ⟨-, same⟩ | ⟨fooBar, same⟩ := roomy_segment secondHeld
    · exact absurd (longer _ same) (by change 3 + 1 + _ ≠ 3; omega)
    · obtain rfl : gap = "bar" := @append_cancel "foo_" gap "bar" same
      have fooCalled := roomy_names.1
      rw [← (roomy_discovered first left).1 foo] at fooCalled
      have fooBarCalled := roomy_names.2
      rw [← (roomy_discovered second right).2 fooBar] at fooBarCalled
      obtain rfl := leftTools.unique fooCalled
      obtain rfl := rightTools.unique fooBarCalled
      rw [List.mem_singleton.mp twoListed] at rest
      simp only [fooNames, List.mem_cons, List.not_mem_nil, or_false] at oneListed
      obtain rfl | rfl := oneListed
      · exact absurd rest (by decide)
      · exact absurd rest (by decide)
  · obtain ⟨-, same⟩ | ⟨-, same⟩ := roomy_segment secondHeld
    · exact absurd (longer _ same) (by change 7 + 1 + _ ≠ 3; omega)
    · exact absurd (longer _ same) (by change 7 + 1 + _ ≠ 7; omega)

theorem roomyServers_routed :
    @Routed asciiText zeroDigest 1 (fun _ _ => false) roomyTools roomyServers roomyRegistry :=
  (@routed_iff asciiText zeroDigest 1 (fun _ _ => false) roomyTools roomyServers [] roomyRegistry
    (by decide) (by decide +kernel)).mpr roomy_apart

def fooEntries : List (PyString × Tool) :=
  [("mcp_foo_bar_x", .remote "foo" "bar_x"), ("mcp_foo_bar_x_00000000", .remote "foo" "Bar X")]

theorem shadow_assigned (tool : Tool)
    (given : tool = .remote "foo" "bar_x" ∨ tool = .remote "foo bar" "x") :
    @Assigned asciiText zeroDigest 1 (fun _ _ => false) shadowTools shadowServers
      ("mcp_foo_bar_x", tool) := by
  refine ⟨[("foo", "foo"), ("foo bar", "foo_bar"), ("other", "other")], by decide +kernel, ?_⟩
  rcases given with rfl | rfl
  · exact ⟨_, List.mem_cons_self, fooEntries, by decide +kernel, List.mem_cons_self⟩
  · exact ⟨_, List.mem_cons_of_mem _ List.mem_cons_self,
      [("mcp_foo_bar_x", .remote "foo bar" "x")], by decide +kernel, List.mem_cons_self⟩

theorem shadowServers_unrouted :
    @buildRegistry asciiText zeroDigest 1 (fun _ _ => false) shadowTools shadowLocals shadowServers
      none = some shadowRegistry ∧
      ¬ @Routed asciiText zeroDigest 1 (fun _ _ => false) shadowTools shadowServers
        shadowRegistry := by
  let text := asciiText
  refine ⟨by decide +kernel, fun routed => ?_⟩
  have same := routed.distinct _ _ (shadow_assigned _ (.inl rfl)) (shadow_assigned _ (.inr rfl)) rfl
  exact absurd same (by decide)

end Shadowed

end SynapseYield.Tools.McpRegistry
