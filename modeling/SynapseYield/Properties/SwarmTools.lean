import SynapseYield.Tools.McpRegistry

set_option autoImplicit false

namespace SynapseYield.Tools.McpRegistry

open Shared
open Config.Schema (MCPServerConfig Servers)

section Segments

def isSegment (segment : PyString) : Bool := Naming.isWords isNameChar 95 segment.points

variable {points : List CodePoint} {inGap : Bool}

theorem subGaps_spaced : Naming.spaced isNameChar 95 inGap (subGaps inGap points) = true := by
  induction points generalizing inGap with
  | nil => rfl
  | cons c rest ih =>
    rw [subGaps]
    split
    next name =>
      have other : c ≠ 95 := by
        rintro rfl
        exact absurd name (by decide)
      rw [Naming.spaced, if_neg other, name, ih]
      rfl
    next =>
      split
      next gap =>
        subst gap
        exact ih
      next letters =>
        rw [Naming.spaced, if_pos rfl, Bool.eq_false_iff.mpr letters, ih]
        rfl

theorem subGaps_eq (words : Naming.wordsFrom isNameChar 95 inGap points = true) :
    subGaps inGap points = points := by
  induction points generalizing inGap with
  | nil => rfl
  | cons c rest ih =>
    rw [Naming.wordsFrom] at words
    split at words
    next same =>
      subst same
      rw [Bool.and_eq_true, Bool.not_eq_true'] at words
      rw [subGaps, if_neg (by decide), words.1, if_neg Bool.false_ne_true, ih words.2]
    next =>
      rw [Bool.and_eq_true] at words
      rw [subGaps, if_pos words.1, ih words.2]

theorem spaced_dropWhile (loose : Naming.spaced isNameChar 95 false points = true) :
    Naming.spaced isNameChar 95 true (points.dropWhile (· = 95)) = true := by
  cases points with
  | nil => rfl
  | cons c rest =>
    rw [Naming.spaced] at loose
    split at loose
    next same =>
      have later : Naming.spaced isNameChar 95 true rest = true := loose
      subst same
      rw [List.dropWhile_cons_of_pos (by decide)]
      cases rest with
      | nil => rfl
      | cons d rest =>
        have other : d ≠ 95 := by
          rintro rfl
          cases later
        rwa [List.dropWhile_cons_of_neg (by simpa using other)]
    next other =>
      rw [List.dropWhile_cons_of_neg (by simpa using other), Naming.spaced, if_neg other]
      exact loose

theorem stripUnderscores_words (loose : Naming.spaced isNameChar 95 false points = true)
    (filled : stripUnderscores points ≠ []) :
    Naming.isWords isNameChar 95 (stripUnderscores points) = true := by
  have inner := List.dropWhile_suffix (l := (points.dropWhile (· = 95)).reverse)
    fun c : CodePoint => decide (c = 95)
  have front := List.reverse_prefix.mpr inner
  rw [List.reverse_reverse] at front
  obtain ⟨rest, whole⟩ := front
  have kept := spaced_dropWhile loose
  rw [← whole] at kept
  refine Naming.words_of_spaced (Naming.spaced_append_left kept) filled ?_
  rw [stripUnderscores, List.getLast?_reverse]
  intro head
  have stopped := List.head?_dropWhile_not (fun c : CodePoint => decide (c = 95))
    (points.dropWhile (· = 95)).reverse
  rw [head] at stopped
  exact absurd stopped (by decide)

theorem stripUnderscores_eq (words : Naming.isWords isNameChar 95 points = true) :
    stripUnderscores points = points := by
  have kept : ∀ {points : List CodePoint}, points.head? ≠ some 95 →
      points.dropWhile (· = 95) = points := by
    intro points starts
    cases points with
    | nil => rfl
    | cons c rest =>
      refine List.dropWhile_cons_of_neg ?_
      simpa using starts
  obtain ⟨filled, starts⟩ := Naming.words_head words
  have ends := Naming.words_last words filled
  rw [stripUnderscores, kept starts, kept (by rwa [List.head?_reverse]), List.reverse_reverse]

variable [PyText] {segment name : PyString}

theorem sanitize_segment (value : PyString) : isSegment (sanitizeNameSegment value) = true := by
  rw [sanitizeNameSegment]
  split
  · decide
  next filled => exact stripUnderscores_words subGaps_spaced filled

omit [PyText] in
theorem segment_range (given : isSegment segment = true) :
    ∀ c ∈ segment.points, 48 ≤ c.val ∧ c.val ≤ 57 ∨ 95 ≤ c.val ∧ c.val ≤ 122 := by
  intro c member
  rcases Naming.words_letters given c member with rfl | name
  · exact .inr ⟨by decide, by decide⟩
  · rw [isNameChar, Bool.or_eq_true] at name
    rcases name with lower | digit
    · have range : 97 ≤ c.val ∧ c.val ≤ 122 := by
        simpa only [Ascii.isLower, Bool.and_eq_true, decide_eq_true_eq] using lower
      omega
    · have range : 48 ≤ c.val ∧ c.val ≤ 57 := by
        simpa only [Ascii.isDigit, Bool.and_eq_true, decide_eq_true_eq] using digit
      omega

theorem sanitize_eq (given : isSegment segment = true) : sanitizeNameSegment segment = segment := by
  have range := segment_range given
  have ascii : segment.isAscii = true := by
    refine List.all_eq_true.mpr fun c member => decide_eq_true ?_
    have := range c member
    omega
  have solid : ∀ points : List CodePoint, points ⊆ segment.points →
      points.dropWhile Ascii.isSpace = points := by
    intro points within
    cases points with
    | nil => rfl
    | cons c rest =>
      refine List.dropWhile_cons_of_neg ?_
      have := range c (within List.mem_cons_self)
      simp only [Ascii.isSpace, Bool.or_eq_true, Bool.and_eq_true, decide_eq_true_eq, Fin.ext_iff]
      change ¬ ((c.val = 32 ∨ _) ∨ _)
      omega
  have stripped : segment.strip = segment := by
    rw [PyString.strip, if_pos ascii, Ascii.strip, solid _ (List.Subset.refl _),
      solid _ (List.reverse_subset.mpr (List.Subset.refl _)), List.reverse_reverse]
  have lowered : segment.lower = segment := by
    have same : segment.points.map (fun c => if Ascii.isUpper c then c + 32 else c) =
        segment.points := by
      refine (List.map_congr_left fun c member => ?_).trans (List.map_id _)
      have := range c member
      refine if_neg ?_
      simp only [Ascii.isUpper, Bool.and_eq_true, decide_eq_true_eq]
      omega
    rw [PyString.lower, if_pos ascii, Ascii.lower, same]
  rw [sanitizeNameSegment, stripped, lowered,
    subGaps_eq (Naming.words_of_spaced (Naming.spaced_weaken (Naming.spaced_of_words given))
      (Naming.words_head given).1 (Naming.words_last given (Naming.words_head given).1)),
    stripUnderscores_eq given]
  exact if_neg (Naming.words_head given).1

omit [PyText] in
theorem segment_append (given : isSegment segment = true) (digests : Digest) (salt : Nat) :
    isSegment (segment ++ "_" ++ digests.digest name salt) = true := by
  obtain ⟨filled, digits⟩ := digests.hex name salt
  have whole : (segment ++ "_" ++ digests.digest name salt).points =
      segment.points ++ 95 :: (digests.digest name salt).points :=
    List.append_assoc segment.points [95] _
  rw [isSegment, whole]
  refine Naming.isWords_append.mpr ⟨given, ?_⟩
  exact Naming.isWords_word (List.all_eq_true.mp digits) (by decide) filled

end Segments

section Building

variable [PyText] {digests : Digest} {tries : Nat} {segments specs : List (PyString × PyString)}
  {segment name front : PyString} {toolNames : List PyString}

theorem serverSegment_segment {ordered used : List PyString} {serverName : PyString}
    (chosen : serverSegment digests tries ordered used serverName = some segment) :
    isSegment segment = true := by
  rw [serverSegment] at chosen
  split at chosen
  · cases chosen
    exact sanitize_segment serverName
  · obtain ⟨-, salt, rfl⟩ := Naming.firstFree_some chosen
    exact segment_append (sanitize_segment serverName) digests salt

theorem resolveFrom_segments {ordered names used : List PyString}
    (resolved : resolveFrom digests tries ordered names used = some segments) :
    ∀ entry ∈ segments, isSegment entry.2 = true := by
  induction names generalizing used segments with
  | nil =>
    cases resolved
    exact fun entry member => absurd member List.not_mem_nil
  | cons serverName rest ih =>
    obtain ⟨own, chosen, resolved⟩ := Option.bind_eq_some_iff.mp resolved
    obtain ⟨later, done, same⟩ := Option.bind_eq_some_iff.mp resolved
    cases same
    exact List.forall_mem_cons.mpr ⟨serverSegment_segment chosen, ih done⟩

omit [PyText] in
theorem startsWith_iff {text : PyString} :
    startsWith text front = true ↔ ∃ rest, text.points = front.points ++ rest := by
  rw [startsWith, List.isPrefixOf_iff_prefix]
  constructor
  · rintro ⟨rest, same⟩
    exact ⟨rest, same.symm⟩
  · rintro ⟨rest, same⟩
    exact ⟨rest, same.symm⟩

omit [PyText] in
theorem startsWith_append (front rest : PyString) : startsWith (front ++ rest) front = true :=
  startsWith_iff.mpr ⟨rest.points, rfl⟩

omit [PyText] in
theorem startsWith_trans {text more : PyString} (first : startsWith text (front ++ more) = true) :
    startsWith text front = true := by
  obtain ⟨rest, same⟩ := startsWith_iff.mp first
  exact startsWith_iff.mpr ⟨more.points ++ rest, same.trans (List.append_assoc _ _ _)⟩

omit [PyText] in
theorem dedupe_starts {candidate remoteName : PyString} {seen : List (PyString × PyString)}
    (deduped : dedupeLocalToolName digests tries candidate remoteName seen = some name) :
    startsWith name candidate = true := by
  rw [dedupeLocalToolName] at deduped
  have self : startsWith candidate candidate = true :=
    startsWith_iff.mpr ⟨[], (List.append_nil _).symm⟩
  split at deduped
  · cases deduped
    exact self
  · split at deduped
    · cases deduped
      exact self
    · obtain ⟨-, salt, rfl⟩ := Naming.firstFree_some deduped
      exact startsWith_trans (startsWith_append _ _)

theorem specsFrom_starts {tools : List PyString} {seen : List (PyString × PyString)}
    (given : isSegment segment = true)
    (found : specsFrom digests tries segment tools seen = some specs) :
    ∀ spec ∈ specs, startsWith spec.1 ("mcp_" ++ segment ++ "_") = true := by
  induction tools generalizing seen specs with
  | nil =>
    cases found
    exact fun spec member => absurd member List.not_mem_nil
  | cons remoteName rest ih =>
    obtain ⟨localName, deduped, found⟩ := Option.bind_eq_some_iff.mp found
    obtain ⟨later, done, same⟩ := Option.bind_eq_some_iff.mp found
    cases same
    refine List.forall_mem_cons.mpr ⟨?_, ih done⟩
    have starts := dedupe_starts deduped
    rw [makeMcpToolName, sanitize_eq given] at starts
    exact startsWith_trans starts

omit [PyText] in
theorem lookup_replaced (registry : Registry) (entry : PyString × Tool) :
    (registry.map fun held => if held.1 = entry.1 then entry else held).lookup name =
      if name = entry.1 then (if registry.any (·.1 = entry.1) then some entry.2 else none)
      else registry.lookup name := by
  induction registry with
  | nil => simp
  | cons held rest ih =>
    rw [List.map_cons, List.any_cons]
    by_cases own : held.1 = entry.1
    · rw [if_pos own, decide_eq_true own, Bool.true_or, List.lookup_cons, ih, List.lookup_cons, own]
      by_cases same : name = entry.1
      · simp [same]
      · simp [same, beq_false_of_ne same]
    · rw [if_neg own, decide_eq_false own, Bool.false_or, List.lookup_cons, ih, List.lookup_cons]
      by_cases same : name = entry.1
      · simp [same, beq_false_of_ne (Ne.symm own)]
      · simp [same]

omit [PyText] in
theorem lookup_register {registry : Registry} {entry : PyString × Tool} :
    (registry.register entry).lookup name =
      if name = entry.1 then some entry.2 else registry.lookup name := by
  rw [Registry.register]
  split
  next present => rw [lookup_replaced, if_pos present]
  next absent =>
    rw [List.lookup_append]
    by_cases same : name = entry.1
    · have missing : registry.lookup name = none := by
        refine List.lookup_eq_none_iff.mpr fun held member => bne_iff_ne.mpr ?_
        rintro rfl
        exact absent (List.any_eq_true.mpr ⟨held, member, decide_eq_true same⟩)
      rw [missing, if_pos same, Option.none_or, List.lookup_cons, beq_iff_eq.mpr same]
    · rw [if_neg same, List.lookup_cons, beq_false_of_ne same]
      exact Option.or_none

def Agree (toolNames : List PyString) (full pruned : Registry) : Prop :=
  ∀ name ∈ toolNames, full.lookup name = pruned.lookup name

omit [PyText] in
theorem Agree.both {full pruned : Registry} (agree : Agree toolNames full pruned)
    (entries : List (PyString × Tool)) :
    Agree toolNames (entries.foldl Registry.register full)
      (entries.foldl Registry.register pruned) := by
  induction entries generalizing full pruned with
  | nil => exact agree
  | cons entry rest ih =>
    refine ih fun name asked => ?_
    rw [lookup_register, lookup_register, agree name asked]

omit [PyText] in
theorem Agree.other {full pruned : Registry} (agree : Agree toolNames full pruned)
    {entries : List (PyString × Tool)} (foreign : ∀ entry ∈ entries, entry.1 ∉ toolNames) :
    Agree toolNames (entries.foldl Registry.register full) pruned := by
  induction entries generalizing full with
  | nil => exact agree
  | cons entry rest ih =>
    obtain ⟨first, later⟩ := List.forall_mem_cons.mp foreign
    refine ih (fun name asked => ?_) later
    rw [lookup_register, if_neg, agree name asked]
    rintro rfl
    exact first asked

omit [PyText] in
theorem filterRegistry_congr {full pruned : Registry} (agree : Agree toolNames full pruned) :
    filterRegistry full toolNames = filterRegistry pruned toolNames := by
  rw [filterRegistry, filterRegistry]
  refine List.foldl_ext _ _ _ fun filtered name asked => ?_
  rw [agree name asked]

omit [PyText] in
theorem foldl_step_lookup {step : Registry → PyString → Registry} {found : Option Tool}
    (own : ∀ filtered, (step filtered name).lookup name = found.or (filtered.lookup name))
    (kept : ∀ filtered asked, name ≠ asked →
      (step filtered asked).lookup name = filtered.lookup name) (filtered : Registry) :
    (toolNames.foldl step filtered).lookup name =
      if name ∈ toolNames then found.or (filtered.lookup name) else filtered.lookup name := by
  induction toolNames generalizing filtered with
  | nil => simp
  | cons asked rest ih =>
    rw [List.foldl_cons, ih]
    by_cases same : name = asked
    · subst same
      rw [own, if_pos List.mem_cons_self]
      cases found with
      | none => simp
      | some tool => simp
    · simp [kept filtered asked same, same]

omit [PyText] in
theorem filterRegistry_lookup {full : Registry} :
    (filterRegistry full toolNames).lookup name =
      if name ∈ toolNames then full.lookup name else none := by
  refine (@foldl_step_lookup _ _ _ (full.lookup name) (fun filtered => ?_)
    (fun filtered asked other => ?_) []).trans ?_
  · cases full.lookup name with
    | none => rfl
    | some tool => rw [lookup_register, if_pos rfl, Option.some_or]
  · cases full.lookup asked with
    | none => rfl
    | some tool => rw [lookup_register, if_neg other]
  · simp

variable {isLiveBroker : PyString → PyString → Bool} {listTools : PyString → Option (List PyString)}
  {servers : Servers} {locals full : Registry}

theorem serverEntries_starts {server : PyString × MCPServerConfig} {entries : List (PyString × Tool)}
    (shaped : ∀ entry ∈ segments, isSegment entry.2 = true)
    (found : serverEntries digests tries isLiveBroker listTools segments server = some entries) :
    ∀ entry ∈ entries, ∃ segment, segments.lookup server.1 = some segment ∧
      startsWith entry.1 ("mcp_" ++ segment ++ "_") = true := by
  obtain ⟨segment, given, found⟩ := Option.bind_eq_some_iff.mp found
  obtain ⟨specs, named, same⟩ := Option.bind_eq_some_iff.mp found
  cases same
  intro entry member
  obtain ⟨spec, listed, rfl⟩ := List.mem_map.mp member
  obtain ⟨before, after, whole, -⟩ := List.lookup_eq_some_iff.mp given
  have own : isSegment segment = true :=
    shaped _ (whole ▸ List.mem_append_right before List.mem_cons_self)
  exact ⟨segment, given, specsFrom_starts own named spec listed⟩

omit [PyText] in
theorem lookup_kept (servers : Servers) :
    (servers.filterMap fun server =>
      (segments.lookup server.1).map fun segment => (server.1, segment)).lookup name =
      if name ∈ servers.map (·.1) then segments.lookup name else none := by
  induction servers with
  | nil => rfl
  | cons server rest ih =>
    rw [List.filterMap_cons, List.map_cons]
    by_cases own : name = server.1
    · subst own
      rw [if_pos List.mem_cons_self]
      cases held : segments.lookup server.1 with
      | none =>
        rw [held, ite_self] at ih
        exact ih
      | some segment => exact List.lookup_cons_self
    · have member : name ∈ server.1 :: rest.map (·.1) ↔ name ∈ rest.map (·.1) := by
        rw [List.mem_cons, or_iff_right own]
      simp only [member]
      cases segments.lookup server.1 with
      | none => exact ih
      | some segment =>
        rw [← ih]
        exact List.lookup_cons.trans (by rw [beq_false_of_ne own])

theorem serverEntries_foreign {server : PyString × MCPServerConfig} {entries : List (PyString × Tool)}
    (shaped : ∀ entry ∈ segments, isSegment entry.2 = true)
    (apart : ∀ segment, segments.lookup server.1 = some segment → ∀ name ∈ toolNames,
      startsWith name ("mcp_" ++ segment ++ "_") = false)
    (found : serverEntries digests tries isLiveBroker listTools segments server = some entries) :
    ∀ entry ∈ entries, entry.1 ∉ toolNames := by
  intro entry member asked
  obtain ⟨segment, given, starts⟩ := serverEntries_starts shaped found entry member
  rw [apart segment given entry.1 asked] at starts
  cases starts

theorem registerServers_kept {kept : PyString × MCPServerConfig → Bool}
    {keptSegments : List (PyString × PyString)} {pruned : Registry}
    (shaped : ∀ entry ∈ segments, isSegment entry.2 = true)
    (same : ∀ server ∈ servers, kept server = true →
      keptSegments.lookup server.1 = segments.lookup server.1)
    (apart : ∀ server ∈ servers, kept server = false → ∀ segment,
      segments.lookup server.1 = some segment → ∀ name ∈ toolNames,
        startsWith name ("mcp_" ++ segment ++ "_") = false)
    (agree : Agree toolNames locals pruned)
    (built : registerServers digests tries isLiveBroker listTools segments servers locals =
      some full) :
    ∃ small, registerServers digests tries isLiveBroker listTools keptSegments
      (servers.filter kept) pruned = some small ∧ Agree toolNames full small := by
  induction servers generalizing locals pruned with
  | nil =>
    cases built
    exact ⟨pruned, rfl, agree⟩
  | cons server rest ih =>
    obtain ⟨first, same⟩ := List.forall_mem_cons.mp same
    obtain ⟨foreign, apart⟩ := List.forall_mem_cons.mp apart
    obtain ⟨entries, found, built⟩ := Option.bind_eq_some_iff.mp built
    by_cases own : kept server = true
    · obtain ⟨small, done, agreed⟩ := ih same apart (agree.both entries) built
      have found : serverEntries digests tries isLiveBroker listTools keptSegments server =
          some entries := by
        rw [serverEntries, first own]
        exact found
      refine ⟨small, ?_, agreed⟩
      rw [List.filter_cons_of_pos own, registerServers, found]
      exact done
    · have others := serverEntries_foreign shaped (foreign (Bool.eq_false_iff.mpr own)) found
      rw [List.filter_cons_of_neg own]
      exact ih same apart (agree.other others) built

theorem buildRegistry_pruned {selected : Servers}
    {keptSegments : Option (List (PyString × PyString))}
    (pruned : pruneAgentConfig digests tries servers toolNames = some (selected, keptSegments))
    (built : buildRegistry digests tries isLiveBroker listTools locals servers none = some full) :
    ∃ small, buildRegistry digests tries isLiveBroker listTools locals selected keptSegments =
      some small ∧ Agree toolNames full small := by
  obtain ⟨segments, resolved, registered⟩ := Option.bind_eq_some_iff.mp built
  have shaped := resolveFrom_segments resolved
  have refl : Agree toolNames locals locals := fun name _ => rfl
  rw [pruneAgentConfig] at pruned
  split at pruned
  next empty =>
    cases pruned
    exact ⟨full, empty ▸ built, fun name _ => rfl⟩
  dsimp only at pruned
  split at pruned
  next unasked =>
    cases pruned
    -- No tool of a server is asked for.
    have apart : ∀ server ∈ servers, (fun _ => false) server = false → ∀ segment,
        segments.lookup server.1 = some segment → ∀ name ∈ toolNames,
          startsWith name ("mcp_" ++ segment ++ "_") = false := by
      intro server _ _ segment _ name asked
      refine Bool.eq_false_iff.mpr fun starts => ?_
      have remote := startsWith_trans (startsWith_trans starts)
      exact absurd remote (List.filter_eq_nil_iff.mp unasked name asked)
    have run : ∃ small, registerServers digests tries isLiveBroker listTools []
        (servers.filter fun _ => false) locals = some small ∧ Agree toolNames full small :=
      registerServers_kept shaped (fun _ _ kept => by cases kept) apart refl registered
    rw [List.filter_false] at run
    exact run
  next =>
    obtain ⟨own, again, pruned⟩ := Option.bind_eq_some_iff.mp pruned
    cases resolved.symm.trans again
    cases pruned
    refine registerServers_kept shaped (fun server listed kept => ?_) ?_ refl registered
    · rw [lookup_kept, if_pos]
      exact List.mem_map_of_mem (List.mem_filter.mpr ⟨listed, kept⟩)
    · intro server _ dropped segment given name asked
      refine Bool.eq_false_iff.mpr fun starts => Bool.eq_false_iff.mp dropped ?_
      rw [given, Option.any_some]
      refine List.any_eq_true.mpr ⟨name, List.mem_filter.mpr ⟨asked, ?_⟩, starts⟩
      exact startsWith_trans (startsWith_trans starts)

theorem buildSwarmRegistry_filters
    (built : buildRegistry digests tries isLiveBroker listTools locals servers none = some full) :
    ∃ swarm, buildSwarmRegistry digests tries isLiveBroker listTools locals servers toolNames =
        some swarm ∧ swarm = filterRegistry full toolNames ∧
      ∀ name, swarm.lookup name = if name ∈ toolNames then full.lookup name else none := by
  obtain ⟨⟨selected, keptSegments⟩, pruned⟩ :
      ∃ kept, pruneAgentConfig digests tries servers toolNames = some kept := by
    obtain ⟨segments, resolved, -⟩ := Option.bind_eq_some_iff.mp built
    rw [pruneAgentConfig]
    split
    · exact ⟨_, rfl⟩
    dsimp only
    split
    · exact ⟨_, rfl⟩
    · rw [resolved]
      exact ⟨_, rfl⟩
  obtain ⟨small, done, agree⟩ := buildRegistry_pruned pruned built
  refine ⟨_, ?_, rfl, fun name => filterRegistry_lookup⟩
  rw [buildSwarmRegistry, pruned]
  simp only [Option.bind_eq_bind, Option.bind_some, done, filterRegistry_congr agree]
  rfl

end Building

section Shadowed

def zeros : PyString := "00000000"

theorem zeros_hex : zeros.points ≠ [] ∧ zeros.points.all isNameChar = true := by decide

def zeroDigest : Digest := ⟨fun _ _ => zeros, fun _ _ => zeros_hex⟩

def shadowServers : Servers :=
  [("foo", ⟨"https://foo.example", ["*"], none⟩), ("foo bar", ⟨"https://bar.example", ["x"], none⟩),
    ("other", ⟨"https://other.example", ["*"], none⟩)]

def shadowTools (serverName : PyString) : Option (List PyString) :=
  if serverName = "foo" then some ["bar_x", "Bar X"]
  else if serverName = "foo bar" then some ["x", "y"]
  else none

def shadowRegistry : Registry :=
  [("read_file", .locally "read_file"), ("mcp_foo_bar_x", .remote "foo bar" "x"),
    ("mcp_foo_bar_x_00000000", .remote "foo" "Bar X")]

def shadowLocals : Registry := [("read_file", .locally "read_file")]

def shadowAsked : List PyString := ["mcp_foo_bar_x", "read_file", "mcp_y"]

theorem shadowServers_filtered :
    ∃ swarm, @buildSwarmRegistry asciiText zeroDigest 1 (fun _ _ => false) shadowTools shadowLocals
        shadowServers shadowAsked = some swarm ∧ swarm = filterRegistry shadowRegistry shadowAsked ∧
      ∀ name, swarm.lookup name =
        if name ∈ shadowAsked then shadowRegistry.lookup name else none :=
  @buildSwarmRegistry_filters asciiText zeroDigest 1 shadowAsked (fun _ _ => false) shadowTools
    shadowServers shadowLocals shadowRegistry (by decide +kernel)

end Shadowed

end SynapseYield.Tools.McpRegistry
