import SynapseYield.Agent.Trace
import SynapseYield.Shared.JsonLines
import SynapseYield.Shared.JsonMembers
import SynapseYield.Shared.Outcome

set_option autoImplicit false

namespace SynapseYield.Agent

open Shared JsonText

def pathKey (field : PyString) : PyString := field ++ ("_path" : PyString)

def previewKey (field : PyString) : PyString := field ++ ("_preview" : PyString)

def sizeKey (field : PyString) : PyString := field ++ ("_size" : PyString)

section Keys

theorem path_take (points : List CodePoint) :
    (points ++ ("_path" : PyString).points).take
      ((points ++ ("_path" : PyString).points).length - 5) = points := by
  have size : ("_path" : PyString).points.length = 5 := rfl
  rw [List.length_append, size, Nat.add_sub_cancel, List.take_left]

theorem pathField_some {key field : PyString} (named : pathField key = some field) :
    key = pathKey field := by
  obtain ⟨points⟩ := key
  unfold pathField at named
  split at named
  next ends =>
    obtain ⟨start, rfl⟩ := List.isSuffixOf_iff_suffix.mp ends
    obtain rfl := Option.some.inj named
    simp only [path_take]
    rfl
  next => cases named

theorem pathField_pathKey (field : PyString) : pathField (pathKey field) = some field := by
  have ends : ("_path" : PyString).points.isSuffixOf (pathKey field).points = true :=
    List.isSuffixOf_iff_suffix.mpr ⟨field.points, rfl⟩
  rw [pathField, if_pos ends]
  exact congrArg (some ∘ PyString.mk) (path_take field.points)

theorem pathKey_inj {field other : PyString} (same : pathKey field = pathKey other) :
    field = other := by
  have read := pathField_pathKey field
  rw [same, pathField_pathKey] at read
  exact (Option.some.inj read).symm

theorem last_pathKey (field : PyString) : (pathKey field).points.getLast? = some 0x68 := by
  change (field.points ++ _).getLast? = _
  rw [List.getLast?_append_of_ne_nil _ (by decide)]
  rfl

theorem last_previewKey (field : PyString) : (previewKey field).points.getLast? = some 0x77 := by
  change (field.points ++ _).getLast? = _
  rw [List.getLast?_append_of_ne_nil _ (by decide)]
  rfl

theorem last_sizeKey (field : PyString) : (sizeKey field).points.getLast? = some 0x65 := by
  change (field.points ++ _).getLast? = _
  rw [List.getLast?_append_of_ne_nil _ (by decide)]
  rfl

end Keys

section Resolving

variable {dir : TraceDir} {elsewhere : PyString → Except PyError (Option Text)}

theorem resolveField_ok {entry after : Members} {item : PyString × Json}
    (resolved : resolveField dir elsewhere none entry item = .ok after) :
    after = entry ∨ ∃ key path field text, item = (key, .str path) ∧ key = pathKey field ∧
      field ∉ entry.map (·.1) ∧ dir.sidecar elsewhere path = .ok (some text) ∧
        after = setMember entry field (.str ⟨text⟩) := by
  obtain ⟨key, value⟩ := item
  cases value with
  | str path =>
    rw [resolveField] at resolved
    cases named : pathField key with
    | none =>
      rw [named] at resolved
      exact .inl (Except.ok.inj resolved).symm
    | some field =>
      rw [named] at resolved
      simp only [Option.any_none, Bool.false_eq_true, if_false] at resolved
      split at resolved
      next => exact .inl (Except.ok.inj resolved).symm
      next absent =>
        obtain ⟨found, read, resolved⟩ := Outcome.bind_ok.mp resolved
        cases found with
        | none => exact .inl (Except.ok.inj resolved).symm
        | some text =>
          exact .inr ⟨key, path, field, text, rfl, pathField_some named, fun given => absent (any_key.mpr given),
            read, (Except.ok.inj resolved).symm⟩
  | _ => exact .inl (Except.ok.inj resolved).symm

theorem resolve_keeps {items entry after : Members}
    (resolved : items.foldlM (resolveField dir elsewhere none) entry = .ok after)
    {key : PyString} {value : Json} (held : entry.lookup key = some value) :
    after.lookup key = some value := by
  induction items generalizing entry with
  | nil => exact Except.ok.inj resolved ▸ held
  | cons item rest ih =>
    rw [List.foldlM_cons] at resolved
    obtain ⟨middle, first, resolved⟩ := Outcome.bind_ok.mp resolved
    refine ih resolved ?_
    obtain rfl | ⟨name, path, field, text, -, -, absent, -, rfl⟩ := resolveField_ok first
    · exact held
    · rw [lookup_setMember, if_neg]
      · exact held
      · rintro rfl
        rw [lookup_none absent] at held
        cases held

-- A path can be read when its field is there already or the sidecar answers.
def Readable (dir : TraceDir) (elsewhere : PyString → Except PyError (Option Text))
    (entry : Members) (item : PyString × Json) : Prop :=
  ∀ path field, item = (pathKey field, .str path) →
    field ∈ entry.map (·.1) ∨ ∃ found, dir.sidecar elsewhere path = .ok found

theorem resolveField_readable {entry : Members} {item : PyString × Json}
    (readable : Readable dir elsewhere entry item) :
    ∃ after, resolveField dir elsewhere none entry item = .ok after := by
  obtain ⟨key, value⟩ := item
  cases value with
  | str path =>
    rw [resolveField]
    cases named : pathField key with
    | none => exact ⟨entry, rfl⟩
    | some field =>
      obtain rfl := pathField_some named
      simp only [Option.any_none, Bool.false_eq_true, if_false]
      split
      next => exact ⟨entry, rfl⟩
      next absent =>
        obtain present | ⟨found, read⟩ := readable path field rfl
        · exact absurd (any_key.mpr present) absent
        · cases found with
          | none => exact ⟨entry, by rw [read]; rfl⟩
          | some text => exact ⟨setMember entry field (.str ⟨text⟩), by rw [read]; rfl⟩
  | _ => exact ⟨entry, rfl⟩

theorem Readable.mono {entry after : Members} {item : PyString × Json}
    (readable : Readable dir elsewhere entry item)
    (keeps : ∀ key ∈ entry.map (·.1), key ∈ after.map (·.1)) :
    Readable dir elsewhere after item :=
  fun path field same => (readable path field same).imp_left (keeps field)

theorem resolve_readable {items entry : Members}
    (readable : ∀ item ∈ items, Readable dir elsewhere entry item) :
    ∃ after, items.foldlM (resolveField dir elsewhere none) entry = .ok after := by
  induction items generalizing entry with
  | nil => exact ⟨entry, rfl⟩
  | cons item rest ih =>
    obtain ⟨head, tail⟩ := List.forall_mem_cons.mp readable
    obtain ⟨middle, first⟩ := resolveField_readable head
    have keeps : ∀ key ∈ entry.map (·.1), key ∈ middle.map (·.1) := by
      intro key given
      obtain rfl | ⟨_, _, _, _, -, -, -, -, rfl⟩ := resolveField_ok first
      · exact given
      · exact mem_keys_setMember.mpr (.inr given)
    obtain ⟨after, others⟩ := ih fun item member => (tail item member).mono keeps
    exact ⟨after, by rw [List.foldlM_cons, first]; exact others⟩

theorem resolve_fills {items entry after : Members} (distinct : (items.map (·.1)).Nodup)
    {field path : PyString} {text : Text} (listed : (pathKey field, .str path) ∈ items)
    (absent : field ∉ entry.map (·.1)) (read : dir.sidecar elsewhere path = .ok (some text))
    (resolved : items.foldlM (resolveField dir elsewhere none) entry = .ok after) :
    after.lookup field = some (.str ⟨text⟩) := by
  induction items generalizing entry with
  | nil => cases listed
  | cons item rest ih =>
    rw [List.map_cons, List.nodup_cons] at distinct
    rw [List.foldlM_cons] at resolved
    obtain ⟨middle, first, others⟩ := Outcome.bind_ok.mp resolved
    obtain same | later := List.mem_cons.mp listed
    · subst same
      rw [resolveField, pathField_pathKey] at first
      simp only [Option.any_none, Bool.false_eq_true, if_false,
        mt any_key.mp absent, read] at first
      refine resolve_keeps others ?_
      rw [← Except.ok.inj first, lookup_setMember, if_pos rfl]
    · refine ih distinct.2 later ?_ others
      obtain rfl | ⟨key, _, other, _, rfl, rfl, -, -, rfl⟩ := resolveField_ok first
      · exact absent
      · intro given
        obtain rfl | given := mem_keys_setMember.mp given
        · exact distinct.1 (List.mem_map.mpr ⟨_, later, rfl⟩)
        · exact absent given

end Resolving

structure TextPart where
  field : PyString
  value : PyString
  offloadKind : PyString
  threshold : Int
  dirName : PyString
  -- trace-blobs or tool-results
  named : dirName.points.all isPrintedAscii = true

def TextPart.Long (part : TextPart) : Prop := ¬ (part.value.points.length : Int) ≤ part.threshold

instance (part : TextPart) : Decidable part.Long := inferInstanceAs (Decidable (¬ _))

def TextPart.hashed (part : TextPart) : PyString :=
  part.offloadKind ++ (⟨[0]⟩ : PyString) ++ part.value

def TextPart.path (settings : TraceSettings) (part : TextPart) : PyString :=
  part.dirName ++ ("/" : PyString) ++ settings.digest part.hashed ++ (".txt" : PyString)

def TextPart.inline (settings : TraceSettings) (part : TextPart) : PyString :=
  if part.Long then startsAt part.value settings.previewChars else part.value

def TraceCall.base (settings : TraceSettings) : TraceCall → Members
  | .write entry _ => entry
  | .writeTextEntry entry _ _ _ _ _ => entry
  | .writeToolResult callId result toolName status elapsedMs iteration =>
    toolEntry settings callId result toolName status elapsedMs iteration

def TraceCall.part (settings : TraceSettings) : TraceCall → Option TextPart
  | .write _ _ => none
  | .writeTextEntry _ _ field value offloadKind threshold =>
    some ⟨field, value, offloadKind, textThreshold settings threshold, "trace-blobs", rfl⟩
  | .writeToolResult callId result toolName _ _ _ =>
    some ⟨"result", result, ("tool-result-" : PyString) ++ toolName ++ ("-" : PyString) ++ callId,
      settings.toolResultThreshold, "tool-results", rfl⟩

def TraceCall.fields (settings : TraceSettings) (call : TraceCall) : Members :=
  match call.part settings with
  | none => call.base settings
  | some part => setMember (call.base settings) part.field (.str part.value)

def TraceCall.inlineCharacters (settings : TraceSettings) (call : TraceCall) : List CodePoint :=
  memberCharacters (call.base settings) ++
    match call.part settings with
    | none => []
    | some part => part.field.points ++ (part.inline settings).points

section Calls

variable {settings : TraceSettings}

variable (settings) in
theorem base_formed (call : TraceCall) : wellFormed (.obj (call.base settings)) = true := by
  cases call with
  | write entry formed => exact formed
  | writeTextEntry entry formed field value offloadKind threshold => exact formed
  | writeToolResult callId result toolName status elapsedMs iteration =>
    have keys : (["type", "iter", "tool", "call_id", "status", "elapsed_ms", "preview"] :
        List PyString).Nodup := by decide +kernel
    refine formed_iff.mpr ⟨keys, ?_⟩
    simp [TraceCall.base, toolEntry, wellFormed, elapsedMs.number, iteration.number]

def offloaded (settings : TraceSettings) (entry : Members) (part : TextPart) : Members :=
  setMember
    (setMember (setMember entry (pathKey part.field) (.str (part.path settings)))
      (previewKey part.field) (.str (startsAt part.value settings.previewChars)))
    (sizeKey part.field) (.number (decimal part.value.points.length))

theorem prepared_none {call : TraceCall} (none : call.part settings = none) :
    call.prepared settings = (call.base settings, Option.none) := by
  cases call with
  | write entry formed => rfl
  | writeTextEntry entry formed field value offloadKind threshold => cases none
  | writeToolResult callId result toolName status elapsedMs iteration => cases none

theorem prepared_some {call : TraceCall} {part : TextPart}
    (given : call.part settings = some part) :
    call.prepared settings =
      attachTextField settings (call.base settings) part.field part.value part.offloadKind
        part.threshold part.dirName := by
  cases call with
  | write entry formed => cases given
  | writeTextEntry entry formed field value offloadKind threshold =>
    obtain rfl := Option.some.inj given
    rfl
  | writeToolResult callId result toolName status elapsedMs iteration =>
    obtain rfl := Option.some.inj given
    rfl

theorem prepared_short {call : TraceCall} {part : TextPart}
    (given : call.part settings = some part) (short : ¬ part.Long) :
    call.prepared settings =
      (setMember (call.base settings) part.field (.str part.value), none) := by
  rw [prepared_some given, attachTextField, if_pos (not_not.mp short)]

theorem prepared_long {call : TraceCall} {part : TextPart}
    (given : call.part settings = some part) (long : part.Long) :
    call.prepared settings =
      (offloaded settings (call.base settings) part,
        some ⟨part.path settings, part.hashed, part.value⟩) := by
  rw [prepared_some given, attachTextField, if_neg long]
  rfl

theorem offloaded_formed {entry : Members} (formed : wellFormed (.obj entry) = true)
    (part : TextPart) : wellFormed (.obj (offloaded settings entry part)) = true :=
  formed_setMember (formed_setMember (formed_setMember formed rfl) rfl)
    (by rw [wellFormed, decimal_number]; rfl)

theorem prepared_formed (call : TraceCall) :
    wellFormed (.obj (call.prepared settings).1) = true := by
  have formed := base_formed settings call
  cases given : call.part settings with
  | none => rwa [prepared_none given]
  | some part =>
    by_cases long : part.Long
    · rw [prepared_long given long]
      exact offloaded_formed formed part
    · rw [prepared_short given long]
      exact formed_setMember formed rfl

theorem stamped_formed {entry : Members} (formed : wellFormed (.obj entry) = true)
    (now : Numeral) : wellFormed (.obj (stamped entry now)) = true := by
  unfold stamped
  split
  next => exact formed
  next => exact formed_setMember formed (by rw [wellFormed, now.number]; rfl)

theorem lookup_stamped {entry : Members} {key : PyString} {value : Json} (now : Numeral)
    (held : entry.lookup key = some value) : (stamped entry now).lookup key = some value := by
  unfold stamped
  split
  next => exact held
  next absent =>
    rw [lookup_setMember, if_neg]
    · exact held
    · rintro rfl
      rw [lookup_none fun given => absent (any_key.mpr given)] at held
      cases held

-- A character of the line comes from a text that stands in it, or is written by the trace.
def Told (own : List CodePoint) (c : CodePoint) : Prop := c ∈ own ∨ isPrintedAscii c = true

theorem told_ascii {own : List CodePoint} {s : PyString}
    (ascii : s.points.all isPrintedAscii = true) : ∀ c ∈ s.points, Told own c :=
  fun c member => .inr (List.all_eq_true.mp ascii c member)

theorem told_append {own : List CodePoint} {s t : PyString} (first : ∀ c ∈ s.points, Told own c)
    (second : ∀ c ∈ t.points, Told own c) : ∀ c ∈ (s ++ t).points, Told own c :=
  List.forall_mem_append.mpr ⟨first, second⟩

theorem told_setMember {own : List CodePoint} {entry : Members} {key : PyString} {value : Json}
    (before : ∀ c ∈ memberCharacters entry, Told own c) (named : ∀ c ∈ key.points, Told own c)
    (held : ∀ c ∈ characters value, Told own c) :
    ∀ c ∈ memberCharacters (setMember entry key value), Told own c := by
  intro c member
  obtain inside | inside | inside := characters_setMember member
  · exact before c inside
  · exact named c inside
  · exact held c inside

theorem path_told (own : List CodePoint) (part : TextPart) :
    ∀ c ∈ (part.path settings).points, Told own c := by
  refine told_append (told_append (told_append (told_ascii part.named) (told_ascii (by rfl))) ?_)
    (told_ascii (by rfl))
  intro c member
  have bounds := settings.digest_hex _ c member
  refine .inr ?_
  simp only [isPrintedAscii, Bool.and_eq_true, decide_eq_true_eq]
  omega

theorem prepared_told (call : TraceCall) :
    ∀ c ∈ memberCharacters (call.prepared settings).1, Told (call.inlineCharacters settings) c := by
  have entry : ∀ c ∈ memberCharacters (call.base settings),
      Told (call.inlineCharacters settings) c :=
    fun c member => .inl (List.mem_append_left _ member)
  cases given : call.part settings with
  | none => rwa [prepared_none given]
  | some part =>
    have field : ∀ c ∈ part.field.points, Told (call.inlineCharacters settings) c := by
      intro c member
      refine .inl (List.mem_append_right _ ?_)
      rw [given]
      exact List.mem_append_left _ member
    have shown : ∀ c ∈ (part.inline settings).points,
        Told (call.inlineCharacters settings) c := by
      intro c member
      refine .inl (List.mem_append_right _ ?_)
      rw [given]
      exact List.mem_append_right _ member
    by_cases long : part.Long
    · rw [prepared_long given long]
      rw [TextPart.inline, if_pos long] at shown
      refine told_setMember (told_setMember (told_setMember entry ?_ (path_told _ part)) ?_ shown)
        ?_ (List.forall_mem_nil _)
      · exact told_append field (told_ascii (by rfl))
      · exact told_append field (told_ascii (by rfl))
      · exact told_append field (told_ascii (by rfl))
    · rw [prepared_short given long]
      rw [TextPart.inline, if_neg long] at shown
      exact told_setMember entry field shown

theorem stamped_told {own : List CodePoint} {entry : Members}
    (told : ∀ c ∈ memberCharacters entry, Told own c) (now : Numeral) :
    ∀ c ∈ memberCharacters (stamped entry now), Told own c := by
  unfold stamped
  split
  next => exact told
  next => exact told_setMember told (told_ascii (by rfl)) (List.forall_mem_nil _)

def lineEntry (settings : TraceSettings) (call : TraceCall) (now : Numeral) : Members :=
  stamped (call.prepared settings).1 now

theorem line_formed (call : TraceCall) (now : Numeral) :
    wellFormed (.obj (lineEntry settings call now)) = true :=
  stamped_formed (prepared_formed call) now

theorem line_unseparated {call : TraceCall}
    (inline : ∀ c ∈ call.inlineCharacters settings, isSeparator c = false) (now : Numeral) :
    ∀ c ∈ memberCharacters (lineEntry settings call now), isSeparator c = false := by
  intro c member
  obtain own | ascii := stamped_told (prepared_told call) now c member
  · exact inline c own
  · simp only [isPrintedAscii, Bool.and_eq_true, decide_eq_true_eq] at ascii
    simp only [isSeparator, Bool.or_eq_false_iff, decide_eq_false_iff_not]
    omega

end Calls

-- When a call can be read back: no separator stands in its line; a text that goes to a sidecar
-- has no carriage return, and its keys are its own; and the other paths can be looked up.
structure TraceCall.Plain (settings : TraceSettings)
    (elsewhere : PyString → Except PyError (Option Text)) (call : TraceCall) : Prop where
  inline : ∀ c ∈ call.inlineCharacters settings, isSeparator c = false
  unreturned : ∀ part, call.part settings = some part → part.Long →
    Lines.carriageReturn ∉ part.value.points
  own : ∀ part, call.part settings = some part → part.Long → part.field ≠ ("ts" : PyString) ∧
    ∀ key ∈ [part.field, pathKey part.field, previewKey part.field, sizeKey part.field],
      key ∉ (call.base settings).map (·.1)
  paths : ∀ path field, (pathKey field, .str path) ∈ call.fields settings →
    field ∉ (call.fields settings).map (·.1) → ∃ found, elsewhere path = .ok found

def Returned (settings : TraceSettings) (call : TraceCall) (record : Json) : Prop :=
  ∃ entry, record = .obj entry ∧ ∀ key value, (call.fields settings).lookup key = some value →
    entry.lookup key = some value

section Reading

variable {settings : TraceSettings} {dir : TraceDir}
  {elsewhere : PyString → Except PyError (Option Text)}

def Saved (settings : TraceSettings) (dir : TraceDir) (call : TraceCall) : Prop :=
  ∀ part, call.part settings = some part → part.Long →
    dir.blobs (part.path settings) = some part.value.points ∧
      dir.cutBlobs (part.path settings) = false

theorem fields_none {call : TraceCall} (none : call.part settings = none) :
    call.fields settings = call.base settings := by rw [TraceCall.fields, none]

theorem fields_some {call : TraceCall} {part : TextPart}
    (given : call.part settings = some part) :
    call.fields settings = setMember (call.base settings) part.field (.str part.value) := by
  rw [TraceCall.fields, given]

theorem lookup_offloaded {entry : Members} {part : TextPart} {key : PyString}
    (other : key ∉ [pathKey part.field, previewKey part.field, sizeKey part.field]) :
    (offloaded settings entry part).lookup key = entry.lookup key := by
  simp only [List.mem_cons, List.not_mem_nil, or_false, not_or] at other
  rw [offloaded, lookup_setMember, if_neg other.2.2, lookup_setMember, if_neg other.2.1,
    lookup_setMember, if_neg other.1]

theorem lookup_offloaded_path {entry : Members} {part : TextPart} :
    (offloaded settings entry part).lookup (pathKey part.field) =
      some (.str (part.path settings)) := by
  have preview : pathKey part.field ≠ previewKey part.field := by
    intro same
    have last := last_pathKey part.field
    rw [same, last_previewKey] at last
    cases last
  have size : pathKey part.field ≠ sizeKey part.field := by
    intro same
    have last := last_pathKey part.field
    rw [same, last_sizeKey] at last
    cases last
  rw [offloaded, lookup_setMember, if_neg size, lookup_setMember, if_neg preview,
    lookup_setMember, if_pos rfl]

theorem sidecar_ok {path : PyString} (read : ∃ found, elsewhere path = .ok found) :
    ∃ found, dir.sidecar elsewhere path = .ok found := by
  unfold TraceDir.sidecar
  cases dir.blobs path with
  | none => exact read
  | some text => exact ⟨_, rfl⟩

theorem mem_stamped {entry : Members} {now : Numeral} {key text : PyString}
    (listed : (key, .str text) ∈ stamped entry now) : (key, .str text) ∈ entry := by
  unfold stamped at listed
  split at listed
  next => exact listed
  next =>
    obtain same | before := mem_setMember listed
    · cases (Prod.mk.inj same).2
    · exact before

theorem keys_stamped {entry : Members} {now : Numeral} {key : PyString}
    (given : key ∈ entry.map (·.1)) : key ∈ (stamped entry now).map (·.1) := by
  unfold stamped
  split
  next => exact given
  next => exact mem_keys_setMember.mpr (.inr given)

theorem fields_readable {call : TraceCall} (plain : call.Plain settings elsewhere)
    (whole : (call.prepared settings).1 = call.fields settings) (now : Numeral) :
    ∀ item ∈ lineEntry settings call now,
      Readable dir elsewhere (lineEntry settings call now) item := by
  rintro item listed path field rfl
  have given := mem_stamped listed
  rw [whole] at given
  by_cases present : field ∈ (call.fields settings).map (·.1)
  · refine .inl (keys_stamped ?_)
    rwa [whole]
  · exact .inr (sidecar_ok (plain.paths path field given present))

theorem mem_offloaded {entry : Members} {part : TextPart} {field path : PyString}
    (listed : (pathKey field, .str path) ∈ offloaded settings entry part) :
    (field = part.field ∧ path = part.path settings) ∨ (pathKey field, .str path) ∈ entry := by
  obtain same | listed := mem_setMember listed
  · cases (Prod.mk.inj same).2
  · obtain same | listed := mem_setMember listed
    · have last := last_pathKey field
      rw [(Prod.mk.inj same).1, last_previewKey] at last
      cases last
    · obtain same | listed := mem_setMember listed
      · exact .inl ⟨pathKey_inj (Prod.mk.inj same).1, Json.str.inj (Prod.mk.inj same).2⟩
      · exact .inr listed

theorem keys_offloaded {entry : Members} {part : TextPart} {key : PyString}
    (given : key ∈ entry.map (·.1)) : key ∈ (offloaded settings entry part).map (·.1) :=
  mem_keys_setMember.mpr (.inr (mem_keys_setMember.mpr (.inr (mem_keys_setMember.mpr (.inr given)))))

theorem saved_sidecar {call : TraceCall} (saved : Saved settings dir call) {part : TextPart}
    (given : call.part settings = some part) (long : part.Long) :
    dir.sidecar elsewhere (part.path settings) =
      .ok (some (Lines.universalNewlines part.value.points)) := by
  obtain ⟨stored, uncut⟩ := saved part given long
  simp [TraceDir.sidecar, stored, uncut]

theorem offloaded_readable {call : TraceCall} (plain : call.Plain settings elsewhere)
    (saved : Saved settings dir call) {part : TextPart} (given : call.part settings = some part)
    (long : part.Long) (now : Numeral) :
    ∀ item ∈ lineEntry settings call now,
      Readable dir elsewhere (lineEntry settings call now) item := by
  rintro item listed path field rfl
  obtain ⟨-, own⟩ := plain.own part given long
  have listed := mem_stamped listed
  rw [prepared_long given long] at listed
  obtain ⟨rfl, rfl⟩ | base := mem_offloaded listed
  · exact .inr ⟨_, saved_sidecar saved given long⟩
  · by_cases present : field ∈ (lineEntry settings call now).map (·.1)
    · exact .inl present
    · have named : pathKey field ∈ (call.base settings).map (·.1) :=
        List.mem_map.mpr ⟨_, base, rfl⟩
      refine .inr (sidecar_ok (plain.paths path field ?_ ?_))
      · rw [fields_some given]
        refine mem_setMember_of_mem base fun same => own part.field (by simp) ?_
        exact same ▸ named
      · rw [fields_some given, mem_keys_setMember, not_or]
        constructor
        · rintro rfl
          exact own (pathKey part.field) (by simp) named
        · intro inside
          refine present (keys_stamped ?_)
          rw [prepared_long given long]
          exact keys_offloaded inside

theorem field_ne_longer (field : PyString) {suffix : PyString} (more : suffix.points ≠ []) :
    field ≠ field ++ suffix := by
  intro same
  have lengths := congrArg (·.points.length) same
  change field.points.length = (field.points ++ suffix.points).length at lengths
  rw [List.length_append] at lengths
  exact more (List.length_eq_zero_iff.mp (by omega))

theorem field_unwritten {call : TraceCall} (plain : call.Plain settings elsewhere)
    {part : TextPart} (given : call.part settings = some part) (long : part.Long)
    (now : Numeral) : part.field ∉ (lineEntry settings call now).map (·.1) := by
  obtain ⟨untimed, own⟩ := plain.own part given long
  have fresh : part.field ∉ (offloaded settings (call.base settings) part).map (·.1) := by
    rw [offloaded, mem_keys_setMember, mem_keys_setMember, mem_keys_setMember]
    rintro (same | same | same | inside)
    · exact field_ne_longer part.field (by decide) same
    · exact field_ne_longer part.field (by decide) same
    · exact field_ne_longer part.field (by decide) same
    · exact own part.field (by simp) inside
  rw [lineEntry, prepared_long given long, stamped]
  split
  next => exact fresh
  next => exact fun inside => (mem_keys_setMember.mp inside).elim untimed fresh

theorem line_returned {call : TraceCall} (plain : call.Plain settings elsewhere)
    (saved : Saved settings dir call) (now : Numeral) :
    ∃ entry, resolveEntryOffloads dir elsewhere none (lineEntry settings call now) = .ok entry ∧
      Returned settings call (.obj entry) := by
  by_cases whole : (call.prepared settings).1 = call.fields settings
  · have readable : ∀ item ∈ lineEntry settings call now,
        Readable dir elsewhere (lineEntry settings call now) item := fields_readable plain whole now
    obtain ⟨entry, resolved⟩ := resolve_readable readable
    refine ⟨entry, resolved, entry, rfl, fun key value held => resolve_keeps resolved ?_⟩
    refine lookup_stamped now ?_
    rwa [whole]
  · obtain ⟨part, given, long⟩ : ∃ part, call.part settings = some part ∧ part.Long := by
      cases given : call.part settings with
      | none => exact absurd (by rw [prepared_none given, fields_none given]) whole
      | some part =>
        refine ⟨part, rfl, ?_⟩
        by_contra short
        exact whole (by rw [prepared_short given short, fields_some given])
    obtain ⟨-, own⟩ := plain.own part given long
    obtain ⟨entry, resolved⟩ := resolve_readable (offloaded_readable plain saved given long now)
    refine ⟨entry, resolved, entry, rfl, fun key value held => ?_⟩
    rw [fields_some given, lookup_setMember] at held
    split at held
    next same =>
      subst same
      obtain rfl := Option.some.inj held
      have listed : (pathKey part.field, .str (part.path settings)) ∈ lineEntry settings call now := by
        refine mem_of_lookup (lookup_stamped now ?_)
        rw [prepared_long given long, lookup_offloaded_path]
      have filled := resolve_fills (formed_iff.mp (line_formed call now)).1 listed
        (field_unwritten plain given long now) (saved_sidecar saved given long) resolved
      rwa [Lines.universalNewlines_eq (plain.unreturned part given long)] at filled
    next different =>
      refine resolve_keeps resolved (lookup_stamped now ?_)
      rw [prepared_long given long, lookup_offloaded]
      · exact held
      · intro replaced
        have inside := lookup_isSome.mp (Option.isSome_of_eq_some held)
        exact own key (List.mem_cons_of_mem _ replaced) inside

end Reading

end SynapseYield.Agent
