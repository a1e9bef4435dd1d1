import Mathlib.Data.List.DropRight
import Mathlib.Data.List.Induction
import SynapseYield.Properties.TraceEntries
import SynapseYield.Shared.JsonPrefix

set_option autoImplicit false

namespace SynapseYield.Agent

open Shared JsonText

-- What a reader may find of a step: a call that returned, and a crashed one or nothing.
def TraceStep.recovers (settings : TraceSettings) : TraceStep → List (List TraceCall)
  | .opened => [[]]
  | .call given now => if given.encodable settings now then [[given]] else [[]]
  | .tear given _ _ _ => [[], [given]]
  | .tearBlob _ _ _ _ => [[]]

inductive Recovered (settings : TraceSettings) : List TraceStep → List TraceCall → Prop where
  | start : Recovered settings [] []
  | step {steps : List TraceStep} {calls part : List TraceCall} {step : TraceStep}
      (before : Recovered settings steps calls) (found : part ∈ step.recovers settings) :
      Recovered settings (steps ++ [step]) (calls ++ part)

def ReadsBack (settings : TraceSettings) (elsewhere : PyString → Except PyError (Option Text))
    (steps : List TraceStep) : Prop :=
  ∃ calls, Recovered settings steps calls ∧
    ∃ records, (TraceDir.run settings steps).read elsewhere true none = .ok records ∧
      List.Forall₂ (Returned settings) calls records

section Lines

variable {settings : TraceSettings} {dir : TraceDir}
  {elsewhere : PyString → Except PyError (Option Text)} {call : TraceCall}

theorem line_solid (plain : call.Plain settings elsewhere) (now : Numeral) :
    Lines.Solid (call.line settings now).points :=
  object_solid spaced_oneLine (line_formed call now) (line_unseparated plain.inline now)

theorem line_returns (call : TraceCall) (now : Numeral) :
    Lines.carriageReturn ∉ (call.line settings now).points :=
  object_returns spaced_oneLine (line_formed call now)

theorem readEntry_line (plain : call.Plain settings elsewhere) (saved : Saved settings dir call)
    (now : Numeral) :
    ∃ record, readEntry dir elsewhere true none (call.line settings now).points =
      .ok (some record) ∧ Returned settings call record := by
  have solid := line_solid plain now
  have stripped := Lines.strip_solid solid.starts solid.ends
  obtain ⟨entry, resolved, returned⟩ := line_returned plain saved now
  refine ⟨.obj entry, ?_, returned⟩
  have parsed : loads ⟨(call.line settings now).points⟩ =
      some (.obj (lineEntry settings call now)) :=
    loads_write .spaced (line_formed call now)
  rw [readEntry, stripped, List.isEmpty_eq_false_iff.mpr solid.nonempty, parsed]
  simp [resolved, Functor.map, Except.map]

theorem strip_prefix {text : Text} (starts : ∀ c, text.head? = some c → Lines.isWhitespace c = false) :
    Lines.strip text <+: text := by
  have kept : text.dropWhile Lines.isWhitespace = text := by
    cases text with
    | nil => rfl
    | cons c rest => exact List.dropWhile_cons_of_neg (by simp [starts c rfl])
  rw [Lines.strip, kept]
  exact List.rdropWhile_prefix Lines.isWhitespace text

theorem readEntry_torn (plain : call.Plain settings elsewhere) (saved : Saved settings dir call)
    (now : Numeral) (kept : Nat) :
    readEntry dir elsewhere true none ((call.line settings now).points.take kept) = .ok none ∨
      ∃ record, readEntry dir elsewhere true none ((call.line settings now).points.take kept) =
        .ok (some record) ∧ Returned settings call record := by
  have solid := line_solid plain now
  obtain ⟨rest, split⟩ := List.take_prefix kept (call.line settings now).points
  generalize (call.line settings now).points.take kept = torn at split ⊢
  have starts : ∀ c, torn.head? = some c → Lines.isWhitespace c = false := by
    intro c first
    refine solid.starts c ?_
    rw [← split, List.head?_append, first]
    rfl
  obtain ⟨blank, stripped⟩ := strip_prefix starts
  by_cases all : Lines.strip torn = (call.line settings now).points
  · right
    obtain ⟨record, read, returned⟩ := readEntry_line plain saved now
    refine ⟨record, ?_, returned⟩
    rw [readEntry, Lines.strip_solid solid.starts solid.ends] at read
    rw [readEntry, all]
    exact read
  · left
    have whole : write .spaced 0 (.obj (lineEntry settings call now)) =
        Lines.strip torn ++ (blank ++ rest) := by
      rw [← List.append_assoc, stripped, split]
      rfl
    have more : blank ++ rest ≠ [] := by
      intro none
      refine all ?_
      rw [none, List.append_nil] at whole
      exact whole.symm
    rw [readEntry, loads_beginning (line_formed call now) whole more]
    simp

end Lines

-- The call that a step leaves a line of, or the beginning of one
def TraceStep.recorded (settings : TraceSettings) : TraceStep → Option TraceCall
  | .call given now => if given.encodable settings now then some given else none
  | .tear given now kept _ =>
    if given.encodable settings now && kept ≠ 0 then some given else none
  | _ => none

def TraceStep.saves : TraceStep → Option TraceCall
  | .call given _ => some given
  | .tear given _ _ _ => some given
  | _ => none

-- Two texts in one sidecar are one text.
def Agree (settings : TraceSettings) (earlier later : TraceCall) : Prop :=
  ∀ part other, earlier.part settings = some part → part.Long →
    later.part settings = some other → other.Long →
      part.path settings = other.path settings → part.value = other.value

def Apart (settings : TraceSettings) (earlier later : TraceCall) : Prop :=
  ∀ part other, earlier.part settings = some part → part.Long →
    later.part settings = some other → other.Long → part.path settings ≠ other.path settings

-- No line is written after a torn one; a torn line ends with a whole character; a text is not
-- stored over another one, and no sidecar in use is torn.
structure Admissible (settings : TraceSettings)
    (elsewhere : PyString → Except PyError (Option Text)) (before : List TraceStep)
    (step : TraceStep) : Prop where
  plain : ∀ call, step.recorded settings = some call → call.Plain settings elsewhere
  whole : ∀ call, step.recorded settings = some call → ∀ torn now kept cut,
    .tear torn now kept cut ∈ before → torn.encodable settings now = true → kept = 0
  uncut : ∀ torn now kept cut, step = .tear torn now kept cut →
    torn.encodable settings now = true → cut = false
  agree : ∀ call, step.saves = some call →
    ∀ earlier ∈ before.filterMap (·.recorded settings), Agree settings earlier call
  apart : ∀ call now kept cut, step = .tearBlob call now kept cut →
    ∀ earlier ∈ before.filterMap (·.recorded settings), Apart settings earlier call

abbrev Torn := TraceCall × Numeral × Nat

def tornText (settings : TraceSettings) : Option Torn → Text
  | none => []
  | some (call, now, kept) => (call.line settings now).points.take kept

def tornCalls : Option Torn → List TraceCall
  | none => []
  | some (call, _, _) => [call]

-- The file holds a line for each call that was written, and perhaps the beginning of one more;
-- the sidecars of these calls are in place.
structure Sound (settings : TraceSettings) (elsewhere : PyString → Except PyError (Option Text))
    (steps : List TraceStep) (dir : TraceDir) (written : List (TraceCall × Numeral))
    (torn : Option Torn) : Prop where
  text : dir.content.text =
    Lines.unlines (written.map fun w => (w.1.line settings w.2).points) ++ tornText settings torn
  uncut : dir.content.cut = false
  plain : ∀ call ∈ written.map (·.1) ++ tornCalls torn, call.Plain settings elsewhere
  saved : ∀ call ∈ written.map (·.1) ++ tornCalls torn, Saved settings dir call
  listed : ∀ call ∈ written.map (·.1) ++ tornCalls torn,
    call ∈ steps.filterMap (·.recorded settings)
  tear : ∀ call now kept, torn = some (call, now, kept) → kept ≠ 0 ∧
    call.encodable settings now = true ∧ ∃ cut, .tear call now kept cut ∈ steps
  lost : Recovered settings steps (written.map (·.1))
  found : Recovered settings steps (written.map (·.1) ++ tornCalls torn)

section Reads

variable {settings : TraceSettings} {elsewhere : PyString → Except PyError (Option Text)}
  {steps : List TraceStep} {dir : TraceDir} {written : List (TraceCall × Numeral)}
  {torn : Option Torn}

theorem read_content (uncut : dir.content.cut = false) :
    dir.read elsewhere true none =
      ((Lines.splitlines (Lines.universalNewlines dir.content.text)).mapM
        (readEntry dir elsewhere true none)).map List.reduceOption := by
  unfold TraceDir.read TraceDir.content at *
  cases held : dir.trace with
  | none => rfl
  | some content =>
    rw [held] at uncut
    simp only [Option.getD_some] at uncut ⊢
    rw [if_neg (by simp [uncut])]
    cases (Lines.splitlines (Lines.universalNewlines content.text)).mapM
      (readEntry dir elsewhere true none) <;> rfl

theorem content_returns (sound : Sound settings elsewhere steps dir written torn) :
    Lines.carriageReturn ∉ dir.content.text := by
  rw [sound.text, List.mem_append, not_or]
  constructor
  · intro member
    obtain ⟨line, listed, member⟩ := List.mem_flatMap.mp member
    obtain ⟨w, _, rfl⟩ := List.mem_map.mp listed
    obtain member | member := List.mem_append.mp member
    · exact line_returns w.1 w.2 member
    · cases List.mem_singleton.mp member
  · intro member
    cases torn with
    | none => cases member
    | some torn =>
      obtain ⟨call, now, kept⟩ := torn
      exact line_returns call now ((List.take_prefix kept _).subset member)

theorem reads_lines (sound : Sound settings elsewhere steps dir written torn) :
    ∃ records, (written.map fun w => (w.1.line settings w.2).points).mapM
        (readEntry dir elsewhere true none) = .ok (records.map some) ∧
      List.Forall₂ (Returned settings) (written.map (·.1)) records := by
  have each : ∀ w ∈ written, ∃ record,
      readEntry dir elsewhere true none (w.1.line settings w.2).points = .ok (some record) ∧
        Returned settings w.1 record := by
    intro w member
    have inside : w.1 ∈ written.map (·.1) ++ tornCalls torn :=
      List.mem_append_left _ (List.mem_map_of_mem member)
    exact readEntry_line (sound.plain _ inside) (sound.saved _ inside) w.2
  obtain ⟨records, all⟩ := Outcome.exists_forall₂ each
  refine ⟨records, ?_, ?_⟩
  · rw [Outcome.mapM_ok, List.forall₂_map_left_iff, List.forall₂_map_right_iff]
    exact all.imp fun _ _ both => both.1
  · rw [List.forall₂_map_left_iff]
    exact all.imp fun _ _ both => both.2

theorem splitlines_unbroken {text : Text} (unbroken : ∀ c ∈ text, Lines.isLineBreak c = false) :
    Lines.splitlines text = if text = [] then [] else [text] := by
  split
  next empty => rw [empty]; rfl
  next nonempty => exact Lines.splitlines_line unbroken nonempty

theorem reads_torn (sound : Sound settings elsewhere steps dir written torn) :
    ∃ outs, (Lines.splitlines (tornText settings torn)).mapM
        (readEntry dir elsewhere true none) = .ok outs ∧
      (outs.reduceOption = [] ∨ List.Forall₂ (Returned settings) (tornCalls torn)
        outs.reduceOption) := by
  cases torn with
  | none => exact ⟨[], rfl, .inl rfl⟩
  | some torn =>
    obtain ⟨call, now, kept⟩ := torn
    have inside : call ∈ written.map (·.1) ++ tornCalls (some (call, now, kept)) :=
      List.mem_append_right _ (List.mem_singleton_self call)
    have plain := sound.plain call inside
    have unbroken : ∀ c ∈ (call.line settings now).points.take kept,
        Lines.isLineBreak c = false :=
      fun c member => (line_solid plain now).unbroken c ((List.take_prefix kept _).subset member)
    rw [tornText, splitlines_unbroken unbroken]
    split
    next => exact ⟨[], rfl, .inl rfl⟩
    next =>
      obtain skipped | ⟨record, read, returned⟩ :=
        readEntry_torn plain (sound.saved call inside) now kept
      · exact ⟨[none], by rw [Outcome.mapM_ok]; exact .cons skipped .nil, .inl rfl⟩
      · exact ⟨[some record], by rw [Outcome.mapM_ok]; exact .cons read .nil,
          .inr (.cons returned .nil)⟩

theorem Sound.reads (sound : Sound settings elsewhere steps dir written torn) :
    ∃ calls, Recovered settings steps calls ∧
      ∃ records, dir.read elsewhere true none = .ok records ∧
        List.Forall₂ (Returned settings) calls records := by
  obtain ⟨records, lines, returned⟩ := reads_lines sound
  obtain ⟨outs, tail, rest⟩ := reads_torn sound
  have unbroken : ∀ line ∈ written.map (fun w => (w.1.line settings w.2).points),
      ∀ c ∈ line, Lines.isLineBreak c = false := by
    intro line listed
    obtain ⟨w, member, rfl⟩ := List.mem_map.mp listed
    exact (line_solid (sound.plain _ (List.mem_append_left _ (List.mem_map_of_mem member)))
      w.2).unbroken
  have read : dir.read elsewhere true none = .ok (records ++ outs.reduceOption) := by
    rw [read_content sound.uncut, Lines.universalNewlines_eq (content_returns sound), sound.text,
      Lines.splitlines_unlines unbroken, List.mapM_append, lines, tail]
    have somes : (records.map some).reduceOption = records := by
      simp [List.reduceOption, List.filterMap_map]
    change Except.ok ((records.map some ++ outs).reduceOption) = _
    rw [List.reduceOption_append, somes]
  obtain none | some := rest
  · refine ⟨written.map (·.1), sound.lost, records, ?_, returned⟩
    rw [read, none, List.append_nil]
  · exact ⟨_, sound.found, _, read, List.rel_append returned some⟩

end Reads

section Steps

variable {settings : TraceSettings} {elsewhere : PyString → Except PyError (Option Text)}
  {steps : List TraceStep} {dir : TraceDir} {written : List (TraceCall × Numeral)}
  {torn : Option Torn}

theorem offload_part {call : TraceCall} {offload : Offload}
    (prepared : (call.prepared settings).2 = some offload) :
    ∃ part, call.part settings = some part ∧ part.Long ∧
      offload = ⟨part.path settings, part.hashed, part.value⟩ := by
  cases given : call.part settings with
  | none =>
    rw [prepared_none given] at prepared
    cases prepared
  | some part =>
    by_cases long : part.Long
    · rw [prepared_long given long] at prepared
      exact ⟨part, rfl, long, (Option.some.inj prepared).symm⟩
    · rw [prepared_short given long] at prepared
      cases prepared

theorem content_saveOffload (offload : Option Offload) :
    (dir.saveOffload offload).content = dir.content := by
  cases offload with
  | none => rfl
  | some offload =>
    rw [TraceDir.saveOffload]
    split <;> rfl

theorem saved_saveOffload {earlier call : TraceCall} (saved : Saved settings dir earlier)
    (agree : Agree settings earlier call) :
    Saved settings (dir.saveOffload (call.prepared settings).2) earlier := by
  intro part given long
  obtain ⟨stored, uncut⟩ := saved part given long
  cases prepared : (call.prepared settings).2 with
  | none => exact ⟨stored, uncut⟩
  | some offload =>
    obtain ⟨other, owned, longer, rfl⟩ := offload_part prepared
    rw [TraceDir.saveOffload]
    split
    next =>
      by_cases same : part.path settings = other.path settings
      · have value := agree part other given long owned longer same
        simp [TraceDir.saveBlob, same, value]
      · simp [TraceDir.saveBlob, Function.update_of_ne same, stored, uncut]
    next => exact ⟨stored, uncut⟩

theorem saved_self {call : TraceCall} {now : Numeral}
    (encodable : call.encodable settings now = true) :
    Saved settings (dir.saveOffload (call.prepared settings).2) call := by
  intro part given long
  rw [TraceCall.encodable, prepared_long given long, Bool.and_eq_true] at encodable
  rw [prepared_long given long, TraceDir.saveOffload]
  simp only [Option.all_some] at encodable
  simp [encodable.2, TraceDir.saveBlob]

theorem saved_append {call : TraceCall} {text : Text} {cut : Bool}
    (saved : Saved settings dir call) : Saved settings (dir.append text cut) call := saved

theorem saved_tearBlob {earlier call : TraceCall} {now : Numeral} {kept : Nat} {cut : Bool}
    (saved : Saved settings dir earlier) (apart : Apart settings earlier call) :
    Saved settings (dir.step settings (.tearBlob call now kept cut)) earlier := by
  intro part given long
  rw [TraceDir.step]
  cases prepared : (call.prepared settings).2 with
  | none => exact saved part given long
  | some offload =>
    obtain ⟨other, owned, longer, rfl⟩ := offload_part prepared
    have different := apart part other given long owned longer
    simp only
    split
    next => simpa [TraceDir.saveBlob, Function.update_of_ne different] using saved part given long
    next => exact saved part given long

theorem start_sound (settings : TraceSettings)
    (elsewhere : PyString → Except PyError (Option Text)) :
    Sound settings elsewhere [] TraceDir.start [] none where
  text := rfl
  uncut := rfl
  plain _ member := by cases member
  saved _ member := by cases member
  listed _ member := by cases member
  tear _ _ _ none := by cases none
  lost := .start
  found := .start

theorem Sound.quiet (sound : Sound settings elsewhere steps dir written torn) {step : TraceStep}
    {after : TraceDir} (content : after.content = dir.content)
    (nothing : [] ∈ step.recovers settings)
    (saved : ∀ earlier ∈ steps.filterMap (·.recorded settings), Saved settings dir earlier →
      Saved settings after earlier) :
    Sound settings elsewhere (steps ++ [step]) after written torn where
  text := by rw [content, sound.text]
  uncut := by rw [content, sound.uncut]
  plain := sound.plain
  saved call member := saved call (sound.listed call member) (sound.saved call member)
  listed call member := by
    rw [List.filterMap_append]
    exact List.mem_append_left _ (sound.listed call member)
  tear call now kept same := by
    obtain ⟨begun, encodable, cut, listed⟩ := sound.tear call now kept same
    exact ⟨begun, encodable, cut, List.mem_append_left _ listed⟩
  lost := by simpa using sound.lost.step nothing
  found := by simpa using sound.found.step nothing

theorem Sound.untorn (sound : Sound settings elsewhere steps dir written torn) {step : TraceStep}
    (admissible : Admissible settings elsewhere steps step) {call : TraceCall}
    (recorded : step.recorded settings = some call) : torn = none := by
  cases torn with
  | none => rfl
  | some torn =>
    obtain ⟨earlier, now, kept⟩ := torn
    obtain ⟨begun, encodable, cut, listed⟩ := sound.tear earlier now kept rfl
    exact absurd (admissible.whole call recorded earlier now kept cut listed encodable) begun

theorem append_content (text : Text) (cut : Bool) :
    (dir.append text cut).content = ⟨dir.content.text ++ text, dir.content.cut || cut⟩ := rfl

theorem call_sound (sound : Sound settings elsewhere steps dir written torn) {call : TraceCall}
    {now : Numeral} (encodable : call.encodable settings now = true)
    (admissible : Admissible settings elsewhere steps (.call call now)) :
    Sound settings elsewhere (steps ++ [.call call now])
      (dir.step settings (.call call now)) (written ++ [(call, now)]) none := by
  have recorded : (TraceStep.call call now).recorded settings = some call := if_pos encodable
  obtain rfl := sound.untorn admissible recorded
  have after : dir.step settings (.call call now) =
      (dir.saveOffload (call.prepared settings).2).append
        ((call.line settings now).points ++ [Lines.newline]) false := if_pos encodable
  have mem {other : TraceCall} (member : other ∈ (written ++ [(call, now)]).map (·.1) ++ []) :
      other ∈ written.map (·.1) ++ tornCalls none ∨ other = call := by
    simpa [tornCalls] using member
  have returned : [call] ∈ (TraceStep.call call now).recovers settings := by
    simp [TraceStep.recovers, encodable]
  have kept : Recovered settings (steps ++ [.call call now])
      ((written ++ [(call, now)]).map (·.1)) := by
    simpa using sound.lost.step returned
  rw [after]
  exact
    { text := by
        rw [append_content, content_saveOffload, sound.text]
        simp [tornText, Lines.unlines]
      uncut := by rw [append_content, content_saveOffload, sound.uncut]; rfl
      plain := fun other member => (mem member).elim (sound.plain other)
        fun same => same ▸ admissible.plain call recorded
      saved := fun other member => (mem member).elim
        (fun before => saved_append (saved_saveOffload (sound.saved other before)
          (admissible.agree call rfl other (sound.listed other before))))
        fun same => by
          rw [same]
          exact saved_append (saved_self encodable)
      listed := fun other member => by
        rw [List.filterMap_append, List.mem_append]
        refine (mem member).imp (sound.listed other) fun same => ?_
        rw [same]
        exact List.mem_filterMap.mpr ⟨_, List.mem_singleton_self _, recorded⟩
      tear := fun _ _ _ none => by cases none
      lost := kept
      found := by simpa [tornCalls] using kept }

theorem tear_sound (sound : Sound settings elsewhere steps dir written torn) {call : TraceCall}
    {now : Numeral} {kept : Nat} {cut : Bool} (encodable : call.encodable settings now = true)
    (begun : kept ≠ 0)
    (admissible : Admissible settings elsewhere steps (.tear call now kept cut)) :
    Sound settings elsewhere (steps ++ [.tear call now kept cut])
      (dir.step settings (.tear call now kept cut)) written (some (call, now, kept)) := by
  have recorded : (TraceStep.tear call now kept cut).recorded settings = some call := by
    simp [TraceStep.recorded, encodable, begun]
  obtain rfl := sound.untorn admissible recorded
  obtain rfl := admissible.uncut call now kept cut rfl encodable
  have after : dir.step settings (.tear call now kept false) =
      (dir.saveOffload (call.prepared settings).2).append
        ((call.line settings now).points.take kept) false := if_pos encodable
  have mem {other : TraceCall}
      (member : other ∈ written.map (·.1) ++ tornCalls (some (call, now, kept))) :
      other ∈ written.map (·.1) ++ tornCalls none ∨ other = call := by
    simpa [tornCalls] using member
  rw [after]
  exact
    { text := by
        rw [append_content, content_saveOffload, sound.text]
        simp [tornText]
      uncut := by rw [append_content, content_saveOffload, sound.uncut]; rfl
      plain := fun other member => (mem member).elim (sound.plain other)
        fun same => same ▸ admissible.plain call recorded
      saved := fun other member => (mem member).elim
        (fun before => saved_append (saved_saveOffload (sound.saved other before)
          (admissible.agree call rfl other (sound.listed other before))))
        fun same => by
          rw [same]
          exact saved_append (saved_self encodable)
      listed := fun other member => by
        rw [List.filterMap_append, List.mem_append]
        refine (mem member).imp (sound.listed other) fun same => ?_
        rw [same]
        exact List.mem_filterMap.mpr ⟨_, List.mem_singleton_self _, recorded⟩
      tear := fun other time count same => by
        cases same
        exact ⟨begun, encodable, false, List.mem_append_right _ (List.mem_singleton_self _)⟩
      lost := by
        have nothing : [] ∈ (TraceStep.tear call now kept false).recovers settings := by
          simp [TraceStep.recovers]
        simpa using sound.lost.step nothing
      found := by
        have all : [call] ∈ (TraceStep.tear call now kept false).recovers settings := by
          simp [TraceStep.recovers]
        simpa [tornCalls] using sound.lost.step all }

theorem step_sound (sound : Sound settings elsewhere steps dir written torn) {step : TraceStep}
    (admissible : Admissible settings elsewhere steps step) :
    ∃ written torn, Sound settings elsewhere (steps ++ [step]) (dir.step settings step) written
      torn := by
  cases step with
  | opened =>
    refine ⟨written, torn, sound.quiet ?_ (by simp [TraceStep.recovers]) fun _ _ saved => saved⟩
    rw [TraceDir.step, append_content, List.append_nil, Bool.or_false]
  | call call now =>
    by_cases encodable : call.encodable settings now = true
    · exact ⟨_, _, call_sound sound encodable admissible⟩
    · refine ⟨written, torn, sound.quiet ?_ (by simp [TraceStep.recovers, encodable])
        fun earlier listed saved => ?_⟩
      · rw [TraceDir.step, if_neg encodable, content_saveOffload]
      · rw [TraceDir.step, if_neg encodable]
        exact saved_saveOffload saved (admissible.agree call rfl earlier listed)
  | tear call now kept cut =>
    by_cases encodable : call.encodable settings now = true
    · by_cases none : kept = 0
      · obtain rfl := admissible.uncut call now kept cut rfl encodable
        subst none
        refine ⟨written, torn, sound.quiet ?_ (by simp [TraceStep.recovers])
          fun earlier listed saved => ?_⟩
        · rw [TraceDir.step, if_pos encodable, append_content, content_saveOffload, List.take_zero,
            List.append_nil, Bool.or_false]
        · rw [TraceDir.step, if_pos encodable]
          exact saved_append
            (saved_saveOffload saved (admissible.agree call rfl earlier listed))
      · exact ⟨_, _, tear_sound sound encodable none admissible⟩
    · refine ⟨written, torn, sound.quiet ?_ (by simp [TraceStep.recovers])
        fun earlier listed saved => ?_⟩
      · rw [TraceDir.step, if_neg encodable, content_saveOffload]
      · rw [TraceDir.step, if_neg encodable]
        exact saved_saveOffload saved (admissible.agree call rfl earlier listed)
  | tearBlob call now kept cut =>
    refine ⟨written, torn, sound.quiet ?_ (by simp [TraceStep.recovers])
      fun earlier listed saved =>
        saved_tearBlob saved (admissible.apart call now kept cut rfl earlier listed)⟩
    rw [TraceDir.step]
    cases (call.prepared settings).2 with
    | none => rfl
    | some offload =>
      simp only
      split <;> rfl

end Steps

def Careful (settings : TraceSettings) (elsewhere : PyString → Except PyError (Option Text))
    (steps : List TraceStep) : Prop :=
  ∀ before step after, steps = before ++ step :: after → Admissible settings elsewhere before step

theorem run_sound {settings : TraceSettings}
    {elsewhere : PyString → Except PyError (Option Text)} {steps : List TraceStep}
    (careful : Careful settings elsewhere steps) :
    ∃ written torn, Sound settings elsewhere steps (TraceDir.run settings steps) written torn := by
  induction steps using List.reverseRecOn with
  | nil => exact ⟨[], none, start_sound settings elsewhere⟩
  | append_singleton steps step ih =>
    obtain ⟨written, torn, sound⟩ := ih fun before step' after split =>
      careful before step' (after ++ [step]) (by rw [split]; simp)
    rw [TraceDir.run, List.foldl_append]
    exact step_sound sound (careful steps step [] rfl)

theorem trace_reads_back (settings : TraceSettings)
    (elsewhere : PyString → Except PyError (Option Text)) (steps : List TraceStep)
    (careful : Careful settings elsewhere steps) : ReadsBack settings elsewhere steps := by
  obtain ⟨written, torn, sound⟩ := run_sound careful
  exact sound.reads

theorem careful_of_calls {settings : TraceSettings}
    {elsewhere : PyString → Except PyError (Option Text)} {steps : List TraceStep}
    (returned : ∀ step ∈ steps, step = .opened ∨ ∃ call now, step = .call call now)
    (plain : ∀ call now, .call call now ∈ steps → call.Plain settings elsewhere)
    (agree : ∀ earlier later now now', .call earlier now ∈ steps → .call later now' ∈ steps →
      Agree settings earlier later) : Careful settings elsewhere steps := by
  have recorded : ∀ step ∈ steps, ∀ call, step.recorded settings = some call →
      ∃ now, .call call now ∈ steps := by
    intro step member call given
    obtain rfl | ⟨call, now, rfl⟩ := returned step member
    · cases given
    · rw [TraceStep.recorded] at given
      split at given
      next => exact ⟨now, Option.some.inj given ▸ member⟩
      next => cases given
  intro before step after split
  have inside : step ∈ steps := split ▸ List.mem_append_right _ (List.mem_cons_self ..)
  have earlier : ∀ other ∈ before, other ∈ steps := fun other listed =>
    split ▸ List.mem_append_left _ listed
  constructor
  case plain =>
    intro call given
    obtain ⟨now, member⟩ := recorded step inside call given
    exact plain call now member
  case whole =>
    intro _ _ torn now kept cut listed
    obtain same | ⟨_, _, same⟩ := returned _ (earlier _ listed) <;> cases same
  case uncut =>
    rintro torn now kept cut rfl
    obtain same | ⟨_, _, same⟩ := returned _ inside <;> cases same
  case agree =>
    intro call saves other listed
    obtain ⟨step', listed', given⟩ := List.mem_filterMap.mp listed
    obtain ⟨now', member'⟩ := recorded step' (earlier _ listed') other given
    obtain rfl | ⟨call', now, rfl⟩ := returned _ inside
    · cases saves
    · obtain rfl := Option.some.inj saves
      exact agree other call' now' now member' inside
  case apart =>
    rintro call now kept cut rfl
    obtain same | ⟨_, _, same⟩ := returned _ inside <;> cases same

theorem decimal_hex (n : Nat) : ∀ c ∈ decimal n, 0x30 ≤ c.val ∧ c.val < 0x7F := by
  intro c member
  have digit := (decimal_digits n).1 c member
  simp only [isDigit, Bool.and_eq_true, decide_eq_true_eq] at digit
  omega

-- Results and texts of more than eight characters go to sidecars that are named by a sum.
def brief : TraceSettings where
  toolResultThreshold := 8
  textThreshold := 8
  previewChars := 4
  digest hashed := ⟨decimal (hashed.points.foldl (fun total c => total + c.val) 0)⟩
  digest_hex _ := decimal_hex _

def noFile : PyString → Except PyError (Option Text) := fun _ => .ok none

def startCall : TraceCall := .write [("type", .str "start")] rfl

def noon : Numeral := ⟨decimal 12, decimal_number 12⟩

def quoted (callId result : PyString) : TraceCall :=
  .writeToolResult callId result "quote" "ok" noon noon

def traced : List TraceStep :=
  [.opened, .call startCall noon, .call (quoted "c1" "AAPL 189.95") noon,
    .call (quoted "c2" "halted") noon, .call (quoted "c3" "MSFT 402.10") noon]

def tracedCalls : List TraceCall :=
  [startCall, quoted "c1" "AAPL 189.95", quoted "c2" "halted", quoted "c3" "MSFT 402.10"]

theorem quoted_plain {callId result : PyString}
    (inline : ((quoted callId result).inlineCharacters brief).all (! isSeparator ·) = true)
    (unreturned : result.points.all (· ≠ Lines.carriageReturn) = true) :
    (quoted callId result).Plain brief noFile where
  inline := by simpa using inline
  unreturned part given _ := by
    obtain rfl := Option.some.inj given
    intro returns
    simpa using List.all_eq_true.mp unreturned _ returns
  own part given _ := by
    obtain rfl := Option.some.inj given
    have unused : ("result" : PyString) ≠ "ts" ∧
        ∀ key ∈ [("result" : PyString), pathKey "result", previewKey "result", sizeKey "result"],
          key ∉ (["type", "iter", "tool", "call_id", "status", "elapsed_ms", "preview"] :
            List PyString) := by decide +kernel
    exact unused
  paths _ _ _ _ := ⟨none, rfl⟩

theorem traced_calls {call : TraceCall} {now : Numeral} (member : .call call now ∈ traced) :
    call ∈ tracedCalls := by
  simp only [traced, List.mem_cons, TraceStep.call.injEq, reduceCtorEq, List.not_mem_nil] at member
  simp only [tracedCalls, List.mem_cons, List.not_mem_nil]
  tauto

theorem traced_plain {call : TraceCall} (member : call ∈ tracedCalls) :
    call.Plain brief noFile := by
  simp only [tracedCalls, List.mem_cons, List.not_mem_nil, or_false] at member
  obtain rfl | rfl | rfl | rfl := member
  · exact
      { inline := by
          have all : (startCall.inlineCharacters brief).all (! isSeparator ·) = true := by
            decide +kernel
          simpa using all
        unreturned := fun _ given => by cases given
        own := fun _ given => by cases given
        paths := fun _ _ _ _ => ⟨none, rfl⟩ }
  all_goals exact quoted_plain (by decide +kernel) (by decide +kernel)

theorem traced_agree {earlier later : TraceCall} (member : earlier ∈ tracedCalls)
    (member' : later ∈ tracedCalls) : Agree brief earlier later := by
  have parts : ∀ part ∈ tracedCalls.filterMap (·.part brief),
      ∀ other ∈ tracedCalls.filterMap (·.part brief), part.Long → other.Long →
        part.path brief = other.path brief → part.value = other.value := by decide +kernel
  intro part other given long given' long'
  exact parts part (List.mem_filterMap.mpr ⟨earlier, member, given⟩) other
    (List.mem_filterMap.mpr ⟨later, member', given'⟩) long long'

-- Two of the three results have a sidecar.
theorem trace_reads_back_start : ReadsBack brief noFile traced :=
  trace_reads_back brief noFile traced
    (careful_of_calls (by simp [traced]) (fun _ _ member => traced_plain (traced_calls member))
      fun _ _ _ _ member member' => traced_agree (traced_calls member) (traced_calls member'))

theorem Recovered.length {settings : TraceSettings} {steps : List TraceStep}
    {calls : List TraceCall} (recovered : Recovered settings steps calls)
    (whole : ∀ step ∈ steps, ∀ part ∈ step.recovers settings, part.length = 1) :
    calls.length = steps.length := by
  induction recovered with
  | start => rfl
  | step before found ih =>
    rw [List.length_append, List.length_append,
      ih fun step member => whole step (List.mem_append_left _ member),
      whole _ (List.mem_append_right _ (List.mem_singleton_self _)) _ found]
    rfl

-- A text with a LINE SEPARATOR, as a model or a web page may give it
def separatedCall : TraceCall := .write [("content", .str ⟨[0x61, 0x2028, 0x62]⟩)] rfl

theorem trace_reads_back_fails :
    ¬ ∀ (settings : TraceSettings) (elsewhere : PyString → Except PyError (Option Text))
      (steps : List TraceStep), ReadsBack settings elsewhere steps := by
  intro all
  obtain ⟨calls, recovered, records, read, returned⟩ :=
    all brief noFile [.call separatedCall noon]
  have encodable : separatedCall.encodable brief noon = true := by decide +kernel
  have one := recovered.length (by simp [TraceStep.recovers, encodable])
  have none : ((TraceDir.run brief [.call separatedCall noon]).read noFile true none).map
      List.length = .ok 0 := by decide +kernel
  rw [read] at none
  have same := Except.ok.inj none
  rw [← returned.length_eq, one] at same
  cases same

end SynapseYield.Agent
