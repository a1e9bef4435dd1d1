import SynapseYield.Tools.SkillWriter

set_option autoImplicit false

namespace SynapseYield.Tools

open Shared

section Calls

variable [PyText] {dirs : SkillDirs} {name : PyString} {disk before : Disk}

theorem sanitizeSkillName_plain (name : PyString) : sanitizeSkillName name ≠ ".." := by
  intro same
  have dot : (0x2E : CodePoint) ∈ (sanitizeSkillName name).points := by
    rw [same]
    decide +kernel
  obtain ⟨c, -, given⟩ := List.mem_map.mp (List.mem_of_mem_take dot)
  split at given
  next kept =>
    subst given
    exact absurd kept (by decide)
  next => exact absurd given (by decide)

theorem below_plain {dir : Path} (plain : ∀ part ∈ dir, part ≠ "..") (name : PyString) :
    ∀ part ∈ below dir (sanitizeSkillName name), part ≠ ".." := by
  unfold below
  split
  next => exact plain
  next =>
    intro part member
    obtain old | new := List.mem_append.mp member
    · exact plain part old
    · rw [List.mem_singleton.mp new]
      exact sanitizeSkillName_plain name

theorem resolve_doc {dir : Path} (plain : ∀ part ∈ dir, part ≠ "..") (name : PyString) :
    Disk.resolve [] (skillDoc (below dir (sanitizeSkillName name))) =
      skillDoc (below dir (sanitizeSkillName name)) := by
  refine Disk.resolve_plain fun part member => ?_
  obtain old | file := List.mem_append.mp member
  · exact below_plain plain name part old
  · rw [List.mem_singleton.mp file]
    decide +kernel

omit [PyText] in
theorem user_plain (dirs : SkillDirs) : ∀ part ∈ dirs.user, part ≠ ".." :=
  fun part member => dirs.plain part (List.mem_append_left _ member)

omit [PyText] in
theorem bundled_plain (dirs : SkillDirs) : ∀ part ∈ dirs.bundled, part ≠ ".." :=
  fun part member => dirs.plain part (List.mem_append_right _ member)

def Outside (dirs : SkillDirs) (name : PyString) (before disk : Disk) : Prop :=
  Disk.SameOutside (skillDir dirs name) before disk

theorem writeDoc_keeps (text : PyString) :
    Keeps (Outside dirs name before) (Disk.writeText (skillDoc (skillDir dirs name)) text) := by
  refine Disk.writeText_keeps ?_ text
  rw [skillDir, resolve_doc (user_plain dirs)]
  exact List.prefix_append _ _

theorem saveSkill_keeps (content category : PyString) :
    Keeps (Outside dirs name before) (saveSkill dirs name content category) := by
  refine .ite (.pure _) (.bind (Disk.mkdirs_keeps _ _) fun _ => ?_)
  exact .bind (writeDoc_keeps _) fun _ => .pure _

theorem patchFile_keeps (find replacement : PyString) :
    Keeps (Outside dirs name before)
      (patchFile name find replacement (skillDoc (skillDir dirs name))) := by
  refine .bind (Disk.readText_keeps _) fun content => ?_
  cases replaceFirst find.points replacement.points content.points with
  | none => exact .pure _
  | some patched => exact .bind (writeDoc_keeps _) fun _ => .pure _

theorem patchSkill_keeps (find replacement : PyString) :
    Keeps (Outside dirs name before) (patchSkill dirs name find replacement) := by
  refine .ite (.pure _) (.bind (Disk.present_keeps _) fun saved => .ite (patchFile_keeps _ _) ?_)
  refine .bind (Disk.present_keeps _) fun bundled => .ite ?_ (.pure _)
  refine .bind (Disk.mkdirs_keeps _ _) fun _ => .bind (Disk.readText_keeps _) fun text => ?_
  exact .bind (writeDoc_keeps _) fun _ => patchFile_keeps _ _

theorem deleteSkill_keeps :
    Keeps (Outside dirs name.strip before) (deleteSkill dirs name) := by
  refine .ite (.pure _) (.bind (Disk.present_keeps _) fun saved => .ite ?_ (.pure _))
  exact .bind Disk.rmtree_keeps fun _ => .pure _

omit [PyText] in
theorem isInside_below {dir : Path} {relPath : PyString} (inside : isInside dir relPath = true) :
    dir <+: Disk.resolve [] (target dir relPath) :=
  List.isPrefixOf_iff_prefix.mp (Bool.and_eq_true_iff.mp inside).2

theorem writeFile_keeps {dir : Path} (skillName path content : PyString) :
    Keeps (Disk.SameOutside dir before) (writeFile dir skillName path content) := by
  unfold writeFile
  refine .ite (.pure _) (.ite (.pure _) (.ite (.pure _) ?_))
  split
  next => exact .pure _
  next inside =>
    refine .bind (Disk.mkdirs_keeps _ _) fun _ => .bind (Disk.writeText_keeps ?_ _) fun _ => .pure _
    exact isInside_below (by simpa using inside)

theorem removeFile_keeps {dir : Path} (skillName path : PyString) :
    Keeps (Disk.SameOutside dir before) (removeFile dir skillName path) := by
  unfold removeFile
  refine .ite (.pure _) (.ite (.pure _) ?_)
  split
  next => exact .pure _
  next inside =>
    refine .bind (Disk.present_keeps _) fun there => .ite ?_ (.pure _)
    exact .bind (Disk.unlink_keeps (isInside_below (by simpa using inside))) fun _ => .pure _

theorem skillFile_keeps (action : FileAction) :
    Keeps (Outside dirs name.strip before) (skillFile dirs name action) := by
  refine .ite (.pure _) (.bind (Disk.present_keeps _) fun saved => .ite ?_ (.pure _))
  cases action with
  | list => exact .bind .get fun _ => .pure _
  | write path content => exact writeFile_keeps _ _ _
  | remove path => exact removeFile_keeps _ _
  | unknown action => exact .pure _

theorem SkillCall.run_keeps (call : SkillCall) : Keeps (Outside dirs call.name before) (call.run dirs) := by
  cases call with
  | save name content category => exact saveSkill_keeps content category
  | patch name find replacement => exact patchSkill_keeps find replacement
  | delete name => exact deleteSkill_keeps
  | file name action => exact skillFile_keeps action

section Errors

def failed : EStateM.Result PyError Disk Reply → Bool
  | .ok (.error _) _ => true
  | .ok _ _ => false
  | .error _ _ => true

-- A call that fails, or replies with an error, leaves the files as they are.
def NoTrace (disk : Disk) (x : EStateM PyError Disk Reply) : Prop :=
  failed (x disk) = true → Disk.SameFiles disk (leaves (x disk))

omit [PyText] in
theorem NoTrace.pure (reply : Reply) : NoTrace disk (pure reply) := fun _ _ => rfl

omit [PyText] in
theorem NoTrace.ite {condition : Prop} [Decidable condition] {x y : EStateM PyError Disk Reply}
    (first : NoTrace disk x) (second : NoTrace disk y) :
    NoTrace disk (if condition then x else y) := by
  split
  next => exact first
  next => exact second

omit [PyText] in
theorem NoTrace.present {path : Path} {f : Bool → EStateM PyError Disk Reply}
    (rest : NoTrace disk (f (disk.exists' path))) : NoTrace disk (Disk.present path >>= f) := by
  have asked : Disk.present path disk = .ok (disk.exists' path) disk := rfl
  unfold NoTrace
  rwa [bind_of_ok asked]

omit [PyText] in
theorem NoTrace.bind {α : Type} {x : EStateM PyError Disk α} {f : α → EStateM PyError Disk Reply}
    (first : Keeps (Disk.SameFiles disk) x)
    (rest : ∀ a after, x disk = .ok a after → Disk.SameFiles disk after → NoTrace after (f a)) :
    NoTrace disk (x >>= f) := by
  have same := first disk fun _ => rfl
  intro fails
  cases run : x disk with
  | error raised after =>
    rw [run] at same
    rw [bind_of_error run]
    exact same
  | ok a after =>
    rw [run] at same
    rw [bind_of_ok run] at fails ⊢
    exact fun path => (rest a after run same fails path).trans (same path)

omit [PyText] in
theorem NoTrace.last {α : Type} {x : EStateM PyError Disk α} {message : PyString}
    {path : Option Path} (safe : Disk.FailsSafely x) :
    NoTrace disk (x >>= fun _ => Pure.pure (.ok message path)) := by
  intro fails
  cases run : x disk with
  | error raised after =>
    rw [bind_of_error run]
    exact safe disk raised after run
  | ok a after =>
    rw [bind_of_ok run] at fails
    cases fails

omit [PyText] in
theorem NoTrace.writeAfterMkdirs {dir path : Path} {text message : PyString}
    {place : Option Path} (encodable : text.encodable = true) :
    NoTrace disk (Disk.mkdirs [] dir >>= fun _ => Disk.writeText path text >>= fun _ =>
      Pure.pure (.ok message place)) :=
  .bind (Disk.mkdirs_sameFiles _ _) fun _ _ _ _ => .last (Disk.writeText_failsSafely encodable)

def savedText (name content category : PyString) : PyString :=
  if ("---" : PyString).points.isPrefixOf content.strip.points then content
  else ("---\nname: " : PyString) ++ sanitizeSkillName name ++
    "\ndescription: User-created skill\ncategory: " ++ category ++ "\n---\n\n" ++ content

def patchedDoc (dirs : SkillDirs) (disk : Disk) (name : PyString) : Path :=
  if disk.exists' (skillDoc (skillDir dirs name)) then skillDoc (skillDir dirs name)
  else skillDoc (below dirs.bundled (sanitizeSkillName name))

-- The texts that a call writes are texts of UTF-8, and the text that a patch is to find stands
-- in the skill, unless the skill is one of the user's.
def Writes (dirs : SkillDirs) (disk : Disk) : SkillCall → Prop
  | .save name content category => (savedText name content category).encodable = true
  | .patch name find replacement =>
    ∀ text, disk.text (patchedDoc dirs disk name) = some text →
      match replaceFirst find.points replacement.points (Lines.universalNewlines text.points) with
      | some patched => PyString.encodable ⟨patched⟩ = true
      | none => disk.exists' (skillDoc (skillDir dirs name)) = true
  | .file _ (.write _ content) => content.encodable = true
  | _ => True

theorem saveSkill_noTrace {content category : PyString}
    (encodable : (savedText name content category).encodable = true) :
    NoTrace disk (saveSkill dirs name content category) :=
  .ite (.pure _) (.writeAfterMkdirs encodable)

theorem deleteSkill_noTrace : NoTrace disk (deleteSkill dirs name) :=
  .ite (.pure _) (.present (.ite (.last Disk.rmtree_failsSafely) (.pure _)))

theorem writeFile_noTrace {dir : Path} {skillName path content : PyString}
    (encodable : content.encodable = true) : NoTrace disk (writeFile dir skillName path content) :=
  .ite (.pure _) (.ite (.pure _) (.ite (.pure _) (.ite (.pure _) (.writeAfterMkdirs encodable))))

theorem removeFile_noTrace {dir : Path} {skillName path : PyString} :
    NoTrace disk (removeFile dir skillName path) :=
  .ite (.pure _) (.ite (.pure _) (.ite (.pure _)
    (.present (.ite (.last Disk.unlink_failsSafely) (.pure _)))))

theorem skillFile_noTrace {action : FileAction} (writes : Writes dirs disk (.file name action)) :
    NoTrace disk (skillFile dirs name action) := by
  refine .ite (.pure _) (.present (.ite ?_ (.pure _)))
  cases action with
  | list =>
    intro fails
    cases fails
  | write path content => exact writeFile_noTrace writes
  | remove path => exact removeFile_noTrace
  | unknown action => exact .pure _

omit [PyText] in
theorem patchFile_noTrace {find replacement : PyString} {path : Path}
    (encodable : ∀ content after, Disk.readText path disk = .ok content after →
      ∀ patched, replaceFirst find.points replacement.points content.points = some patched →
        PyString.encodable ⟨patched⟩ = true) :
    NoTrace disk (patchFile name find replacement path) := by
  refine .bind (Disk.readText_keeps _) fun content after read same => ?_
  cases found : replaceFirst find.points replacement.points content.points with
  | none => exact .pure _
  | some patched => exact .last (Disk.writeText_failsSafely (encodable content after read patched found))

omit [PyText] in
theorem readText_held {path : Path} {content : PyString} {after : Disk}
    (plain : Disk.resolve [] path = path) (read : Disk.readText path disk = .ok content after) :
    after = disk ∧
      ∃ text, disk.text path = some text ∧ content.points = Lines.universalNewlines text.points := by
  obtain ⟨rfl, text, held, rfl⟩ := Disk.readText_ok read
  obtain ⟨place, found, holds⟩ := Option.bind_eq_some_iff.mp held
  rw [Disk.walk_resolve found, plain] at holds
  exact ⟨rfl, text, holds, rfl⟩

theorem patchSkill_noTrace {find replacement : PyString}
    (writes : Writes dirs disk (.patch name find replacement)) :
    NoTrace disk (patchSkill dirs name find replacement) := by
  refine .ite (.pure _) (.present ?_)
  simp only [Writes, patchedDoc] at writes
  by_cases saved : disk.exists' (skillDoc (skillDir dirs name)) = true
  · rw [if_pos saved]
    refine patchFile_noTrace fun content after read patched found => ?_
    obtain ⟨-, text, held, shown⟩ := readText_held (resolve_doc (user_plain dirs) name) read
    rw [if_pos saved] at writes
    rw [shown] at found
    simpa only [found] using writes text held
  · rw [if_neg saved]
    refine .present (.ite ?_ (.pure _))
    rw [if_neg saved] at writes
    refine .bind (Disk.mkdirs_sameFiles _ _) fun _ made _ same => ?_
    refine .bind (Disk.readText_keeps _) fun copied after read _ => ?_
    obtain ⟨rfl, text, held, shown⟩ := readText_held (resolve_doc (bundled_plain dirs) name) read
    rw [same] at held
    have patches := writes text held
    have encodable : copied.encodable = true := by
      rw [PyString.encodable, shown]
      exact Disk.universalNewlines_encodable (Disk.text_encodable held)
    intro fails
    cases copy : Disk.writeText (skillDoc (skillDir dirs name)) copied after with
    | error raised last =>
      rw [bind_of_error copy]
      exact Disk.writeText_failsSafely encodable after raised last copy
    | ok _ last =>
      -- The copy is read back, the text is found in it and it is written again.
      exfalso
      rw [bind_of_ok copy, patchFile, bind_of_ok (Disk.readText_writeText copy), shown,
        Lines.universalNewlines_twice] at fails
      cases found : replaceFirst find.points replacement.points (Lines.universalNewlines text.points) with
      | none =>
        rw [found] at patches
        exact saved patches
      | some patched =>
        simp only [found] at patches fails
        obtain ⟨final, written⟩ := Disk.writeText_again copy patches
        rw [bind_of_ok written] at fails
        cases fails

theorem SkillCall.run_noTrace {call : SkillCall} (writes : Writes dirs disk call) :
    NoTrace disk (call.run dirs) := by
  cases call with
  | save name content category => exact saveSkill_noTrace writes
  | patch name find replacement => exact patchSkill_noTrace writes
  | delete name => exact deleteSkill_noTrace
  | file name action => exact skillFile_noTrace writes

end Errors

section Runs

-- The names of the skills that the calls so far have left among the user's.
def savedAfter (saved : List PyString) (call : SkillCall) :
    EStateM.Result PyError Disk Reply → List PyString
  | .ok (.ok _ _) _ =>
    match call with
    | .save name _ _ => name :: saved
    | .patch name _ _ => name :: saved
    | .delete name => saved.filter fun other => skillKey other ≠ skillKey name.strip
    | .file _ _ => saved
  | _ => saved

structure StepLaw (dirs : SkillDirs) (saved : List PyString) (call : SkillCall) (before : Disk) :
    Prop where
  others : ∀ other ∈ saved, skillKey other ≠ skillKey call.name →
    ∀ path, skillDir dirs other <+: path →
      (leaves (call.run dirs before)).text path = before.text path
  harmless : failed (call.run dirs before) = true →
    Disk.SameFiles before (leaves (call.run dirs before))
  bundled : ∀ path, dirs.bundled <+: path →
    (leaves (call.run dirs before)).text path = before.text path
  within : Disk.SameOutside (skillDir dirs call.name) before (leaves (call.run dirs before))

def Lawful (dirs : SkillDirs) : List SkillCall → List PyString → Disk → Prop
  | [], _, _ => True
  | call :: rest, saved, disk =>
    StepLaw dirs saved call disk ∧
      Lawful dirs rest (savedAfter saved call (call.run dirs disk)) (leaves (call.run dirs disk))

-- No saved skill of another name has the same slug, and the call can write its texts.
structure Fit (dirs : SkillDirs) (saved : List PyString) (call : SkillCall) (disk : Disk) :
    Prop where
  told : ∀ other ∈ saved, sanitizeSkillName other = sanitizeSkillName call.name →
    skillKey other = skillKey call.name
  writes : Writes dirs disk call

def Fits (dirs : SkillDirs) : List SkillCall → List PyString → Disk → Prop
  | [], _, _ => True
  | call :: rest, saved, disk =>
    Fit dirs saved call disk ∧
      Fits dirs rest (savedAfter saved call (call.run dirs disk)) (leaves (call.run dirs disk))

theorem sanitizeSkillName_ne_empty (named : skillKey name ≠ "") : sanitizeSkillName name ≠ "" := by
  intro blank
  have short : ((skillKey name).points.map fun c => if isSlugChar c then c else 0x2D).take 60 = [] :=
    congrArg PyString.points blank
  rw [List.take_eq_nil_iff, List.map_eq_nil_iff] at short
  obtain none | empty := short
  · exact absurd none (by decide)
  · exact named (congrArg PyString.mk empty)

theorem skillDir_named (named : skillKey name ≠ "") :
    skillDir dirs name = dirs.user ++ [sanitizeSkillName name] :=
  if_neg (sanitizeSkillName_ne_empty named)

theorem user_leads (dirs : SkillDirs) (name : PyString) : dirs.user <+: skillDir dirs name := by
  unfold skillDir below
  split
  next => exact List.prefix_refl _
  next => exact List.prefix_append _ _

theorem skillDir_apart {other : PyString} {path : Path} (named : skillKey name ≠ "")
    (otherNamed : skillKey other ≠ "") (under : skillDir dirs name <+: path)
    (otherUnder : skillDir dirs other <+: path) :
    sanitizeSkillName other = sanitizeSkillName name := by
  rw [skillDir_named named] at under
  rw [skillDir_named otherNamed] at otherUnder
  have same := List.prefix_of_prefix_length_le otherUnder under (by simp)
  have equal := same.eq_of_length (by simp)
  exact (List.cons.inj (List.append_cancel_left equal)).1

theorem bundled_apart {path : Path} (under : dirs.bundled <+: path) :
    ¬ skillDir dirs name <+: path := by
  intro inside
  obtain first | second :=
    List.prefix_or_prefix_of_prefix ((user_leads dirs name).trans inside) under
  · exact dirs.apart.1 first
  · exact dirs.apart.2 second

theorem step_lawful {saved : List PyString} {call : SkillCall}
    (names : ∀ other ∈ saved, skillKey other ≠ "") (named : skillKey call.name ≠ "")
    (fit : Fit dirs saved call disk) : StepLaw dirs saved call disk := by
  have within : Disk.SameOutside (skillDir dirs call.name) disk (leaves (call.run dirs disk)) :=
    call.run_keeps disk fun _ _ => rfl
  constructor
  case others =>
    intro other member different path under
    refine within path fun inside => different ?_
    exact fit.told other member (skillDir_apart named (names other member) inside under)
  case harmless => exact SkillCall.run_noTrace fit.writes
  case bundled =>
    intro path under
    exact within path (bundled_apart under)
  case within => exact within

theorem savedAfter_named {saved : List PyString} {call : SkillCall}
    (names : ∀ other ∈ saved, skillKey other ≠ "") (named : skillKey call.name ≠ "")
    (result : EStateM.Result PyError Disk Reply) :
    ∀ other ∈ savedAfter saved call result, skillKey other ≠ "" := by
  intro other member
  unfold savedAfter at member
  split at member
  next =>
    cases call with
    | save name content category =>
      obtain rfl | old := List.mem_cons.mp member
      · exact named
      · exact names other old
    | patch name find replacement =>
      obtain rfl | old := List.mem_cons.mp member
      · exact named
      · exact names other old
    | delete name => exact names other (List.mem_filter.mp member).1
    | file name action => exact names other member
  next => exact names other member

theorem skills_kept (dirs : SkillDirs) (calls : List SkillCall) (saved : List PyString)
    (disk : Disk) (names : ∀ other ∈ saved, skillKey other ≠ "")
    (named : ∀ call ∈ calls, skillKey call.name ≠ "") (fits : Fits dirs calls saved disk) :
    Lawful dirs calls saved disk := by
  induction calls generalizing saved disk with
  | nil => trivial
  | cons call rest ih =>
    obtain ⟨first, later⟩ := List.forall_mem_cons.mp named
    obtain ⟨fit, fits⟩ := fits
    exact ⟨step_lawful names first fit,
      ih _ _ (savedAfter_named names first _) later fits⟩

end Runs

end Calls

def homeDirs : SkillDirs where
  user := [("skills" : PyString), ("user" : PyString)]
  bundled := [("package" : PyString)]
  plain := by decide +kernel
  apart := by decide +kernel

def packaged : Disk :=
  ⟨fun path =>
    if path = [("package" : PyString)] then some .dir
    else if path = [("package" : PyString), ("kdj" : PyString)] then some .dir
    else if path = [("package" : PyString), ("kdj" : PyString), ("SKILL.md" : PyString)] then
      some (.file ⟨"---\nbuy low\n", by decide +kernel⟩)
    else none⟩

def ownSkill : List SkillCall :=
  [.save "Momentum" "---\nbuy" "user", .file " momentum" (.write "references/a.md" "notes"),
    .delete "Momentum "]

theorem skills_kept_momentum :
    (∀ call ∈ ownSkill, @skillKey asciiText (@SkillCall.name asciiText call) ≠ "") ∧
      @Lawful asciiText homeDirs ownSkill [] packaged := by
  let := asciiText
  have named : ∀ call ∈ ownSkill, skillKey call.name ≠ "" := by decide +kernel
  refine ⟨named, skills_kept homeDirs ownSkill [] packaged (by decide) named ?_⟩
  refine ⟨⟨by decide +kernel, ?_⟩, ⟨by decide +kernel, ?_⟩, ⟨by decide +kernel, trivial⟩, trivial⟩
  · change PyString.encodable _ = true
    decide +kernel
  · change PyString.encodable _ = true
    decide +kernel

def sameSlug : List SkillCall :=
  [.save "pairs us" "---\nfirst" "user", .save "pairs_us" "---\nsecond" "user"]

-- The second skill overwrites the first, and a patch that fails leaves a copy of a skill of the
-- package among the user's.
theorem skill_store_fails :
    ¬ @Lawful asciiText homeDirs sameSlug [] packaged ∧
      ¬ @Lawful asciiText homeDirs [.patch "kdj" "sell" "hold"] [] packaged := by
  let := asciiText
  constructor
  · rintro ⟨-, ⟨others, -, -, -⟩, -⟩
    have kept := others ("pairs us" : PyString) (by decide +kernel) (by decide +kernel)
      (skillDoc (skillDir homeDirs "pairs us")) (List.prefix_append _ _)
    revert kept
    decide +kernel
  · rintro ⟨⟨-, harmless, -, -⟩, -⟩
    have kept := harmless (by decide +kernel) (skillDoc (skillDir homeDirs "kdj"))
    revert kept
    decide +kernel

end SynapseYield.Tools
