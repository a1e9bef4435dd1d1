import SynapseYield.Shared.Outcome
import SynapseYield.Tools.Workspace

set_option autoImplicit false

namespace SynapseYield.Tools.Workspace

open Shared

def Plain (path : Path) : Prop := ∀ name ∈ path, name ≠ ".."

theorem Plain.resolve {path : Path} (plain : Plain path) : Disk.resolve [] path = path := by
  rw [Disk.resolve_plain plain, List.nil_append]

def Under (allowed : Except PathError (List Path)) (path : Path) : Prop :=
  ∃ listed, allowed = .ok listed ∧ ∃ root ∈ listed, root <+: path

section Places

open Outcome

variable [PyText] {host : Host} {p filePath : PyString} {runDir : Option PyString}
  {place workdir : Path} {allowed : List Path}

def Writable (host : Host) (path : Path) : Prop :=
  Under (runRoots host) path ∨ Under (writeRoots host) path

omit [PyText] in
theorem any_prefix (inside : (allowed.any fun root => root.isPrefixOf place) = true) :
    ∃ root ∈ allowed, root <+: place := by
  obtain ⟨root, listed, inside⟩ := List.any_eq_true.mp inside
  exact ⟨root, listed, List.isPrefixOf_iff_prefix.mp inside⟩

omit [PyText] in
theorem guarded_ok {α : Type} {condition : Prop} [Decidable condition] {x : Except PathError α}
    {otherwise : PathError} {a : α}
    (checked : (if condition then x else .error otherwise) = .ok a) : condition ∧ x = .ok a := by
  split at checked
  next holds => exact ⟨holds, checked⟩
  next => cases checked

omit [PyText] in
theorem resolved_plain {start : Path} {path : Bool × Path} (plain : Plain start)
    (found : resolved start p path = .ok place) : Plain place := by
  obtain ⟨-, same⟩ := guarded_ok found
  obtain rfl := Except.ok.inj same
  refine Disk.resolve_resolved ?_
  split
  next => exact fun _ member => absurd member List.not_mem_nil
  next => exact plain

omit [PyText] in
theorem candidate_plain (found : candidate host p = .ok place) : Plain place := by
  obtain ⟨path, -, found⟩ := bind_ok.mp found
  refine resolved_plain (fun name member => ?_) found
  exact (host.named name (by simp [member])).1

omit [PyText] in
theorem safePath_ok (found : safePath host p workdir = .ok place) :
    workdir <+: place ∧ (Plain workdir → Plain place) := by
  obtain ⟨_, -, found⟩ := bind_ok.mp found
  obtain ⟨path, -, found⟩ := bind_ok.mp found
  obtain ⟨_, given, found⟩ := bind_ok.mp found
  obtain ⟨inside, same⟩ := guarded_ok found
  obtain rfl := Except.ok.inj same
  exact ⟨List.isPrefixOf_iff_prefix.mp inside, fun plain => resolved_plain plain given⟩

theorem safeRunDir_ok (found : safeRunDir host p = .ok place) :
    Plain place ∧ Under (runRoots host) place := by
  obtain ⟨_, -, found⟩ := bind_ok.mp found
  obtain ⟨_, given, found⟩ := bind_ok.mp found
  obtain ⟨listed, roots, found⟩ := bind_ok.mp found
  obtain ⟨inside, same⟩ := guarded_ok found
  obtain rfl := Except.ok.inj same
  exact ⟨candidate_plain given, listed, roots, any_prefix inside⟩

omit [PyText] in
theorem underRoots_ok {otherwise : PathError}
    (found : underRoots host filePath allowed otherwise = .ok place) :
    Plain place ∧ ∃ root ∈ allowed, root <+: place := by
  obtain ⟨_, given, found⟩ := bind_ok.mp found
  obtain ⟨inside, same⟩ := guarded_ok found
  obtain rfl := Except.ok.inj same
  exact ⟨candidate_plain given, any_prefix inside⟩

theorem resolveSafePath_ok (found : resolveSafePath host filePath runDir allowed = .ok place) :
    Plain place ∧ (Under (runRoots host) place ∨ ∃ root ∈ allowed, root <+: place) := by
  obtain ⟨_, -, found⟩ := bind_ok.mp found
  split at found
  next => exact (underRoots_ok found).imp_right .inr
  next =>
    split at found
    next => exact (underRoots_ok (guarded_ok found).2).imp_right .inr
    next runRoot inRuns =>
      split at found
      next => exact (underRoots_ok (guarded_ok found).2).imp_right .inr
      next inside =>
        obtain rfl := Except.ok.inj found
        obtain ⟨plain, listed, roots, root, member, below⟩ := safeRunDir_ok inRuns
        obtain ⟨within, kept⟩ := safePath_ok inside
        exact ⟨kept plain, .inl ⟨listed, roots, root, member, below.trans within⟩⟩

theorem writePlace_ok (found : writePlace host filePath runDir = .ok place) :
    Plain place ∧ Writable host place := by
  obtain ⟨allowed, listed, found⟩ := bind_ok.mp found
  obtain ⟨plain, inside⟩ := resolveSafePath_ok found
  exact ⟨plain, inside.imp_right fun below => ⟨allowed, listed, below⟩⟩

omit [PyText] in
theorem given_runDir {dir : PyString} (given : dir ≠ "") :
    ((some dir).filter fun dir : PyString => dir ≠ "") = some dir := by simp [given]

theorem writePlace_inside {dir : PyString} {runRoot found : Path} (given : dir ≠ "")
    (inRuns : safeRunDir host dir = .ok runRoot)
    (inside : safePath host filePath runRoot = .ok place)
    (written : writePlace host filePath (some dir) = .ok found) : found = place := by
  obtain ⟨allowed, -, written⟩ := bind_ok.mp written
  obtain ⟨_, -, written⟩ := bind_ok.mp written
  rw [given_runDir given] at written
  simp only [inRuns, inside] at written
  exact (Except.ok.inj written).symm

end Places

section Calls

variable [PyText] {host : Host} {inv : Disk → Prop} {before : Disk}

def FileCall.target (host : Host) : FileCall → Option Path
  | .read _ _ _ => none
  | .write filePath _ runDir => (writePlace host filePath runDir).toOption
  | .edit filePath _ _ runDir => (writePlace host filePath runDir).toOption

omit [PyText] in
theorem pathExists_keeps (path : Path) : Keeps inv (pathExists path) := by
  refine .bind_get fun disk holds => ?_
  cases lookup disk [] path <;> exact holds

omit [PyText] in
theorem orRefused_keeps {α : Type} {place : Except PathError α}
    {act : α → EStateM PyError Disk FileReply} (kept : ∀ a, place = .ok a → Keeps inv (act a)) :
    Keeps inv (orRefused place act) := by
  cases place with
  | ok a => exact kept a rfl
  | error raised => exact .ite (.pure _) (.throw _)

omit [PyText] in
theorem orFailed_keeps {act : EStateM PyError Disk FileReply} (kept : Keeps inv act) :
    Keeps inv (orFailed act) := kept.tryCatch fun _ => .pure _

omit [PyText] in
theorem findFile_keeps (tries : List (Path × PyString)) : Keeps inv (findFile host tries) := by
  induction tries with
  | nil => exact .pure none
  | cons first rest ih =>
    unfold findFile
    split
    next => exact .bind (pathExists_keeps _) fun _ => .ite (.pure _) ih
    next => exact .ite ih (.throw _)

theorem readRoots_keeps (given : List Path) : Keeps inv (readRoots host given) := by
  refine .bind (pathExists_keeps _) fun there => ?_
  dsimp only
  cases fileRoots host with
  | ok extra => exact .pure _
  | error raised => exact .throw _

theorem readFile_keeps (filePath : PyString) (limit : Option Int) (runDir : Option PyString) :
    Keeps inv (readFile host filePath limit runDir) := by
  refine orRefused_keeps fun given _ => .bind (readRoots_keeps given) fun allowed => ?_
  refine .bind (findFile_keeps _) fun found => ?_
  cases found with
  | none => exact .pure _
  | some place => exact orFailed_keeps (.bind (Disk.readText_keeps _) fun _ => .pure _)

theorem writeText_keeps {filePath text : PyString} {runDir : Option PyString} {place : Path}
    (found : writePlace host filePath runDir = .ok place) :
    Keeps (Disk.Grown (writePlace host filePath runDir).toOption before)
      (Disk.writeText place text) := by
  have kept :
      Keeps (Disk.Grown (some (Disk.resolve [] place)) before) (Disk.writeText place text) :=
    Disk.writeText_grown text
  rw [(writePlace_ok found).1.resolve] at kept
  rwa [found]

theorem FileCall.run_grown (call : FileCall) :
    Keeps (Disk.Grown (call.target host) before) (call.run host) := by
  cases call with
  | read filePath limit runDir => exact readFile_keeps filePath limit runDir
  | write filePath content runDir =>
    refine orRefused_keeps fun place found => orFailed_keeps ?_
    exact .bind (Disk.mkdirs_grown _ _) fun _ => .bind (writeText_keeps found) fun _ => .pure _
  | edit filePath oldText newText runDir =>
    refine orRefused_keeps fun place found => .bind (pathExists_keeps _) fun there => ?_
    refine .ite (orFailed_keeps (.bind (Disk.readText_keeps _) fun content => ?_)) (.pure _)
    split
    next => exact .pure _
    next => exact .bind (writeText_keeps found) fun _ => .pure _

theorem FileCall.grown (call : FileCall) (disk : Disk) :
    Disk.Grown (call.target host) disk (leaves (call.run host disk)) :=
  call.run_grown disk (.refl _ disk)

omit [PyText] in
theorem toOption_some {ε α : Type} {found : Except ε α} {a : α} (hit : found.toOption = some a) :
    found = .ok a := by
  cases found with
  | ok given => exact congrArg _ (Option.some.inj hit)
  | error raised => cases hit

theorem target_writable {call : FileCall} {path : Path} (hit : call.target host = some path) :
    Writable host path := by
  cases call with
  | read filePath limit runDir => cases hit
  | write filePath content runDir =>
    exact (writePlace_ok (toOption_some hit)).2
  | edit filePath oldText newText runDir =>
    exact (writePlace_ok (toOption_some hit)).2

theorem calls_confined (host : Host) (calls : List FileCall) (disk : Disk) :
    (∀ path, (disk.text path).isSome = true →
      ((filesAfter host calls disk).text path).isSome = true) ∧
    ∀ path, (filesAfter host calls disk).text path ≠ disk.text path →
      Writable host path ∧ ∃ call ∈ calls, call.target host = some path := by
  induction calls generalizing disk with
  | nil => exact ⟨fun _ there => there, fun _ changed => absurd rfl changed⟩
  | cons call rest ih =>
    have step : Disk.Grown (call.target host) disk _ := call.grown disk
    obtain ⟨kept, confined⟩ := ih (leaves (call.run host disk))
    refine ⟨fun path there => kept path (step.files path there), fun path changed => ?_⟩
    by_cases hit : call.target host = some path
    · exact ⟨target_writable hit, call, List.mem_cons_self, hit⟩
    · rw [← step.others path hit] at changed
      obtain ⟨writable, later, member, hit⟩ := confined path changed
      exact ⟨writable, later, List.mem_cons_of_mem _ member, hit⟩

end Calls

section Reading

variable [PyText] {host : Host} {disk after : Disk} {place runRoot : Path} {text dir : PyString}

structure Sits (place : Path) (text : PyString) (disk : Disk) : Prop where
  reached : disk.walk [] place = some place
  held : disk.text place = some text

omit [PyText] in
theorem Sits.grown {target : Option Path} (sits : Sits place text disk)
    (other : target ≠ some place) (grown : Disk.Grown target disk after) : Sits place text after :=
  ⟨grown.walk sits.reached, (grown.others place other).trans sits.held⟩

theorem Sits.filesAfter {calls : List FileCall} (sits : Sits place text disk)
    (others : ∀ call ∈ calls, call.target host ≠ some place) :
    Sits place text (filesAfter host calls disk) := by
  induction calls generalizing disk with
  | nil => exact sits
  | cons call rest ih =>
    obtain ⟨first, later⟩ := List.forall_mem_cons.mp others
    exact ih (sits.grown first (call.grown disk)) later

omit [PyText] in
theorem lookup_walk {start path : Path} (plain : Plain path)
    (reached : disk.walk start path = some place) (there : (disk.text place).isSome = true) :
    lookup disk start path = .ok true := by
  induction path generalizing start with
  | nil => rfl
  | cons name rest ih =>
    obtain ⟨first, later⟩ := List.forall_mem_cons.mp plain
    rw [Disk.walk] at reached
    split at reached
    next =>
      rw [lookup]
      have below (next : PyString) (names : Path) (same : rest = next :: names) :
          disk.entry (start ++ [name]) = some .dir := by
        subst same
        rw [Disk.walk] at reached
        split at reached
        next dir => simpa [Disk.isDir] using dir
        next => cases reached
      cases held : disk.entry (start ++ [name]) with
      | none =>
        cases rest with
        | nil =>
          obtain rfl := Option.some.inj reached
          simp [Disk.text, held] at there
        | cons next names =>
          rw [below next names rfl] at held
          cases held
      | some entry =>
        cases entry with
        | dir => exact ih later reached
        | file content =>
          cases rest with
          | nil => rfl
          | cons next names =>
            rw [below next names rfl] at held
            cases held
    next => cases reached

omit [PyText] in
theorem lookup_named {start path : Path} (named : ∀ name ∈ path, isFileName name = true) :
    ∃ there, lookup disk start path = .ok there := by
  induction path generalizing start with
  | nil => exact ⟨true, rfl⟩
  | cons name rest ih =>
    obtain ⟨first, later⟩ := List.forall_mem_cons.mp named
    rw [lookup]
    split
    next => exact ih later
    next => exact ⟨_, rfl⟩
    next => exact ⟨false, if_pos first⟩

omit [PyText] in
theorem pathExists_ok {path : Path} {there : Bool} (found : lookup disk [] path = .ok there) :
    pathExists path disk = .ok there disk := by
  rw [pathExists, bind_of_ok (get_ok.mpr ⟨rfl, rfl⟩), found]
  rfl

omit [PyText] in
theorem pathExists_same {path : Path} {there : Bool}
    (asked : pathExists path disk = .ok there after) : after = disk := by
  have kept : Keeps (· = disk) (pathExists path) := pathExists_keeps path
  have same := kept disk rfl
  rwa [asked] at same

omit [PyText] in
theorem Sits.pathExists (sits : Sits place text disk) (plain : Plain place) :
    pathExists place disk = .ok true disk :=
  pathExists_ok (lookup_walk plain sits.reached (by rw [sits.held]; rfl))

omit [PyText] in
theorem Sits.readText (sits : Sits place text disk) :
    Disk.readText place disk = .ok ⟨Lines.universalNewlines text.points⟩ disk := by
  rw [Disk.readText, bind_of_ok (get_ok.mpr ⟨rfl, rfl⟩), sits.reached, Option.bind_some, sits.held]
  rfl

omit [PyText] in
theorem skills_exist (host : Host) (disk : Disk) :
    ∃ there, Workspace.pathExists (skillsDir host) disk = .ok there disk := by
  have named : ∀ name ∈ skillsDir host, isFileName name = true := by
    intro name member
    obtain old | new := List.mem_append.mp member
    · exact (host.named name (List.mem_append_right _ old)).2
    · obtain rfl | new := List.mem_cons.mp new
      · decide +kernel
      · rw [List.mem_singleton.mp new]
        decide +kernel
  obtain ⟨there, found⟩ : ∃ there, lookup disk [] (skillsDir host) = .ok there := lookup_named named
  exact ⟨there, pathExists_ok found⟩

theorem readRoots_first {listed : List Path} (roots : fileRoots host = .ok listed)
    (runRoot : Path) (disk : Disk) :
    ∃ more, readRoots host [runRoot] disk = .ok (runRoot :: more) disk := by
  obtain ⟨there, asked⟩ := skills_exist host disk
  rw [readRoots, bind_of_ok asked, roots]
  cases there <;> exact ⟨_, rfl⟩

omit [PyText] in
theorem pathsToTry_first (filePath : PyString) :
    ∃ more, pathsToTry filePath = filePath :: more := by
  unfold pathsToTry
  split <;> exact ⟨_, rfl⟩

theorem Sits.readFile {filePath : PyString} {listed : List Path} (sits : Sits place text disk)
    (given : dir ≠ "") (inRuns : safeRunDir host dir = .ok runRoot)
    (inside : safePath host filePath runRoot = .ok place) (roots : fileRoots host = .ok listed)
    (limit : Option Int) :
    readFile host filePath limit (some dir) disk =
      .ok (.content place (shown limit (Lines.universalNewlines text.points))) disk := by
  have plain : Plain place := (safePath_ok inside).2 (safeRunDir_ok inRuns).1
  have run : readRunDir host (some dir) = .ok [runRoot] := by
    rw [readRunDir, given_runDir given]
    simp only [inRuns, Except.map]
  obtain ⟨more, allowed⟩ := readRoots_first roots runRoot disk
  obtain ⟨others, tries⟩ := pathsToTry_first filePath
  have found (rest : List (Path × PyString)) :
      findFile host ((runRoot, filePath) :: rest) disk = .ok (some place) disk := by
    rw [findFile, inside]
    dsimp only
    rw [bind_of_ok (sits.pathExists plain)]
    rfl
  rw [Workspace.readFile, run]
  simp only [orRefused]
  rw [bind_of_ok allowed, List.flatMap_cons, tries, List.map_cons, List.cons_append,
    bind_of_ok (found _)]
  simp only [orFailed, tryCatch_run]
  rw [bind_of_ok sits.readText]
  rfl

end Reading

section Changes

variable [PyText] {host : Host} {disk after : Disk} {place runRoot : Path} {dir : PyString}
  {reply : FileReply}

def FileCall.path : FileCall → PyString
  | .read filePath _ _ => filePath
  | .write filePath _ _ => filePath
  | .edit filePath _ _ _ => filePath

def FileCall.runDir : FileCall → Option PyString
  | .read _ _ runDir => runDir
  | .write _ _ runDir => runDir
  | .edit _ _ _ runDir => runDir

def FileCall.result (held : PyString) : FileCall → Option PyString
  | .read _ _ _ => none
  | .write _ content _ => some content
  | .edit _ oldText newText _ =>
    (replaceFirst oldText.points newText.points (Lines.universalNewlines held.points)).map PyString.mk

def FileReply.changes : FileReply → Bool
  | .written _ _ => true
  | .edited _ => true
  | _ => false

omit [PyText] in
theorem orRefused_changes {α : Type} {found : Except PathError α}
    {act : α → EStateM PyError Disk FileReply} (ran : orRefused found act disk = .ok reply after)
    (changes : reply.changes = true) : ∃ a, found = .ok a ∧ act a disk = .ok reply after := by
  cases found with
  | ok a => exact ⟨a, rfl, ran⟩
  | error raised =>
    simp only [orRefused] at ran
    split at ran
    next =>
      obtain ⟨rfl, -⟩ := Shared.pure_ok.mp ran
      cases changes
    next => exact absurd ran throw_ok

omit [PyText] in
theorem orFailed_changes {act : EStateM PyError Disk FileReply}
    (ran : orFailed act disk = .ok reply after) (changes : reply.changes = true) :
    act disk = .ok reply after := by
  rw [orFailed, tryCatch_run] at ran
  cases acted : act disk with
  | ok given left =>
    rw [acted] at ran
    exact ran
  | error raised left =>
    rw [acted] at ran
    obtain ⟨rfl, -⟩ := Shared.pure_ok.mp ran
    cases changes

theorem readFile_unchanging {filePath : PyString} {limit : Option Int} {runDir : Option PyString}
    (ran : readFile host filePath limit runDir disk = .ok reply after) : reply.changes = false := by
  by_contra changed
  have changes := Bool.of_not_eq_false changed
  obtain ⟨given, -, acted⟩ := orRefused_changes ran changes
  obtain ⟨allowed, _, -, acted⟩ := Shared.bind_ok.mp acted
  obtain ⟨found, _, -, acted⟩ := Shared.bind_ok.mp acted
  cases found with
  | none =>
    obtain ⟨rfl, -⟩ := Shared.pure_ok.mp acted
    cases changes
  | some place =>
    obtain ⟨text, _, -, acted⟩ := Shared.bind_ok.mp (orFailed_changes acted changes)
    obtain ⟨rfl, -⟩ := Shared.pure_ok.mp acted
    cases changes

omit [PyText] in
theorem writeText_sits {text : PyString} (plain : Plain place)
    (written : Disk.writeText place text disk = .ok () after) : Sits place text after := by
  obtain ⟨_, reached, held⟩ := Disk.writeText_ok written
  have same := Disk.walk_resolve reached
  rw [plain.resolve] at same
  subst same
  exact ⟨reached, held⟩

theorem writeFile_sits {filePath content : PyString} {runDir : Option PyString}
    (ran : writeFile host filePath content runDir disk = .ok reply after)
    (changes : reply.changes = true) :
    ∃ place, writePlace host filePath runDir = .ok place ∧ Sits place content after := by
  obtain ⟨place, found, ran⟩ := orRefused_changes ran changes
  obtain ⟨_, made, -, ran⟩ := Shared.bind_ok.mp (orFailed_changes ran changes)
  obtain ⟨_, _, written, ran⟩ := Shared.bind_ok.mp ran
  obtain ⟨-, rfl⟩ := Shared.pure_ok.mp ran
  exact ⟨place, found, writeText_sits (writePlace_ok found).1 written⟩

theorem editFile_sits {filePath oldText newText : PyString} {runDir : Option PyString}
    (ran : editFile host filePath oldText newText runDir disk = .ok reply after)
    (changes : reply.changes = true) :
    ∃ place held edited, writePlace host filePath runDir = .ok place ∧
      disk.text place = some held ∧
      replaceFirst oldText.points newText.points (Lines.universalNewlines held.points) = some edited ∧
      Sits place ⟨edited⟩ after := by
  obtain ⟨place, found, acted⟩ := orRefused_changes ran changes
  have plain := (writePlace_ok found).1
  obtain ⟨there, _, asked, chosen⟩ := Shared.bind_ok.mp acted
  obtain rfl := pathExists_same asked
  split at chosen
  next =>
    obtain ⟨content, _, read, edit⟩ := Shared.bind_ok.mp (orFailed_changes chosen changes)
    obtain ⟨rfl, held, given, rfl⟩ := Disk.readText_ok read
    obtain ⟨found', reached, sits⟩ := Option.bind_eq_some_iff.mp given
    have same := Disk.walk_resolve reached
    rw [plain.resolve] at same
    subst same
    cases replaced : replaceFirst oldText.points newText.points (Lines.universalNewlines held.points) with
    | none =>
      simp only [replaced] at edit
      obtain ⟨rfl, -⟩ := Shared.pure_ok.mp edit
      cases changes
    | some edited =>
      simp only [replaced] at edit
      obtain ⟨_, _, written, done⟩ := Shared.bind_ok.mp edit
      obtain ⟨-, rfl⟩ := Shared.pure_ok.mp done
      exact ⟨_, held, edited, found, sits, replaced, writeText_sits plain written⟩
  next =>
    obtain ⟨rfl, -⟩ := Shared.pure_ok.mp chosen
    cases changes

theorem FileCall.sits {call : FileCall} (from_ : call.runDir = some dir) (given : dir ≠ "")
    (inRuns : safeRunDir host dir = .ok runRoot)
    (inside : safePath host call.path runRoot = .ok place)
    (ran : call.run host disk = .ok reply after) (changes : reply.changes = true) :
    ∃ text, call.result ((disk.text place).getD "") = some text ∧ Sits place text after := by
  cases call with
  | read filePath limit runDir =>
    rw [readFile_unchanging ran] at changes
    cases changes
  | write filePath content runDir =>
    obtain rfl : runDir = some dir := from_
    obtain ⟨found, written, sits⟩ := writeFile_sits ran changes
    obtain rfl := writePlace_inside given inRuns inside written
    exact ⟨content, rfl, sits⟩
  | edit filePath oldText newText runDir =>
    obtain rfl : runDir = some dir := from_
    obtain ⟨found, held, edited, written, was, replaced, sits⟩ := editFile_sits ran changes
    obtain rfl := writePlace_inside given inRuns inside written
    refine ⟨⟨edited⟩, ?_, sits⟩
    rw [was]
    simp only [FileCall.result, Option.getD_some, replaced, Option.map_some]

theorem changed_file_reads_back {call : FileCall} {listed : List Path} {calls : List FileCall}
    (from_ : call.runDir = some dir) (given : dir ≠ "")
    (inRuns : safeRunDir host dir = .ok runRoot)
    (inside : safePath host call.path runRoot = .ok place) (roots : fileRoots host = .ok listed)
    (ran : call.run host disk = .ok reply after) (changes : reply.changes = true)
    (others : ∀ later ∈ calls, later.target host ≠ some place) (limit : Option Int) :
    ∃ text, call.result ((disk.text place).getD "") = some text ∧
      readFile host call.path limit (some dir) (filesAfter host calls after) =
        .ok (.content place (shown limit (Lines.universalNewlines text.points)))
          (filesAfter host calls after) := by
  obtain ⟨text, result, sits⟩ := FileCall.sits from_ given inRuns inside ran changes
  exact ⟨text, result, (sits.filesAfter others).readFile given inRuns inside roots limit⟩

-- A note that is read again after a plan has been written and edited beside it
def laptop : Host where
  cwd := ["w"]
  home := ["h"]
  agentRoot := ["a"]
  homeOf _ := none
  allowedFileRoots := ""
  allowedRunRoots := ""
  allowedWriteRoots := ""
  named := by decide +kernel

def bare : Disk := ⟨fun _ => none⟩

def firstRun : Path := ["a", "runs", "r1"]

def notes : Path := ["a", "runs", "r1", "notes.md"]

def note : FileCall := .write "notes.md" "Hold." (some "/a/runs/r1")

def planning : List FileCall :=
  [.write "plan.md" "Buy." (some "/a/runs/r1"), .edit "plan.md" "Buy" "Sell" (some "/a/runs/r1")]

omit [PyText] in
theorem laptop_runDir : @safeRunDir asciiText laptop "/a/runs/r1" = .ok firstRun := by
  decide +kernel

omit [PyText] in
theorem laptop_note : safePath laptop note.path firstRun = .ok notes := by decide +kernel

omit [PyText] in
theorem laptop_roots : @fileRoots asciiText laptop = .ok (defaultFileRoots laptop) := by
  decide +kernel

omit [PyText] in
theorem laptop_planning :
    ∀ call ∈ planning, @FileCall.target asciiText laptop call ≠ some notes := by
  decide +kernel

omit [PyText] in
theorem laptop_written :
    answer (@FileCall.run asciiText laptop note bare) = some (.written notes 5) := by
  decide +kernel

omit [PyText] in
theorem changed_file_reads_back_note :
    ∃ text, note.result ((bare.text notes).getD "") = some text ∧
      @readFile asciiText laptop note.path none (some "/a/runs/r1")
          (@filesAfter asciiText laptop planning
            (leaves (@FileCall.run asciiText laptop note bare))) =
        .ok (.content notes (shown none (Lines.universalNewlines text.points)))
          (@filesAfter asciiText laptop planning
            (leaves (@FileCall.run asciiText laptop note bare))) :=
  @changed_file_reads_back asciiText laptop bare _ notes firstRun "/a/runs/r1" _ note _ planning
    rfl (by decide +kernel) laptop_runDir laptop_note laptop_roots (ok_of_answer laptop_written) rfl
    laptop_planning none

end Changes

end SynapseYield.Tools.Workspace
