import Mathlib.Logic.Function.Basic
import SynapseYield.Shared.Json
import SynapseYield.Shared.Lines
import SynapseYield.Shared.Program

set_option autoImplicit false

namespace Shared

def utf8Width (c : CodePoint) : Nat :=
  if c.val < 0x80 then 1 else if c.val < 0x800 then 2 else if c.val < 0x10000 then 3 else 4

-- What a directory takes as the name of a new file: no separator, no NUL, at most 255 bytes.
def isFileName (name : PyString) : Bool :=
  name.encodable && name.points.all (fun c => c.val ≠ 0x2F && c.val ≠ 0) &&
    (name.points.map utf8Width).sum ≤ 255

-- The names from the root on. A path that is not resolved may hold "..".
abbrev Path := List PyString

-- Path(text): whether it is absolute, and its names.
def parsePath (text : PyString) : Bool × Path :=
  (text.points.head? = some 0x2F,
    ((text.points.splitOn 0x2F).map PyString.mk).filter fun name => name ≠ "" && name ≠ ".")

-- What write_text with UTF-8 can leave.
abbrev FileText := {text : PyString // text.encodable = true}

inductive DiskEntry where
  | dir
  | file (text : FileText)
deriving DecidableEq, Repr

-- Directories and text files, without links.
structure Disk where
  entry : Path → Option DiskEntry

namespace Disk

def isDir (disk : Disk) (path : Path) : Bool := path = [] || disk.entry path = some .dir

def text (disk : Disk) (path : Path) : Option PyString :=
  match disk.entry path with
  | some (.file text) => some text.val
  | _ => none

def set (disk : Disk) (path : Path) (entry : Option DiskEntry) : Disk :=
  ⟨Function.update disk.entry path entry⟩

def dropTree (disk : Disk) (path : Path) : Disk :=
  ⟨fun other => if path.isPrefixOf other then none else disk.entry other⟩

-- Path.resolve, from a directory on
def resolve (start : Path) : Path → Path
  | [] => start
  | name :: rest => resolve (if name = ".." then start.dropLast else start ++ [name]) rest

-- The same, through directories that are there.
def walk (disk : Disk) (start : Path) : Path → Option Path
  | [] => some start
  | name :: rest =>
    if disk.isDir start then
      walk disk (if name = ".." then start.dropLast else start ++ [name]) rest
    else none

def exists' (disk : Disk) (path : Path) : Bool :=
  ((walk disk [] path).map fun place => disk.isDir place || (disk.entry place).isSome).getD false

section Operations

def present (path : Path) : EStateM PyError Disk Bool := do
  let disk ← get
  pure (disk.exists' path)

-- mkdir(parents=True, exist_ok=True)
def mkdirs (start : Path) : Path → EStateM PyError Disk Unit
  | [] => pure ()
  | name :: rest =>
    if name = ".." then mkdirs start.dropLast rest
    else do
      let disk ← get
      match disk.entry (start ++ [name]) with
      | some .dir => mkdirs (start ++ [name]) rest
      | some (.file _) => throw .osError
      | none =>
        if isFileName name then do
          modify fun disk => disk.set (start ++ [name]) (some .dir)
          mkdirs (start ++ [name]) rest
        else throw .osError

-- The place of a file that is opened for writing.
def openFile (path : Path) : EStateM PyError Disk Path := do
  let disk ← get
  match disk.walk [] path with
  | none => throw .osError
  | some place =>
    if disk.isDir place || ! (place.getLast?.map isFileName).getD false then throw .osError
    else pure place

-- The file is empty before its text is encoded.
def writeText (path : Path) (text : PyString) : EStateM PyError Disk Unit := do
  let place ← openFile path
  if encodable : text.encodable = true then
    modify fun disk => disk.set place (some (.file ⟨text, encodable⟩))
  else do
    modify fun disk => disk.set place (some (.file ⟨"", rfl⟩))
    throw .valueError

def readText (path : Path) : EStateM PyError Disk PyString := do
  let disk ← get
  match (disk.walk [] path).bind disk.text with
  | none => throw .osError
  | some text => pure ⟨Lines.universalNewlines text.points⟩

def unlink (path : Path) : EStateM PyError Disk Unit := do
  let disk ← get
  match disk.walk [] path with
  | none => throw .osError
  | some place =>
    if (disk.text place).isNone then throw .osError
    else modify fun disk => disk.set place none

def rmtree (path : Path) : EStateM PyError Disk Unit := do
  let disk ← get
  if disk.isDir path then modify fun disk => disk.dropTree path else throw .osError

end Operations

section Facts

variable {disk before : Disk} {path place start root : Path}

theorem walk_resolve (found : disk.walk start path = some place) : place = resolve start path := by
  induction path generalizing start with
  | nil => exact (Option.some.inj found).symm
  | cons name rest ih =>
    rw [walk] at found
    split at found
    next => exact ih found
    next => cases found

theorem resolve_plain (plain : ∀ name ∈ path, name ≠ "..") : resolve start path = start ++ path := by
  induction path generalizing start with
  | nil => rw [resolve, List.append_nil]
  | cons name rest ih =>
    obtain ⟨first, later⟩ := List.forall_mem_cons.mp plain
    rw [resolve, if_neg first, ih later, List.append_assoc]
    rfl

def SameOutside (root : Path) (before disk : Disk) : Prop :=
  ∀ path, ¬ root <+: path → disk.text path = before.text path

theorem text_set_of_ne {other : Path} (different : other ≠ path) (entry : Option DiskEntry) :
    (disk.set path entry).text other = disk.text other := by
  simp only [text, set, Function.update_of_ne different]

theorem SameOutside.set (same : SameOutside root before disk) (inside : root <+: place)
    (entry : Option DiskEntry) : SameOutside root before (disk.set place entry) := by
  intro path outside
  have different : path ≠ place := by
    rintro rfl
    exact outside inside
  rw [text_set_of_ne different, same path outside]

theorem text_mkdir (missing : disk.entry place = none) (path : Path) :
    (disk.set place (some .dir)).text path = disk.text path := by
  by_cases same : path = place
  · subst same
    simp [text, set, missing]
  · exact text_set_of_ne same _

theorem SameOutside.dropTree (same : SameOutside root before disk) :
    SameOutside root before (disk.dropTree root) := by
  intro path outside
  have kept : root.isPrefixOf path = false := by
    rw [← Bool.not_eq_true, List.isPrefixOf_iff_prefix]
    exact outside
  rw [← same path outside]
  simp only [text, Disk.dropTree, kept, Bool.false_eq_true, if_false]

theorem mkdirs_keeps (start path : Path) : Keeps (SameOutside root before) (mkdirs start path) := by
  induction path generalizing start with
  | nil => exact .pure ()
  | cons name rest ih =>
    rw [mkdirs]
    refine .ite (ih _) (.bind_get fun disk same => ?_)
    cases held : disk.entry (start ++ [name]) with
    | some entry =>
      cases entry with
      | dir => exact ih _ disk same
      | file text => exact same
    | none =>
      dsimp only
      split
      next =>
        refine ih _ _ fun path outside => ?_
        rw [text_mkdir held, same path outside]
      next => exact same

theorem openFile_ok {after : Disk} (opened : openFile path disk = .ok place after) :
    after = disk ∧ disk.walk [] path = some place ∧ disk.isDir place = false := by
  obtain ⟨_, _, got, opened⟩ := Shared.bind_ok.mp opened
  obtain ⟨rfl, rfl⟩ := get_ok.mp got
  cases found : disk.walk [] path with
  | none =>
    rw [found] at opened
    exact absurd opened throw_ok
  | some target =>
    simp only [found] at opened
    split at opened
    next => exact absurd opened throw_ok
    next free =>
      obtain ⟨rfl, rfl⟩ := Shared.pure_ok.mp opened
      rw [Bool.or_eq_true, not_or] at free
      exact ⟨rfl, rfl, by simpa using free.1⟩

theorem openFile_keeps {inv : Disk → Prop} (path : Path) : Keeps inv (openFile path) := by
  refine .bind_get fun disk same => ?_
  cases disk.walk [] path with
  | none => exact same
  | some place =>
    dsimp only
    split <;> exact same

theorem openFile_error {after : Disk} {raised : PyError}
    (failed : openFile path disk = .error raised after) : after = disk := by
  have kept : disk = leaves (openFile path disk) := openFile_keeps path disk rfl
  rw [failed] at kept
  exact kept.symm

theorem writeText_keeps (inside : root <+: resolve [] path) (text : PyString) :
    Keeps (SameOutside root before) (writeText path text) := by
  intro disk same
  unfold writeText
  cases opened : openFile path disk with
  | error raised after =>
    obtain rfl := openFile_error opened
    rw [bind_of_error opened]
    exact same
  | ok place after =>
    obtain ⟨rfl, found, -⟩ := openFile_ok opened
    obtain rfl := walk_resolve found
    rw [bind_of_ok opened]
    split
    next => exact same.set inside _
    next => exact same.set inside _

theorem readText_keeps {inv : Disk → Prop} (path : Path) : Keeps inv (readText path) := by
  refine .bind_get fun disk same => ?_
  cases (disk.walk [] path).bind disk.text <;> exact same

theorem readText_ok {text : PyString} {after : Disk} (read : readText path disk = .ok text after) :
    after = disk ∧ ∃ held, (disk.walk [] path).bind disk.text = some held ∧
      text = ⟨Lines.universalNewlines held.points⟩ := by
  obtain ⟨_, _, got, read⟩ := Shared.bind_ok.mp read
  obtain ⟨rfl, rfl⟩ := get_ok.mp got
  cases held : (disk.walk [] path).bind disk.text with
  | none =>
    rw [held] at read
    exact absurd read throw_ok
  | some text =>
    rw [held] at read
    obtain ⟨rfl, rfl⟩ := Shared.pure_ok.mp read
    exact ⟨rfl, text, rfl, rfl⟩

theorem isDir_set_file (free : disk.isDir place = false) (text : FileText) (path : Path) :
    (disk.set place (some (.file text))).isDir path = disk.isDir path := by
  by_cases same : path = place
  · subst same
    rw [free]
    simp only [isDir, Bool.or_eq_false_iff] at free
    simp [isDir, free.1, set]
  · simp [isDir, set, Function.update_of_ne same]

theorem walk_set_file (free : disk.isDir place = false) (text : FileText) (start path : Path) :
    (disk.set place (some (.file text))).walk start path = disk.walk start path := by
  induction path generalizing start with
  | nil => rfl
  | cons name rest ih =>
    rw [walk, walk, isDir_set_file free, ih]

theorem readText_writeText {text : PyString} {after : Disk}
    (written : writeText path text disk = .ok () after) :
    readText path after = .ok ⟨Lines.universalNewlines text.points⟩ after := by
  obtain ⟨place, opening, opened, ran⟩ := Shared.bind_ok.mp written
  obtain ⟨rfl, found, free⟩ := openFile_ok opened
  split at ran
  next encodable =>
    obtain rfl := modify_ok.mp ran
    have held : ((opening.set place (some (.file ⟨text, encodable⟩))).walk [] path).bind
        (opening.set place (some (.file ⟨text, encodable⟩))).text = some text := by
      rw [walk_set_file free, found]
      simp [Disk.text, set]
    rw [readText, bind_of_ok (get_ok.mpr ⟨rfl, rfl⟩), held]
    rfl
  next =>
    obtain ⟨_, _, -, raised⟩ := Shared.bind_ok.mp ran
    exact absurd raised throw_ok

theorem text_encodable {path : Path} {text : PyString} (held : disk.text path = some text) :
    text.encodable = true := by
  unfold Disk.text at held
  split at held
  next given _ =>
    cases held
    exact given.2
  next => cases held

theorem universalNewlines_encodable {points : List CodePoint}
    (encodable : points.all (! isSurrogate ·) = true) :
    (Lines.universalNewlines points).all (! isSurrogate ·) = true := by
  fun_induction Lines.universalNewlines points with
  | case1 => rfl
  | case2 rest ih =>
    simp only [List.all_cons, Bool.and_eq_true] at encodable ⊢
    exact ⟨by decide, ih encodable.2.2⟩
  | case3 c rest other ih =>
    simp only [List.all_cons, Bool.and_eq_true] at encodable ⊢
    refine ⟨?_, ih encodable.2⟩
    split
    next => decide
    next => exact encodable.1

theorem writeText_again {text other : PyString} {after : Disk}
    (written : writeText path text disk = .ok () after) (encodable : other.encodable = true) :
    ∃ last, writeText path other after = .ok () last := by
  obtain ⟨place, opening, opened, ran⟩ := Shared.bind_ok.mp written
  obtain ⟨rfl, found, free⟩ := openFile_ok opened
  split at ran
  next held =>
    obtain rfl := modify_ok.mp ran
    have reopened : openFile path (opening.set place (some (.file ⟨text, held⟩))) =
        .ok place (opening.set place (some (.file ⟨text, held⟩))) := by
      unfold openFile at opened ⊢
      rw [bind_of_ok (get_ok.mpr ⟨rfl, rfl⟩), found] at opened
      rw [bind_of_ok (get_ok.mpr ⟨rfl, rfl⟩), walk_set_file free, found]
      dsimp only at opened ⊢
      rw [isDir_set_file free]
      split at opened
      next => exact absurd opened throw_ok
      next named =>
        rw [if_neg named]
        rfl
    rw [writeText, bind_of_ok reopened, dif_pos encodable]
    exact ⟨_, rfl⟩
  next =>
    obtain ⟨_, _, -, raised⟩ := Shared.bind_ok.mp ran
    exact absurd raised throw_ok

def SameFiles (before disk : Disk) : Prop := ∀ path, disk.text path = before.text path

theorem mkdirs_sameFiles (start path : Path) : Keeps (SameFiles before) (mkdirs start path) := by
  intro disk same other
  have outside : ¬ (other ++ [("" : PyString)]) <+: other := fun below => by
    have := below.length_le
    simp at this
  have kept : SameOutside (other ++ [("" : PyString)]) before disk := fun path _ => same path
  exact mkdirs_keeps start path disk kept other outside

def FailsSafely {α : Type} (x : EStateM PyError Disk α) : Prop :=
  ∀ disk raised after, x disk = .error raised after → SameFiles disk after

theorem writeText_failsSafely {text : PyString} (encodable : text.encodable = true) :
    FailsSafely (writeText path text) := by
  intro disk raised after failed
  obtain stopped | ⟨place, opening, opened, ran⟩ := Shared.bind_error.mp failed
  · obtain rfl := openFile_error stopped
    exact fun _ => rfl
  · rw [dif_pos encodable] at ran
    cases ran

theorem unlink_failsSafely : FailsSafely (unlink path) := by
  intro disk raised after failed
  obtain stopped | ⟨_, _, got, ran⟩ := Shared.bind_error.mp failed
  · cases stopped
  obtain ⟨rfl, rfl⟩ := get_ok.mp got
  cases found : disk.walk [] path with
  | none =>
    rw [found] at ran
    cases ran
    exact fun _ => rfl
  | some place =>
    rw [found] at ran
    dsimp only at ran
    split at ran
    next =>
      cases ran
      exact fun _ => rfl
    next => cases ran

theorem rmtree_failsSafely : FailsSafely (rmtree path) := by
  intro disk raised after failed
  obtain stopped | ⟨_, _, got, ran⟩ := Shared.bind_error.mp failed
  · cases stopped
  obtain ⟨rfl, rfl⟩ := get_ok.mp got
  split at ran
  next => cases ran
  next =>
    cases ran
    exact fun _ => rfl

theorem present_keeps {inv : Disk → Prop} (path : Path) : Keeps inv (present path) :=
  .bind_get fun _ same => same

theorem unlink_keeps (inside : root <+: resolve [] path) :
    Keeps (SameOutside root before) (unlink path) := by
  refine .bind_get fun disk same => ?_
  cases found : disk.walk [] path with
  | none => exact same
  | some place =>
    obtain rfl := walk_resolve found
    dsimp only
    split
    next => exact same
    next => exact same.set inside _

theorem rmtree_keeps : Keeps (SameOutside root before) (rmtree root) := by
  refine .bind_get fun disk same => ?_
  split
  next => exact same.dropTree
  next => exact same

-- Of the files only the target may change, and what is there stays there.
structure Grown (target : Option Path) (before disk : Disk) : Prop where
  dirs : ∀ path, before.isDir path = true → disk.isDir path = true
  files : ∀ path, (before.text path).isSome = true → (disk.text path).isSome = true
  others : ∀ path, target ≠ some path → disk.text path = before.text path

namespace Grown

variable {target : Option Path}

theorem refl (target : Option Path) (disk : Disk) : Grown target disk disk :=
  ⟨fun _ there => there, fun _ there => there, fun _ _ => rfl⟩

theorem set (grown : Grown target before disk) {entry : DiskEntry}
    (dirs : disk.isDir place = true → entry = .dir)
    (files : (disk.text place).isSome = true → entry ≠ .dir)
    (others : target ≠ some place → disk.text place = none ∧ entry = .dir) :
    Grown target before (disk.set place (some entry)) := by
  constructor
  next =>
    intro path there
    have old := grown.dirs path there
    by_cases same : path = place
    · subst same
      simp [isDir, Disk.set, dirs old]
    · simpa [isDir, Disk.set, Function.update_of_ne same] using old
  next =>
    intro path there
    have old := grown.files path there
    by_cases same : path = place
    · subst same
      cases entry with
      | dir => exact absurd rfl (files old)
      | file text => simp [Disk.text, Disk.set]
    · rwa [text_set_of_ne same]
  next =>
    intro path other
    rw [← grown.others path other]
    by_cases same : path = place
    · subst same
      obtain ⟨missing, rfl⟩ := others other
      rw [missing]
      simp [Disk.text, Disk.set]
    · exact text_set_of_ne same _

theorem walk (grown : Grown target before disk) (found : before.walk start path = some place) :
    disk.walk start path = some place := by
  induction path generalizing start with
  | nil => exact found
  | cons name rest ih =>
    rw [Disk.walk] at found ⊢
    split at found
    next there =>
      rw [if_pos (grown.dirs start there)]
      exact ih found
    next => cases found

end Grown

theorem mkdirs_grown {target : Option Path} (start path : Path) :
    Keeps (Grown target before) (mkdirs start path) := by
  induction path generalizing start with
  | nil => exact .pure ()
  | cons name rest ih =>
    rw [mkdirs]
    refine .ite (ih _) (.bind_get fun disk grown => ?_)
    cases held : disk.entry (start ++ [name]) with
    | some entry =>
      cases entry with
      | dir => exact ih _ disk grown
      | file text => exact grown
    | none =>
      have missing : disk.text (start ++ [name]) = none := by simp [Disk.text, held]
      dsimp only
      split
      next =>
        refine ih _ _ (grown.set (fun _ => rfl) (fun there => ?_) fun _ => ⟨missing, rfl⟩)
        rw [missing] at there
        cases there
      next => exact grown

theorem writeText_grown (text : PyString) :
    Keeps (Grown (some (resolve [] path)) before) (writeText path text) := by
  intro disk grown
  unfold writeText
  cases opened : openFile path disk with
  | error raised after =>
    obtain rfl := openFile_error opened
    rw [bind_of_error opened]
    exact grown
  | ok place after =>
    obtain ⟨rfl, found, free⟩ := openFile_ok opened
    obtain rfl := walk_resolve found
    rw [bind_of_ok opened]
    have kept (text : FileText) : Grown (some (resolve [] path)) before
        (after.set (resolve [] path) (some (.file text))) := by
      refine grown.set (fun dir => ?_) (fun _ => DiskEntry.noConfusion) fun other => ?_
      next =>
        rw [free] at dir
        cases dir
      next => exact absurd rfl other
    split
    next => exact kept _
    next => exact kept _

theorem writeText_ok {text : PyString} {after : Disk}
    (written : writeText path text disk = .ok () after) :
    ∃ place, after.walk [] path = some place ∧ after.text place = some text := by
  obtain ⟨place, opening, opened, ran⟩ := Shared.bind_ok.mp written
  obtain ⟨rfl, found, free⟩ := openFile_ok opened
  split at ran
  next encodable =>
    obtain rfl := modify_ok.mp ran
    exact ⟨place, by rw [walk_set_file free, found], by simp [Disk.text, set]⟩
  next =>
    obtain ⟨_, _, -, raised⟩ := Shared.bind_ok.mp ran
    exact absurd raised throw_ok

theorem resolve_resolved (plain : ∀ name ∈ start, name ≠ "..") :
    ∀ name ∈ resolve start path, name ≠ ".." := by
  induction path generalizing start with
  | nil => exact plain
  | cons name rest ih =>
    rw [resolve]
    refine ih ?_
    split
    next => exact fun part member => plain part (List.dropLast_subset _ member)
    next different =>
      intro part member
      obtain old | new := List.mem_append.mp member
      · exact plain part old
      · rwa [List.mem_singleton.mp new]

end Facts

end Disk

end Shared
