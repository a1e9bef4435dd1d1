import SynapseYield.Shared.Firsts
import SynapseYield.Shared.Lines
import SynapseYield.Tools.SkillWriter

set_option autoImplicit false

-- The tools on the files of a workspace.
namespace SynapseYield.Tools.Workspace

open Shared
open JsonText (Text)

-- The directories of the process, resolved, and what its environment lists.
structure Host where
  cwd : Path
  home : Path
  agentRoot : Path
  -- What expanduser makes of a first name with ~, where it knows the directory
  homeOf : PyString → Option Path
  allowedFileRoots : PyString
  allowedRunRoots : PyString
  allowedWriteRoots : PyString
  named : ∀ name ∈ cwd ++ home ++ agentRoot, name ≠ ".." ∧ isFileName name = true

inductive PathError where
  | unc (p : PyString)
  | unresolvable (p : PyString)
  | escapesWorkspace (p : PyString)
  | outsideRunRoots (runDir : PyString)
  | escapesRunDir (filePath runDir : PyString)
  | runDirRequired (filePath : PyString)
  -- RuntimeError
  | unknownHome (p : PyString)
deriving DecidableEq, Repr

def PathError.isValueError : PathError → Bool
  | .unknownHome _ => false
  | _ => true

def PathError.raised : PathError → PyError
  | .unknownHome _ => .other
  | _ => .valueError

def rejectsUnc (p : PyString) : Except PathError Unit :=
  if ("\\\\" : PyString).points.isPrefixOf p.points || ("//" : PyString).points.isPrefixOf p.points
  then .error (.unc p)
  else .ok ()

-- (start / path).resolve(), from a directory that is resolved
def resolved (start : Path) (p : PyString) (path : Bool × Path) : Except PathError Path :=
  if resolvable path.2 then .ok (Disk.resolve (if path.1 then [] else start) path.2)
  else .error (.unresolvable p)

def inside (dir : Path) (names : List PyString) : Path := dir ++ names

section Places

variable [PyText] (host : Host)

-- Path(p).expanduser()
def expanduser (p : PyString) : Except PathError (Bool × Path) :=
  match parsePath p with
  | (false, name :: rest) =>
    if name.points.head? = some 0x7E then
      match host.homeOf name with
      | some home => .ok (true, home ++ rest)
      | none => .error (.unknownHome p)
    else .ok (false, name :: rest)
  | path => .ok path

-- Path(p).expanduser().resolve()
def candidate (p : PyString) : Except PathError Path := do
  let path ← expanduser host p
  resolved host.cwd p path

-- workdir is resolved.
def safePath (p : PyString) (workdir : Path) : Except PathError Path := do
  rejectsUnc p
  let path ← expanduser host p
  let place ← resolved workdir p path
  if workdir.isPrefixOf place then .ok place else .error (.escapesWorkspace p)

-- raw.split(","), without what is empty
def items (raw : PyString) : List PyString :=
  ((raw.points.splitOn 0x2C).map fun item => PyString.strip ⟨item⟩).filter (· ≠ "")

def configuredRoot (item : PyString) : Except PathError Path := do
  rejectsUnc item
  candidate host item

def roots (defaults : List Path) (raw : PyString) : Except PathError (List Path) := do
  let configured ← (items raw).mapM (configuredRoot host)
  return Firsts.firsts id [] (defaults ++ configured)

def defaultFileRoots : List Path :=
  [inside host.agentRoot ["uploads"], inside host.agentRoot ["runs"], inside host.cwd ["uploads"],
    inside host.cwd ["data"], inside host.home [".vibe-trading", "uploads"],
    inside host.home [".vibe-trading", "imports"]]

def defaultRunRoots : List Path :=
  [inside host.agentRoot ["runs"], inside host.agentRoot [".swarm", "runs"],
    inside host.cwd ["runs"], inside host.home [".vibe-trading", "shadow_runs"],
    inside host.home [".vibe-trading", "runs"]]

def defaultWriteRoots : List Path :=
  [inside host.agentRoot ["uploads"], inside host.agentRoot ["runs"], inside host.cwd ["uploads"],
    inside host.home [".vibe-trading", "uploads"], inside host.home [".vibe-trading", "runs"]]

def fileRoots : Except PathError (List Path) :=
  roots host (defaultFileRoots host) host.allowedFileRoots

def runRoots : Except PathError (List Path) :=
  roots host (defaultRunRoots host) host.allowedRunRoots

def writeRoots : Except PathError (List Path) :=
  roots host (defaultWriteRoots host) host.allowedWriteRoots

def safeRunDir (p : PyString) : Except PathError Path := do
  rejectsUnc p
  let place ← candidate host p
  let allowed ← runRoots host
  if allowed.any (·.isPrefixOf place) then .ok place else .error (.outsideRunRoots p)

-- The candidate, where an allowed root holds it
def underRoots (filePath : PyString) (allowed : List Path) (otherwise : PathError) :
    Except PathError Path := do
  let place ← candidate host filePath
  if allowed.any (·.isPrefixOf place) then .ok place else .error otherwise

def resolveSafePath (filePath : PyString) (runDir : Option PyString) (allowed : List Path) :
    Except PathError Path := do
  rejectsUnc filePath
  match runDir.filter fun dir : PyString => dir ≠ "" with
  | none => underRoots host filePath allowed (.runDirRequired filePath)
  | some dir =>
    match safeRunDir host dir with
    | .error raised =>
      if raised.isValueError then underRoots host filePath allowed raised else .error raised
    | .ok runRoot =>
      match safePath host filePath runRoot with
      | .error raised =>
        if raised.isValueError then underRoots host filePath allowed (.escapesRunDir filePath dir)
        else .error raised
      | .ok place => .ok place

-- Where write_file and edit_file go
def writePlace (filePath : PyString) (runDir : Option PyString) : Except PathError Path := do
  let allowed ← writeRoots host
  resolveSafePath host filePath runDir allowed

end Places

-- The JSON of a reply
inductive FileReply where
  | content (path : Path) (text : PyString)
  | written (path : Path) (bytesWritten : Nat)
  | edited (path : Path)
  | refused (error : PathError)
  | notFound (filePath : PyString)
  | unmatched (filePath : PyString)
  | failed (error : PyError)
deriving DecidableEq

-- path.exists() of a resolved path. A name that is not there and that no directory takes raises.
def lookup (disk : Disk) (start : Path) : Path → Except PyError Bool
  | [] => .ok true
  | name :: rest =>
    match disk.entry (start ++ [name]) with
    | some .dir => lookup disk (start ++ [name]) rest
    | some (.file _) => .ok rest.isEmpty
    | none => if isFileName name then .ok false else .error .osError

def pathExists (path : Path) : EStateM PyError Disk Bool := do
  let disk ← get
  match lookup disk [] path with
  | .ok there => pure there
  | .error raised => throw raised

-- except ValueError
def orRefused {α : Type} (place : Except PathError α) (act : α → EStateM PyError Disk FileReply) :
    EStateM PyError Disk FileReply :=
  match place with
  | .ok place => act place
  | .error raised => if raised.isValueError then pure (.refused raised) else throw raised.raised

-- except Exception
def orFailed (act : EStateM PyError Disk FileReply) : EStateM PyError Disk FileReply :=
  tryCatch act fun raised => pure (.failed raised)

-- The first lines of a text, each with its end
def firstLines : Nat → Text → Text
  | 0, _ => []
  | _ + 1, [] => []
  | count + 1, 0x0D :: 0x0A :: rest => 0x0D :: 0x0A :: firstLines count rest
  | count + 1, c :: rest =>
    c :: firstLines (if Lines.isLineBreak c then count else count + 1) rest

def outputLimit : Nat := 50000

def shown (limit : Option Int) (text : Text) : PyString :=
  let text := match limit with
    | some limit => if 0 < limit then firstLines limit.toNat text else text
    | none => text
  if outputLimit < text.length then
    ⟨text.take outputLimit ++ ("\n... (truncated)" : PyString).points⟩
  else ⟨text⟩

-- The path, and without the skills/ that it may begin with
def pathsToTry (filePath : PyString) : List PyString :=
  if ("skills/" : PyString).points.isPrefixOf filePath.points then
    [filePath, ⟨filePath.points.drop 7⟩]
  else [filePath]

section Tools

variable [PyText] (host : Host)

def writeFile (filePath content : PyString) (runDir : Option PyString) :
    EStateM PyError Disk FileReply :=
  orRefused (writePlace host filePath runDir) fun place => orFailed do
    Disk.mkdirs [] place.dropLast
    Disk.writeText place content
    pure (.written place (byteSize content))

def editFile (filePath oldText newText : PyString) (runDir : Option PyString) :
    EStateM PyError Disk FileReply :=
  orRefused (writePlace host filePath runDir) fun place => do
    if ← pathExists place then
      orFailed do
        let content ← Disk.readText place
        match replaceFirst oldText.points newText.points content.points with
        | none => pure (.unmatched filePath)
        | some newContent => do
          Disk.writeText place ⟨newContent⟩
          pure (.edited place)
    else pure (.notFound filePath)

-- The first of the paths that is there, below the root that it goes with
def findFile : List (Path × PyString) → EStateM PyError Disk (Option Path)
  | [] => pure none
  | (root, p) :: rest =>
    match safePath host p root with
    | .ok place => do
      if ← pathExists place then pure (some place) else findFile rest
    | .error raised => if raised.isValueError then findFile rest else throw raised.raised

def skillsDir : Path := inside host.agentRoot ["src", "skills"]

-- allowed_roots of a read whose run_dir gives these
def readRoots (given : List Path) : EStateM PyError Disk (List Path) := do
  let there ← pathExists (skillsDir host)
  let given := if there then given ++ [skillsDir host] else given
  match fileRoots host with
  | .ok extra => pure (given ++ Firsts.firsts id given extra)
  | .error raised => throw raised.raised

def readRunDir (runDir : Option PyString) : Except PathError (List Path) :=
  match runDir.filter fun dir : PyString => dir ≠ "" with
  | none => .ok []
  | some dir => (safeRunDir host dir).map fun runRoot => [runRoot]

def readFile (filePath : PyString) (limit : Option Int) (runDir : Option PyString) :
    EStateM PyError Disk FileReply :=
  orRefused (readRunDir host runDir) fun given => do
    let allowed ← readRoots host given
    match ← findFile host (allowed.flatMap fun root => (pathsToTry filePath).map (root, ·)) with
    | none => pure (.notFound filePath)
    | some place => orFailed do
      let text ← Disk.readText place
      pure (.content place (shown limit text.points))

inductive FileCall where
  | read (filePath : PyString) (limit : Option Int) (runDir : Option PyString)
  | write (filePath content : PyString) (runDir : Option PyString)
  | edit (filePath oldText newText : PyString) (runDir : Option PyString)

def FileCall.run : FileCall → EStateM PyError Disk FileReply
  | .read filePath limit runDir => readFile host filePath limit runDir
  | .write filePath content runDir => writeFile host filePath content runDir
  | .edit filePath oldText newText runDir => editFile host filePath oldText newText runDir

def filesAfter (calls : List FileCall) (disk : Disk) : Disk :=
  calls.foldl (fun disk call => leaves (call.run host disk)) disk

end Tools

end SynapseYield.Tools.Workspace
