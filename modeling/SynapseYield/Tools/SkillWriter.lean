import SynapseYield.Shared.Disk

set_option autoImplicit false

namespace SynapseYield.Tools

open Shared

-- USER_SKILLS_DIR, and the skills of the package.
structure SkillDirs where
  user : Path
  bundled : Path
  plain : ∀ name ∈ user ++ bundled, name ≠ ".."
  apart : ¬ user <+: bundled ∧ ¬ bundled <+: user

-- The JSON of a reply. The files of a listing go by their paths, each with its size.
inductive Reply where
  | ok (message : PyString) (path : Option Path)
  | listed (skill : PyString) (files : Path → Option Nat)
  | error (error : PyString)

def allowedSubdirs : List PyString := ["assets", "examples", "references", "templates"]

def isSlugChar (c : CodePoint) : Bool := Ascii.isLower c || Ascii.isDigit c || c = 0x2D

def byteSize (text : PyString) : Nat := (text.points.map utf8Width).sum

-- text.replace(find, replacement, 1), and whether find is in the text.
def replaceFirst (find replacement : List CodePoint) : List CodePoint → Option (List CodePoint)
  | [] => if find = [] then some replacement else none
  | c :: rest =>
    if find.isPrefixOf (c :: rest) then some (replacement ++ (c :: rest).drop find.length)
    else (replaceFirst find replacement rest).map (c :: ·)

-- What os.fsencode takes: a surrogate only where it stands for a byte.
def isFileNameChar (c : CodePoint) : Bool :=
  c.val ≠ 0 && (! isSurrogate c || 0xDC80 ≤ c.val && c.val ≤ 0xDCFF)

-- The parts that resolve takes.
def resolvable (parts : Path) : Bool := parts.all fun name => name.points.all isFileNameChar

section Tools

variable [PyText] (dirs : SkillDirs)

-- A name, up to case and surrounding spaces.
def skillKey (name : PyString) : PyString := name.lower.strip

def sanitizeSkillName (name : PyString) : PyString :=
  ⟨((skillKey name).points.map fun c => if isSlugChar c then c else 0x2D).take 60⟩

-- dir / name
def below (dir : Path) (name : PyString) : Path := if name = "" then dir else dir ++ [name]

def skillDir (name : PyString) : Path := below dirs.user (sanitizeSkillName name)

def skillDoc (dir : Path) : Path := dir ++ [("SKILL.md" : PyString)]

def saveSkill (name content category : PyString) : EStateM PyError Disk Reply :=
  if name = "" ∨ content = "" then pure (.error "name and content required")
  else do
    let slug := sanitizeSkillName name
    Disk.mkdirs [] (skillDir dirs name)
    let skillPath := skillDoc (skillDir dirs name)
    let content := if ("---" : PyString).points.isPrefixOf content.strip.points then content
      else ("---\nname: " : PyString) ++ slug ++ "\ndescription: User-created skill\ncategory: " ++
        category ++ "\n---\n\n" ++ content
    Disk.writeText skillPath content
    pure (.ok (("Skill '" : PyString) ++ slug ++ "' saved. Available via load_skill(\"" ++ slug ++
      "\") in future sessions.") skillPath)

-- The part of patch_skill from the reading of the user's file on.
def patchFile (name find replacement : PyString) (skillPath : Path) :
    EStateM PyError Disk Reply := do
  let content ← Disk.readText skillPath
  match replaceFirst find.points replacement.points content.points with
  | none => pure (.error (("Text not found in skill '" : PyString) ++ name ++ "'"))
  | some patched => do
    Disk.writeText skillPath ⟨patched⟩
    pure (.ok (("Patched skill '" : PyString) ++ name ++ "': replaced 1 occurrence.") skillPath)

def patchSkill (name find replacement : PyString) : EStateM PyError Disk Reply :=
  if name = "" ∨ find = "" then pure (.error "name and find required")
  else do
    let userPath := skillDoc (skillDir dirs name)
    let bundledPath := skillDoc (below dirs.bundled (sanitizeSkillName name))
    if ← Disk.present userPath then patchFile name find replacement userPath
    else if ← Disk.present bundledPath then do
      Disk.mkdirs [] (skillDir dirs name)
      let text ← Disk.readText bundledPath
      Disk.writeText userPath text
      patchFile name find replacement userPath
    else pure (.error (("Skill '" : PyString) ++ name ++ "' not found"))

def deleteSkill (name : PyString) : EStateM PyError Disk Reply :=
  if name.strip = "" then pure (.error "name required")
  else do
    let slug := sanitizeSkillName name.strip
    if ← Disk.present (skillDir dirs name.strip) then do
      Disk.rmtree (skillDir dirs name.strip)
      pure (.ok (("Deleted skill '" : PyString) ++ name.strip ++ "' and all its files.") none)
    else pure (.error (("User skill '" : PyString) ++ slug ++ "' not found"))

inductive FileAction where
  | list
  | write (path content : PyString)
  | remove (path : PyString)
  | unknown (action : PyString)

-- skill_dir / rel_path
def target (skillDir : Path) (relPath : PyString) : Path :=
  if (parsePath relPath).1 then (parsePath relPath).2 else skillDir ++ (parsePath relPath).2

def firstPart (relPath : PyString) : PyString :=
  if (parsePath relPath).1 then
    if ("//" : PyString).points.isPrefixOf relPath.points &&
      ! ("///" : PyString).points.isPrefixOf relPath.points then "//" else "/"
  else (parsePath relPath).2.headD ""

def partCount (relPath : PyString) : Nat :=
  (parsePath relPath).2.length + if (parsePath relPath).1 then 1 else 0

def isInside (skillDir : Path) (relPath : PyString) : Bool :=
  resolvable (parsePath relPath).2 && skillDir.isPrefixOf (Disk.resolve [] (target skillDir relPath))

def writeFile (skillDir : Path) (skillName path content : PyString) : EStateM PyError Disk Reply :=
  let relPath := path.strip
  if relPath = "" then pure (.error "path required for write")
  else if content = "" then pure (.error "content required for write")
  else if partCount relPath < 2 ∨ firstPart relPath ∉ allowedSubdirs then
    pure (.error (("Path must start with one of: assets, examples, references, templates. Got: '" :
      PyString) ++ firstPart relPath ++ "'"))
  else if ! isInside skillDir relPath then pure (.error "Path escapes skill directory")
  else do
    Disk.mkdirs [] (target skillDir relPath).dropLast
    Disk.writeText (target skillDir relPath) content
    pure (.ok (("Written " : PyString) ++ relPath ++ " to skill '" ++ skillName ++ "'.")
      (target skillDir relPath))

def removeFile (skillDir : Path) (skillName path : PyString) : EStateM PyError Disk Reply :=
  let relPath := path.strip
  if relPath = "" then pure (.error "path required for remove")
  else if (parsePath relPath).2.getLast? = some "SKILL.md" then
    pure (.error "Cannot remove SKILL.md. Use delete_skill to remove the entire skill.")
  else if ! isInside skillDir relPath then pure (.error "Path escapes skill directory")
  else do
    if ← Disk.present (target skillDir relPath) then do
      Disk.unlink (target skillDir relPath)
      pure (.ok (("Removed " : PyString) ++ relPath ++ " from skill '" ++ skillName ++ "'.") none)
    else pure (.error (("File not found: " : PyString) ++ relPath))

def skillFile (name : PyString) (action : FileAction) : EStateM PyError Disk Reply :=
  if name.strip = "" then pure (.error "skill_name required")
  else do
    let skillName := name.strip
    if ← Disk.present (skillDir dirs skillName) then
      match action with
      | .list => do
        let disk ← get
        pure (.listed skillName fun rel => (disk.text (skillDir dirs skillName ++ rel)).map byteSize)
      | .write path content => writeFile (skillDir dirs skillName) skillName path content
      | .remove path => removeFile (skillDir dirs skillName) skillName path
      | .unknown action => pure (.error (("Unknown action '" : PyString) ++ action ++
          "'. Use write, remove, or list."))
    else pure (.error (("User skill '" : PyString) ++ skillName ++
      "' not found. Create it with save_skill first."))

inductive SkillCall where
  | save (name content category : PyString)
  | patch (name find replacement : PyString)
  | delete (name : PyString)
  | file (name : PyString) (action : FileAction)

-- The name that a call looks for.
def SkillCall.name : SkillCall → PyString
  | .save name _ _ => name
  | .patch name _ _ => name
  | .delete name => name.strip
  | .file name _ => name.strip

def SkillCall.run : SkillCall → EStateM PyError Disk Reply
  | .save name content category => saveSkill dirs name content category
  | .patch name find replacement => patchSkill dirs name find replacement
  | .delete name => deleteSkill dirs name
  | .file name action => skillFile dirs name action

end Tools

end SynapseYield.Tools
