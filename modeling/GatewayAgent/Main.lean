import GatewayAgent.Program.Run
import Std.Time.DateTime.Timestamp

/-!
# The program

Takes a picture of the files that a task is about, runs the task on it, and brings the files on the
disk to what came of it. The network of this program offers no address to listen on, so a run of
the agent ends when it would begin to serve.
-/

namespace GatewayAgent.Program

/-- A network that has nothing to listen on. -/
def noNetwork : Network where
  refusal? _ := some (.condition 95)
  reachable _ := false

/-- The variables that matter. -/
def knownVariables : List String :=
  configVariable :: filterVariable :: Config.overrides.map (·.name)

/-- The environment, as far as it matters. -/
def readEnvironment : IO Environment := do
  let values ← knownVariables.mapM fun v => do return (v, ← IO.getEnv v)
  return fun v => (values.find? fun e => e.1 = v).bind (·.2)

/-- What is at a path on the disk. -/
def probe (path : String) : IO (Option FileNode) := do
  try
    return some (.file (← IO.FS.readBinFile path).toList 0o644)
  catch
    | .inappropriateType .. => return some .directory
    | _ => return none

/-- A path after the directories it lies in, from the outermost on. -/
def withParents : (depth : Nat) → (path : String) → List String
  | 0, path => [path]
  | depth + 1, path =>
    match Path.parent? path with
    | some above => if above = "" then [path] else withParents depth above ++ [path]
    | none => [path]

/-- A path after all the directories it lies in. -/
def trail (path : String) : List String := withParents (Path.parts path).length path

/-- A picture of what is at some paths. -/
def readFiles (paths : List String) : IO FileSystem := do
  let start : FileSystem :=
    { nodes := .ofList [(["here"], .directory)], workingDirectory := ["here"] }
  (paths.flatMap trail).foldlM (fun fs path => do
    match ← probe path with
    | some n =>
      match fs.locate path with
      | .ok place => return fs.put place n
      | .error _ => return fs
    | none => return fs) start

/-- The rights of a file by its permission bits. -/
def rights (mode : Nat) : IO.FileRight :=
  let access (shift : Nat) : IO.AccessRight :=
    { read := mode.testBit (shift + 2), write := mode.testBit (shift + 1),
      execution := mode.testBit shift }
  { user := access 6, group := access 3, other := access 0 }

/-- Brings what is at a path to what it is to be. The rights are set before anything is written. -/
def store (before after : FileSystem) (path : String) : IO Unit := do
  match after.find path with
  | .ok (_, .directory) => if !before.hasEntry path then IO.FS.createDirAll path
  | .ok (_, .file content mode) =>
    if (before.read path).toOption ≠ some content then
      IO.FS.writeBinFile path ByteArray.empty
      IO.setAccessRights path (rights mode)
      IO.FS.writeBinFile path ⟨content.toArray⟩
  | .error _ => return ()

/-- The paths that a task is about. -/
def paths (env : Environment) : Task → IO (List String)
  | .gencert directory _ => return (TlsPaths.inDirectory directory).toList
  | .serve path => do
    match Config.load (← readFiles [path]) path env with
    | .ok c => return path :: c.tls.material.toList
    | .error _ => return [path]

end GatewayAgent.Program

open GatewayAgent GatewayAgent.Program in
/-- Runs the program. -/
def main (arguments : List String) : IO UInt32 := do
  let env ← readEnvironment
  let touched ←
    match Task.read env arguments with
    | .ok task => paths env task
    | .error _ => pure []
  let files ← readFiles touched
  let now ← Std.Time.Timestamp.now
  let seed ← IO.getRandomBytes 32
  let s : Surroundings :=
    { now := ⟨now.toNanosecondsSinceUnixEpoch.val⟩, entropy := .ofSeed seed.toList, files }
  match run s env noNetwork none arguments with
  | none => return 0
  | some outcome =>
    (touched.flatMap trail).forM (store files outcome.files)
    outcome.log.forM fun e => IO.println e.message
    outcome.stdout.forM IO.println
    outcome.stderr.forM IO.eprintln
    return UInt32.ofNat outcome.exitCode
