import LibraryDescriptor.Command.Run

/-!
# The program

Files are read when a run asks for them: a run on what is known of the disk either succeeds or names
the next file to read.
-/

namespace LibraryDescriptor

namespace Command

/-- The reason of the system for a failed operation. -/
def fileErrorOf : IO.Error → FileError
  | .noFileOrDirectory _ _ _ | .noSuchThing _ _ _ => .notFound
  | .alreadyExists _ _ _ => .alreadyExists
  | .inappropriateType _ 20 _ => .notDirectory
  | .inappropriateType _ _ _ => .isDirectory
  | .permissionDenied _ code details => .other code.toNat (.ofString details)
  | e => .other 5 (.ofString (toString e))

/-- The content of a file, or why there is none. -/
def fetch (path : String) : IO (Except FileError ByteArray) := do
  try
    return .ok (← IO.FS.readBinFile path)
  catch e => return .error (fileErrorOf e)

/-- Runs a request, reading files as they are needed. -/
partial def runRequest (d : Disk) (r : Request) (tried : List Text) : IO (Disk × Run) := do
  let run := r.run d
  let missing : Option Text :=
    match run.result with
    | .error e => e.unread?
    | .ok _ => none
  match missing with
  | none => return (d, run)
  | some path =>
    match tried.contains path, path.toString? with
    | false, some name => runRequest (d.learn path (← fetch name)) r (path :: tried)
    | _, _ => return (d, run)

def store (path text : Text) : IO (Option (FileError × Text)) := do
  match path.toString?, text.toString? with
  | some name, some content =>
    try
      if let some directory := (Path.parent path).toString? then IO.FS.createDirAll directory
      IO.FS.writeFile name content
      return none
    catch e => return some (fileErrorOf e, path)
  | _, _ => return some (.other 84 "Invalid or incomplete multibyte or wide character", path)

def finish (o : Outcome) : IO UInt32 := do
  (← IO.getStdout).putStr (o.stdout.toString?.getD "")
  (← IO.getStderr).putStr (o.stderr.toString?.getD "")
  return UInt32.ofNat o.exit

end Command

end LibraryDescriptor

open LibraryDescriptor LibraryDescriptor.Command in
def main (arguments : List String) : IO UInt32 := do
  match parseArguments (arguments.map Text.ofString) with
  | .error e => finish (usageOutcome e)
  | .ok (.help command) => finish ⟨0, helpText command, []⟩
  | .ok (.request r) =>
    let current := Text.ofString (toString (← IO.currentDir))
    let (_, run) ← runRequest (.empty (Path.components current)) r []
    match run.action r with
    | .error e => finish ⟨1, run.shown, run.narration ++ errorLine e.message⟩
    | .ok (.finish outcome) => finish outcome
    | .ok (.write path text outcome) => do finish (outcome (← store path text))
