import LibraryDescriptor.Command.Arguments
import LibraryDescriptor.Command.Narration
import LibraryDescriptor.Config.BuildFile

/-!
# Commands

* `Request.buildConfig` — what a request asks to build: a build file, with the options of the
  command line on top.
* `Request.run` — the library, with what is shown on the way.
* `Action` — what is left to do: to show the outcome, or to write the library first.
* `perform` — a whole run on a disk that is known.
-/

namespace LibraryDescriptor

namespace Command

open Text (inQuotes)

/-! ## Errors -/

/-- Why a command fails. -/
inductive CommandError where
  | config (cause : ConfigError)
  | library (cause : LibraryError)
  /-- The library holds a lone surrogate, which no file can. -/
  | unencodable

def CommandError.message : CommandError → Text
  | .config cause => cause.message
  | .library (.bundle cause) => cause.message
  | .library (.source cause) => cause.message
  | .library (.compile cause) => cause.message
  | .library (.print _) => "The descriptor has no source text"
  | .unencodable => "The descriptor holds a lone surrogate"

def isLocated : SourceError → Bool
  | .lexical _ _ | .syntactic _ _ => true
  | _ => false

def isSystemFault : ReadError → Bool
  | .file _ => true
  | _ => false

/-- Whether an error is the fault of what the command was given, and reported as such. -/
def CommandError.isReported : CommandError → Bool
  | .config (.unreadable _ cause) => isSystemFault cause
  | .config (.unfitScalar _ _) | .config (.unusablePath _) => false
  | .config _ => true
  | .library (.bundle (.unreadable _ cause)) => isSystemFault cause
  | .library (.bundle (.invalid _ cause)) => isLocated cause
  | .library (.bundle (.notLoaded _)) | .library (.bundle (.unnamed _))
  | .library (.bundle (.unprintable _)) | .library (.bundle .endless) => false
  | .library (.bundle _) => true
  | .library (.source cause) => isLocated cause
  | .library (.compile (.inconsistency _)) | .library (.compile (.unprintable _))
  | .library (.compile .undescribable) => false
  | .library (.compile _) => true
  | .library (.print _) => false
  | .unencodable => false

/-- The file that could not be read, if that is the error. -/
def CommandError.unread? : CommandError → Option Text
  | .config (.notFound path) => some path
  | .config (.unreadable path (.file _)) => some path
  | .library (.bundle (.unreadable id (.file _))) => some (Path.tidy id)
  | _ => none

/-! ## What to build -/

def Request.options (r : Request) (base : Options) : Except ConfigError Options :=
  let style := r.style.getD base.style
  let policy := r.policy.getD base.policy
  match r.localPrefix with
  | none => .ok { base with style, policy }
  | some localPrefix =>
    match (Setting.text localPrefix).toPrefix with
    | .ok ⟨localPrefix, h⟩ => .ok ⟨localPrefix, style, policy, h⟩
    | .error issue => .error (.invalidOption [(Options.prefixKey, issue)])

/-- What a request asks to build. The entry and the output of the command line count more than
those of a build file. -/
def Request.buildConfig (r : Request) (d : Disk) : Except ConfigError BuildConfig := do
  let base ←
    match r.config, r.entry with
    | some path, _ => d.loadBuildConfig (Path.tidy path)
    | none, some entry => pure ⟨← d.resolve entry, none, .standard⟩
    | none, none => throw .noEntry
  let entry ← r.entry.mapM d.resolve
  let output ← r.output.mapM d.resolve
  return {
    entry := entry.getD base.entry
    output := output.or base.output
    options := ← r.options base.options }

/-! ## Runs -/

structure Outcome where
  exit : Nat
  stdout : Text
  stderr : Text
  deriving DecidableEq

structure Run where
  /-- What was shown before the library was there. -/
  shown : Text
  /-- The lines of a verbose run. -/
  narration : Text
  result : Except CommandError (BuildConfig × Library)

def announcement (r : Request) (config : BuildConfig) : Text :=
  match r.command with
  | .build => []
  | .check => .join ["Checking ", inQuotes config.entry, "...\n"]

def Request.run [Serializer] (r : Request) (d : Disk) : Run :=
  match r.buildConfig d with
  | .error e => ⟨[], [], .error (.config e)⟩
  | .ok config =>
    let env : Environment := ⟨d, []⟩
    let narration :=
      if r.isVerbose then Text.join (narrateLibrary env config.options config.entry) else []
    let library := (env.library config.options config.entry).mapError CommandError.library
    ⟨announcement r config, narration, library.map (config, ·)⟩

/-- What is left to do after a run. -/
inductive Action where
  | finish (outcome : Outcome)
  /-- To write a text to a file; the outcome depends on whether this fails. -/
  | write (path text : Text) (outcome : Option (FileError × Text) → Outcome)

/-! ## Reports -/

def errorLine (message : Text) : Text := .join ["Error: ", message, "\n"]

def symbolLine (library : Library) (s : ResolvedSymbol) : Text :=
  let visibility : Text := if s.visibility = .exported then "public" else "private"
  let kind : Text :=
    match s.kind with
    | .function => "function"
    | .value => "value"
    | .imported => "import"
  let tail : Text :=
    match library.graph.dependenciesOf s.key with
    | [] => []
    | keys => .join [" -> ", .joinWith ", " keys]
  .join ["  ", s.key, " (", visibility, " ", kind, ")", tail, "\n"]

def checkReport (library : Library) : Text :=
  .join [.join (library.table.symbols.map (symbolLine library)), count library.table.symbols,
    " symbol(s), ", .ofNat library.graph.edgeCount, " dependency edge(s).\n",
    "No issues found.\n"]

def writeOutcome (r : Request) (run : Run) (path : Text) (library : Library) :
    Option (FileError × Text) → Outcome
  | none =>
    let narration := if r.isVerbose then writtenLine path library.code else []
    ⟨0,
      .join [run.shown, "Wrote ", count library.table.symbols, " symbol(s) to ", inQuotes path,
        ".\n"],
      run.narration ++ narration⟩
  | some (cause, place) =>
    ⟨1, run.shown,
      run.narration ++ errorLine (.join ["cannot write ", inQuotes path, ": ",
        cause.message place])⟩

/-- What is left to do after a run. An error that is not reported stays one. -/
def Run.action (run : Run) (r : Request) : Except CommandError Action :=
  match run.result with
  | .error e =>
    if e.isReported then
      .ok (.finish ⟨1, run.shown, run.narration ++ errorLine e.message⟩)
    else .error e
  | .ok (config, library) =>
    match r.command, config.output with
    | .check, _ => .ok (.finish ⟨0, run.shown ++ checkReport library, run.narration⟩)
    | .build, none => .ok (.finish ⟨0, run.shown ++ library.code, run.narration⟩)
    | .build, some path => .ok (.write path library.code (writeOutcome r run path library))

/-! ## Help -/

def programName : Text := "emlib"

def usage : Option CommandName → Text
  | none => .join ["usage: ", programName, " [-h] [-v] COMMAND ...\n"]
  | some command =>
    .join ["usage: ", programName, " ", command.spelling, " [-h] [OPTION ...] [entry]\n"]

def optionLines (specs : List OptionSpec) : Text :=
  .join (specs.map fun spec =>
    .join ["  ", .joinWith ", " spec.spellings,
      if spec.takesValue then Text.ofString " VALUE" else [], "\n"])

def helpText (command : Option CommandName) : Text :=
  match command with
  | none =>
    .join [usage none,
      "\nCompile ES modules into runtime library descriptors.\n\ncommands:\n",
      "  build  print or write the library descriptor of an entry module\n",
      "  check  report the symbols and dependencies of an entry module\n\noptions:\n",
      optionLines programOptions]
  | some name => .join [usage command, "\noptions:\n", optionLines (commandOptions name)]

/-- The outcome of arguments that make no sense. -/
def usageOutcome (e : UsageError) : Outcome :=
  ⟨2, [], .join [usage none, programName, ": error: ", e.message, "\n"]⟩

/-! ## A whole run -/

/-- What a run shows, and the files it writes. -/
structure Performance where
  outcome : Outcome
  written : List (Text × Text)

def Action.perform (d : Disk) : Action → Except CommandError Performance
  | .finish outcome => .ok ⟨outcome, []⟩
  | .write path text outcome =>
    match d.checkWrite path with
    | .error fault => .ok ⟨outcome (some fault), []⟩
    | .ok () =>
      if text.toString?.isSome then .ok ⟨outcome none, [(path, text)]⟩ else .error .unencodable

def perform [Serializer] (d : Disk) (arguments : List Text) : Except CommandError Performance :=
  match parseArguments arguments with
  | .error e => .ok ⟨usageOutcome e, []⟩
  | .ok (.help command) => .ok ⟨⟨0, helpText command, []⟩, []⟩
  | .ok (.request r) => do (← (r.run d).action r).perform d

end Command

end LibraryDescriptor
