import LibraryDescriptor.Disk.Basic
import LibraryDescriptor.Options
import LibraryDescriptor.Yaml.Value

/-!
# Build files

A build file is a YAML mapping that says what to build:

    entry: src/main.js
    output: build/main.js
    local-prefix: mylib
    reference-style: uniform
    impure-initializers: reject

Only the entry is required. Relative paths are seen from the directory of the file.

* `BuildConfig` — what to build, and how.
* `FileIssues` — what is wrong with the settings of a file.
* `BuildFile.ofEntries` — the settings of a file, with all the issues found.
* `Disk.loadBuildConfig`.
-/

namespace LibraryDescriptor

structure BuildConfig where
  /-- The path of the entry module. -/
  entry : Text
  /-- The file to write, if any. -/
  output : Option Text
  options : Options

/-- Issues of a file, each with the key it is about; some are about the file as a whole. -/
abbrev FileIssues := List (Option Yaml.Scalar × Issue)

/-- Why there is nothing to build. -/
inductive ConfigError where
  | notFound (path : Text)
  | unreadable (path : Text) (cause : ReadError)
  | invalidYaml (path : Text)
  /-- A scalar of the file does not fit its tag. -/
  | unfitScalar (path : Text) (fault : Yaml.ScalarFault)
  | notMapping (path : Text)
  | invalidSettings (path : Text) (issues : FileIssues)
  /-- What is given as a path cannot be one. -/
  | unusablePath (cause : ReadError)
  /-- Neither a file nor an entry was given. -/
  | noEntry
  /-- An option of the command line does not fit. -/
  | invalidOption (issues : Issues)
  deriving DecidableEq

open Text (inQuotes) in
def ConfigError.message : ConfigError → Text
  | .notFound path => .join ["Build config file not found: ", path]
  | .unreadable path (.file cause) =>
    .join ["Cannot read build config file ", inQuotes path, ": ", cause.message path]
  | .unreadable path _ => .join ["Cannot read build config file ", inQuotes path]
  | .invalidYaml path | .unfitScalar path _ => .join ["Invalid YAML in ", inQuotes path]
  | .notMapping path => .join [path, ": build config must be a YAML mapping"]
  | .invalidSettings path _ => .join ["Invalid build config ", inQuotes path]
  | .unusablePath _ => "Not a path"
  | .noEntry => "no entry module given; pass ENTRY or --config"
  | .invalidOption _ => "Invalid option"

/-! ## Settings of a file -/

def Yaml.Value.toSetting : Yaml.Value → Setting
  | .scalar (.text value) => .text value
  | .scalar (.binary bytes) => .encoded bytes
  | .scalar .null => .null
  | .scalar _ | .collection => .other

/-- The settings of a file; the prefix may still be any text. -/
structure BuildFile where
  entry : Text
  output : Option Text
  localPrefix : Text
  style : ReferenceStyle
  policy : InitializerPolicy

namespace BuildFile

/-- The key under which an option with two spellings is given: the one with dashes counts first. -/
def keyFor (settings : Settings) (dashed plain : Text) : Text :=
  if (settings.lookup dashed).isNone && (settings.lookup plain).isSome then plain else dashed

def settingsOf (entries : List Yaml.Entry) : Settings :=
  entries.filterMap fun
    | (.text key, value) => some (key, value.toSetting)
    | _ => none

/-- The text of a key; bytes can encode one. -/
def keyText? : Yaml.Scalar → Option Text
  | .text key => some key
  | .binary bytes => (String.fromUTF8? ⟨bytes.toArray⟩).map Text.ofString
  | _ => none

/-- What is wrong with a key, given those that settings were found under. -/
def keyIssue? (known : List Text) (key : Yaml.Scalar) : Option Issue :=
  match keyText? key with
  | some t => if known.contains t then none else some .unknownKey
  | none => some .invalidKey

/-- The keys that no option has, as issues. -/
def strayKeys (known : List Text) (entries : List Yaml.Entry) : FileIssues :=
  entries.filterMap fun (key, _) => (keyIssue? known key).map (some key, ·)

def hasUnencodableKey (entries : List Yaml.Entry) : Bool :=
  entries.any fun (key, _) => (keyText? key).any (·.toString?.isNone)

def issuesOf (issues : Issues) : FileIssues := issues.map fun (key, issue) =>
    (some (.text key), issue)

def required (settings : Settings) (key : Text) : Except Issue Text :=
  match settings.lookup key with
  | none => .error .missing
  | some setting => setting.toText

/-- The settings of a file. The issues come in the order of the options, then those of stray keys
in the order given; a key that cannot be encoded hides them all. -/
def ofEntries (entries : List Yaml.Entry) : Except FileIssues BuildFile :=
  let settings := settingsOf entries
  let prefixKey := keyFor settings "local-prefix" Options.prefixKey
  let styleKey := keyFor settings "reference-style" Options.styleKey
  let policyKey := keyFor settings "impure-initializers" Options.policyKey
  let entry := required settings "entry"
  let output := settings.read "output" Setting.toOptionalText none
  let localPrefix := settings.read prefixKey Setting.toText Options.standard.localPrefix
  let style :=
    settings.read styleKey (Setting.toListed ReferenceStyle.ofText?) Options.standard.style
  let policy :=
    settings.read policyKey (Setting.toListed InitializerPolicy.ofText?) Options.standard.policy
  let known : List Text := ["entry", "output", prefixKey, styleKey, policyKey]
  let stray := strayKeys (known.filter fun key => (settings.lookup key).isSome) entries
  if hasUnencodableKey entries then .error [(none, .notUnicode)]
  else
    match entry, output, localPrefix, style, policy, stray with
    | .ok entry, .ok output, .ok localPrefix, .ok style, .ok policy, [] =>
      .ok ⟨entry, output, localPrefix, style, policy⟩
    | _, _, _, _, _, _ =>
      .error <| issuesOf (Settings.issueOf "entry" entry ++ Settings.issueOf "output" output ++
        Settings.issueOf prefixKey localPrefix ++ Settings.issueOf styleKey style ++
        Settings.issueOf policyKey policy) ++ stray

def options (file : BuildFile) : Except FileIssues Options :=
  if h : isPlainIdentifier file.localPrefix = true then
    .ok ⟨file.localPrefix, file.style, file.policy, h⟩
  else .error (issuesOf [(Options.prefixKey, .notIdentifier)])

end BuildFile

/-! ## Loading -/

def Disk.readBuildFile (d : Disk) (path : Text) :
    Except ConfigError (Option (List Yaml.Entry)) := do
  let text ←
    (d.readText path).mapError fun
      | .file .notFound => .notFound path
      | cause => .unreadable path cause
  (Yaml.parseMapping text).mapError fun
    | .malformed => .invalidYaml path
    | .unfit fault => .unfitScalar path fault

/-- A path from the root, given one from the working directory. -/
def Disk.resolve (d : Disk) (path : Text) : Except ConfigError Text := do
  (Disk.checkPath path).mapError .unusablePath
  return Path.resolve d.currentPath path

def Disk.resolveFrom (d : Disk) (file path : Text) : Except ConfigError Text :=
  d.resolve (Path.join (Path.parent file) path)

def Disk.loadBuildConfig (d : Disk) (path : Text) : Except ConfigError BuildConfig := do
  match ← d.readBuildFile path with
  | some entries =>
    let file ← (BuildFile.ofEntries entries).mapError (.invalidSettings path)
    let options ← file.options.mapError (.invalidSettings path)
    let entry ← d.resolveFrom path file.entry
    let output ← file.output.mapM (d.resolveFrom path)
    return ⟨entry, output, options⟩
  | none => throw (.notMapping path)

end LibraryDescriptor
