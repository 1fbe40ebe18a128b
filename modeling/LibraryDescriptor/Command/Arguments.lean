import LibraryDescriptor.Options
import LibraryDescriptor.Text.Numeral

/-!
# Command line arguments

Options stand anywhere among the words. A long option may be shortened as far as it stays
unambiguous, and its value follows as the next argument or after an equals sign; a short one may
have its value, or further options, attached. After `--` everything is a word.

* `OptionSpec`, `programOptions`, `commandOptions` — what the program and its two commands accept.
* `classify` — what an argument is.
* `parseArguments` — a request, a call for help, or why the arguments make no sense.
-/

namespace LibraryDescriptor

namespace Command

inductive OptionName where
  | help | verbose | config | localPrefix | style | policy | output
  deriving DecidableEq

structure OptionSpec where
  name : OptionName
  spellings : List Text
  takesValue : Bool := true
  /-- The values that it can have; none stands for any. -/
  choices : List Text := []

/-- Why arguments make no sense. -/
inductive UsageError where
  | ambiguous (argument : Text)
  | missingValue (option : Text)
  | needlessValue (option value : Text)
  | invalidChoice (value : Text)
  | unrecognized (arguments : List Text)
  deriving DecidableEq

def UsageError.message : UsageError → Text
  | .ambiguous argument => .join ["ambiguous option: ", argument]
  | .missingValue option => .join ["argument ", option, ": expected one argument"]
  | .needlessValue option value =>
    .join ["argument ", option, ": ignored explicit argument ", value.inQuotes]
  | .invalidChoice value => .join ["invalid choice: ", value.inQuotes]
  | .unrecognized arguments => .join ["unrecognized arguments: ", .joinWith " " arguments]

/-! ## Classes of arguments -/

structure Attachment where
  text : Text
  /-- Whether an equals sign separates it from the option. -/
  followsEquals : Bool

inductive ArgumentClass where
  | word
  /-- The two dashes after which everything is a word. -/
  | separator
  /-- An option, known or not, with what is attached to it. -/
  | option (spec : Option OptionSpec) (spelling : Text) (attached : Option Attachment)

def spellings (specs : List OptionSpec) : List (Text × OptionSpec) :=
  specs.flatMap fun spec => spec.spellings.map (·, spec)

/-- An argument up to its first equals sign, and what follows it. -/
def splitValue (argument : Text) : Text × Option Attachment :=
  match argument.dropWhile fun p => !p.is '=' with
  | [] => (argument, none)
  | _ :: value => (argument.takeWhile fun p => !p.is '=', some ⟨value, true⟩)

def completions (specs : List OptionSpec) (argument : Text) :
    List (OptionSpec × Text × Option Attachment) :=
  if argument.startsWith "--" then
    let (start, value) := splitValue argument
    (spellings specs).filterMap fun (spelling, spec) =>
      if spelling.startsWith start then some (spec, spelling, value) else none
  else
    (spellings specs).filterMap fun (spelling, spec) =>
      if spelling = argument.take 2 then some (spec, spelling, some ⟨argument.drop 2, false⟩)
      else if spelling.startsWith argument then some (spec, spelling, none)
      else none

def isDigitPoint : CodePoint → Bool := CodePoint.has fun c => (decimalDigit? c).isSome

def isNegativeNumber : Text → Bool
  | .scalar '-' :: rest =>
    match rest.dropWhile isDigitPoint with
    | [] => !rest.isEmpty
    | p :: fraction => p.is '.' && !fraction.isEmpty && fraction.all isDigitPoint
  | _ => false

/-- What an argument is. An argument with a dash that is no option may still be a word: a dash
alone, a negative number, or a text with spaces. -/
def classify (specs : List OptionSpec) (argument : Text) : Except UsageError ArgumentClass :=
  if !argument.headIs '-' then .ok .word
  else
    match (spellings specs).lookup argument with
    | some spec => .ok (.option (some spec) argument none)
    | none =>
      if argument.length = 1 then .ok .word
      else
        let (start, value) := splitValue argument
        match (if value.isSome then (spellings specs).lookup start else none),
          completions specs argument with
        | some spec, _ => .ok (.option (some spec) start value)
        | none, [(spec, spelling, value)] => .ok (.option (some spec) spelling value)
        | none, _ :: _ :: _ => .error (.ambiguous argument)
        | none, [] =>
          if isNegativeNumber argument || argument.any (·.is ' ') then .ok .word
          else .ok (.option none argument none)

abbrev Item := Text × ArgumentClass

def classifyAll (specs : List OptionSpec) : List Text → Except UsageError (List Item)
  | [] => .ok []
  | argument :: rest =>
    if argument = Text.ofString "--" then
      .ok ((argument, .separator) :: rest.map (·, .word))
    else do
      let kind ← classify specs argument
      return (argument, kind) :: (← classifyAll specs rest)

/-! ## Options -/

/-- An option that was given, with its value if it takes one. -/
abbrev Given := OptionSpec × Option Text

structure Cluster where
  given : List Given
  /-- The last option, if its value is to follow. -/
  lacking : Option Text
  /-- The rest, if it is no option. -/
  stray : List Text

def Cluster.cons (g : Given) (c : Cluster) : Cluster := { c with given := g :: c.given }

/-- The options in one argument. A short option without a value may be followed by others. -/
def unfold (specs : List OptionSpec) (spec : OptionSpec) (spelling : Text)
    (followsEquals : Bool) : Text → Except UsageError Cluster
  | [] =>
    if spec.takesValue then .ok ⟨[(spec, some [])], none, []⟩
    else .error (.needlessValue spelling [])
  | p :: rest =>
    if spec.takesValue then .ok ⟨[(spec, some (p :: rest))], none, []⟩
    else if spelling.startsWith "--" || followsEquals || p.is '-' then
      .error (.needlessValue spelling (p :: rest))
    else
      let next : Text := [.scalar '-', p]
      match (spellings specs).lookup next with
      | none => .ok ⟨[(spec, none)], none, [.scalar '-' :: p :: rest]⟩
      | some following =>
        match rest with
        | [] =>
          .ok (if following.takesValue then ⟨[(spec, none)], some next, []⟩
            else ⟨[(spec, none), (following, none)], none, []⟩)
        | q :: value =>
          if q.is '=' then (unfold specs following next true value).map (.cons (spec, none))
          else (unfold specs following next false (q :: value)).map (.cons (spec, none))

def takeOption (specs : List OptionSpec) (spec : OptionSpec) (spelling : Text)
    (attached : Option Attachment) (rest : List Item) :
    Except UsageError (Cluster × List Item) := do
  let cluster ←
    match attached with
    | some a => unfold specs spec spelling a.followsEquals a.text
    | none => pure (if spec.takesValue then ⟨[], some spelling, []⟩ else ⟨[(spec, none)], none, []⟩)
  match cluster.lacking with
  | none => return (cluster, rest)
  | some option =>
    match (spellings specs).lookup option, rest with
    | some spec, (value, .word) :: rest =>
      return ({ cluster with given := cluster.given ++ [(spec, some value)] }, rest)
    | _, _ => throw (.missingValue option)

def checkChoice (g : Given) : Except UsageError Unit :=
  match g.2 with
  | some value =>
    if g.1.choices.isEmpty || g.1.choices.contains value then .ok ()
    else .error (.invalidChoice value)
  | none => .ok ()

/-! ## Requests -/

inductive CommandName where
  | build | check
  deriving DecidableEq

namespace CommandName

def spelling : CommandName → Text
  | .build => "build"
  | .check => "check"

def ofText? (t : Text) : Option CommandName := [.build, .check].find? (·.spelling = t)

end CommandName

/-- What a command is asked to do. -/
structure Request where
  command : CommandName
  isVerbose : Bool
  entry : Option Text
  config : Option Text
  localPrefix : Option Text
  style : Option ReferenceStyle
  policy : Option InitializerPolicy
  output : Option Text

def Request.bare (command : CommandName) (isVerbose : Bool) : Request :=
  ⟨command, isVerbose, none, none, none, none, none, none⟩

inductive Invocation where
  /-- The help text, of the program or of a command. -/
  | help (command : Option CommandName)
  | request (value : Request)

def helpOption : OptionSpec := ⟨.help, ["-h", "--help"], false, []⟩

def programOptions : List OptionSpec :=
  [helpOption, ⟨.verbose, ["-v", "--verbose"], false, []⟩]

def commandOptions (command : CommandName) : List OptionSpec :=
  [helpOption,
    ⟨.config, ["--config"], true, []⟩,
    ⟨.localPrefix, ["--local-prefix"], true, []⟩,
    ⟨.style, ["--reference-style"], true, [.uniform, .emscripten].map ReferenceStyle.spelling⟩,
    ⟨.policy, ["--impure-initializers"], true,
     [.reject, .postset].map InitializerPolicy.spelling⟩] ++
  match command with
  | .build => [⟨.output, ["-o", "--output"], true, []⟩]
  | .check => []

def Request.apply (r : Request) (g : Given) : Request :=
  match g.1.name, g.2 with
  | .config, some value => { r with config := some value }
  | .localPrefix, some value => { r with localPrefix := some value }
  | .style, some value => { r with style := ReferenceStyle.ofText? value }
  | .policy, some value => { r with policy := InitializerPolicy.ofText? value }
  | .output, some value => { r with output := some value }
  | _, _ => r

/-- What is known after some arguments of a command. -/
structure Progress where
  request : Request
  /-- Whether the place of the entry is filled. -/
  hasEntry : Bool
  /-- The arguments that no place is left for. -/
  stray : List Text

/-- Fills the options that were given into a request; `none` is a call for help. -/
def applyAll (r : Request) : List Given → Except UsageError (Option Request)
  | [] => .ok (some r)
  | g :: rest => do
    if g.1.name = .help then return none
    checkChoice g
    applyAll (r.apply g) rest

/-- The entry among leading words, with separators around it, and the items after it. -/
def takeEntry (items : List Item) : Option Text × List Item :=
  let isSeparator : Item → Bool
    | (_, .separator) => true
    | _ => false
  match items.dropWhile isSeparator with
  | (word, .word) :: rest => (some word, rest.dropWhile isSeparator)
  | rest => (none, rest)

def parseCommand (specs : List OptionSpec) : Nat → Progress → List Item →
    Except UsageError (Option Progress)
  | 0, p, _ | _ + 1, p, [] => .ok (some p)
  | fuel + 1, p, (argument, .option spec spelling attached) :: rest =>
    match spec with
    | none => parseCommand specs fuel { p with stray := p.stray ++ [argument] } rest
    | some spec => do
      let (cluster, rest) ← takeOption specs spec spelling attached rest
      match ← applyAll p.request cluster.given with
      | none => return none
      | some request =>
        parseCommand specs fuel { p with request, stray := p.stray ++ cluster.stray } rest
  | fuel + 1, p, (argument, kind) :: rest =>
    if p.hasEntry then
      parseCommand specs fuel { p with stray := p.stray ++ [argument] } rest
    else
      let (entry, rest) := takeEntry ((argument, kind) :: rest)
      let request := { p.request with entry }
      parseCommand specs fuel { p with request, hasEntry := true } rest

/-- What the arguments of a command ask for, given the stray ones before it. -/
def parseRequest (command : CommandName) (isVerbose : Bool) (stray arguments : List Text) :
    Except UsageError Invocation := do
  let specs := commandOptions command
  let items ← classifyAll specs arguments
  let start : Progress := ⟨.bare command isVerbose, false, stray⟩
  match ← parseCommand specs (items.length + 1) start items with
  | none => return .help (some command)
  | some p => if p.stray.isEmpty then return .request p.request else throw (.unrecognized p.stray)

def parseProgram : Nat → Bool → List Text → List Item → Except UsageError Invocation
  | 0, _, stray, _ | _ + 1, _, stray, [] =>
    if stray.isEmpty then .ok (.help none) else .error (.unrecognized stray)
  | fuel + 1, isVerbose, stray, (argument, .option spec spelling attached) :: rest =>
    match spec with
    | none => parseProgram fuel isVerbose (stray ++ [argument]) rest
    | some spec => do
      let (cluster, rest) ← takeOption programOptions spec spelling attached rest
      if cluster.given.any (·.1.name = .help) then return .help none
      let isVerbose := isVerbose || cluster.given.any (·.1.name = .verbose)
      parseProgram fuel isVerbose (stray ++ cluster.stray) rest
  | _ + 1, isVerbose, stray, (argument, .word) :: rest =>
    match CommandName.ofText? argument with
    | some command => parseRequest command isVerbose stray (rest.map (·.1))
    | none => .error (.invalidChoice argument)
  | _ + 1, _, _, (argument, .separator) :: _ => .error (.invalidChoice argument)

def parseArguments (arguments : List Text) : Except UsageError Invocation := do
  let items ← classifyAll programOptions arguments
  parseProgram (items.length + 1) false [] items

end Command

end LibraryDescriptor
