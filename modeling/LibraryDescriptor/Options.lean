import LibraryDescriptor.Text.Basic

/-!
# Options

How the symbols of a module are named in a descriptor, and what happens to initializers that may
have side effects.

* `Options` — the options of one compilation; the private prefix is an identifier by type.
* `Setting`, `Options.ofSettings` — options from loosely typed settings, with all the issues found.
-/

namespace LibraryDescriptor

/-- How the keys of a descriptor and the references to them are spelled. -/
inductive ReferenceStyle where
  /-- A symbol is keyed and referenced by the same name. -/
  | uniform
  /-- The reference to a key is derived from it as the runtime library does. -/
  | emscripten
  deriving DecidableEq

namespace ReferenceStyle

def spelling : ReferenceStyle → Text
  | .uniform => "uniform"
  | .emscripten => "emscripten"

def ofText? (t : Text) : Option ReferenceStyle := [.uniform, .emscripten].find? (·.spelling = t)

end ReferenceStyle

/-- What to do with a variable whose initializer may have side effects. -/
inductive InitializerPolicy where
  /-- It is an error. -/
  | reject
  /-- The assignment is deferred until all entries are in place. -/
  | postset
  deriving DecidableEq

namespace InitializerPolicy

def spelling : InitializerPolicy → Text
  | .reject => "reject"
  | .postset => "postset"

def ofText? (t : Text) : Option InitializerPolicy := [.reject, .postset].find? (·.spelling = t)

end InitializerPolicy

/-! ## Identifiers -/

def isPlainStart (c : Char) : Bool := c.isAlpha || c == '_' || c == '$'

def isPlainPart (c : Char) : Bool := isPlainStart c || c.isDigit

def isPlainIdentifier : Text → Bool
  | [] => false
  | p :: rest => p.has isPlainStart && rest.all (·.has isPlainPart)

/-! ## Options -/

structure Options where
  /-- The part of the names of private symbols that tells modules apart. -/
  localPrefix : Text := "unnamed"
  style : ReferenceStyle := .uniform
  policy : InitializerPolicy := .reject
  isPlainIdentifier_localPrefix : isPlainIdentifier localPrefix = true := by decide

/-! ## Settings -/

inductive Setting where
  | text (value : Text)
  /-- A text by its encoding in UTF-8. -/
  | encoded (bytes : List UInt8)
  /-- No value. -/
  | null
  /-- Anything else. -/
  | other

/-- What is wrong with a setting. -/
inductive Issue where
  | missing | notText
  /-- Bytes that encode no text, or a text that cannot be encoded. -/
  | notUnicode
  | notIdentifier | notListed | unknownKey | invalidKey
  deriving DecidableEq

/-- Issues, each with the key of the setting it is about. -/
abbrev Issues := List (Text × Issue)

namespace Setting

def toText : Setting → Except Issue Text
  | .text value => .ok value
  | .encoded bytes =>
    match String.fromUTF8? ⟨bytes.toArray⟩ with
    | some s => .ok (.ofString s)
    | none => .error .notUnicode
  | .null | .other => .error .notText

def toOptionalText : Setting → Except Issue (Option Text)
  | .null => .ok none
  | setting => setting.toText.map some

def toPrefix (setting : Setting) : Except Issue { t : Text // isPlainIdentifier t = true } := do
  let value ← setting.toText
  if h : isPlainIdentifier value = true then return ⟨value, h⟩ else throw .notIdentifier

def toListed {α : Type} (ofText? : Text → Option α) : Setting → Except Issue α
  | .text value =>
    if value.toString?.isNone then .error .notUnicode
    else (ofText? value).elim (.error .notListed) .ok
  | .encoded _ | .null | .other => .error .notListed

end Setting

/-- Settings by key, in the order given; each key stands once. -/
abbrev Settings := List (Text × Setting)

namespace Settings

def read {α : Type} (settings : Settings) (key : Text) (convert : Setting → Except Issue α)
    (default : α) : Except Issue α :=
  match settings.lookup key with
  | none => .ok default
  | some setting => convert setting

def issueOf {α : Type} (key : Text) : Except Issue α → Issues
  | .ok _ => []
  | .error issue => [(key, issue)]

def unknownKeys (settings : Settings) (known : List Text) : Issues :=
  (settings.filter fun (key, _) => !known.contains key).map fun (key, _) => (key, .unknownKey)

end Settings

namespace Options

def prefixKey : Text := "local_prefix"

def styleKey : Text := "reference_style"

def policyKey : Text := "impure_initializers"

def standard : Options := {}

/-- The options that settings give. The issues come in the order of the options, then those of
unknown keys in the order given. -/
def ofSettings (settings : Settings) : Except Issues Options :=
  let localPrefix := settings.read prefixKey Setting.toPrefix
    ⟨standard.localPrefix, standard.isPlainIdentifier_localPrefix⟩
  let style := settings.read styleKey (Setting.toListed ReferenceStyle.ofText?) standard.style
  let policy := settings.read policyKey (Setting.toListed InitializerPolicy.ofText?) standard.policy
  let unknown := settings.unknownKeys [prefixKey, styleKey, policyKey]
  match localPrefix, style, policy, unknown with
  | .ok ⟨localPrefix, h⟩, .ok style, .ok policy, [] => .ok ⟨localPrefix, style, policy, h⟩
  | _, _, _, _ =>
    .error <| Settings.issueOf prefixKey localPrefix ++ Settings.issueOf styleKey style ++
      Settings.issueOf policyKey policy ++ unknown

end Options

end LibraryDescriptor
