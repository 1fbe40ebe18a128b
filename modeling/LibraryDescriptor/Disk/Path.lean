import LibraryDescriptor.Text.Basic

/-!
# Paths

A path is a text in which slashes separate components. A path that starts with exactly two slashes
has a root of its own.

* `Path.normalize`, `Path.absolute` — without `.` and `..`, as far as the text alone tells.
* `Path.join`, `Path.directory`, `Path.hasExtension`.
* `Path.tidy`, `Path.parent`, `Path.resolve` — paths as they are shown in messages.
-/

namespace LibraryDescriptor

namespace Path

def here : Text := "."

def above : Text := ".."

def isAbsolute (p : Text) : Bool := p.headIs '/'

/-- The root of a path: nothing, one slash, or two. Three slashes or more count as one. -/
def root (p : Text) : Text :=
  match p.takeWhile (·.is '/') with
  | [] => []
  | [_, _] => "//"
  | _ => "/"

/-- The components of a path, without empty ones and those that name the directory itself. -/
def components (p : Text) : List Text :=
  (p.split '/').filter fun c => !c.isEmpty && c ≠ here

def ofComponents (root : Text) (components : List Text) : Text :=
  match root ++ .joinWith "/" components with
  | [] => here
  | p => p

/-- One more component, where `..` takes back the one before it. Above the root is the root. The
components before it are in reverse order. -/
def descend (isRooted : Bool) (before : List Text) (component : Text) : List Text :=
  if component ≠ above then component :: before
  else
    match before with
    | [] => if isRooted then [] else [above]
    | last :: rest => if last = above then above :: before else rest

/-- Components without `..`, except those that lead out of the start. -/
def collapse (isRooted : Bool) (components : List Text) : List Text :=
  (components.foldl (descend isRooted) []).reverse

def normalize (p : Text) : Text := ofComponents (root p) (collapse (isAbsolute p) (components p))

def join (directory p : Text) : Text :=
  if isAbsolute p then p
  else if directory.isEmpty || directory.lastIs '/' then directory ++ p
  else .join [directory, "/", p]

def absolute (current p : Text) : Text := normalize (join current p)

/-- A path without its last component. -/
def directory (p : Text) : Text :=
  let head := (p.reverse.dropWhile fun c => !c.is '/').reverse
  if head.all (·.is '/') then head else (head.reverse.dropWhile (·.is '/')).reverse

/-- Whether the last component has an extension; dots at its start begin none. -/
def hasExtension (p : Text) : Bool :=
  let name := (p.reverse.takeWhile fun c => !c.is '/').reverse
  (name.dropWhile (·.is '.')).any (·.is '.')

/-- A path without superfluous slashes and components, but with each `..`. -/
def tidy (p : Text) : Text := ofComponents (root p) (components p)

def parent (p : Text) : Text := ofComponents (root p) (components p).dropLast

def resolve (current p : Text) : Text :=
  ofComponents "/" (collapse true (components (join current p)))

end Path

end LibraryDescriptor
