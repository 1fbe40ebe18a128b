import LibraryDescriptor.Disk.Path
import LibraryDescriptor.Text.Quoted

/-!
# Disks

A disk is a finite tree of files and directories, as far as it is known, with a working directory.

* `FileError` — why a file cannot be read or written, with the text of the system.
* `Disk.read`, `Disk.readText` — the content of a file.
* `Disk.checkWrite` — whether a file can be written, its directory being made when it is missing.
-/

namespace LibraryDescriptor

/-- Why the system refuses an operation on a file. -/
inductive FileError where
  | notFound | alreadyExists | notDirectory | isDirectory | nameTooLong
  /-- Any other reason, by the number and the text of the system. -/
  | other (number : Nat) (text : Text)
  deriving DecidableEq

namespace FileError

def number : FileError → Nat
  | .notFound => 2
  | .alreadyExists => 17
  | .notDirectory => 20
  | .isDirectory => 21
  | .nameTooLong => 36
  | .other number _ => number

def text : FileError → Text
  | .notFound => "No such file or directory"
  | .alreadyExists => "File exists"
  | .notDirectory => "Not a directory"
  | .isDirectory => "Is a directory"
  | .nameTooLong => "File name too long"
  | .other _ text => text

def message (e : FileError) (path : Text) : Text :=
  .join ["[Errno ", .ofNat e.number, "] ", e.text, ": ", path.quoted]

end FileError

/-! ## Names -/

/-- The number of bytes of a code point in a path; a surrogate stands for one byte. -/
def CodePoint.pathBytes : CodePoint → Nat
  | .scalar c => c.utf8Size
  | .surrogate _ => 1

/-- Whether a text takes more bytes in a path than given. -/
def Text.exceeds (t : Text) (bytes : Nat) : Bool :=
  bytes < (t.map CodePoint.pathBytes).foldl (· + ·) 0

def maxNameBytes : Nat := 255

def maxPathBytes : Nat := 4095

/-! ## Disks -/

/-- What a path leads to. -/
inductive DiskNode where
  | file (content : ByteArray)
  | directory
  /-- Something that cannot be read. -/
  | fault (cause : FileError)

/-- A tree of files and directories. -/
structure Disk where
  /-- The components of the working directory. -/
  current : List Text
  /-- What is known; directories on the way to something are there as well. -/
  nodes : List (List Text × DiskNode)

/-- Why there is no text to read. -/
inductive ReadError where
  | file (cause : FileError)
  /-- The content is not UTF-8. -/
  | undecodable
  /-- The path has a NUL character. -/
  | nulInPath
  /-- The path has a surrogate that stands for no byte. -/
  | surrogateInPath
  deriving DecidableEq

namespace Disk

def currentPath (d : Disk) : Text := Path.ofComponents "/" d.current

def isDirectory (d : Disk) (path : List Text) : Bool :=
  path.isPrefixOf d.current ||
    d.nodes.any fun (p, node) =>
      path.isPrefixOf p &&
        match node with
        | .directory => true
        | _ => path ≠ p

def node? (d : Disk) (path : List Text) : Option DiskNode :=
  if d.isDirectory path then some .directory else d.nodes.lookup path

def follow (d : Disk) (place : List Text) : List Text → Except FileError DiskNode
  | [] => (d.node? place).elim (.error .notFound) .ok
  | component :: rest =>
    match d.node? place with
    | none => .error .notFound
    | some (.fault cause) => .error cause
    | some (.file _) => .error .notDirectory
    | some .directory =>
      if component.exceeds maxNameBytes then .error .nameTooLong
      else follow d (if component = Path.above then place.dropLast else place ++ [component]) rest

def find (d : Disk) (path : Text) : Except FileError DiskNode :=
  if path.exceeds maxPathBytes then .error .nameTooLong
  else d.follow (if Path.isAbsolute path then [] else d.current) (Path.components path)

def read (d : Disk) (path : Text) : Except FileError ByteArray := do
  match ← d.find path with
  | .file content => return content
  | .directory => throw .isDirectory
  | .fault cause => throw cause

/-- Lines end in a line feed, whichever way they ended before. -/
def unifyLineEnds : Text → Text
  | [] => []
  | .scalar '\r' :: .scalar '\n' :: rest => .scalar '\n' :: unifyLineEnds rest
  | .scalar '\r' :: rest => .scalar '\n' :: unifyLineEnds rest
  | p :: rest => p :: unifyLineEnds rest

def decode? (content : ByteArray) : Option Text :=
  (String.fromUTF8? content).map fun s => unifyLineEnds (.ofString s)

/-- Whether a code point can be in the name of a file. A surrogate of the block that stands for
bytes can. -/
def isNameable : CodePoint → Bool
  | .scalar _ => true
  | .surrogate offset => 0x480 ≤ offset.val && offset.val < 0x500

def checkPath (path : Text) : Except ReadError Unit :=
  if !path.all isNameable then .error .surrogateInPath
  else if path.any (·.is '\x00') then .error .nulInPath
  else .ok ()

def readText (d : Disk) (path : Text) : Except ReadError Text := do
  checkPath path
  let content ← (d.read path).mapError .file
  match decode? content with
  | some text => return text
  | none => throw .undecodable

/-- Whether a directory can be made at a place, after `made` components on the way, all of them
directories or missing; the error comes with the path it is about. What stands in the way of the
whole path is seen at once. What comes after a directory that is missing is seen when it is made. -/
def checkDirectories (d : Disk) (place made : List Text) (isNew : Bool) :
    List Text → Except (FileError × Text) Unit
  | [] => .ok ()
  | component :: rest =>
    let next := made ++ [component]
    if component.exceeds maxNameBytes then
      .error (.nameTooLong, Path.ofComponents "/" (if isNew then next else place))
    else
      match d.node? next with
      | none => checkDirectories d place next true rest
      | some .directory => checkDirectories d place next false rest
      | some _ =>
        .error (if rest.isEmpty then .alreadyExists else .notDirectory, Path.ofComponents "/" place)

/-- Whether a text can be written to a file, given from the root; the error comes with the path it
is about. Missing directories are made. -/
def checkWrite (d : Disk) (path : Text) : Except (FileError × Text) Unit := do
  let place := Path.components path
  let directory := place.dropLast
  if (Path.parent path).exceeds maxPathBytes then throw (.nameTooLong, Path.parent path)
  checkDirectories d directory [] false directory
  if path.exceeds maxPathBytes || (place.getLastD []).exceeds maxNameBytes then
    throw (.nameTooLong, path)
  if d.isDirectory place then throw (.isDirectory, path)

def learn (d : Disk) (path : Text) (outcome : Except FileError ByteArray) : Disk :=
  let place := Path.components (Path.resolve d.currentPath path)
  let node : DiskNode :=
    match outcome with
    | .ok content => .file content
    | .error cause => .fault cause
  { d with nodes := (place, node) :: d.nodes }

def fileCount (d : Disk) : Nat := d.nodes.length

/-- A disk on which there is only a working directory. -/
def empty (current : List Text) : Disk := ⟨current, []⟩

end Disk

end LibraryDescriptor
