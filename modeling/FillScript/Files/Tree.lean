import FillScript.Document.Book
import FillScript.Files.Path

/-!
# Files

The files that are known, as a value: reading looks a path up in it, writing gives the changed
files. A write that fails changes nothing. What is known is the working directory; the directories
above it, the root and those that every system has there exist, but only what was written to them is
known to be in them.
-/

namespace FillScript

/-! ## Files -/

-- Bytes are compared by the instance that comes with them, also where a library has another.
local instance (priority := 2000) decEqBytes : DecidableEq ByteArray := ByteArray.instDecidableEq

/-- What a file holds. -/
inductive Contents where
  | text (value : String)
  /-- Bytes that are no text. -/
  | bytes (value : ByteArray)
  | book (value : Book)
deriving DecidableEq

/-- What is found under a name. -/
inductive Node where
  | dir
  | file (contents : Contents)
deriving DecidableEq

/-- Why a file cannot be read or written. -/
inductive FileError where
  | notFound
  | notDirectory
  | isDirectory
  | nameTooLong
  | nulInName
  | notText
deriving DecidableEq, Repr

namespace FileError

/-- What the operating system says about an error. -/
def message : FileError → String
  | notFound => "No such file or directory (os error 2)"
  | notDirectory => "Not a directory (os error 20)"
  | isDirectory => "Is a directory (os error 21)"
  | nameTooLong => "File name too long (os error 36)"
  | nulInName => "file name contained an unexpected NUL byte"
  | notText => "stream did not contain valid UTF-8"

end FileError

namespace Contents

/-- The contents with the given bytes: a text if they are one. -/
def ofBytes (bytes : ByteArray) : Contents :=
  match String.fromUTF8? bytes with
  | some s => text s
  | none => .bytes bytes

/-- The text that bytes begin with: their lines up to the first that is no text. -/
def leadingText (bytes : ByteArray) : String :=
  let lines := (Text.splitAll 10 bytes.toList).map fun line => String.fromUTF8? ⟨line.toArray⟩
  let readable := (lines.takeWhile Option.isSome).reduceOption
  String.intercalate "\n" (if readable.length < lines.length then readable ++ [""] else readable)

end Contents

/-! ## Places -/

/-- A place: the names that lead there from the working directory. Two dots, which lead to the
directory above, stand only in front, and a slash that stands in front leads to the root. -/
abbrev Location := List String

namespace Location

/-- The root directory. -/
def root : Location :=
  ["/"]

/-- The names of the directories that every system has at the root. -/
def systemNames : List String :=
  ["bin", "boot", "dev", "etc", "home", "lib", "media", "mnt", "opt", "root", "run", "sbin", "srv",
    "tmp", "usr", "var"]

/-- Whether a place is a directory that every system has at the root. -/
def isOfSystem (loc : Location) : Bool :=
  systemNames.any fun name => loc == root ++ [name]

/-- Whether a place is a directory that is always there. -/
def isGiven (loc : Location) : Bool :=
  loc == root || loc.isOfSystem || loc.all (· == "..")

/-- The place one directory up. The root is its own. -/
def up (loc : Location) : Location :=
  if loc == root then root else if loc.all (· == "..") then loc ++ [".."] else loc.dropLast

end Location

/-- The files and directories by their places. -/
structure FileTree where
  entries : List (Location × Node)
deriving DecidableEq, Inhabited

namespace FileTree

/-- An empty working directory. -/
def empty : FileTree :=
  ⟨[]⟩

/-- What is found at a place. -/
def node? (files : FileTree) (loc : Location) : Option Node :=
  if loc.isGiven then some .dir else (files.entries.find? (·.1 == loc)).map (·.2)

/-- Entries with `node` at a place. -/
def putEntry (loc : Location) (node : Node) : List (Location × Node) → List (Location × Node)
  | [] => [(loc, node)]
  | (l, old) :: rest => if l == loc then (l, node) :: rest else (l, old) :: putEntry loc node rest

/-- The files with `node` at a place. -/
def put (files : FileTree) (loc : Location) (node : Node) : FileTree :=
  ⟨putEntry loc node files.entries⟩

/-- The files with nothing at a place. -/
def remove (files : FileTree) (loc : Location) : FileTree :=
  ⟨files.entries.filter (·.1 != loc)⟩

/-! ## Following paths -/

/-- Follows segments from a place. Every place that is left, or stayed at, has to be a directory. -/
def walk (files : FileTree) : List String → Location → Except FileError Location
  | [], loc => .ok loc
  | segment :: rest, loc =>
    match files.node? loc with
    | none => .error .notFound
    | some (.file _) => .error .notDirectory
    | some .dir =>
      if Path.isIdle segment then files.walk rest loc
      else if segment == ".." then files.walk rest loc.up
      else if 255 < segment.utf8ByteSize then .error .nameTooLong
      else files.walk rest (loc ++ [segment])

/-- Why a path leads to no place, whatever the files are. -/
def refused? (p : Path) : Option FileError :=
  if p.text.contains '\x00' then some .nulInName
  else if 4096 ≤ p.text.utf8ByteSize then some .nameTooLong
  else if p.isEmpty then some .notFound
  else none

/-- The directory from which a path leads on. -/
def startOf (p : Path) : Location :=
  if p.isAbsolute then .root else []

/-- The place that a path leads to, whether or not something is there. -/
def locate (files : FileTree) (p : Path) : Except FileError Location :=
  match refused? p with
  | some e => .error e
  | none => files.walk p.segments (startOf p)

/-- What a path leads to. -/
def resolve (files : FileTree) (p : Path) : Except FileError Node :=
  match files.locate p with
  | .error e => .error e
  | .ok loc =>
    match files.node? loc with
    | some node => .ok node
    | none => .error .notFound

/-! ## Reading and writing -/

/-- Whether a path leads to a file or directory. -/
def exists? (files : FileTree) (p : Path) : Bool :=
  match files.resolve p with
  | .ok _ => true
  | .error _ => false

/-- Whether a path leads to a file. -/
def isFile (files : FileTree) (p : Path) : Bool :=
  match files.resolve p with
  | .ok (.file _) => true
  | _ => false

/-- Reads a file. -/
def read (files : FileTree) (p : Path) : Except FileError Contents :=
  match files.resolve p with
  | .ok (.file contents) => .ok contents
  | .ok .dir => .error .isDirectory
  | .error e => .error e

/-- Reads a file as text. -/
def readText (files : FileTree) (p : Path) : Except FileError String :=
  match files.read p with
  | .ok (.text s) => .ok s
  | .ok _ => .error .notText
  | .error e => .error e

/-- Reads the text that a file begins with. -/
def readLeadingText (files : FileTree) (p : Path) : Except FileError String :=
  match files.read p with
  | .ok (.text s) => .ok s
  | .ok (.bytes bytes) => .ok (Contents.leadingText bytes)
  | .ok (.book _) => .error .notText
  | .error e => .error e

/-- The place where a file under this path is written. A path with a slash at its end names a
directory, which is no place for a file: the places before its last name are followed, and the name
itself is not looked up. -/
def writeLocation (files : FileTree) (p : Path) : Except FileError Location :=
  match refused? p with
  | some e => .error e
  | none =>
    if p.endsInSlash then
      match files.walk ((Path.dropEmptyEnd p.segments).dropLast ++ [""]) (startOf p) with
      | .error e => .error e
      | .ok _ => .error .isDirectory
    else files.walk p.segments (startOf p)

/-- Writes a file. -/
def write (files : FileTree) (p : Path) (contents : Contents) : Except FileError FileTree :=
  match files.writeLocation p with
  | .error e => .error e
  | .ok loc =>
    match files.node? loc with
    | some .dir => .error .isDirectory
    | _ => .ok (files.put loc (.file contents))

/-- Moves a file to another path. A file that is there gives way. -/
def move (files : FileTree) (source target : Path) : Except FileError FileTree :=
  match files.locate source, files.read source with
  | .ok loc, .ok contents => (files.remove loc).write target contents
  | .error e, _ | _, .error e => .error e

end FileTree

end FillScript
