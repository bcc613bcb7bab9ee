import FillScript.Text.Split
import FillScript.Text.LetterCase

/-!
# Paths

A path is a text; slashes separate its segments. Empty segments and single dots stand for nothing,
except that a leading empty segment makes the path absolute and a leading dot is kept.
-/

namespace FillScript

/-- The name of a file or directory, as it is written. -/
structure Path where
  text : String
deriving DecidableEq, Repr, Inhabited

namespace Path

/-- The path without any text. -/
def empty : Path :=
  ⟨""⟩

/-- Whether the path has no text. -/
def isEmpty (p : Path) : Bool :=
  p.text.isEmpty

/-- The pieces between the slashes. -/
def segments (p : Path) : List String :=
  (Text.splitAll '/' p.text.toList).map String.ofList

/-- Whether the path starts from the root and not from the working directory. -/
def isAbsolute (p : Path) : Bool :=
  p.text.toList.head? == some '/'

/-- Whether the path ends in a slash. -/
def endsInSlash (p : Path) : Bool :=
  p.text.toList.getLast? == some '/'

/-- Whether a segment leads nowhere. -/
def isIdle (segment : String) : Bool :=
  segment == "" || segment == "."

/-- The segments without those at the end that lead nowhere. -/
def dropIdleEnd (segments : List String) : List String :=
  (segments.reverse.dropWhile isIdle).reverse

/-- The segments without the empty ones at the end, which slashes leave there. -/
def dropEmptyEnd (segments : List String) : List String :=
  (segments.reverse.dropWhile (· == "")).reverse

/-- The path with these segments. -/
def ofSegments (segments : List String) : Path :=
  match segments with
  | [""] => ⟨"/"⟩
  | _ => ⟨String.intercalate "/" segments⟩

/-- The directory that a path names its file in. The root and the empty path are in none. -/
def parent? (p : Path) : Option Path :=
  match p.segments with
  | [] => none
  | first :: rest =>
    match dropIdleEnd rest with
    | [] => if first.isEmpty then none else some empty
    | names => some (ofSegments (first :: dropIdleEnd names.dropLast))

/-- The path that `p` names when it is looked up in the directory `base`. -/
def join (base p : Path) : Path :=
  if p.isAbsolute || base.isEmpty then p
  else if base.endsInSlash then ⟨base.text ++ p.text⟩
  else ⟨base.text ++ "/" ++ p.text⟩

/-- The name of the file that the path leads to, if it does not end by going up. -/
def fileName? (p : Path) : Option String :=
  match (dropIdleEnd p.segments).getLast? with
  | some ".." => none
  | name => name

/-- The path beside `p` under which a file for `p` is made ready: its name goes on with `tmp`. -/
def draft (p : Path) : Path :=
  ⟨(ofSegments (dropIdleEnd p.segments)).text ++ "tmp"⟩

/-- What follows the last dot of a file name that does not begin with it. -/
def extensionOf (name : String) : Option String :=
  let (suffix, before) := name.toList.reverse.span (· != '.')
  match before with
  | '.' :: _ :: _ => some (String.ofList suffix.reverse)
  | _ => none

/-- The extension of the file name in small letters; empty if there is none. -/
def extension (p : Path) : String :=
  match p.fileName?.bind extensionOf with
  | some suffix => Text.lowerAscii suffix
  | none => ""

end Path

end FillScript
