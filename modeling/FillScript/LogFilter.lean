import FillScript.Fill.Event
import FillScript.Pattern
import FillScript.Text.Bytes

/-!
# Log filters

A filter is a list of directives with commas between them. A directive is a level (`debug`), the
name of parts of the program (`sheetfill_engine`), or such a name with a level
(`sheetfill_engine=trace`); after the name, brackets may restrict it to spans and to values that an
event carries (`name[span{value}]=level`). Without a level everything is let through. An event is
judged by the most specific directive about it; where there is none, it is not let through.
-/

namespace FillScript

/-! ## Levels -/

namespace Severity

/-- The rank that lets everything through. -/
def lastRank : Nat := 5

/-- The severities that a level lets through, as the greatest rank: a level is a word or a number.
-/
def rankOfLevel? (level : String) : Option Nat :=
  match Digits.readWord? level.toList with
  | some n => if n.toNat ≤ lastRank then some n.toNat else none
  | none =>
    match Text.lowerAscii level with
    | "off" => some 0
    | "error" => some 1
    | "warn" => some 2
    | "info" => some 3
    | "debug" => some 4
    | "trace" => some 5
    | _ => none

end Severity

/-! ## Directives -/

/-- Why a filter cannot be used. -/
inductive FilterFault where
  | malformed
  /-- A part of a directive would begin or end inside a character. There the program stops. -/
  | splitCharacter
deriving DecidableEq

/-- What a filter says about the events of some parts of the program. -/
structure LogDirective where
  /-- What the names of the parts begin with. -/
  target : String
  /-- The value that the events have to carry, if one is asked for. -/
  field : Option String
  /-- Whether only events inside some span are meant. Filling has no spans. -/
  inSpan : Bool
  /-- The greatest rank that is let through. -/
  rank : Nat
deriving DecidableEq

namespace LogDirective

/-- Whether a directive can begin with a character, brackets aside. -/
def startsName (c : Char) : Bool :=
  c == '-' || c == ':' || c == '_' || Text.isAlphanumeric c

/-- A directive that is one word: a level, or a name with everything let through. -/
def ofWord (word : List Char) : LogDirective :=
  let word := String.ofList word
  match Severity.rankOfLevel? word with
  | some rank => ⟨"", none, false, rank⟩
  | none => ⟨word, none, false, Severity.lastRank⟩

/-- The part of a directive from one byte position up to another. -/
def part (whole : List Char) (start stop : Nat) : Except FilterFault String :=
  match Text.part? start stop whole with
  | some cs => .ok (String.ofList cs)
  | none => .error .splitCharacter

/-- The rank that a directive ends with; `rest` is what follows its name or its brackets, up to
which `position` bytes are counted. -/
def rankAtEnd (whole : List Char) (position : Nat) (rest : List Char) : Except FilterFault Nat :=
  match rest with
  | [] => .ok Severity.lastRank
  | '=' :: _ => do
    let level ← part whole (position + 1) (Text.byteSize whole)
    if level.isEmpty then return Severity.lastRank
    else
      match Severity.rankOfLevel? level with
      | some rank => return rank
      | none => .error .malformed
  | _ => .error .malformed

/-- A directive with brackets; `rest` is what follows the opening one, up to which `position` bytes
are counted. -/
def ofBrackets (whole : List Char) (target : String) (position : Nat) (rest : List Char) :
    Except FilterFault LogDirective :=
  let (span, rest) := rest.span fun c => c != ']' && c != '\x7b'
  let spanEnd := position + Text.byteSize span
  match rest with
  | [] => .error .malformed
  | mark :: rest => do
    let _ ← part whole position spanEnd
    if mark == ']' then return ⟨target, none, true, ← rankAtEnd whole (spanEnd + 1) rest⟩
    else
      let (field, rest) := rest.span (· != '\x7d')
      let fieldEnd := spanEnd + 1 + Text.byteSize field
      match rest with
      | [] => .error .malformed
      | _ :: rest =>
        let field ← part whole (spanEnd + 1) fieldEnd
        if field.isEmpty || !Pattern.isField field.toList then .error .malformed
        else
          match rest with
          | ']' :: rest =>
            return ⟨target, some field, !span.isEmpty, ← rankAtEnd whole (fieldEnd + 2) rest⟩
          | _ => .error .malformed

/-- Reads a directive. The blanks around it are passed over, but where its parts begin and end is
counted in bytes from the first character that is no blank and applied to the whole: blanks in front
shift all parts, and what is left of a level with a blank is none. -/
def ofChars (whole : List Char) : Except FilterFault LogDirective :=
  let (name, rest) := (Text.trimmed whole).span fun c => c != '=' && c != '['
  match name, rest with
  | [], '[' :: rest => ofBrackets whole "" 1 rest
  | [], _ => .error .malformed
  | c :: _, rest =>
    if startsName c then
      match rest with
      | [] => .ok (ofWord whole)
      | mark :: rest => do
        let size := Text.byteSize name
        let target ← part whole 0 size
        if mark == '[' then ofBrackets whole target (size + 1) rest
        else return ⟨target, none, false, ← rankAtEnd whole size (mark :: rest)⟩
    else .error .malformed

/-- Whether a directive is about an event. All that an event carries is its message. -/
def isAbout (directive : LogDirective) (event : Event) : Bool :=
  !directive.inSpan && directive.target.toList.isPrefixOf event.target.toList &&
    directive.field.all (· == "message")

/-- Whether a directive is at least as specific as another one: the longer name counts, then a value
that is asked for. -/
def isAsSpecific (directive other : LogDirective) : Bool :=
  other.target.length < directive.target.length ||
    other.target.length == directive.target.length &&
      (directive.field.isSome || other.field.isNone)

end LogDirective

/-! ## Filters -/

/-- The directives of a filter, in order. -/
abbrev LogFilter := List LogDirective

namespace LogFilter

/-- Reads a filter. Between two commas there may be nothing. -/
def ofText (s : String) : Except FilterFault LogFilter :=
  ((Text.splitAll ',' s.toList).filter (!·.isEmpty)).mapM LogDirective.ofChars

/-- The most specific directive about an event; of equally specific ones the last. -/
def directive? (filter : LogFilter) (event : Event) : Option LogDirective :=
  (filter.filter (·.isAbout event)).foldl
    (fun best directive =>
      match best with
      | some other => if directive.isAsSpecific other then some directive else some other
      | none => some directive)
    none

/-- Whether an event is let through. -/
def allows (filter : LogFilter) (event : Event) : Bool :=
  match filter.directive? event with
  | some directive => event.severity.rank ≤ directive.rank
  | none => false

end LogFilter

end FillScript
