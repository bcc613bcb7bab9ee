import FillScript.Json.Reader

/-!
# Decoding JSON values

What is common to the decoders of documents: the faults they report, records whose fields may come
in any order, and words for the cases of an enumeration. A decoder goes through a value in the order
of its text, so that the first fault of the text is the one reported.
-/

namespace FillScript

/-- Why a text is no document. -/
inductive ReadError where
  /-- The text is no JSON, or not of the right shape. -/
  | malformed
  /-- A key of a cell table is no position. -/
  | cellKey (key : String)
deriving DecidableEq, Repr

namespace ReadError

/-- What is said about a fault. -/
def message : ReadError → String
  | malformed => "JSON error"
  | cellKey key => "JSON error: invalid cell key '" ++ key ++ "'"

end ReadError

namespace Json

/-- Passes over a value that has no meaning here: all that is asked of it is to be JSON. -/
def ignore (value : Json) : Except ReadError Unit :=
  if value.isWhole then .ok () else .error .malformed

/-- Goes through the entries of an object in order. -/
def foldEntries {σ : Type} (onEntry : σ → String → Json → Except ReadError σ) :
    σ → List (Option String × Json) → Except ReadError σ
  | state, [] => .ok state
  | _, (none, _) :: _ => .error .malformed
  | state, (some key, value) :: entries =>
    match onEntry state key value with
    | .ok state => foldEntries onEntry state entries
    | .error e => .error e

/-- Fills a field of a record that is not filled yet. -/
def fillOnce {α : Type} (field : Option α) (value : Except ReadError α) :
    Except ReadError (Option α) :=
  match field with
  | some _ => .error .malformed
  | none => value.map some

/-- A field that has to be there. -/
def required {α : Type} (field : Option α) : Except ReadError α :=
  match field with
  | some a => .ok a
  | none => .error .malformed

/-- A text. -/
def asText : Json → Except ReadError String
  | .string text => .ok text
  | _ => .error .malformed

/-- A truth value. -/
def asBool : Json → Except ReadError Bool
  | .bool value => .ok value
  | _ => .error .malformed

/-- A list of values that `f` decodes, in order. -/
def asListOf {α : Type} (f : Json → Except ReadError α) : Json → Except ReadError (List α)
  | .array items => items.mapM f
  | _ => .error .malformed

/-- The case of an enumeration that has a name. -/
def caseNamed {α : Type} (name : α → String) (cases : List α) (word : String) :
    Except ReadError α :=
  required (cases.find? (name · == word))

/-- One of the cases of an enumeration: its name, or an object with its name as the only key and
nothing as the value. -/
def asCase {α : Type} (name : α → String) (cases : List α) : Json → Except ReadError α
  | .string word => caseNamed name cases word
  | .object [(some word, .null)] => caseNamed name cases word
  | _ => .error .malformed

/-- Decodes a text that holds one value and nothing after it. -/
def decodeText {α : Type} (f : Json → Except ReadError α) (s : String) : Except ReadError α :=
  let (value, rest) := read s
  match f value with
  | .error e => .error e
  | .ok a => if (skipSpace rest).isEmpty then .ok a else .error .malformed

end Json

end FillScript
