import FillScript.Settings
import FillScript.Text.Alphanumeric
import FillScript.Text.Split

/-!
# Environment files

A file of variables, one `NAME=value` a line. Values may be quoted, in single quotes as they stand,
in double quotes with escapes, may refer to other variables by a dollar sign, and may go on over
lines inside quotes. The variables of the environment come first: a file only adds to them. The
first line that is not understood ends the file, and a value with NUL makes it unusable.
-/

namespace FillScript.EnvFile

/-! ## Lines -/

/-- Where a character of a file stands with regard to quotes and remarks. -/
inductive LineState where
  | complete
  | escape
  | strong
  | strongEscape
  | weak
  | weakEscape
  | space
  /-- In a remark. -/
  | remark
deriving DecidableEq

namespace LineState

/-- Where the character after `c` stands. -/
def next (state : LineState) (c : Char) : LineState :=
  match state with
  | space =>
    if c = '#' then remark
    else if c = '\\' then escape
    else if c = '"' then weak
    else if c = '\'' then strong
    else complete
  | complete =>
    if Text.isBlank c && c != '\n' && c != '\r' then space
    else if c = '\\' then escape
    else if c = '"' then weak
    else if c = '\'' then strong
    else complete
  | escape => complete
  | weak => if c = '\\' then weakEscape else if c = '"' then complete else weak
  | weakEscape => weak
  | strong => if c = '\\' then strongEscape else if c = '\'' then complete else strong
  | strongEscape => strong
  | remark => remark

end LineState

/-- Goes through a line: the state after it, and the line up to a remark. -/
def scanLine (state : LineState) : List Char → LineState × List Char
  | [] => (state, [])
  | c :: cs =>
    match state.next c with
    | .remark => (.remark, [])
    | state =>
      let (last, kept) := scanLine state cs
      (last, c :: kept)

/-- The lines of a file, each with the line feed that ends it. -/
def rawLines (cs : List Char) : List (List Char) :=
  match (Text.splitAll '\n' cs).reverse with
  | [] => []
  | last :: before =>
    (before.map (· ++ ['\n'])).reverse ++ (if last.isEmpty then [] else [last])

/-- Joins lines that quotes or escapes hold together. What is `none` ends the file. -/
def joinLines (state : LineState) (buffer : List Char) :
    List (List Char) → List (Option (List Char))
  | [] => if state = .complete then [] else [none]
  | line :: rest =>
    if ((buffer ++ line).dropWhile Text.isBlank).head? == some '#' then
      some [] :: joinLines .complete [] rest
    else
      match scanLine state line with
      | (.complete, kept) => some (buffer ++ kept) :: joinLines .complete [] rest
      | (.remark, kept) => some (buffer ++ kept) :: joinLines .complete [] rest
      | (state, kept) => joinLines state (buffer ++ kept) rest

/-! ## Values -/

/-- Which quotes are open. -/
inductive Quote where
  | none
  | weak
  | strong
deriving DecidableEq

/-- A reference to a variable that is being read: its name so far, last character first, and whether
it stands in braces. -/
structure Reference where
  braced : Bool
  name : List Char

/-- How far a value has been read. -/
structure ValueState where
  /-- The value so far, last character first. -/
  read : List Char
  quote : Quote
  escaped : Bool
  /-- Whether a blank has ended the value. -/
  ended : Bool
  reference : Option Reference

/-- A value with the variable that is referred to put in. -/
def withReference (lookup : String → String) (state : ValueState) : List Char :=
  match state.reference with
  | some reference => (lookup (String.ofList reference.name.reverse)).toList.reverse ++ state.read
  | none => state.read

/-- The character that a backslash and `c` stand for. -/
def unescaped? (c : Char) : Option Char :=
  if c = 'n' then some '\n'
  else if c = '\\' || c = '\'' || c = '"' || c = '$' || c = ' ' then some c
  else none

/-- Reads one more character in a reference. -/
def stepReference (lookup : String → String) (state : ValueState) (reference : Reference)
    (c : Char) : ValueState :=
  if Text.isAlphanumeric c then
    { state with reference := some { reference with name := c :: reference.name } }
  else if reference.braced then
    if c = '\x7d' then { state with read := withReference lookup state, reference := none }
    else { state with reference := some { reference with name := c :: reference.name } }
  else if c = '\x7b' && reference.name.isEmpty then { state with reference := some ⟨true, []⟩ }
  else if c = '$' then
    { state with read := withReference lookup state, reference := some ⟨false, []⟩ }
  else { state with read := c :: withReference lookup state, reference := none }

/-- Reads one more character outside of references and escapes. -/
def stepPlain (state : ValueState) (c : Char) : ValueState :=
  if state.quote = .strong then
    if c = '\'' then { state with quote := .none } else { state with read := c :: state.read }
  else if c = '$' then { state with reference := some ⟨false, []⟩ }
  else if state.quote = .weak then
    if c = '"' then { state with quote := .none }
    else if c = '\\' then { state with escaped := true }
    else { state with read := c :: state.read }
  else if c = '\'' then { state with quote := .strong }
  else if c = '"' then { state with quote := .weak }
  else if c = '\\' then { state with escaped := true }
  else if c = ' ' || c = '\t' then { state with ended := true }
  else { state with read := c :: state.read }

/-- The value when all of it has been read; open quotes and braces have to be closed. -/
def finish (lookup : String → String) (state : ValueState) : Option String :=
  if state.quote ≠ .none || (state.reference.map (·.braced)).getD false then none
  else some (String.ofList (withReference lookup state).reverse)

/-- Reads the rest of a value. -/
def readValue (lookup : String → String) (state : ValueState) : List Char → Option String
  | [] => finish lookup state
  | c :: cs =>
    if state.ended then
      if c = ' ' || c = '\t' then readValue lookup state cs
      else if c = '#' then finish lookup state
      else none
    else if state.escaped then
      match unescaped? c with
      | some c => readValue lookup { state with read := c :: state.read, escaped := false } cs
      | none => none
    else
      match state.reference with
      | some reference => readValue lookup (stepReference lookup state reference c) cs
      | none => readValue lookup (stepPlain state c) cs

/-! ## Variables -/

/-- The name that a line begins with, and what follows it and the blanks after it. -/
def readName (cs : List Char) : Option (String × List Char) :=
  match cs with
  | c :: _ =>
    if c.isAlpha || c = '_' then
      let (name, rest) := cs.span fun c => c.isAlphanum || c = '_' || c = '.'
      some (String.ofList name, rest.dropWhile Text.isBlank)
    else none
  | [] => none

/-- What follows an equals sign. -/
def afterEquals? : List Char → Option (List Char)
  | '=' :: rest => some rest
  | _ => none

/-- The name and the value, not read yet, of a line with a variable. The word `export` may stand
before the name. -/
def assignment? (cs : List Char) : Option (String × List Char) := do
  let (name, rest) ← readName cs
  match afterEquals? rest with
  | some value => return (name, value.dropWhile Text.isBlank)
  | none =>
    if name == "export" then
      let (name, rest) ← readName rest
      let value ← afterEquals? rest
      return (name, value.dropWhile Text.isBlank)
    else none

/-- Adds the variables of lines to an environment. `known` has the values that the file gave so far,
whether or not they were added. A value with NUL can be given to no variable; there is no
environment then. -/
def addLines (env known : Environment) : List (Option (List Char)) → Option Environment
  | [] => some env
  | none :: _ => some env
  | some line :: rest =>
    let line := (Text.dropBlankEnd line).dropWhile Text.isBlank
    if line.isEmpty || line.head? == some '#' then addLines env known rest
    else
      match assignment? line with
      | none => some env
      | some (name, value) =>
        let lookup := fun (name : String) => ((env.value? name).or (known.value? name)).getD ""
        let read :=
          if value.isEmpty || value.head? == some '#' then some ""
          else readValue lookup ⟨[], .none, false, false, none⟩ value
        match read with
        | none => some env
        | some value =>
          if (env.value? name).isSome then addLines env ((name, value) :: known) rest
          else if value.contains '\x00' then none
          else addLines (env ++ [(name, value)]) ((name, value) :: known) rest

/-- The environment with the variables of a file added, if they can be. -/
def addTo (env : Environment) (s : String) : Option Environment :=
  let cs := match s.toList with
    | '\ufeff' :: cs => cs
    | cs => cs
  addLines env [] (joinLines .complete [] (rawLines cs))

end FillScript.EnvFile
