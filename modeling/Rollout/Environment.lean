import Rollout.Dict
import Rollout.Text.CharClass

/-!
The variables a process runs with, and files of more of them, one `NAME=value` a
line. Values may be quoted, in single quotes as they stand, in double quotes with
escapes; `$NAME` outside single quotes is replaced by the variable's value.
Reading stops at the first line that cannot be read, and what came before it counts.
-/

namespace Rollout

abbrev Environment := String → Option String

namespace Environment

def ofDict (known : Dict String) : Environment := known.get?

/-- `e` with more variables, none of which replaces one it has. -/
def underlaid (e : Environment) (more : List (String × String)) : Environment :=
  fun name => (e name).or (more.lookup name)

end Environment

end Rollout

namespace Rollout.EnvironmentFile

open Text (trimLeft)

inductive Quoting where
  | plain
  | single
  | double
  deriving DecidableEq, Repr

/-- Where in a value the reader is. -/
inductive Mode where
  | text
  | escape
  /-- In the name after a dollar sign, read so far in reverse. -/
  | name (read : List Char)
  | bracedName (read : List Char)
  /-- After the value; only blanks and a comment may follow. -/
  | ended
  deriving DecidableEq, Repr

structure State where
  quoting : Quoting := .plain
  mode : Mode := .text
  /-- The value so far, in reverse. -/
  written : List Char := []
  deriving DecidableEq, Repr

def escaped? (c : Char) : Option Char :=
  if c = 'n' then some '\n' else if ['\\', '\'', '"', '$', ' '].contains c then some c else none

def State.put (s : State) (c : Char) : State := { s with mode := .text, written := c :: s.written }

def State.insert (s : State) (value : Environment) (name : List Char) : State :=
  let text := (value (String.ofList name.reverse)).getD ""
  { s with mode := .text, written := text.toList.reverse ++ s.written }

def State.stepText (s : State) (c : Char) : State :=
  match s.quoting with
  | .single => if c = '\'' then { s with quoting := .plain } else s.put c
  | .double =>
    if c = '$' then { s with mode := .name [] }
    else if c = '"' then { s with quoting := .plain }
    else if c = '\\' then { s with mode := .escape }
    else s.put c
  | .plain =>
    if c = '$' then { s with mode := .name [] }
    else if c = '\'' then { s with quoting := .single }
    else if c = '"' then { s with quoting := .double }
    else if c = '\\' then { s with mode := .escape }
    else if c = ' ' || c = '\t' then { s with mode := .ended }
    else s.put c

inductive Step where
  | next (state : State)
  | comment
  | fault

def State.step (value : Environment) (s : State) (c : Char) : Step :=
  match s.mode with
  | .text => .next (s.stepText c)
  | .escape =>
    match escaped? c with
    | some c => .next (s.put c)
    | none => .fault
  | .name read =>
    if Text.isAlphanumeric c then .next { s with mode := .name (c :: read) }
    else if c = '\x7b' && read.isEmpty then .next { s with mode := .bracedName [] }
    else
      let s := s.insert value read
      .next (if c = '$' then { s with mode := .name [] } else s.put c)
  | .bracedName read =>
    if c = '\x7d' then .next (s.insert value read)
    else .next { s with mode := .bracedName (c :: read) }
  | .ended =>
    if c = ' ' || c = '\t' then .next s else if c = '#' then .comment else .fault

def State.close (value : Environment) (s : State) : Option String :=
  match s.quoting, s.mode with
  | .plain, .bracedName _ => none
  | .plain, .name read => some (String.ofList (s.insert value read).written.reverse)
  | .plain, _ => some (String.ofList s.written.reverse)
  | _, _ => none

def valueFrom (value : Environment) (s : State) : List Char → Option String
  | [] => s.close value
  | c :: rest =>
    match s.step value c with
    | .next s => valueFrom value s rest
    | .comment => s.close value
    | .fault => none

def isNameStart (c : Char) : Bool := c.isAlpha || c = '_'

def isNameChar (c : Char) : Bool := c.isAlphanum || c = '_' || c = '.'

def name? : List Char → Option (String × List Char)
  | [] => none
  | c :: rest =>
    if isNameStart c then
      let name := (c :: rest).takeWhile isNameChar
      some (String.ofList name, trimLeft ((c :: rest).drop name.length))
    else none

/-- The name that is given a value, and the text after the equals sign. -/
def assignment? (cs : List Char) : Option (String × List Char) := do
  let (name, rest) ← name? cs
  match name, rest with
  | _, '=' :: rest => some (name, rest)
  | "export", rest =>
    let (name, rest) ← name? rest
    match rest with
    | '=' :: rest => some (name, rest)
    | _ => none
  | _, _ => none

inductive Line where
  | nothing
  | assigns (name value : String)
  | fault
  deriving DecidableEq, Repr

def readLine (value : Environment) (line : List Char) : Line :=
  let isNothing := fun cs : List Char => cs.isEmpty || cs.head? = some '#'
  let cs := trimLeft line
  if isNothing cs then .nothing
  else match assignment? cs with
    | none => .fault
    | some (name, rest) =>
      let rest := trimLeft rest
      if isNothing rest then .assigns name ""
      else match valueFrom value {} rest with
        | some value => .assigns name value
        | none => .fault

/-- The assignments of the lines, each seeing those before it. -/
def readLines (environment : Environment) (known : List (String × String)) :
    List (List Char) → List (String × String)
  | [] => known
  | line :: rest =>
    match readLine (environment.underlaid known) line with
    | .nothing => readLines environment known rest
    | .assigns name value => readLines environment (known ++ [(name, value)]) rest
    | .fault => known

/-- What a line leaves open for the next one. -/
inductive Pending where
  | complete
  | blank
  | escape
  | double
  | doubleEscape
  | single
  | singleEscape
  deriving DecidableEq, Repr

def Pending.opened (c : Char) : Pending :=
  if c = '\\' then .escape else if c = '"' then .double else if c = '\'' then .single
  else .complete

def Pending.step : Pending → Char → Pending
  | .blank, c => opened c
  | .complete, c =>
    if Text.isBlank c && c != '\n' && c != '\r' then .blank else opened c
  | .escape, _ => .complete
  | .double, c => if c = '\\' then .doubleEscape else if c = '"' then .complete else .double
  | .doubleEscape, _ => .double
  | .single, c => if c = '\\' then .singleEscape else if c = '\'' then .complete else .single
  | .singleEscape, _ => .single

/-- The line up to a comment, and what is open after it. -/
def Pending.afterLine (p : Pending) : List Char → List Char × Pending
  | [] => ([], p)
  | c :: rest =>
    if p = .blank && c = '#' then ([], .complete)
    else
      let (line, p) := (p.step c).afterLine rest
      (c :: line, p)

/-- The lines of a text, each with its line break. -/
def brokenLines : List Char → List (List Char)
  | [] => []
  | '\n' :: rest => ['\n'] :: brokenLines rest
  | c :: rest =>
    match brokenLines rest with
    | [] => [[c]]
    | line :: others => (c :: line) :: others

def withoutBreak (line : List Char) : List Char :=
  match line.reverse with
  | '\n' :: '\r' :: rest | '\n' :: rest => rest.reverse
  | _ => line

/-- Puts together the lines that quotes hold together; what stays open at the end is dropped. -/
def joinLines (before : List Char) (pending : Pending) : List (List Char) → List (List Char)
  | [] => []
  | line :: rest =>
    if (trimLeft (before ++ line)).head? = some '#' then joinLines [] .complete rest
    else
      match pending.afterLine line with
      | (line, .complete) => withoutBreak (before ++ line) :: joinLines [] .complete rest
      | (line, pending) => joinLines (before ++ line) pending rest

/-- The variables a file sets where the environment does not have them. -/
def read (environment : Environment) (text : String) : List (String × String) :=
  readLines environment [] (joinLines [] .complete (brokenLines text.toList))

end Rollout.EnvironmentFile
