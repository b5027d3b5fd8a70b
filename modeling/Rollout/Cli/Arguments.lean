import Rollout.Environment
import Rollout.Text.Split

/-!
The grammar of a command line: flags by name or letter, with or without a value,
then operands. Each word is read once, from left to right; what does not fit ends
the reading.
-/

namespace Rollout.Cli

structure Flag where
  name : String
  letter : Option Char := none
  /-- A flag without a value is a switch. -/
  takesValue : Bool := true
  repeats : Bool := false
  /-- The variable that stands in for the flag. -/
  fallback : Option String := none
  accepts : String → Bool := fun _ => true

/-- Why a command line is not run. -/
inductive Halt where
  | usage
  | help
  /-- The version is asked for, of the command that is named. -/
  | version (command : List String)
  deriving DecidableEq, Repr

def Halt.within (command : String) : Halt → Halt
  | .version inner => .version (command :: inner)
  | halt => halt

def helpFlag : Flag := { name := "help", letter := some 'h', takesValue := false }

def versionFlag : Flag := { name := "version", letter := some 'V', takesValue := false }

/-- Flags by name with their values, and operands, in the order they were given. -/
structure Given where
  flags : List (String × String) := []
  operands : List String := []
  deriving Repr

namespace Given

def has (g : Given) (name : String) : Bool := g.flags.any (·.1 == name)

def values (g : Given) (name : String) : List String :=
  (g.flags.filter (·.1 == name)).map (·.2)

/-- The innermost value, for a flag that may be given at several levels. -/
def value? (g : Given) (name : String) : Option String := (g.values name).getLast?

def add (g : Given) (flag : Flag) (value : String) : Except Halt Given :=
  if flag.name = helpFlag.name then .error .help
  else if flag.name = versionFlag.name then .error (.version [])
  else if !flag.accepts value || (!flag.repeats && g.has flag.name) then .error .usage
  else .ok { g with flags := g.flags ++ [(flag.name, value)] }

end Given

/-- What one word of the command line looks like. -/
inductive Word where
  | escape
  | long (name : String) (value : Option String)
  | letters (cs : List Char)
  | operand
  deriving DecidableEq, Repr

def Word.of (word : String) : Word :=
  match word.toList with
  | ['-', '-'] => .escape
  | '-' :: '-' :: rest =>
    match Text.splitOnce '=' rest with
    | none => .long (String.ofList rest) none
    | some (name, value) => .long (String.ofList name) (some (String.ofList value))
  | '-' :: c :: rest => .letters (c :: rest)
  | _ => .operand

/-- Several switches in one word; the first flag with a value takes the rest of it. -/
def readLetters (flags : List Flag) (g : Given) :
    List Char → Except Halt (Given × Option Flag)
  | [] => .ok (g, none)
  | c :: rest =>
    match flags.find? (·.letter == some c) with
    | none => .error .usage
    | some flag =>
      if !flag.takesValue then do readLetters flags (← g.add flag "") rest
      else match rest with
        | [] => .ok (g, some flag)
        | '=' :: value => return (← g.add flag (String.ofList value), none)
        | value => return (← g.add flag (String.ofList value), none)

def readLong (flags : List Flag) (g : Given) (name : String) (value : Option String) :
    Except Halt (Given × Option Flag) :=
  match flags.find? (·.name == name), value with
  | none, _ => .error .usage
  | some flag, none =>
    if flag.takesValue then .ok (g, some flag) else return (← g.add flag "", none)
  | some flag, some value =>
    if flag.takesValue then return (← g.add flag value, none) else .error .usage

/-- Reads words until the first operand. The flag in `waiting` takes the next word for its
value. -/
def readFlags (flags : List Flag) (g : Given) (waiting : Option Flag) :
    List String → Except Halt (Given × List String)
  | [] => if waiting.isNone then .ok (g, []) else .error .usage
  | word :: rest =>
    match waiting, Word.of word with
    | some flag, .operand => do readFlags flags (← g.add flag word) none rest
    | some _, _ => .error .usage
    | none, .operand => .ok (g, word :: rest)
    | none, .escape => if rest.isEmpty then .ok (g, []) else .error .usage
    | none, .long name value => do
      let (g, waiting) ← readLong flags g name value
      readFlags flags g waiting rest
    | none, .letters cs => do
      let (g, waiting) ← readLetters flags g cs
      readFlags flags g waiting rest

/-- Reads all words of a command that takes up to `most` operands. -/
def readAll (flags : List Flag) (most : Nat) (g : Given) (waiting : Option Flag) :
    List String → Except Halt Given
  | [] => if waiting.isNone then .ok g else .error .usage
  | word :: rest =>
    match waiting, Word.of word with
    | some flag, .operand => do readAll flags most (← g.add flag word) none rest
    | some _, _ => .error .usage
    | none, .operand =>
      if g.operands.length < most then
        readAll flags most { g with operands := g.operands ++ [word] } none rest
      else .error .usage
    | none, .escape =>
      if g.operands.length + rest.length ≤ most then
        .ok { g with operands := g.operands ++ rest }
      else .error .usage
    | none, .long name value => do
      let (g, waiting) ← readLong flags g name value
      readAll flags most g waiting rest
    | none, .letters cs => do
      let (g, waiting) ← readLetters flags g cs
      readAll flags most g waiting rest

/-- A flag's variable counts like the flag; a value it does not accept is refused. -/
def Given.withVariables (g : Given) (environment : Environment) :
    List Flag → Except Halt Given
  | [] => .ok g
  | flag :: rest =>
    match if g.has flag.name then none else flag.fallback.bind environment with
    | none => g.withVariables environment rest
    | some value =>
      if flag.accepts value then
        ({ g with flags := g.flags ++ [(flag.name, value)] }).withVariables environment rest
      else .error .usage

/-! What a flag may accept. -/

def isPath (value : String) : Bool := !value.isEmpty

def isOneOf (choices : List String) (value : String) : Bool := choices.contains value

end Rollout.Cli
