import Rollout.Text.CharClass
import Rollout.Text.Split

/-!
Log filters: directives between commas, each a level, or a target or a span with
a level of its own.
-/

namespace Rollout.Cli.LogFilter

def levels : List String := ["trace", "debug", "info", "warn", "error", "off"]

def isLevel (cs : List Char) : Bool :=
  levels.contains (String.ofList (cs.map Char.toLower))
    || (match cs with
      | [c] => '0' ≤ c && c ≤ '5'
      | _ => false)

def isTargetChar (c : Char) : Bool := Text.isAlphanumeric c || ['_', ':', '-'].contains c

/-- The text after a target, a span in brackets, or one after the other. -/
def afterSource (cs : List Char) : Option (List Char) :=
  let target := cs.takeWhile isTargetChar
  match cs.drop target.length with
  | '[' :: rest =>
    match Text.splitOnce ']' rest with
    | some (_, rest) => some rest
    | none => none
  | rest => if target.isEmpty then none else some rest

def isDirective (cs : List Char) : Bool :=
  isLevel cs || (match afterSource cs with
    | some [] => true
    | some ('=' :: level) => level.isEmpty || isLevel level
    | _ => false)

def isValid (filter : String) : Bool :=
  (Text.splitAll ',' filter.toList).all fun cs => cs.isEmpty || isDirective cs

/-- Levels that keep progress back. -/
def quietLevels : List String := ["warn", "error", "off", "0", "1", "2"]

/-- The last directive that is a level alone decides whether progress is shown. -/
def showsProgress (filter : String) : Bool :=
  match ((Text.splitAll ',' filter.toList).filter isLevel).getLast? with
  | none => false
  | some level => !quietLevels.contains (String.ofList (level.map Char.toLower))

end Rollout.Cli.LogFilter
