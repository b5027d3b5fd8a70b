import Rollout.Text.Lowercase

/-!
Kebab case: words in lower case joined by hyphens. A word ends at anything that
is neither letter nor digit, where a capital follows a small letter, between
letters and digits, and before the last capital of a run that a small letter
follows.
-/

namespace Rollout.Kebab

open Text (isAlphanumeric isAlphabetic isNumeric isLowercase isUppercase)

/-- A word ends between `prev` and `cur`, the character after them being `next`. -/
def isBoundary (prev cur : Char) (next : Option Char) : Bool :=
  (isLowercase prev && isUppercase cur)
    || (isAlphabetic prev && isNumeric cur)
    || (isNumeric prev && isAlphabetic cur)
    || (isUppercase prev && isUppercase cur && (next.map isLowercase).getD false)

/-- The words of the text after `prev`; the first one continues the word of `prev`. -/
def wordsAfter (prev : Char) : List Char → List Char × List (List Char)
  | [] => ([], [])
  | cur :: rest =>
    let (first, others) := wordsAfter cur rest
    if isBoundary prev cur rest.head? then ([], (cur :: first) :: others)
    else (cur :: first, others)

/-- The words of a run of letters and digits. -/
def wordsOfRun : List Char → List (List Char)
  | [] => []
  | c :: rest =>
    let (first, others) := wordsAfter c rest
    (c :: first) :: others

/-- The run of letters and digits at the front, and the runs after it. -/
def frontRun : List Char → List Char × List (List Char)
  | [] => ([], [])
  | c :: rest =>
    let (run, others) := frontRun rest
    if isAlphanumeric c then (c :: run, others)
    else ([], if run.isEmpty then others else run :: others)

/-- The longest runs of letters and digits. -/
def runs (cs : List Char) : List (List Char) :=
  let (run, others) := frontRun cs
  if run.isEmpty then others else run :: others

def splitWords (cs : List Char) : List (List Char) := (runs cs).flatMap wordsOfRun

def joinWords : List (List Char) → List Char
  | [] => []
  | [word] => word
  | word :: rest => word ++ '-' :: joinWords rest

end Rollout.Kebab

namespace Rollout

open Kebab in
def kebabCase (s : String) : String :=
  String.ofList (joinWords ((splitWords s.toList).map (Text.lowerFrom [])))

end Rollout
