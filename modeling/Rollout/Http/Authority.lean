import Rollout.Numeral.Whole
import Rollout.Text.Split

/-!
Hosts and ports of web addresses. A host is an address of the sixth version in
brackets, one of the fourth version if its last label is a number, or a name of
ASCII characters. Addresses are written in their shortest form, and a port that
the scheme implies is left out.
-/

namespace Rollout.Http.Authority

open Numeral (natural?)

/-- A number of an address of the fourth version: hexadecimal behind `0x`, octal behind `0`. -/
def label? : List Char → Option Nat
  | ['0'] | ['0', 'x'] | ['0', 'X'] => some 0
  | '0' :: 'x' :: digits | '0' :: 'X' :: digits => natural? 16 digits
  | '0' :: digits => natural? 8 digits
  | digits => natural? 10 digits

/-- What stands between the dots; one dot at the end counts for nothing. -/
def labels (name : List Char) : List (List Char) :=
  let all := Text.splitAll '.' name
  if 1 < all.length && all.getLast? == some [] then all.dropLast else all

def endsInNumber (name : List Char) : Bool :=
  match (labels name).getLast? with
  | none => false
  | some last => (!last.isEmpty && last.all Char.isDigit) || (label? last).isSome

/-- The lowest bytes of a number, the highest of them first. -/
def bytes : Nat → Nat → List Nat
  | 0, _ => []
  | count + 1, n => bytes count (n / 256) ++ [n % 256]

/-- The last of at most four numbers fills the bytes that the ones before it leave. -/
def fourth? (name : List Char) : Option (List Char) := do
  let numbers ← (labels name).mapM label?
  let last ← numbers.getLast?
  let front := numbers.dropLast
  let left := 4 - front.length
  if front.length < 4 && front.all (· < 256) && last < Nat.pow 256 left then
    some (['.'].intercalate ((front ++ bytes left last).map (Nat.toDigits 10)))
  else none

/-- One of four decimal numbers at the end of an address of the sixth version. -/
def octet? : List Char → Option Nat
  | '0' :: _ :: _ => none
  | digits => (natural? 10 digits).filter (· < 256)

def octets? (cs : List Char) : Option (List Nat) := do
  match ← (Text.splitAll '.' cs).mapM octet? with
  | [a, b, c, d] => some [256 * a + b, 256 * c + d]
  | _ => none

def group? (digits : List Char) : Option Nat :=
  if digits.length ≤ 4 then natural? 16 digits else none

/-- The groups between colons; the last ones of an address may be written as four bytes. -/
def groups? (isEnd : Bool) (cs : List Char) : Option (List Nat) :=
  let all := Text.splitAll ':' cs
  let last := all.getLastD []
  if cs.isEmpty then some []
  else if isEnd && last.contains '.' then do
    let front ← all.dropLast.mapM group?
    return front ++ (← octets? last)
  else all.mapM group?

/-- The text before and after the first two colons in a row. -/
def splitGap : List Char → Option (List Char × List Char)
  | [] => none
  | ':' :: ':' :: rest => some ([], rest)
  | c :: rest => (splitGap rest).map fun (front, back) => (c :: front, back)

/-- Eight groups, where two colons stand for at least one group of zero. -/
def eight? (cs : List Char) : Option (List Nat) :=
  match splitGap cs with
  | none => (groups? true cs).filter (·.length = 8)
  | some (front, back) => do
    let before ← groups? false front
    let after ← groups? true back
    let size := before.length + after.length
    if size < 8 then some (before ++ List.replicate (8 - size) 0 ++ after) else none

/-- Where the first of the longest rows of zeros starts, and how long it is. -/
def gap (groups : List Nat) : Nat × Nat :=
  (List.range groups.length).foldl (fun best start =>
    let size := ((groups.drop start).takeWhile (· = 0)).length
    if best.2 < size then (start, size) else best) (0, 0)

def groupsText (groups : List Nat) : List Char :=
  [':'].intercalate (groups.map (Nat.toDigits 16))

/-- A row of zeros is left out if it is longer than one. -/
def sixthText (groups : List Nat) : List Char :=
  let (start, size) := gap groups
  if size < 2 then groupsText groups
  else groupsText (groups.take start) ++ ':' :: ':' :: groupsText (groups.drop (start + size))

/-- Not allowed in the name of a host. -/
def refuses (c : Char) : Bool :=
  c.toNat ≤ 0x20 || 0x7f ≤ c.toNat ||
    ['"', '#', '%', '/', ':', '<', '>', '?', '@', '[', '\\', ']', '^', '\x60', '\x7b', '|',
      '\x7d'].contains c

/-- A label that stands for one of other scripts. -/
def isForeign (label : List Char) : Bool := ['x', 'n', '-', '-'].isPrefixOf label

def name? (cs : List Char) : Option (List Char) :=
  let name := cs.map Char.toLower
  if name.isEmpty || name.any refuses || (labels name).any isForeign then none
  else if endsInNumber name then fourth? name
  else some name

def impliedPort (scheme : String) : Nat := if scheme = "https" then 443 else 80

/-- The text of a port with its colon, none for the port that the scheme implies. -/
def port? (scheme : String) : List Char → Option (List Char)
  | [] | [':'] => some []
  | ':' :: digits => do
    let port ← natural? 10 digits
    if Numeral.greatest 16 < port then none
    else if port = impliedPort scheme then some []
    else some (':' :: Nat.toDigits 10 port)
  | _ => none

/-- Host and port as they are written, or nothing if there is no such host or port. -/
def parse? (scheme : String) : List Char → Option (List Char)
  | '[' :: rest => do
    let (inner, behind) ← Text.splitOnce ']' rest
    let groups ← eight? inner
    let port ← port? scheme behind
    return '[' :: sixthText groups ++ ']' :: port
  | cs => do
    let host := cs.takeWhile (· != ':')
    let name ← name? host
    let port ← port? scheme (cs.drop host.length)
    return name ++ port

end Rollout.Http.Authority
