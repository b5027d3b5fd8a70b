import Rollout.Http.Authority

/-!
Web addresses: how the text of one is taken apart, its path resolved, and every
character that an address may not hold written in percent notation.
-/

namespace Rollout.Http

structure Url where
  /-- Scheme, host and port. -/
  origin : String
  path : String
  query : Option String
  fragment : Option String
  deriving DecidableEq, Repr

namespace Url

def isControl (c : Char) : Bool := c.toNat < 0x20 || 0x7f ≤ c.toNat

def fragmentEscaped (c : Char) : Bool := isControl c || [' ', '"', '<', '>', '\x60'].contains c

def queryEscaped (c : Char) : Bool := isControl c || [' ', '"', '<', '>', '#', '\''].contains c

def pathEscaped (c : Char) : Bool :=
  fragmentEscaped c || ['#', '?', '\x7b', '\x7d'].contains c

def upperHex (n : Nat) : Char := (Nat.digitChar n).toUpper

def escapedByte (b : UInt8) : List Char := ['%', upperHex (b.toNat / 16), upperHex (b.toNat % 16)]

/-- The bytes of the characters that `escaped` holds for, in percent notation. -/
def percentEncode (escaped : Char → Bool) (cs : List Char) : List Char :=
  cs.flatMap fun c => if escaped c then (String.utf8EncodeChar c).flatMap escapedByte else [c]

def isSlash (c : Char) : Bool := c = '/' || c = '\\'

/-- The pieces between slashes; there is one more than there are slashes. -/
def segments : List Char → List (List Char)
  | [] => [[]]
  | c :: rest =>
    if isSlash c then [] :: segments rest
    else match segments rest with
      | [] => [[c]]
      | first :: others => (c :: first) :: others

/-- A dot may be written `%2e` as well. -/
def dots : List Char → Option Nat
  | [] => some 0
  | '.' :: rest => (dots rest).map (· + 1)
  | '%' :: '2' :: c :: rest => if c = 'e' || c = 'E' then (dots rest).map (· + 1) else none
  | _ :: _ => none

/-- Resolves one dot and two dots; `kept` holds the segments before, the last one first. -/
def resolve (kept : List (List Char)) : List (List Char) → List (List Char)
  | [] => kept.reverse
  | segment :: rest =>
    let closed := if rest.isEmpty then [[]] else []
    match dots segment with
    | some 1 => resolve (closed ++ kept) rest
    | some 2 => resolve (closed ++ kept.drop 1) rest
    | _ => resolve (segment :: kept) rest

def encodedPath (cs : List Char) : List Char :=
  let cs := match cs with
    | c :: rest => if isSlash c then rest else cs
    | [] => []
  (resolve [] (segments cs)).flatMap fun segment => '/' :: percentEncode pathEscaped segment

/-- Blanks and controls around the text and line breaks in it do not count. -/
def stripped (cs : List Char) : List Char :=
  let outer := fun c : Char => c.toNat ≤ 0x20
  let cs := (cs.dropWhile outer).reverse
  ((cs.dropWhile outer).reverse).filter fun c => !(['\t', '\n', '\r'].contains c)

def afterScheme? (cs : List Char) : Option (String × List Char) :=
  match Text.splitOnce ':' cs with
  | none => none
  | some (scheme, rest) =>
    let name := String.ofList (scheme.map Char.toLower)
    if name = "http" || name = "https" then some (name, rest.dropWhile isSlash) else none

def parse? (text : String) : Option Url := do
  let (scheme, rest) ← afterScheme? (stripped text.toList)
  let (rest, fragment) := (splitAt '#' rest)
  let (rest, query) := (splitAt '?' rest)
  let front := rest.takeWhile fun c => !isSlash c
  let authority ← Authority.parse? scheme front
  some {
    origin := scheme ++ "://" ++ String.ofList authority
    path := String.ofList (encodedPath (rest.drop front.length))
    query := query.map fun cs => String.ofList (percentEncode queryEscaped cs)
    fragment := fragment.map fun cs => String.ofList (percentEncode fragmentEscaped cs) }
where
  splitAt (mark : Char) (cs : List Char) : List Char × Option (List Char) :=
    match Text.splitOnce mark cs with
    | none => (cs, none)
    | some (before, after) => (before, some after)

/-- Path and query, as the request line names them. -/
def target (u : Url) : String := u.path ++ (u.query.map ("?" ++ ·)).getD ""

def text (u : Url) : String := u.origin ++ u.target ++ (u.fragment.map ("#" ++ ·)).getD ""

end Url

end Rollout.Http
