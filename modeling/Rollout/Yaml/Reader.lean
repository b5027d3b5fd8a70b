import Rollout.Text.Split
import Rollout.Yaml.Flow

/-!
Reading YAML by indentation. A line is its indentation and what follows; an
item behind a dash is read as a line of its own, indented past the dash.
Anchors, tags, directives and further documents are not read.
-/

namespace Rollout.Yaml

structure Line where
  indent : Nat
  content : List Char
  deriving DecidableEq, Repr

namespace Line

def ofChars (cs : List Char) : Line :=
  let content := cs.dropWhile isSpace
  ⟨cs.length - content.length, content⟩

def isComment (content : List Char) : Bool := content.isEmpty || content.head? = some '#'

/-- Blank lines and comments say nothing. -/
def isIdle (l : Line) : Bool := isComment l.content

/-- The line begins with a mark that stands alone. -/
def isMarked (mark : Char) (l : Line) : Bool :=
  match l.content with
  | [] => false
  | first :: rest => first = mark && (rest.head?.map isWhite).getD true

def isItem (l : Line) : Bool := l.isMarked '-'

/-- What follows the mark, as a line of its own. -/
def behind (l : Line) : Line :=
  let after := l.content.drop 1
  let content := after.dropWhile isSpace
  ⟨l.indent + 1 + (after.length - content.length), content⟩

end Line

def dropIdle (lines : List Line) : List Line := lines.dropWhile Line.isIdle

/-- What is left of a line after a node has to be blank or a comment. -/
def endsLine (rest : List Char) : Bool :=
  match rest with
  | [] => true
  | c :: _ => Line.isComment (rest.dropWhile isWhite) && (isWhite c || c == '\n')

/-- The key at the front of a line, and what follows its colon. -/
def readKey (content : List Char) : Option (Node × List Char) :=
  let afterColon : Node → List Char → Option (Node × List Char) := fun key rest =>
    match rest.dropWhile isWhite with
    | ':' :: rest =>
      if (rest.head?.map isWhite).getD true then some (key, rest) else none
    | _ => none
  if content.head? = some '"' || content.head? = some '\'' then
    (readQuoted content).bind fun (text, rest) =>
      afterColon (.scalar false (String.ofList text)) rest
  else if startsPlain content then
    let chars := plainChars false 'x' content
    afterColon (.scalar true (String.ofList (trimWhite chars))) (content.drop chars.length)
  else none

/-- The lines of a plain scalar that goes on below, as long as they are indented. -/
def moreLines (parent : Option Nat) : List Line → List (List Char) × List Line
  | [] => ([], [])
  | line :: rest =>
    let deeper := match parent with
      | some indent => indent < line.indent
      | none => true
    let isBlank := line.content.all isWhite
    if isBlank || (deeper && !Line.isComment line.content) then
      let (more, left) := moreLines parent rest
      if isBlank && more.isEmpty then ([], line :: rest) else (line.content :: more, left)
    else ([], line :: rest)

/-- One piece per line; blank lines between them are kept as breaks. -/
def foldPieces : Nat → List (List Char) → List Char
  | _, [] => []
  | breaks, piece :: rest =>
    if piece.isEmpty then foldPieces (breaks + 1) rest
    else folded breaks ++ piece ++ foldPieces 1 rest

/-- The text of one line of a plain scalar, if nothing else but a comment follows. -/
def plainLine (content : List Char) : Option (List Char) :=
  let chars := plainChars false ' ' content
  if endsLine (content.drop chars.length) || content.drop chars.length = []
      || (content.drop chars.length).head? = some '#' then some (trimWhite chars)
  else none

def readPlain (parent : Option Nat) (content : List Char) (lines : List Line) :
    Option (Node × List Line) := do
  if !startsPlain content then none
  let first ← plainLine content
  let (more, left) := moreLines parent lines
  let pieces ← more.mapM plainLine
  some (.scalar true (String.ofList (first ++ foldPieces 1 pieces)), left)

/-- A node that may take several lines, read from their joined text. -/
def readSpanning (read : List Char → Option (Node × List Char)) (content : List Char)
    (lines : List Line) : Option (Node × List Line) := do
  let joined := ['\n'].intercalate (content :: lines.map Line.content)
  let (node, rest) ← read joined
  if endsLine (rest.takeWhile (· != '\n')) then
    some (node, lines.drop (countBreaks (joined.take (joined.length - rest.length))))
  else none

inductive Ending where
  | clip
  | strip
  | keep
  deriving DecidableEq, Repr

structure BlockHeader where
  folds : Bool
  indent : Option Nat
  ending : Ending
  deriving DecidableEq, Repr

def BlockHeader.read : List Char → Option BlockHeader
  | [] => none
  | mark :: rest =>
    let word := rest.takeWhile fun c => !isWhite c
    let hint := word.find? Char.isDigit
    let ending : Ending := if word.contains '-' then .strip else if word.contains '+' then .keep
      else .clip
    if (mark == '|' || mark == '>') && word.all (fun c => c.isDigit || c == '-' || c == '+')
        && endsLine (rest.drop word.length) then
      some ⟨mark == '>', hint.map fun c => c.toNat - 0x30, ending⟩
    else none

/-- The lines of a block, without its indentation, and the lines after it. -/
def takeBlock (indent : Nat) : List Line → List (List Char) × List Line
  | [] => ([], [])
  | line :: rest =>
    if line.content.isEmpty && line.indent ≤ indent then
      let (block, left) := takeBlock indent rest
      ([] :: block, left)
    else if indent ≤ line.indent then
      let (block, left) := takeBlock indent rest
      ((List.replicate (line.indent - indent) ' ' ++ line.content) :: block, left)
    else ([], line :: rest)

def dropBlankEnd (block : List (List Char)) : List (List Char) :=
  (block.reverse.dropWhile List.isEmpty).reverse

def foldBlock : List (List Char) → List Char
  | [] => []
  | [line] => line
  | line :: next :: rest =>
    if line.isEmpty || next.isEmpty || (line.head?.map isWhite).getD false
        || (next.head?.map isWhite).getD false then
      (if line.isEmpty || next.isEmpty then line else line ++ ['\n'])
        ++ (if next.isEmpty then ['\n'] else []) ++ foldBlock (next :: rest)
    else line ++ ' ' :: foldBlock (next :: rest)

def readBlockScalar (parent : Option Nat) (header : BlockHeader) (lines : List Line) :
    Node × List Line :=
  let base := (parent.map (· + 1)).getD 0
  let found := ((lines.find? fun line => !line.content.isEmpty).map Line.indent).getD base
  let indent := match header.indent with
    | some hint => (parent.getD 0) + hint
    | none => max base found
  let (block, left) := takeBlock indent lines
  let kept := dropBlankEnd block
  let body := if header.folds then foldBlock kept else ['\n'].intercalate kept
  let dropped := block.length - kept.length
  let text := match header.ending with
    | .strip => body
    | .clip => if kept.isEmpty then [] else body ++ ['\n']
    | .keep => body ++ List.replicate (if kept.isEmpty then dropped else dropped + 1) '\n'
  (.scalar false (String.ofList text), left)

/-- A node that begins on the line of its key, or where nothing but a scalar can stand. -/
def readInline (parent : Option Nat) (content : List Char) (lines : List Line) :
    Option (Node × List Line) :=
  match content.head? with
  | none => none
  | some c =>
    if c == '"' || c == '\'' then readSpanning readFlowScalar content lines
    else if c == '[' || c == '\x7b' then
      readSpanning (fun cs => readFlow (cs.length + 1) cs) content lines
    else if c == '|' || c == '>' then
      (BlockHeader.read content).map fun header => readBlockScalar parent header lines
    else readPlain parent content lines

mutual
/-- The node of the lines that are indented at least so far. -/
def readBlock : Nat → Nat → List Line → Option (Node × List Line)
  | 0, _, _ => none
  | fuel + 1, least, lines =>
    match dropIdle lines with
    | [] => some (Node.omitted, [])
    | line :: rest =>
      if line.indent < least then some (Node.omitted, line :: rest)
      else if line.isItem then
        (readItems fuel line.indent (line :: rest)).map fun (items, left) =>
          (.sequence items, left)
      else if line.isMarked '?' || (readKey line.content).isSome then
        (readEntries fuel line.indent (line :: rest)).map fun (entries, left) =>
          (.mapping entries, left)
      else readInline (if least = 0 then none else some (least - 1)) line.content rest

def readItems : Nat → Nat → List Line → Option (List Node × List Line)
  | 0, _, _ => none
  | fuel + 1, indent, lines =>
    match dropIdle lines with
    | [] => some ([], [])
    | line :: rest =>
      if line.indent < indent || (line.indent = indent && !line.isItem) then
        some ([], line :: rest)
      else if line.indent = indent then do
        let (item, left) ← readBlock fuel (indent + 1) (line.behind :: rest)
        let (items, left) ← readItems fuel indent left
        some (item :: items, left)
      else none

def readEntries : Nat → Nat → List Line → Option (List (Node × Node) × List Line)
  | 0, _, _ => none
  | fuel + 1, indent, lines =>
    match dropIdle lines with
    | [] => some ([], [])
    | line :: rest =>
      if line.indent < indent then some ([], line :: rest)
      else if line.indent = indent && line.isMarked '?' then do
        let (key, left) ← readBlock fuel (indent + 1) (line.behind :: rest)
        let (value, left) ← readMarkedValue fuel indent (dropIdle left)
        let (entries, left) ← readEntries fuel indent left
        some ((key, value) :: entries, left)
      else if line.indent = indent then do
        let (key, after) ← readKey line.content
        let (value, left) ← readValue fuel indent (after.dropWhile isWhite) rest
        let (entries, left) ← readEntries fuel indent left
        some ((key, value) :: entries, left)
      else none

/-- The value of a marked key, behind a colon of its own. -/
def readMarkedValue : Nat → Nat → List Line → Option (Node × List Line)
  | 0, _, _ => none
  | _ + 1, _, [] => some (Node.omitted, [])
  | fuel + 1, indent, line :: rest =>
    if line.indent = indent && line.isMarked ':' then
      readBlock fuel (indent + 1) (line.behind :: rest)
    else some (Node.omitted, line :: rest)

/-- The value of a key at an indentation; a list may stand level with its key. -/
def readValue : Nat → Nat → List Char → List Line → Option (Node × List Line)
  | 0, _, _, _ => none
  | fuel + 1, indent, content, lines =>
    if Line.isComment content then
      match dropIdle lines with
      | [] => some (Node.omitted, [])
      | line :: rest =>
        if line.indent = indent && line.isItem then
          (readItems fuel indent (line :: rest)).map fun (items, left) => (.sequence items, left)
        else readBlock fuel (indent + 1) (line :: rest)
    else readInline (some indent) content lines
end

/-- Characters a document may be made of. -/
def isAllowed (c : Char) : Bool := isPrintable c || c == '\t' || c == '\r' || c == '\x85'

/-- A mark of three characters that stands alone at the start of a line. -/
def Line.after? (mark : List Char) (l : Line) : Option (List Char) :=
  let rest := l.content.drop 3
  if l.indent = 0 && l.content.take 3 = mark && (rest.head?.map isWhite).getD true then
    some (rest.dropWhile isWhite)
  else none

def Line.opens? : Line → Option (List Char) := Line.after? ['-', '-', '-']

def Line.closes? : Line → Option (List Char) := Line.after? ['.', '.', '.']

/-- Nothing but comments and closing marks may follow a document. -/
def isPastEnd (l : Line) : Bool := l.isIdle || ((l.closes?).map Line.isComment).getD false

/-- The document of the lines; only a scalar or brackets fit beside its opening mark. -/
def readDocument (fuel : Nat) (lines : List Line) : Option (Node × List Line) :=
  match dropIdle lines with
  | [] => none
  | line :: rest =>
    match line.opens? with
    | none => readBlock fuel 0 (line :: rest)
    | some content =>
      if rest.any fun later => later.opens?.isSome then none
      else if Line.isComment content then readBlock fuel 0 rest
      else readInline none content rest

def dropByteOrder : List Char → List Char
  | '\ufeff' :: cs => cs
  | cs => cs

def dropReturn (cs : List Char) : List Char := if cs.getLast? = some '\r' then cs.dropLast else cs

/-- The lines of a text; a break at its end does not begin another. -/
def linesOf (cs : List Char) : List Line :=
  let lines := Text.splitAll '\n' cs
  (if cs.getLast? = some '\n' then lines.dropLast else lines).map fun line =>
    Line.ofChars (dropReturn line)

/-- The one document of a text; a text without any is no document. -/
def Node.parse (text : String) : Option Node := do
  let cs := dropByteOrder text.toList
  if !cs.all isAllowed then none
  let lines := linesOf cs
  let document := lines.takeWhile fun line => line.closes?.isNone
  if !(lines.drop document.length).all isPastEnd then none
  let (node, left) ← readDocument (4 * (cs.length + lines.length + 1)) document
  if (dropIdle left).isEmpty then some node else none

end Rollout.Yaml
