import Rollout.Text.CharClass

/-!
The quoted form in which a message shows a text or a path: between double
quotes, with everything that has no glyph of its own written as an escape.
-/

namespace Rollout.Text

/-- `\u{…}` with the code in lower-case hexadecimal. -/
def codeEscape (c : Char) : List Char :=
  ['\\', 'u', '\x7b'] ++ Nat.toDigits 16 c.toNat ++ ['\x7d']

def quotedChar (c : Char) : List Char :=
  if c = '\x00' then ['\\', '0']
  else if c = '\t' then ['\\', 't']
  else if c = '\n' then ['\\', 'n']
  else if c = '\r' then ['\\', 'r']
  else if c = '"' || c = '\\' then ['\\', c]
  else if isExtend c || !isPrintable c then codeEscape c
  else [c]

def quoted (s : String) : String :=
  String.ofList ('"' :: s.toList.flatMap quotedChar ++ ['"'])

/-- A path is shown like a text, its single quotes escaped too. -/
def quotedPath (path : String) : String :=
  String.ofList ('"' :: path.toList.flatMap
    (fun c => if c = '\'' then ['\\', c] else quotedChar c) ++ ['"'])

end Rollout.Text
