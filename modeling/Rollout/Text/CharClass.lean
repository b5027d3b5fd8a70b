import Rollout.Text.CharTable

/-!
Character classes. ASCII is decided by rule, everything else by the tables, so
the facts about ASCII text need no table.
-/

namespace Rollout.Text

def isAscii (c : Char) : Bool := c.toNat < 0x80

def isBlank (c : Char) : Bool :=
  if isAscii c then c == ' ' || (9 ≤ c.toNat && c.toNat ≤ 13) else inSpans blankSpans c.toNat

def isDecimalDigit (c : Char) : Bool :=
  if isAscii c then c.isDigit else inSpans decimalSpans c.toNat

def isNumeric (c : Char) : Bool :=
  if isAscii c then c.isDigit else inSpans numericSpans c.toNat

def isAlphabetic (c : Char) : Bool :=
  if isAscii c then c.isAlpha else inSpans alphabeticSpans c.toNat

def isLowercase (c : Char) : Bool :=
  if isAscii c then c.isLower else inSpans lowercaseSpans c.toNat

def isUppercase (c : Char) : Bool :=
  if isAscii c then c.isUpper else inSpans uppercaseSpans c.toNat

def isAlphanumeric (c : Char) : Bool := isAlphabetic c || isNumeric c

def isCased (c : Char) : Bool :=
  isLowercase c || isUppercase c || inSpans titlecaseSpans c.toNat

-- Of ASCII: quote, full stop, colon, circumflex and grave accent.
def isCaseIgnorable (c : Char) : Bool :=
  if isAscii c then [0x27, 0x2e, 0x3a, 0x5e, 0x60].contains c.toNat
  else inSpans caseIgnorableSpans c.toNat

/-- Combining marks that attach to the character before them. -/
def isExtend (c : Char) : Bool := !isAscii c && inSpans extendSpans c.toNat

/-- Has a glyph of its own; of the separators only the ASCII space does. -/
def isPrintable (c : Char) : Bool :=
  if isAscii c then 0x20 ≤ c.toNat && c.toNat < 0x7f else !inSpans hiddenSpans c.toNat

def trimLeft (cs : List Char) : List Char := cs.dropWhile isBlank

def trimRight (cs : List Char) : List Char := (cs.reverse.dropWhile isBlank).reverse

/-- The text without blanks at either end. -/
def trim (s : String) : String := String.ofList (trimRight (trimLeft s.toList))

end Rollout.Text
