import Dpll.Text.Blank

/-!
What regular expressions are made of, apart from groups, sets and repetitions, and which of it may
be used. Letter case and kinds of characters, such as digits, are known for ASCII only, so they
cannot be used while a pattern is about Unicode text. And a pattern must not match a part of the
bytes of a character.
-/

namespace Dpll.Text.Pattern

/-- What holds from some place of a pattern on. -/
structure Flags where
  ignoreCase : Bool := false
  unicode : Bool := true
  /-- Blanks and comments are left out. -/
  verbose : Bool := false
  deriving DecidableEq, Repr

inductive Token where
  /-- A character, perhaps given by two hexadecimal digits, as a byte can be. -/
  | char (c : Char) (isByte : Bool)
  /-- The digits, the blanks or the word characters, or all others. -/
  | kind (isNegated : Bool)
  /-- The start or the end of the text or of a line. -/
  | edge
  /-- A place where a word starts or ends, or does not. -/
  | wordEdge
  deriving DecidableEq, Repr

namespace Flags

/-- Leaves out blanks, and comments up to the end of their line. -/
def skipBlanks (inComment : Bool) : List Char → List Char
  | [] => []
  | c :: rest =>
    if inComment then skipBlanks (c ≠ '\n') rest
    else if isBlank c then skipBlanks false rest
    else if c = '#' then skipBlanks true rest
    else c :: rest

def skip (f : Flags) (cs : List Char) : List Char :=
  if f.verbose then skipBlanks false cs else cs

/-- The flags after a change by these marks, of which those behind a dash are taken away. -/
def change (f : Flags) (marks : List Char) : Flags :=
  let (added, removed) := marks.span (· ≠ '-')
  let update (mark : Char) (before : Bool) :=
    if mark ∈ added then true else if mark ∈ removed then false else before
  { ignoreCase := update 'i' f.ignoreCase
    unicode := update 'u' f.unicode
    verbose := update 'x' f.verbose }

def allows (f : Flags) : Token → Bool
  | .char c isByte => if f.unicode then !f.ignoreCase else !isByte || c.toNat < 0x80
  | .kind isNegated => !f.unicode && !isNegated
  | .edge => true
  | .wordEdge => !f.unicode

def allowsMember (f : Flags) : Token → Bool
  | .char c _ => if f.unicode then !f.ignoreCase else c.toNat < 0x80
  | .kind isNegated => !f.unicode && !isNegated
  | .edge | .wordEdge => false

/-- Whether a set may be negated. In bytes the rest of a set is no text. -/
def allowsNegation (f : Flags) (isNegated : Bool) : Bool :=
  f.unicode || !isNegated

/-- Whether a set with a name may be a member of a set. -/
def allowsNamed (f : Flags) (isNegated : Bool) : Bool :=
  f.allowsMember (.char 'a' false) && f.allowsNegation isNegated

end Flags

def hexDigit? (c : Char) : Option Nat :=
  if c.isDigit then some (c.toNat - '0'.toNat)
  else if 'a' ≤ c ∧ c ≤ 'f' then some (c.toNat - 'a'.toNat + 10)
  else if 'A' ≤ c ∧ c ≤ 'F' then some (c.toNat - 'A'.toNat + 10)
  else none

def readHex (f : Flags) (value : Nat) : Nat → List Char → Option (Nat × List Char)
  | 0, cs => some (value, cs)
  | count + 1, cs =>
    match f.skip cs with
    | [] => none
    | c :: rest => do readHex f (16 * value + (← hexDigit? c)) count rest

def readCodePoint (f : Flags) (count : Nat) (cs : List Char) : Option (Token × List Char) := do
  let (value, rest) ← readHex f 0 count cs
  if value.isValidChar then some (.char (Char.ofNat value) (count = 2), rest) else none

def readEscape (f : Flags) : List Char → Option (Token × List Char)
  | [] => none
  | 'x' :: rest => readCodePoint f 2 rest
  | 'u' :: rest => readCodePoint f 4 rest
  | 'U' :: rest => readCodePoint f 8 rest
  | 'a' :: rest => some (.char '\x07' false, rest)
  | 'f' :: rest => some (.char '\x0c' false, rest)
  | 'n' :: rest => some (.char '\n' false, rest)
  | 'r' :: rest => some (.char '\r' false, rest)
  | 't' :: rest => some (.char '\t' false, rest)
  | 'v' :: rest => some (.char '\x0b' false, rest)
  | c :: rest =>
    if c ∈ ['d', 's', 'w'] then some (.kind false, rest)
    else if c ∈ ['D', 'S', 'W'] then some (.kind true, rest)
    else if c ∈ ['A', 'z'] then some (.edge, rest)
    else if c ∈ ['b', 'B', '<', '>'] then some (.wordEdge, rest)
    else if c.toNat < 0x80 ∧ !c.isAlphanum then some (.char c false, rest)
    else none

def readToken (f : Flags) : List Char → Option (Token × List Char)
  | [] => none
  | '\\' :: rest => readEscape f rest
  | c :: rest => some (.char c false, rest)

end Dpll.Text.Pattern
