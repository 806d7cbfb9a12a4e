import Dpll.Text.Alphanumeric
import Dpll.Text.Pattern.Token

/-!
Which texts are regular expressions that can be used. Counted repetitions and named properties,
which are written with braces, are not among them, and neither are references back to a group and
assertions that look around. No part may be nested deeper than a limit.
-/

namespace Dpll.Text.Pattern

/-- The most parts that may stand within each other. -/
def maxDepth : Nat := 250

/-- How deep the parts of something go together: by one more than the deepest of them, unless there
is only one. -/
def joinDepths : List Nat → Nat
  | [] => 0
  | [depth] => depth
  | depths => 1 + depths.foldl max 0

inductive Item where
  /-- A change of the flags, which cannot be repeated. -/
  | change
  | part (depth : Nat)
  deriving DecidableEq, Repr

def Item.depth : Item → Nat
  | change => 0
  | part depth => depth

/-- A set whose closing bracket has not been read. -/
structure OpenSet where
  /-- How deep the sets in front of the last operator go. -/
  operand : Option Nat := none
  /-- The depths of the members since then, the latest first. -/
  members : List Nat := []
  /-- A dash is a member here, and so is a closing bracket if it is the first. -/
  isFresh : Bool := true
  deriving DecidableEq, Repr

/-- What stands in front of a group that has not been closed. -/
structure OpenGroup where
  flags : Flags
  branches : List Nat
  items : List Item
  deriving DecidableEq, Repr

/-- What has been read of a pattern. -/
structure Reader where
  flags : Flags := {}
  /-- The depths of the alternatives in front of the latest. -/
  branches : List Nat := []
  /-- The latest first. -/
  items : List Item := []
  groups : List OpenGroup := []
  sets : List OpenSet := []
  names : List String := []
  deriving DecidableEq, Repr

namespace OpenSet

def depth (s : OpenSet) : Nat :=
  let right := joinDepths s.members
  match s.operand with
  | none => right
  | some left => 1 + max left right

def add (s : OpenSet) (depth : Nat) : OpenSet :=
  { s with members := depth :: s.members }

def operate (s : OpenSet) : OpenSet :=
  { operand := some s.depth, isFresh := false }

end OpenSet

def setNames : List String :=
  ["alnum", "alpha", "ascii", "blank", "cntrl", "digit", "graph", "lower", "print", "punct",
    "space", "upper", "word", "xdigit"]

/-- Reads the name of a set behind its opening bracket, and whether the set is negated. -/
def readSetName : List Char → Option (Bool × List Char)
  | ':' :: rest =>
    let (isNegated, rest) := match rest with
      | '^' :: rest => (true, rest)
      | rest => (false, rest)
    let (name, rest) := rest.span (· ≠ ':')
    match rest with
    | ':' :: ']' :: rest =>
      if String.ofList name ∈ setNames then some (isNegated, rest) else none
    | _ => none
  | _ => none

/-- The character in front of which a dash may stand for itself. It is looked for behind blanks, and
within the first comment. -/
def Flags.peek (f : Flags) (cs : List Char) : Option Char :=
  if f.verbose then
    let behind := match cs.dropWhile isBlank with
      | '#' :: comment => comment.dropWhile isBlank
      | behind => behind
    behind.head? <|> cs.head?
  else cs.head?

/-- Reads a character, a range of characters or an escape within brackets. -/
def readRange (f : Flags) (cs : List Char) : Option (List Char) := do
  let (low, rest) ← readToken f cs
  let rest := f.skip rest
  match rest with
  | '-' :: behind =>
    if f.peek behind ∈ [some ']', some '-'] then
      if f.allowsMember low then some rest else none
    else
      let (high, rest) ← readToken f (f.skip behind)
      match low, high with
      | .char c _, .char d _ =>
        if c ≤ d ∧ f.allowsMember low ∧ f.allowsMember high then some rest else none
      | _, _ => none
  | _ => if f.allowsMember low then some rest else none

def isGroupName : List Char → Bool
  | [] => false
  | c :: rest =>
    (c = '_' || isLetter c) && rest.all fun c => c ∈ ['_', '.', '[', ']'] || isAlphanumeric c

/-- The marks of the flags, and the dash in front of those to take away. -/
def marks : List Char :=
  ['i', 'm', 's', 'U', 'u', 'R', 'x', '-']

/-- Whether a text changes flags. No mark occurs twice, and something has to follow a dash. -/
def areMarks (cs : List Char) : Bool :=
  cs.all (· ∈ marks) && marks.all (cs.count · ≤ 1) && cs.getLast? ≠ some '-'

namespace Reader

def depth (r : Reader) : Nat :=
  joinDepths (joinDepths (r.items.map Item.depth) :: r.branches)

def add (r : Reader) (item : Item) : Reader :=
  { r with items := item :: r.items }

def addToken (r : Reader) (token : Token) : Option Reader :=
  if r.flags.allows token then some (r.add (.part 0)) else none

def branch (r : Reader) : Reader :=
  { r with branches := joinDepths (r.items.map Item.depth) :: r.branches, items := [] }

def repeatLast (r : Reader) : Option Reader :=
  match r.items with
  | .part depth :: items => some { r with items := .part (depth + 1) :: items }
  | _ => none

def openGroup (r : Reader) (flags : Flags) : Reader :=
  { r with
    flags, branches := [], items := [], groups := ⟨r.flags, r.branches, r.items⟩ :: r.groups }

/-- A change of the flags ends with the group that it is in. -/
def closeGroup (r : Reader) : Option Reader :=
  match r.groups with
  | [] => none
  | group :: groups =>
    some { r with
      flags := group.flags, branches := group.branches,
      items := .part (r.depth + 1) :: group.items, groups }

/-- Reads the name of a group up to its bracket. No two groups have one name. -/
def readName (r : Reader) (cs : List Char) : Option (Reader × List Char) :=
  let (name, rest) := cs.span (· ≠ '>')
  if isGroupName name ∧ String.ofList name ∉ r.names then
    some ({ r.openGroup r.flags with names := String.ofList name :: r.names }, rest.drop 1)
  else none

/-- Reads a change of the flags, which is for a group of its own or for the rest of this one. -/
def readChange (r : Reader) (cs : List Char) : Option (Reader × List Char) :=
  let (changes, rest) := cs.span (· ∉ [':', ')'])
  let flags := r.flags.change changes
  if areMarks changes then
    match rest with
    | ':' :: rest => some (r.openGroup flags, rest)
    | ')' :: rest => if changes = [] then none else some ({ r.add .change with flags }, rest)
    | _ => none
  else none

def readGroup (r : Reader) : List Char → Option (Reader × List Char)
  | '?' :: 'P' :: '<' :: rest => r.readName rest
  | '?' :: '<' :: rest => r.readName rest
  | '?' :: rest => r.readChange rest
  | rest => some (r.openGroup r.flags, rest)

def readSet (r : Reader) (cs : List Char) : Option (Reader × List Char) :=
  let (isNegated, rest) := match r.flags.skip cs with
    | '^' :: rest => (true, rest)
    | rest => (false, rest)
  if r.flags.allowsNegation isNegated then some ({ r with sets := {} :: r.sets }, rest) else none

/-- Reads one item of a sequence, or what opens, closes or divides a group. -/
def readItem (r : Reader) : List Char → Option (Reader × List Char)
  | [] | '\x7b' :: _ => none
  | '(' :: rest => r.readGroup (r.flags.skip rest)
  | ')' :: rest => do return (← r.closeGroup, rest)
  | '|' :: rest => some (r.branch, rest)
  | '[' :: rest => r.readSet rest
  | '*' :: '?' :: rest | '+' :: '?' :: rest | '?' :: '?' :: rest
  | '*' :: rest | '+' :: rest | '?' :: rest => do return (← r.repeatLast, rest)
  | '.' :: rest => if r.flags.unicode then some (r.add (.part 0), rest) else none
  | '^' :: rest | '$' :: rest => do return (← r.addToken .edge, rest)
  | cs => do
    let (token, rest) ← readToken r.flags cs
    return (← r.addToken token, rest)

/-- Closes the innermost set, which was this one. -/
def closeSet (r : Reader) (s : OpenSet) : List OpenSet → Reader
  | [] => { r.add (.part (s.depth + 1)) with sets := [] }
  | outer :: sets => { r with sets := outer.add (s.depth + 1) :: sets }

/-- Reads one member of the innermost set, or an operator between sets. -/
def readMember (r : Reader) (s : OpenSet) (outer : List OpenSet) (cs : List Char) :
    Option (Reader × List Char) :=
  let update (s : OpenSet) : Reader := { r with sets := s :: outer }
  let later := { s with isFresh := false }
  let isDash := s.isFresh ∧ cs.head? = some '-'
  let isBracket := s.isFresh ∧ s.members = [] ∧ cs.head? = some ']'
  if isDash ∨ isBracket then
    if r.flags.allowsMember (.char ']' false) then
      some (update ((if isDash then s else later).add 0), cs.tail)
    else none
  else
    match cs with
    | '[' :: rest =>
      match readSetName rest with
      | some (isNegated, rest) =>
        if r.flags.allowsNamed isNegated then some (update (later.add 0), rest) else none
      | none => (update later).readSet rest
    | ']' :: rest => some (r.closeSet s outer, rest)
    | '&' :: '&' :: rest | '-' :: '-' :: rest | '~' :: '~' :: rest =>
      some (update s.operate, rest)
    | cs => do return (update (later.add 0), ← readRange r.flags cs)

/-- Reads a pattern to its end. Each round reads a character at least, so that one round more than
there are characters is enough. -/
def run : Nat → Reader → List Char → Option Reader
  | 0, _, _ => none
  | rounds + 1, r, cs =>
    match r.flags.skip cs with
    | [] => some r
    | cs => do
      let (r, rest) ← match r.sets with
        | [] => r.readItem cs
        | s :: outer => r.readMember s outer cs
      run rounds r rest

def isComplete (r : Reader) : Bool :=
  r.groups.isEmpty && r.sets.isEmpty && r.depth ≤ maxDepth

end Reader

/-- Whether a text is a regular expression that can be used. -/
def isValid (cs : List Char) : Bool :=
  (Reader.run (cs.length + 1) {} cs).any Reader.isComplete

end Dpll.Text.Pattern
