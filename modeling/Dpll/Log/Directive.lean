import Dpll.Log.Record
import Dpll.Text.Blank
import Dpll.Text.Numeral
import Dpll.Text.Pattern.Reader

/-!
Directives of a log filter. One has a target, a scope in brackets and a level, of which any may be
left out: `target[{field}]=level`. It is about the records whose origin starts with the target and
that are in its scope.
-/

namespace Dpll

/-- Which of the records with the right origin a directive is about. -/
inductive Scope where
  | all
  | withField (name : List Char)
  /-- Those within a span that has a name or a field with a value. Nothing here opens a span. -/
  | withinSpan
  deriving DecidableEq, Repr

/-- Records are shown up to this rank of level; rank 0 shows none. -/
structure Directive where
  target : Option (List Char) := none
  scope : Scope := .all
  rank : Nat := Level.trace.rank
  deriving DecidableEq, Repr

/-- Reads a level by its name in any case, or by its rank; `off` has rank 0. -/
def Level.rank? (word : List Char) : Option Nat :=
  match Text.unsigned64? word with
  | some rank => if rank ≤ 5 then some rank else none
  | none =>
    let name := word.map Char.toLower
    if name = "error".toList then some 1
    else if name = "off".toList then some 0
    else if name = "warn".toList then some 2
    else if name = "info".toList then some 3
    else if name = "debug".toList then some 4
    else if name = "trace".toList then some 5
    else none

namespace Scope

def covers (record : Record) : Scope → Bool
  | all => true
  | withField name => record.hasField (String.ofList name)
  | withinSpan => false

/-- Whether a field can have this value: a number, or what a regular expression matches. -/
def isValue (cs : List Char) : Bool :=
  Text.isReal cs || Text.Pattern.isValid cs

/-- Reads the name of a field, which may be followed by an equals sign and a value. -/
def ofField? (isNamed : Bool) (field : List Char) : Option Scope :=
  match field.splitOn '=' with
  | [] | [[]] => none
  | [name] => some (if isNamed then .withinSpan else .withField name)
  | _ :: value :: _ => if isValue value then some .withinSpan else none

end Scope

namespace Directive

def startsTarget (c : Char) : Bool :=
  c ∈ ['-', ':', '_'] || Text.isAlphanumeric c

/-- How many bytes a text takes. -/
def width (cs : List Char) : Nat :=
  (String.ofList cs).utf8ByteSize

/-- The text between two bytes, if no character is cut in two. -/
def cut (text : List Char) (start stop : Nat) : Option (List Char) :=
  (String.fromUTF8? ((String.ofList text).toUTF8.extract start stop)).map String.toList

/-- Reads the level that stands from this byte on; without one all levels are meant. -/
def rankFrom (text : List Char) (start : Nat) : Option Nat := do
  let word ← cut text start (width text)
  if word = [] then some Level.trace.rank else Level.rank? word

/-- Reads what comes behind the brackets. The rest of the text is that from the byte `start` on. -/
def readEnd (text : List Char) (d : Directive) (start : Nat) : List Char → Option Directive
  | [] => some d
  | '=' :: _ => do return { d with rank := ← rankFrom text (start + 1) }
  | _ => none

def readScope (text : List Char) (target : Option (List Char)) (start : Nat) (rest : List Char) :
    Option Directive := do
  let (span, rest) := rest.span fun c => c ∉ [']', '\x7b']
  let stop := start + width span
  match rest with
  | ']' :: rest => readEnd text { target, scope := .withinSpan } (stop + 1) rest
  | '\x7b' :: rest =>
    let (field, rest) := rest.span (· ≠ '\x7d')
    let fieldStop := stop + 1 + width field
    match rest with
    | '\x7d' :: ']' :: rest =>
      let scope ← Scope.ofField? (span ≠ []) (← cut text (stop + 1) fieldStop)
      readEnd text { target, scope } (fieldStop + 2) rest
    | _ => none
  | _ => none

/-- Reads a directive. Where its parts start and end is found in the text without the blanks around
it, but counted from the start of the text with them: blanks in front let each part start and end
too early. A part that comes last ends with the text. -/
def parse? (text : List Char) : Option Directive :=
  match Text.trim text with
  | [] => none
  | '[' :: rest => readScope text none 1 rest
  | c :: rest =>
    if !startsTarget c then none
    else
      let (name, rest) := (c :: rest).span fun c => c ∉ ['=', '[']
      let stop := width name
      match rest with
      | [] =>
        match Level.rank? text with
        | some rank => some { rank }
        | none => some { target := some text }
      | '=' :: _ => do
        return { target := some (← cut text 0 stop), rank := ← rankFrom text (stop + 1) }
      | _ :: rest => do readScope text (some (← cut text 0 stop)) (stop + 1) rest

def selects (d : Directive) (record : Record) : Bool :=
  d.target.all (·.isPrefixOf record.origin.path.toList) && d.scope.covers record

/-- Whether a directive is at least as specific as another one about the same record: by the length
of its target, then by whether it names a field, and then by that name. -/
def outranks (d e : Directive) : Bool :=
  let length (d : Directive) := d.target.elim 0 (·.length + 1)
  if length d = length e then
    match d.scope, e.scope with
    | .withField name, .withField other => !name.lex other (·.toNat < ·.toNat)
    | _, .withField _ => false
    | _, _ => true
  else length e < length d

end Directive

end Dpll
