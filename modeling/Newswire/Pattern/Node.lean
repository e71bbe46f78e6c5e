import Newswire.Character.Age
import Newswire.Character.Boundary
import Newswire.Character.Case
import Newswire.Character.Category
import Newswire.Character.Property
import Newswire.Character.Script
import Newswire.Pattern.Reader

/-!
# What patterns mean

The flags of a pattern are applied and its names looked up, which leaves a tree of character sets,
assertions, choices and repetitions. A pattern is refused that names an unknown property, or that
could tell apart the bytes of one character.
-/

namespace Newswire.Pattern

open Character

/-- A condition on a place of the text. -/
inductive Place where
  | textStart
  | textEnd
  | lineStart (crlf : Bool)
  | lineEnd (crlf : Bool)
  | word (edge : Edge) (ascii : Bool)
  deriving Repr, DecidableEq

inductive Node where
  | empty
  | set (s : CharSet)
  | place (p : Place)
  | repetition (min : Nat) (max : Option Nat) (greedy : Bool) (body : Node)
  | capture (index : Nat) (body : Node)
  | sequence (first second : Node)
  | either (first second : Node)
  deriving Repr, Inhabited

/-- The flags in force at some place of a pattern. -/
structure Flags where
  ignoreCase : Bool := false
  multiLine : Bool := false
  dotAll : Bool := false
  swapGreed : Bool := false
  unicode : Bool := true
  crlf : Bool := false
  deriving Repr, DecidableEq

def Flags.set (fs : Flags) : Flag × Bool → Flags
  | (.ignoreCase, on) => { fs with ignoreCase := on }
  | (.multiLine, on) => { fs with multiLine := on }
  | (.dotAll, on) => { fs with dotAll := on }
  | (.swapGreed, on) => { fs with swapGreed := on }
  | (.unicode, on) => { fs with unicode := on }
  | (.crlf, on) => { fs with crlf := on }
  | (.spaced, _) => fs

def Flags.update (fs : Flags) (list : FlagList) : Flags := list.foldl Flags.set fs

def digits : CharSet := decimalNumber

def wordChars : CharSet :=
  unions [alphabetic, mark, decimalNumber, connectorPunctuation, joinControl]

def asciiDigits : CharSet := .range 0x30 0x39

def asciiSpaces : CharSet := unions [.range 0x9 0xD, .single 0x20]

def asciiWordChars : CharSet :=
  unions [.range 0x30 0x39, .range 0x41 0x5A, .single 0x5F, .range 0x61 0x7A]

def asciiLetters : CharSet := unions [.range 0x41 0x5A, .range 0x61 0x7A]

/-- The classes that may be named between `[:` and `:]`. -/
def asciiClass : String → CharSet
  | "alnum" => unions [asciiDigits, asciiLetters]
  | "alpha" => asciiLetters
  | "ascii" => .range 0 0x7F
  | "blank" => unions [.single 0x9, .single 0x20]
  | "cntrl" => unions [.range 0 0x1F, .single 0x7F]
  | "digit" => asciiDigits
  | "graph" => .range 0x21 0x7E
  | "lower" => .range 0x61 0x7A
  | "print" => .range 0x20 0x7E
  | "punct" => unions [.range 0x21 0x2F, .range 0x3A 0x40, .range 0x5B 0x60, .range 0x7B 0x7E]
  | "space" => asciiSpaces
  | "upper" => .range 0x41 0x5A
  | "word" => asciiWordChars
  | "xdigit" => unions [asciiDigits, .range 0x41 0x46, .range 0x61 0x66]
  | _ => .empty

/-- The form in which names of properties are compared: ASCII in lower case, without separators and
without the syllable that may stand in front of them. -/
def looseName (name : String) : String :=
  let cs := name.toList
  let (said, body) :=
    match cs with
    | a :: b :: rest => if a.toLower = 'i' ∧ b.toLower = 's' then (true, rest) else (false, cs)
    | _ => (false, cs)
  let loose := body.filterMap fun c =>
    if c.toNat ≥ 0x80 ∨ c = ' ' ∨ c = '_' ∨ c = '-' then none else some c.toLower
  if said ∧ loose = ['c'] then "isc" else String.ofList loose

def lookUp {α : Type} (table : List (String × α)) (name : String) : Option α :=
  (table.find? fun e => e.1 == name).map Prod.snd

def scriptNamed (name : String) : Option Script := scripts.find? fun s => s.names.contains name

def propertySet : Property → Option CharSet
  | .named name =>
    let name := looseName name
    (lookUp properties name).or
      ((lookUp categories name).or ((scriptNamed name).map Script.members))
  | .valued name value =>
    let value := looseName value
    match looseName name with
    | "gc" => lookUp categories value
    | "generalcategory" => lookUp categories value
    | "category" => lookUp categories value
    | "sc" => (scriptNamed value).map Script.members
    | "script" => (scriptNamed value).map Script.members
    | "scx" => (scriptNamed value).map Script.shared
    | "scriptextensions" => (scriptNamed value).map Script.shared
    | "age" => assignedBy? value
    | "gcb" => lookUp graphemeBreaks value
    | "graphemeclusterbreak" => lookUp graphemeBreaks value
    | "wb" => lookUp wordBreaks value
    | "wordbreak" => lookUp wordBreaks value
    | "sb" => lookUp sentenceBreaks value
    | "sentencebreak" => lookUp sentenceBreaks value
    | _ => none

/-- Adds the other case of ASCII letters. -/
def asciiFold (s : CharSet) : CharSet :=
  let shift (lo hi : Nat) (k : Int) :=
    (s.inter (.range lo hi)).ranges.toList.map fun r => ((r.1 + k).toNat, (r.2 + k).toNat)
  unions [s, .ofRanges (shift 0x41 0x5A 32), .ofRanges (shift 0x61 0x7A (-32))]

def Flags.fold (fs : Flags) (s : CharSet) : CharSet :=
  if !fs.ignoreCase then s else if fs.unicode then foldClosure s else asciiFold s

/-- Folds a set and negates it if asked to. Without characters beyond ASCII, a set must lie within
ASCII, which no negated one does. -/
def Flags.finish (fs : Flags) (negated : Bool) (s : CharSet) : Option CharSet :=
  let s := fs.fold s
  let s := if negated then s.negate else s
  if fs.unicode ∨ s.isAscii then some s else none

def Flags.shorthand (fs : Flags) (kind : Shorthand) (negated : Bool) : Option CharSet :=
  let s :=
    match kind, fs.unicode with
    | .digit, true => digits
    | .digit, false => asciiDigits
    | .space, true => whiteSpace
    | .space, false => asciiSpaces
    | .word, true => wordChars
    | .word, false => asciiWordChars
  let s := if negated then s.negate else s
  if fs.unicode ∨ s.isAscii then some s else none

def Flags.property (fs : Flags) (p : Property) (negated : Bool) : Option CharSet := do
  if !fs.unicode then none
  fs.finish negated (← propertySet p)

/-- The character as a member of a set; beyond ASCII there is none if such characters are off. -/
def Flags.member (fs : Flags) (l : Literal) : Option Nat :=
  if fs.unicode ∨ l.char.toNat < 0x80 then some l.char.toNat else none

mutual

def Flags.members (fs : Flags) : SetExpression → Option CharSet
  | .nothing => some .empty
  | .literal l => do return .single (← fs.member l)
  | .range lo hi => do return .range (← fs.member lo) (← fs.member hi)
  | .ascii name negated => fs.finish negated (asciiClass name)
  | .property p negated => fs.property p negated
  | .shorthand kind negated => fs.shorthand kind negated
  | .bracketed negated body => do fs.finish negated (← Flags.members fs body)
  | .union items => Flags.membersOfAll fs items
  | .operation op lhs rhs => do
    let s := fs.fold (← Flags.members fs lhs)
    let t := fs.fold (← Flags.members fs rhs)
    match op with
    | .intersection => return s.inter t
    | .difference => return s.diff t
    | .symmetricDifference => return s.symmDiff t

def Flags.membersOfAll (fs : Flags) : List SetExpression → Option CharSet
  | [] => some .empty
  | s :: rest => do return (← Flags.members fs s).union (← Flags.membersOfAll fs rest)

end

def Flags.dot (fs : Flags) : Option CharSet :=
  if !fs.unicode then none
  else if fs.dotAll then some .all
  else if fs.crlf then some (unions [.single 0xA, .single 0xD]).negate
  else some (CharSet.single 0xA).negate

def Flags.literal (fs : Flags) (l : Literal) : Option CharSet :=
  if fs.unicode then some (fs.fold (.single l.char.toNat))
  else if l.isByte ∧ l.char.toNat ≥ 0x80 then none
  else some (fs.fold (.single l.char.toNat))

def Flags.place (fs : Flags) : Assertion → Place
  | .lineStart => if fs.multiLine then .lineStart fs.crlf else .textStart
  | .lineEnd => if fs.multiLine then .lineEnd fs.crlf else .textEnd
  | .textStart => .textStart
  | .textEnd => .textEnd
  | .word edge => .word edge !fs.unicode

namespace Node

/-- The number of characters that a match has at most; `none` if there is no bound. -/
def maxLength : Node → Option Nat
  | empty => some 0
  | set _ => some 1
  | place _ => some 0
  | repetition _ max _ body =>
    match maxLength body, max with
    | some 0, _ => some 0
    | some n, some m => some (n * m)
    | _, _ => none
  | capture _ body => maxLength body
  | sequence first second => do return (← maxLength first) + (← maxLength second)
  | either first second => do return max (← maxLength first) (← maxLength second)

/-- Some match may be empty. A set without members counts as one. -/
def mayBeEmpty : Node → Bool
  | empty => true
  | set s => s.ranges.isEmpty
  | place _ => true
  | repetition min _ _ body => min == 0 || mayBeEmpty body
  | capture _ body => mayBeEmpty body
  | sequence first second => mayBeEmpty first && mayBeEmpty second
  | either first second => mayBeEmpty first || mayBeEmpty second

/-- A repetition without the rounds that cannot matter: what only matches the empty text is tried
once, and what is repeated no time or once is not repeated. -/
def repeated (min : Nat) (max : Option Nat) (greedy : Bool) (body : Node) : Node :=
  let (min, max) :=
    if body.maxLength = some 0 then (Nat.min min 1, some ((max.map (Nat.min · 1)).getD 1))
    else (min, max)
  if max = some 0 then empty
  else if min = 1 ∧ max = some 1 then body
  else repetition min max greedy body

end Node

mutual

/-- The meaning of an expression under the flags in front of it, and the flags after it. -/
def meaning (fs : Flags) : Expression → Option (Node × Flags)
  | .empty => some (.empty, fs)
  | .flags list => some (.empty, fs.update list)
  | .literal l => do return (.set (← fs.literal l), fs)
  | .dot => do return (.set (← fs.dot), fs)
  | .assertion a => some (.place (fs.place a), fs)
  | .property p negated => do return (.set (← fs.property p negated), fs)
  | .shorthand kind negated => do return (.set (← fs.shorthand kind negated), fs)
  | .set negated body => do return (.set (← fs.finish negated (← fs.members body)), fs)
  | .repetition min max greedy body => do
    let (node, _) ← meaning fs body
    return (.repeated min max (greedy != fs.swapGreed) node, fs)
  | .group (.captured index _) body => do
    let (node, _) ← meaning fs body
    return (.capture index node, fs)
  | .group (.flagged list) body => do
    let (node, _) ← meaning (fs.update list) body
    return (node, fs)
  | .alternation branches => meaningOfBranches fs branches
  | .sequence parts => meaningOfParts fs parts

def meaningOfParts (fs : Flags) : List Expression → Option (Node × Flags)
  | [] => some (.empty, fs)
  | e :: rest => do
    let (first, fs) ← meaning fs e
    let (second, fs) ← meaningOfParts fs rest
    return (.sequence first second, fs)

def meaningOfBranches (fs : Flags) : List Expression → Option (Node × Flags)
  | [] => some (.empty, fs)
  | [e] => meaning fs e
  | e :: rest => do
    let (first, fs) ← meaning fs e
    let (second, fs) ← meaningOfBranches fs rest
    return (.either first second, fs)

end

end Newswire.Pattern
