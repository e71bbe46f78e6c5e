import Newswire.Character.Recent
import Newswire.Decimal
import Newswire.Pattern.Expression
import Newswire.Text.Blank

/-!
# Reading patterns

A pattern is read from the front with one flag of its own, under which blanks and comments between
the parts are passed over. Look-around, references to groups and octal numbers are refused.
-/

namespace Newswire.Pattern.Reader

open Newswire.Text (isBlank)

structure State where
  rest : List Char
  spaced : Bool := false
  captures : Nat := 0
  names : List (String × Nat) := []

abbrev Parse := StateT State Option

def peek? : Parse (Option Char) := do return (← get).rest.head?

def atEnd : Parse Bool := do return (← get).rest.isEmpty

/-- The character in front; refuses the end of the pattern. -/
def current : Parse Char := do
  match (← get).rest with
  | c :: _ => return c
  | [] => failure

/-- Passes over one character and says whether another follows. -/
def bump : Parse Bool := do
  let s ← get
  set { s with rest := s.rest.tail }
  return !s.rest.tail.isEmpty

/-- Passes over the given text if it is in front. -/
def bumpIf (text : String) : Parse Bool := do
  let s ← get
  match text.toList.isPrefixOf? s.rest with
  | some rest =>
    set { s with rest := rest }
    return true
  | none => return false

/-- The rest of a text without blanks and comments in front; `comment` holds inside a comment. -/
def dropSpace (comment : Bool) : List Char → List Char
  | [] => []
  | c :: rest =>
    if comment then dropSpace (c != '\n') rest
    else if isBlank c then dropSpace false rest
    else if c = '#' then dropSpace true rest
    else c :: rest

def skipSpace : Parse Unit :=
  modify fun s => if s.spaced then { s with rest := dropSpace false s.rest } else s

/-- Passes over one character and the space after it, and says whether more follows. -/
def bumpSpace : Parse Bool := do
  if !(← bump) then return false
  skipSpace
  return !(← atEnd)

/-- As `bumpSpace`, but refuses the end of the pattern. -/
def advance : Parse Unit := do if !(← bumpSpace) then failure

/-- The character after the current one, past blanks and the sign that starts a comment. -/
def peekSpace? : Parse (Option Char) := do
  let s ← get
  let after := s.rest.tail
  if !s.spaced then return after.head?
  return (look false after).or after.head?
where
  look (comment : Bool) : List Char → Option Char
    | [] => none
    | c :: rest =>
      if isBlank c then look comment rest
      else if !comment && c == '#' then look true rest
      else some c

def isHex (c : Char) : Bool := c.isDigit || ('a' ≤ c && c ≤ 'f') || ('A' ≤ c && c ≤ 'F')

def hexValue (digits : List Char) : Nat := CharSet.hexNumber (digits.map Char.toLower)

/-- The character with that code point, if there is one. -/
def scalar? (n : Nat) : Option Char :=
  if n < 0xD800 ∨ (0xE000 ≤ n ∧ n ≤ 0x10FFFF) then some (Char.ofNat n) else none

/-- What a backslash introduces, outside or inside brackets. -/
inductive Primitive where
  | literal (l : Literal)
  | dot
  | assertion (a : Assertion)
  | property (p : Property) (negated : Bool)
  | shorthand (s : Shorthand) (negated : Bool)

def isMeta (c : Char) : Bool := "\\.+*?()|[]\x7b\x7d^$#&-~".toList.contains c

/-- A backslash may stand before every ASCII character that is no letter or digit; two of them mean
the edges of a word. -/
def isEscapable (c : Char) : Bool :=
  isMeta c || (c.toNat < 0x80 && !c.isAlphanum && c != '<' && c != '>')

/-- Splits the text between braces into the name of a property and its value. -/
def propertyOf (text : List Char) : Property :=
  match cutUnequal [] text with
  | some (name, value) => .valued name value
  | none =>
    match cutAt ':' text with
    | some (name, value) => .valued name value
    | none =>
      match cutAt '=' text with
      | some (name, value) => .valued name value
      | none => .named (String.ofList text)
where
  cutUnequal (before : List Char) : List Char → Option (String × String)
    | '!' :: '=' :: rest => some (String.ofList before.reverse, String.ofList rest)
    | c :: rest => cutUnequal (c :: before) rest
    | [] => none
  cutAt (c : Char) (text : List Char) : Option (String × String) :=
    let (before, after) := text.span (· != c)
    match after with
    | _ :: rest => some (String.ofList before, String.ofList rest)
    | [] => none

/-- The characters up to a closing brace, which is left in front. -/
def readBraced : Nat → List Char → Parse (List Char)
  | 0, _ => failure
  | fuel + 1, acc => do
    advance
    let c ← current
    if c == '\x7d' then return acc.reverse else readBraced fuel (c :: acc)

def fuelOf : Parse Nat := do return (← get).rest.length + 1

/-- A property class; its letter is in front. -/
def readProperty : Parse Primitive := do
  let negated := (← current) == 'P'
  advance
  let c ← current
  if c == '\x7b' then
    let text ← readBraced (← fuelOf) []
    discard bump
    return .property (propertyOf text) negated
  else if c == '\\' then failure
  else
    discard bumpSpace
    return .property (.named c.toString) negated

/-- A fixed number of hexadecimal digits, the first of which is in front. -/
def readHexDigits : Nat → List Char → Parse (List Char)
  | 0, acc => return acc.reverse
  | n + 1, acc => do
    let c ← current
    if !isHex c then failure
    if n = 0 then
      discard bumpSpace
      return (c :: acc).reverse
    else
      advance
      readHexDigits n (c :: acc)

/-- A character by its number; the letter after the backslash is in front. -/
def readHex : Parse Primitive := do
  let letter ← current
  advance
  let c ← current
  if c == '\x7b' then
    let digits ← readBraced (← fuelOf) []
    discard bumpSpace
    if digits.isEmpty ∨ !digits.all isHex then failure
    match scalar? (hexValue digits) with
    | some c => return .literal { char := c }
    | none => failure
  else
    let count := if letter == 'x' then 2 else if letter == 'u' then 4 else 8
    let digits ← readHexDigits count []
    match scalar? (hexValue digits) with
    | some c => return .literal { char := c, isByte := letter == 'x' }
    | none => failure

def isEdgeLetter (c : Char) : Bool := c.isAlpha || c == '-'

def readEdgeName : Nat → List Char → Parse (List Char)
  | 0, _ => failure
  | fuel + 1, acc => do
    match ← peek? with
    | some c =>
      if isEdgeLetter c then
        discard bumpSpace
        readEdgeName fuel (c :: acc)
      else return acc.reverse
    | none => return acc.reverse

/-- The name in braces that may follow the sign for an edge of a word. Braces that hold no name
belong to a repetition and are left alone. -/
def readEdge : Parse Edge := do
  if (← peek?) != some '\x7b' then return .either
  let before ← get
  advance
  if !isEdgeLetter (← current) then
    set before
    return .either
  let name ← readEdgeName (← fuelOf) []
  if (← peek?) != some '\x7d' then failure
  discard bump
  match String.ofList name with
  | "start" => return .start
  | "end" => return .stop
  | "start-half" => return .startHalf
  | "end-half" => return .stopHalf
  | _ => failure

/-- An escape; its backslash is in front. -/
def readEscape : Parse Primitive := do
  if !(← bump) then failure
  let c ← current
  if c.isDigit then failure
  if c == 'x' ∨ c == 'u' ∨ c == 'U' then return ← readHex
  if c == 'p' ∨ c == 'P' then return ← readProperty
  discard bump
  if isEscapable c then return .literal { char := c }
  match c with
  | 'd' => return .shorthand .digit false
  | 'D' => return .shorthand .digit true
  | 's' => return .shorthand .space false
  | 'S' => return .shorthand .space true
  | 'w' => return .shorthand .word false
  | 'W' => return .shorthand .word true
  | 'a' => return .literal { char := '\x07' }
  | 'f' => return .literal { char := '\x0c' }
  | 't' => return .literal { char := '\t' }
  | 'n' => return .literal { char := '\n' }
  | 'r' => return .literal { char := '\r' }
  | 'v' => return .literal { char := '\x0b' }
  | 'A' => return .assertion .textStart
  | 'z' => return .assertion .textEnd
  | 'b' => return .assertion (.word (← readEdge))
  | 'B' => return .assertion (.word .none)
  | '<' => return .assertion (.word .start)
  | '>' => return .assertion (.word .stop)
  | _ => failure

def Primitive.setItem : Primitive → Parse SetExpression
  | .literal l => return .literal l
  | .property p negated => return .property p negated
  | .shorthand s negated => return .shorthand s negated
  | .dot => failure
  | .assertion _ => failure

def Primitive.bound : Primitive → Parse Literal
  | .literal l => return l
  | _ => failure

def readSetPrimitive : Parse Primitive := do
  if (← current) == '\\' then readEscape
  else
    let c ← current
    discard bump
    return .literal { char := c }

/-- One member of a set, or a range of them. -/
def readSetRange : Parse SetExpression := do
  let first ← readSetPrimitive
  skipSpace
  let c ← current
  let next ← peekSpace?
  if c != '-' ∨ next == some ']' ∨ next == some '-' then first.setItem
  else
    advance
    let second ← readSetPrimitive
    let lo ← first.bound
    let hi ← second.bound
    if hi.char < lo.char then failure
    return .range lo hi

def asciiNames : List String :=
  ["alnum", "alpha", "ascii", "blank", "cntrl", "digit", "graph", "lower", "print", "punct",
   "space", "upper", "word", "xdigit"]

/-- A class such as `[:alpha:]`; what only looks like one is left alone. -/
def readAscii? : Parse (Option SetExpression) := do
  let s ← get
  match s.rest with
  | '[' :: ':' :: rest =>
    let (negated, rest) :=
      match rest with
      | '^' :: tail => (true, tail)
      | tail => (false, tail)
    let (name, after) := rest.span (· != ':')
    match after with
    | ':' :: ']' :: tail =>
      let name := String.ofList name
      if asciiNames.contains name then
        set { s with rest := tail }
        return some (.ascii name negated)
      else return none
    | _ => return none
  | _ => return none

/-- The members of a set in the order they were read, the last one first in the list. -/
def unite : List SetExpression → SetExpression
  | [] => .nothing
  | [s] => s
  | items => .union items.reverse

/-- The operation whose right side has just been read. -/
def complete (pending : Option (SetOperator × SetExpression)) (items : List SetExpression) :
    SetExpression :=
  match pending with
  | none => unite items
  | some (op, lhs) => .operation op lhs (unite items)

/-- Literal hyphens at the start of a set. -/
def readHyphens : Nat → List SetExpression → Parse (List SetExpression)
  | 0, _ => failure
  | fuel + 1, items => do
    if (← current) == '-' then
      advance
      readHyphens fuel (.literal { char := '-' } :: items)
    else return items

mutual

/-- A set; its opening bracket is in front. -/
def readSet : Nat → Parse (Bool × SetExpression)
  | 0 => failure
  | fuel + 1 => do
    advance
    let negated := (← current) == '^'
    if negated then advance
    let items ← readHyphens (← fuelOf) []
    if items.isEmpty ∧ (← current) == ']' then
      advance
      readSetBody fuel negated none [.literal { char := ']' }]
    else readSetBody fuel negated none items

/-- The members up to the closing bracket. -/
def readSetBody : Nat → Bool → Option (SetOperator × SetExpression) → List SetExpression →
    Parse (Bool × SetExpression)
  | 0, _, _, _ => failure
  | fuel + 1, negated, pending, items => do
    skipSpace
    match ← current with
    | '[' =>
      match ← readAscii? with
      | some s => readSetBody fuel negated pending (s :: items)
      | none =>
        let (inner, body) ← readSet fuel
        readSetBody fuel negated pending (.bracketed inner body :: items)
    | ']' =>
      discard bump
      return (negated, complete pending items)
    | _ =>
      if ← bumpIf "&&" then
        readSetBody fuel negated (some (.intersection, complete pending items)) []
      else if ← bumpIf "--" then
        readSetBody fuel negated (some (.difference, complete pending items)) []
      else if ← bumpIf "~~" then
        readSetBody fuel negated (some (.symmetricDifference, complete pending items)) []
      else
        let s ← readSetRange
        readSetBody fuel negated pending (s :: items)

end

/-- What a repetition sign may follow. -/
def repeatable : List Expression → Parse (Expression × List Expression)
  | [] => failure
  | .empty :: _ => failure
  | .flags _ :: _ => failure
  | e :: before => return (e, before)

/-- Whether a question mark that makes a repetition prefer fewer rounds is absent. -/
def readGreedy : Parse Bool := do
  if (← peek?) == some '?' then
    discard bump
    return false
  return true

def readDigits : Nat → List Char → Parse (List Char)
  | 0, _ => failure
  | fuel + 1, acc => do
    match ← peek? with
    | some c =>
      if c.isDigit then
        discard bumpSpace
        readDigits fuel (c :: acc)
      else return acc.reverse
    | none => return acc.reverse

def skipBlanks : Parse Unit := modify fun s => { s with rest := s.rest.dropWhile isBlank }

/-- A number of at most thirty-two bits, with blanks allowed around it. -/
def readCount : Parse Nat := do
  skipBlanks
  let digits ← readDigits (← fuelOf) []
  skipBlanks
  skipSpace
  let n := Decimal.ofDigits digits
  if digits.isEmpty ∨ n ≥ 0x100000000 then failure
  return n

/-- A counted repetition; its opening brace is in front. -/
def readCounted (before : List Expression) : Parse (List Expression) := do
  let (body, before) ← repeatable before
  advance
  let min ← readCount
  let mut max := some min
  if (← current) == ',' then
    advance
    if (← current) == '\x7d' then max := none
    else max := some (← readCount)
  if (← current) != '\x7d' then failure
  discard bumpSpace
  let greedy ← readGreedy
  if max.any (· < min) then failure
  return .repetition min max greedy body :: before

def flagOf : Char → Option Flag
  | 'i' => some .ignoreCase
  | 'm' => some .multiLine
  | 's' => some .dotAll
  | 'U' => some .swapGreed
  | 'u' => some .unicode
  | 'R' => some .crlf
  | 'x' => some .spaced
  | _ => none

/-- The flags up to the colon or parenthesis that ends them, which is left in front. `dangling`
holds right after the sign that switches off. -/
def readFlags : Nat → FlagList → Bool → Bool → Parse FlagList
  | 0, _, _, _ => failure
  | fuel + 1, flags, off, dangling => do
    let c ← current
    if c == ':' ∨ c == ')' then
      if dangling then failure
      return flags
    else if c == '-' then
      if off then failure
      discard bump
      readFlags fuel flags true true
    else
      match flagOf c with
      | none => failure
      | some f =>
        if flags.any fun g => g.1 == f then failure
        discard bump
        readFlags fuel (flags ++ [(f, !off)]) off false

def isNameChar (first : Bool) (c : Char) : Bool :=
  c == '_' || Character.Recent.alphabetic.mem c
    || (!first && (c == '.' || c == '[' || c == ']' || Character.Recent.number.mem c))

/-- The name of a group up to its closing angle, which is passed over. -/
def readName : Nat → List Char → Parse String
  | 0, _ => failure
  | fuel + 1, acc => do
    let c ← current
    if c == '>' then
      discard bump
      if acc.isEmpty then failure
      return String.ofList acc.reverse
    else
      if !isNameChar acc.isEmpty c then failure
      discard bump
      readName fuel (c :: acc)

/-- Passes over the sign that opens a group with a name if it is in front. -/
def bumpNaming : Parse Bool := do
  if ← bumpIf "?P<" then return true else bumpIf "?<"

/-- What the parenthesis in front opens: the flags of the rest of the group, or a group. -/
def readOpening : Parse (Sum FlagList GroupKind) := do
  discard bump
  skipSpace
  let s ← get
  for lookAround in ["?=", "?!", "?<=", "?<!"] do
    if lookAround.toList.isPrefixOf s.rest then failure
  if ← bumpNaming then
    let index := (← get).captures + 1
    modify fun s => { s with captures := index }
    let name ← readName (← fuelOf) []
    if (← get).names.any fun n => n.1 == name then failure
    modify fun s => { s with names := (name, index) :: s.names }
    return .inr (.captured index (some name))
  else if ← bumpIf "?" then
    let flags ← readFlags (← fuelOf) [] false false
    let closing ← current
    discard bump
    if closing == ')' then
      if flags.isEmpty then failure
      return .inl flags
    else return .inr (.flagged flags)
  else
    let index := (← get).captures + 1
    modify fun s => { s with captures := index }
    return .inr (.captured index none)

/-- The parts of a sequence, the last one first in the list. -/
def sequenceOf : List Expression → Expression
  | [] => .empty
  | [e] => e
  | parts => .sequence parts.reverse

def alternationOf : List Expression → Expression
  | [] => .empty
  | [e] => e
  | branches => .alternation branches.reverse

def Primitive.expression : Primitive → Expression
  | .literal l => .literal l
  | .dot => .dot
  | .assertion a => .assertion a
  | .property p negated => .property p negated
  | .shorthand s negated => .shorthand s negated

def setSpaced (fs : FlagList) : Parse Unit :=
  match fs.find? fun f => f.1 == .spaced with
  | some (_, on) => modify fun s => { s with spaced := on }
  | none => pure ()

/-- Branches and parts up to the end of the group or of the pattern. Both lists hold what has been
read, the last one first. -/
def readBranches : Nat → List Expression → List Expression → Parse Expression
  | 0, _, _ => failure
  | fuel + 1, branches, parts => do
    skipSpace
    match ← peek? with
    | none => return alternationOf (sequenceOf parts :: branches)
    | some ')' => return alternationOf (sequenceOf parts :: branches)
    | some '|' =>
      discard bump
      readBranches fuel (sequenceOf parts :: branches) []
    | some '(' =>
      match ← readOpening with
      | .inl flags =>
        setSpaced flags
        readBranches fuel branches (.flags flags :: parts)
      | .inr kind =>
        let outer := (← get).spaced
        match kind with
        | .flagged flags => setSpaced flags
        | .captured _ _ => pure ()
        let body ← readBranches fuel [] []
        if (← peek?) != some ')' then failure
        modify fun s => { s with spaced := outer }
        discard bump
        readBranches fuel branches (.group kind body :: parts)
    | some '[' =>
      let (negated, body) ← readSet (← fuelOf)
      readBranches fuel branches (.set negated body :: parts)
    | some '?' => readRepeated fuel branches parts 0 (some 1)
    | some '*' => readRepeated fuel branches parts 0 none
    | some '+' => readRepeated fuel branches parts 1 none
    | some '\x7b' =>
      let parts ← readCounted parts
      readBranches fuel branches parts
    | some '\\' =>
      let p ← readEscape
      readBranches fuel branches (p.expression :: parts)
    | some c =>
      discard bump
      let e : Expression :=
        match c with
        | '.' => .dot
        | '^' => .assertion .lineStart
        | '$' => .assertion .lineEnd
        | c => .literal { char := c }
      readBranches fuel branches (e :: parts)
where
  /-- A repetition by a single sign, which is in front. -/
  readRepeated (fuel : Nat) (branches parts : List Expression) (min : Nat) (max : Option Nat) :
      Parse Expression := do
    let (body, before) ← repeatable parts
    discard bump
    let greedy ← readGreedy
    readBranches fuel branches (.repetition min max greedy body :: before)

end Newswire.Pattern.Reader

namespace Newswire.Pattern

/-- A pattern that has been read: its expression, the number of its groups, and the numbers of those
that have names. -/
structure Written where
  body : Expression
  captures : Nat
  names : List (String × Nat)

/-- The expression that a text writes; `none` if the text is refused. -/
def read? (text : String) : Option Written := do
  let cs := text.toList
  let (body, s) ← (Reader.readBranches (2 * cs.length + 2) [] []).run { rest := cs }
  if !s.rest.isEmpty ∨ body.depth > maxDepth then none
  return ⟨body, s.captures, s.names⟩

end Newswire.Pattern
