import Newswire.Calendar.Date
import Newswire.Text.Scan
import Newswire.Toml.Basic

/-!
# Reading TOML

A document is read line by line: headers say which table the lines behind them belong to, and the
other lines add values to it. A fault anywhere refuses the whole document.
-/

namespace Newswire.Toml

open Scan

/-- The number of levels that values and dotted keys may have. -/
def maxLevels : Nat := 79

def isSpace (c : Char) : Bool := c == ' ' || c == '\t'

def spaces : Scan Unit := discard (span isSpace)

/-- A character that may stand in a comment. -/
def isVisible (c : Char) : Bool := c != '\x7f' && (c == '\t' || 0x20 ≤ c.toNat)

def comment : Scan Unit := do
  exactly '#'
  discard (span isVisible)

def newline : Scan Unit := either (exactly '\n') (word ['\r', '\n'])

/-- Blanks and a comment up to the end of the line or of the text. -/
def lineEnd : Scan Unit := do
  spaces
  discard (tried comment)
  either newline atEnd

/-- Blanks, comments and line breaks; `fuel` bounds their number. -/
def filler : Nat → Scan Unit
  | 0 => pure ()
  | fuel + 1 => do
    spaces
    match ← tried (either comment newline) with
    | some _ => filler fuel
    | none => pure ()

/-- As much filler as comes. -/
def allFiller : Scan Unit := do filler (← get).length

/-! ## Strings -/

/-- A character of a string of one line between quotes of that kind. -/
def isPlain (quote c : Char) : Bool :=
  c != quote && isVisible c

def hexValue (ds : List Char) : Option Nat :=
  ds.foldlM (fun n d =>
    if d.isDigit then some (16 * n + (d.toNat - 48))
    else if 'a' ≤ d ∧ d ≤ 'f' then some (16 * n + (d.toNat - 87))
    else if 'A' ≤ d ∧ d ≤ 'F' then some (16 * n + (d.toNat - 55))
    else none) 0

/-- The character of a number of so many hexadecimal digits. -/
def codePoint (count : Nat) : Scan Char := fun cs => do
  let ds := cs.take count
  guard (ds.length = count)
  let n ← hexValue ds
  guard n.isValidChar
  return (Char.ofNat n, cs.drop count)

/-- What stands behind a backslash. -/
def escaped : Scan Char := do
  match ← char fun _ => true with
  | 'b' => return '\x08'
  | 't' => return '\t'
  | 'n' => return '\n'
  | 'f' => return '\x0c'
  | 'r' => return '\r'
  | '"' => return '"'
  | '\\' => return '\\'
  | 'u' => codePoint 4
  | 'U' => codePoint 8
  | _ => failure

/-- The rest of a string in double quotes on one line. -/
def basicRest : Nat → Scan (List Char)
  | 0 => failure
  | fuel + 1 => do
    match ← char fun _ => true with
    | '"' => return []
    | '\\' => do
      let c ← escaped
      return c :: (← basicRest fuel)
    | c => do
      guard (isPlain '"' c)
      return c :: (← basicRest fuel)

/-- The rest of a string in single quotes on one line. -/
def literalRest : Scan (List Char) := do
  let cs ← span (isPlain '\'')
  exactly '\''
  return cs

/-- Quotes at the end of a string of several lines: three of them close it, and one or two more in
front of these belong to it. -/
def closing (quote : Char) : Scan (Option (List Char)) := fun cs =>
  let n := (cs.takeWhile (· == quote)).length
  if n < 3 then some (none, cs)
  else
    let own := min (n - 3) 2
    some (some (List.replicate own quote), cs.drop (own + 3))

/-- A line break that a backslash takes away, with the blanks and line breaks around it. -/
def skippedBreak : Scan Unit := do
  exactly '\\'
  spaces
  newline
  modify fun cs => dropBreaks cs.length cs
where
  dropBreaks : Nat → List Char → List Char
    | 0, cs => cs
    | fuel + 1, cs =>
      match cs with
      | '\r' :: '\n' :: rest => dropBreaks fuel rest
      | c :: rest => if isSpace c || c == '\n' then dropBreaks fuel rest else cs
      | [] => []

/-- The rest of a string of several lines; only one in double quotes has escapes. -/
def longRest (quote : Char) : Nat → Scan (List Char)
  | 0 => failure
  | fuel + 1 => do
    match ← closing quote with
    | some own => return own
    | none =>
      match ← tried newline with
      | some _ => return '\n' :: (← longRest quote fuel)
      | none =>
        if quote == '"' && (← get).head? == some '\\' then
          match ← tried skippedBreak with
          | some _ => longRest quote fuel
          | none => do
            exactly '\\'
            let c ← escaped
            return c :: (← longRest quote fuel)
        else do
          let c ← char isVisible
          return c :: (← longRest quote fuel)

/-- A string of one line. -/
def shortText : Scan String := do
  let fuel := (← get).length
  match ← char fun c => c == '"' || c == '\'' with
  | '"' => String.ofList <$> basicRest fuel
  | _ => String.ofList <$> literalRest

def longText (quote : Char) : Scan String := do
  word [quote, quote, quote]
  discard (tried newline)
  String.ofList <$> longRest quote (← get).length

def textValue : Scan String :=
  either (longText '"') (either (longText '\'') shortText)

/-! ## Numbers and dates -/

/-- Digits of some kind, between any two of which an underscore may stand; it is left out. -/
def digitsOf (isDigit : Char → Bool) : Scan (List Char) := fun cs =>
  let run := cs.takeWhile fun c => isDigit c || c == '_'
  let parts := run.splitBy fun a b => (a == '_') == (b == '_')
  if run.head?.any isDigit && run.getLast?.any isDigit
      && parts.all fun p => p.head? != some '_' || p.length == 1 then
    some (run.filter (· != '_'), cs.drop run.length)
  else none

def isHex (c : Char) : Bool := c.isDigit || ('a' ≤ c && c ≤ 'f') || ('A' ≤ c && c ≤ 'F')

/-- A number that fits sixty-four bits with a sign. -/
def fitting (n : Int) : Scan Toml :=
  if -0x8000000000000000 ≤ n ∧ n < 0x8000000000000000 then pure (.whole n) else failure

def inBase (base : Nat) (ds : List Char) : Nat :=
  ds.foldl (fun n d => base * n + (hexValue [d]).getD 0) 0

def based (mark : Char) (base : Nat) (isDigit : Char → Bool) : Scan Toml := do
  word ['0', mark]
  fitting (inBase base (← digitsOf isDigit))

/-- The sign and the digits of a decimal number, which has no zero in front. -/
def decimal : Scan (List Char × List Char) := do
  let sign ← tried (char fun c => c == '+' || c == '-')
  let ds ← digitsOf Char.isDigit
  guard (ds.length = 1 ∨ ds.head? ≠ some '0')
  return (sign.toList, ds)

def integer : Scan Toml := do
  let (sign, ds) ← decimal
  let n := Decimal.ofDigits ds
  fitting (if sign = ['-'] then -(n : Int) else n)

def exponent : Scan Int := do
  discard (char fun c => c == 'e' || c == 'E')
  let sign ← tried (char fun c => c == '+' || c == '-')
  let n : Int := Decimal.ofDigits (← digitsOf Char.isDigit)
  return if sign = some '-' then -n else n

def fraction : Scan (List Char) := do
  exactly '.'
  digitsOf Char.isDigit

/-- A number with a fraction or an exponent. One too large for double precision is refused, though
not one too far below zero. -/
def float : Scan Toml := do
  let start ← get
  let (sign, ds) ← decimal
  let places := (← tried fraction).getD []
  let e ← if places.isEmpty then exponent else (·.getD 0) <$> tried exponent
  guard (sign = ['-'] ∨ Decimal.isFinite (Decimal.ofDigits (ds ++ places)) (e - places.length))
  return .real (String.ofList (start.take (start.length - (← get).length)))

def specialFloat : Scan Toml := do
  let sign ← tried (char fun c => c == '+' || c == '-')
  let name ← either (do word "inf".toList; pure "inf") (do word "nan".toList; pure "nan")
  return .real (String.ofList sign.toList ++ name)

/-- Two digits that denote at most `most`. -/
def upTo (most : Nat) : Scan Unit := do guard ((← number 2 2) ≤ most)

def day : Scan Unit := do
  let year ← number 4 4
  exactly '-'
  let month ← number 2 2
  exactly '-'
  let day ← number 2 2
  guard (1 ≤ month ∧ month ≤ 12 ∧ 1 ≤ day ∧ day ≤ Calendar.monthLength year month)

def time : Scan Unit := do
  upTo 23
  exactly ':'
  upTo 59
  exactly ':'
  upTo 60
  discard (tried (do exactly '.'; allDigits 1))

def timeOffset : Scan Unit :=
  either (discard (char fun c => c == 'Z' || c == 'z')) do
    discard (char fun c => c == '+' || c == '-')
    upTo 23
    exactly ':'
    upTo 59

def dateValue : Scan Toml := do
  let start ← get
  either (do
    day
    discard (tried (do
      discard (char fun c => c == 'T' || c == 't' || c == ' ')
      time
      discard (tried timeOffset)))) time
  return .date (String.ofList (start.take (start.length - (← get).length)))

/-- A number or a date, whichever takes off more. -/
def numberValue : Scan Toml :=
  either dateValue <| either float <| either specialFloat <|
    either (based 'x' 16 isHex) <|
    either (based 'o' 8 fun c => '0' ≤ c && c ≤ '7') <|
    either (based 'b' 2 fun c => c == '0' || c == '1') integer

/-! ## Keys and values -/

def isBare (c : Char) : Bool := c.isAlphanum || c == '-' || c == '_'

def bareKey : Scan String := do
  let cs ← span isBare
  guard !cs.isEmpty
  return String.ofList cs

def simpleKey : Scan String := either shortText bareKey

/-- The parts of a key behind dots. -/
def moreKeys : Nat → Scan (List String)
  | 0 => pure []
  | fuel + 1 => do
    match ← tried (do spaces; exactly '.'; spaces; simpleKey) with
    | some k => return k :: (← moreKeys fuel)
    | none => return []

/-- A key: the parts that lead to a table, and the part that names the value in it. -/
def key : Scan (List String × String) := do
  spaces
  let k ← simpleKey
  let more ← moreKeys (← get).length
  spaces
  let parts := k :: more
  guard (parts.length ≤ maxLevels)
  return (parts.dropLast, parts.getLast?.getD k)

/-- Items with commas between them. Behind the last item there may be a comma, if that is
allowed. -/
def items {α : Type} (item : Scan α) (trailing : Bool) (close : Char) : Nat → Scan (List α)
  | 0 => failure
  | fuel + 1 => do
    let a ← item
    match ← char fun c => c == ',' || c == close with
    | ',' =>
      if trailing then
        match ← tried (do allFiller; exactly close) with
        | some _ => return [a]
        | none => return a :: (← items item trailing close fuel)
      else return a :: (← items item trailing close fuel)
    | _ => return [a]

/-- The entries of an inline table. -/
def entriesOf (pairs : List ((List String × String) × Toml)) : Option Entries :=
  pairs.foldlM (fun es p => Entries.add p.1.1 p.1.2 p.2 es) []

/-- A value of at most so many levels. -/
def value : Nat → Scan Toml
  | 0 => failure
  | levels + 1 => do
    let fuel := (← get).length
    match (← get).head? with
    | some '"' => Toml.text <$> textValue
    | some '\'' => Toml.text <$> textValue
    | some 't' => do
      word "true".toList
      return .flag true
    | some 'f' => do
      word "false".toList
      return .flag false
    | some '[' => do
      guard (0 < levels)
      exactly '['
      allFiller
      match ← tried (exactly ']') with
      | some _ => return .list []
      | none =>
        let item : Scan Toml := do
          allFiller
          let v ← value levels
          allFiller
          return v
        return .list (← items item true ']' fuel)
    | some '\x7b' => do
      guard (0 < levels)
      exactly '\x7b'
      spaces
      match ← tried (exactly '\x7d') with
      | some _ => return .table .inline []
      | none =>
        let item : Scan ((List String × String) × Toml) := do
          let k ← key
          exactly '='
          spaces
          let v ← value levels
          spaces
          return (k, v)
        match entriesOf (← items item false '\x7d' fuel) with
        | some es => return .table .inline es
        | none => failure
    | _ => numberValue

/-! ## Documents -/

/-- A line of a document. -/
inductive Line where
  | entry (path : List String) (key : String) (v : Toml)
  | header (path : List String) (key : String)
  | nextHeader (path : List String) (key : String)

def line : Scan Line := do
  match ← tried (word ['[', '[']) with
  | some _ => do
    let (path, k) ← key
    word [']', ']']
    return .nextHeader path k
  | none =>
    match ← tried (exactly '[') with
    | some _ => do
      let (path, k) ← key
      exactly ']'
      return .header path k
    | none => do
      let (path, k) ← key
      exactly '='
      spaces
      return .entry path k (← value (maxLevels + 1))

/-- The lines of a text that say something. -/
def lines : Nat → Scan (List Line)
  | 0 => failure
  | fuel + 1 => do
    allFiller
    match ← tried atEnd with
    | some _ => return []
    | none => do
      let l ← line
      lineEnd
      return l :: (← lines fuel)

/-- A document that is being put together: its entries, and the table that lines belong to. -/
structure Draft where
  root : Entries := []
  place : List String := []

def Draft.take (d : Draft) : Line → Option Draft
  | .entry path k v =>
    (Entries.changeAt (Entries.add path k v) d.place d.root).map fun root => { d with root }
  | .header path k =>
    (Entries.changeAt (Entries.define k) path d.root).map fun root => ⟨root, path ++ [k]⟩
  | .nextHeader path k =>
    (Entries.changeAt (Entries.defineNext k) path d.root).map fun root => ⟨root, path ++ [k]⟩

/-- The table that a text denotes. A mark of the byte order in front is passed over. -/
def read? (s : String) : Option Entries := do
  let cs := match s.toList with
    | '\ufeff' :: rest => rest
    | cs => cs
  let (ls, _) ← lines (cs.length + 1) cs
  let d ← ls.foldlM Draft.take {}
  return d.root

end Newswire.Toml
