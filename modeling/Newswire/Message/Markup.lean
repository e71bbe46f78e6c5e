import Newswire.Pattern.Node
import Newswire.Text.Blank
import Newswire.Text.Reference

/-!
# Markup

Images are taken out of a text, and tables are laid out in columns between two fences. Markup is
recognised by its form alone: a tag runs from its name to the next closing angle, and an element to
the first closing tag of its name.
-/

namespace Newswire.Message.Markup

/-- What stands at the front of a text: how many characters it takes after its first one, and the
text that is put in its place. -/
structure Hit where
  behind : Nat
  text : List Char

/-- Puts the text of every hit in its place, from left to right; `skip` characters are still part of
the last one. -/
def substituteFrom (hit : List Char → Option Hit) : Nat → List Char → List Char
  | _, [] => []
  | skip + 1, _ :: rest => substituteFrom hit skip rest
  | 0, c :: rest =>
    match hit (c :: rest) with
    | some h => h.text ++ substituteFrom hit h.behind rest
    | none => c :: substituteFrom hit 0 rest

def substitute (hit : List Char → Option Hit) (text : List Char) : List Char :=
  substituteFrom hit 0 text

/-- The texts of all hits, from left to right. -/
def gatherFrom (hit : List Char → Option Hit) : Nat → List Char → List (List Char)
  | _, [] => []
  | skip + 1, _ :: rest => gatherFrom hit skip rest
  | 0, c :: rest =>
    match hit (c :: rest) with
    | some h => h.text :: gatherFrom hit h.behind rest
    | none => gatherFrom hit 0 rest

def gather (hit : List Char → Option Hit) (text : List Char) : List (List Char) :=
  gatherFrom hit 0 text

/-- The text behind the first `c`, if there is one. -/
def behindFirst (c : Char) : List Char → Option (List Char)
  | [] => none
  | d :: rest => if d = c then some rest else behindFirst c rest

/-- The text behind a word given in lower case, if the text starts with it in whatever case. -/
def behindWord : List Char → List Char → Option (List Char)
  | [], rest => some rest
  | w :: word, c :: rest => if c.toLower = w then behindWord word rest else none
  | _ :: _, [] => none

/-- A word ends in front of the text. -/
def endsWord : List Char → Bool
  | [] => true
  | c :: _ => !Pattern.wordChars.mem c

/-- The text behind an opening tag of that name. -/
def behindOpening (name : List Char) : List Char → Option (List Char)
  | '<' :: rest => do
    let rest ← behindWord name rest
    if endsWord rest then behindFirst '>' rest else none
  | _ => none

/-- The text behind a closing tag of that name. -/
def behindClosing (name : List Char) : List Char → Option (List Char)
  | '<' :: '/' :: rest => do
    let rest ← behindWord name rest
    match rest.dropWhile Text.isBlank with
    | '>' :: after => some after
    | _ => none
  | _ => none

/-- The text up to the first closing tag with one of the names, and the text behind that tag. -/
def cutAtClosing (names : List (List Char)) : List Char → Option (List Char × List Char)
  | [] => none
  | c :: rest =>
    match names.findSome? fun name => behindClosing name (c :: rest) with
    | some after => some ([], after)
    | none => (cutAtClosing names rest).map fun p => (c :: p.1, p.2)

/-- A hit on the whole text `cs` up to `after`. -/
def hitUpTo (cs after text : List Char) : Hit := ⟨cs.length - after.length - 1, text⟩

/-- An element with one of the names: its content. A closing tag may have any of the names. -/
def element (names : List (List Char)) (cs : List Char) : Option Hit := do
  let body ← names.findSome? fun name => behindOpening name cs
  let (content, after) ← cutAtClosing names body
  return hitUpTo cs after content

/-- An image tag. -/
def imageTag (cs : List Char) : Option Hit :=
  (behindOpening ['i', 'm', 'g'] cs).map fun after => hitUpTo cs after []

/-- An image written as an exclamation mark, a text in brackets and an address in parentheses. -/
def imageLink (cs : List Char) : Option Hit :=
  match cs with
  | '!' :: '[' :: rest => do
    match ← behindFirst ']' rest with
    | '(' :: rest => return hitUpTo cs (← behindFirst ')' rest) []
    | _ => none
  | _ => none

/-- The text without its images: first without image tags, then without image links. -/
def stripImages (text : List Char) : List Char := substitute imageLink (substitute imageTag text)

/-- Anything between angles, for which a space is put. -/
def anyTag (cs : List Char) : Option Hit :=
  match cs with
  | '<' :: c :: rest =>
    if c = '>' then none else (behindFirst '>' (c :: rest)).map fun after => hitUpTo cs after [' ']
  | _ => none

/-- The greatest width of a column. -/
def maxWidth : Nat := 60

/-- The text of a cell: without tags, with character references resolved where all of them are
known, on one line, and cut at the greatest width. -/
def cellText (html : List Char) : List Char :=
  let text := substitute anyTag html
  let text := (Text.Reference.resolve text).getD text
  (List.intercalate [' '] (Text.words text)).take maxWidth

/-- The cells of a table body, by rows; rows without cells are left out. -/
def rowsOf (body : List Char) : List (List (List Char)) :=
  (gather (element [['t', 'r']]) body).map
      (fun row => (gather (element [['t', 'h'], ['t', 'd']]) row).map cellText)
    |>.filter (!·.isEmpty)

/-- The width of column `k`: that of its widest cell. -/
def width (rows : List (List (List Char))) (k : Nat) : Nat :=
  (rows.map fun row => (row[k]?.getD []).length).foldl max 0

def columns (rows : List (List (List Char))) : Nat := (rows.map List.length).foldl max 0

def padTo (n : Nat) (cell : List Char) : List Char := cell ++ List.replicate (n - cell.length) ' '

/-- A row as a line: its cells padded to their columns with two spaces between them. -/
def line (widths : List Nat) (row : List (List Char)) : List Char :=
  Text.trimEnd (List.intercalate [' ', ' ']
    (widths.zipIdx.map fun w => padTo w.1 (row[w.2]?.getD [])))

def fence : List Char := "```".toList

/-- A table body laid out in columns; nothing if there are no cells. -/
def layOut (body : List Char) : List Char :=
  let rows := rowsOf body
  if rows.isEmpty then []
  else
    let widths := (List.range (columns rows)).map (width rows)
    fence ++ '\n' :: rows.flatMap (fun row => line widths row ++ ['\n']) ++ fence

/-- A table, for which its layout is put. -/
def table (cs : List Char) : Option Hit :=
  (element [['t', 'a', 'b', 'l', 'e']] cs).map fun h => { h with text := layOut h.text }

def formatTables (text : List Char) : List Char := substitute table text

end Newswire.Message.Markup
