import Newswire.Character.Case
import Newswire.Character.Recent

/-!
# Lower and upper case of texts

Case is mapped character by character, with one exception: a capital sigma at the end of a word
becomes the final form of the small letter.
-/

namespace Newswire.Text

open Character

/-- Passing over what has no bearing on case, the text starts with a letter that has case. -/
def meetsCased (cs : List Char) : Bool :=
  match cs.dropWhile Recent.caseIgnorable.mem with
  | c :: _ => Recent.cased.mem c
  | [] => false

/-- `before` is the text in front, last character first. -/
def lowerFrom (before : List Char) : List Char → List Char
  | [] => []
  | c :: rest =>
    let image :=
      if c = 'Σ' then [if meetsCased before && !meetsCased rest then 'ς' else 'σ'] else lower c
    image ++ lowerFrom (c :: before) rest

def toLower (cs : List Char) : List Char := lowerFrom [] cs

def toUpper (cs : List Char) : List Char := cs.flatMap upper

end Newswire.Text
