/-!
# Blank characters

The twenty-five white space characters, and the operations that look at them: trimming a text at
both ends and cutting it into words.
-/

namespace Newswire.Text

/-- White space: the controls U+0009 to U+000D, the space, and the separators beyond ASCII. -/
def isBlank (c : Char) : Bool :=
  let n := c.toNat
  (0x9 ≤ n && n ≤ 0xD) || n == 0x20 || n == 0x85 || n == 0xA0 || n == 0x1680
    || (0x2000 ≤ n && n ≤ 0x200A) || n == 0x2028 || n == 0x2029 || n == 0x202F
    || n == 0x205F || n == 0x3000

/-- The text without the blanks it starts with. -/
def trimStart (cs : List Char) : List Char := cs.dropWhile isBlank

/-- The text without the blanks it ends with. -/
def trimEnd (cs : List Char) : List Char := (cs.reverse.dropWhile isBlank).reverse

/-- The text without the blanks at either end. -/
def trim (cs : List Char) : List Char := trimEnd (trimStart cs)

/-- The maximal runs of characters that are not blank, in order. -/
def words : List Char → List (List Char) :=
  go []
where
  /-- `run` holds the word being read, last character first. -/
  go (run : List Char) : List Char → List (List Char)
    | [] => if run.isEmpty then [] else [run.reverse]
    | c :: rest =>
      if isBlank c then
        if run.isEmpty then go [] rest else run.reverse :: go [] rest
      else go (c :: run) rest

end Newswire.Text

namespace Newswire

/-- The text without the blanks at either end. -/
def trimmed (s : String) : String := String.ofList (Text.trim s.toList)

/-- A text shows something when it holds a character that is not blank. -/
def shows (s : String) : Bool := s.toList.any fun c => !Text.isBlank c

end Newswire
