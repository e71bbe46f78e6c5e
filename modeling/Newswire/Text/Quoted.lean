import Newswire.Character.Recent

/-!
# Quoted text

Text between quotes, for messages: what would not show, or would join with the character before it,
is written as an escape with its code point in hexadecimal digits.
-/

namespace Newswire.Text.Quoted

open Character

/-- Characters that leave no mark of their own; the space is not counted among them. -/
def unseen : CharSet := (unions [Recent.other, separator]).diff (.single 0x20)

def codePoint (c : Char) : List Char :=
  "\\u\x7b".toList ++ Nat.toDigits 16 c.toNat ++ ['\x7d']

/-- The characters that stand for one character between quotes of the given kind. -/
def escape (quote c : Char) : List Char :=
  if c = '\x00' then ['\\', '0']
  else if c = '\t' then ['\\', 't']
  else if c = '\r' then ['\\', 'r']
  else if c = '\n' then ['\\', 'n']
  else if c = '\\' ∨ c = quote then ['\\', c]
  else if Recent.graphemeExtend.mem c ∨ unseen.mem c then codePoint c
  else [c]

def text (s : String) : String :=
  String.ofList ('"' :: s.toList.flatMap (escape '"') ++ ['"'])

def char (c : Char) : String := String.ofList ('\'' :: escape '\'' c ++ ['\''])

end Newswire.Text.Quoted
