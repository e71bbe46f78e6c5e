import Newswire.Character.Category
import Newswire.Character.Property

/-!
# Unicode 17

Patterns go by Unicode 16, and so do the tables of categories and properties. By the version after
it go texts, where their case is mapped and where they are quoted, and the names that patterns give
to their groups. Here are the characters that this version adds to the sets which these depend on.
-/

namespace Newswire.Character.Recent

/-- The characters that no version before this one had. -/
def added : CharSet :=
  .ofTable
    "88f 1 3cc 1 7f 1 df2 f 2 c 5d5 1 ad4 1 7c37 2 2 1 1 1 1c 1 53d1 10 1bd 2 36 7 b71 1a 56b 3 8 9
    21 2 c64 8 248 2c 4 a 50b6 19 2 19 11e 5 1801 8 509 16 61 73 3f07 3 1bd 17 f 11 17cf 1f 1 16 8 2
    fd8 1 9e 4 155 9 17b 4 32 1 3 1 39 1 4 1 1c 1 4 1 10a 1 bb3f 6 1762 c 5502 10ca"

def alphabetic : CharSet :=
  Character.alphabetic.union <| .ofTable
    "88f 1 3cc 1 7f 1 9af1 2 2 1 1 1 1c 1 614e 1a 56b 3 32 2 c64 8 248 2c 50c4 19 2 19 11e 5 1801 8
    509 16 61 73 58cd 1f 1 16 8 2 d03a 6 1762 c 5502 10ca"

/-- The letter that writes a pharyngeal sound has lost its case. -/
def cased : CharSet :=
  (Character.cased.diff (.single 0x295)).union <| .ofTable
    "a7ce 2 2 1 1 1 1c 1 c6ae 19 2 19"

def caseIgnorable : CharSet :=
  Character.caseIgnorable.union <| .ofTable
    "1acf f 2 c 8d05 1 66d3 1 34 2 c64 1 1 3 1 1 272 1 5218 2 76ef 1 2 1 7 2 5 1 9 1"

def graphemeExtend : CharSet :=
  Character.graphemeExtend.union <| .ofTable
    "1acf f 2 c f40e 2 c64 1 1 3 1 1 cb7c 1 2 1 7 2 5 1"

def number : CharSet :=
  Character.number.union <| .ofTable
    "11de0 a 520a 3"

/-- What belongs to the category of others, to which no new character does. -/
def other : CharSet := Character.other.diff added

end Newswire.Character.Recent
