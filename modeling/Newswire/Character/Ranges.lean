import Newswire.Text.Blank

/-!
# Sets of characters

A set is kept as the ranges of code points it consists of: inclusive, in increasing order, and with
a gap between any two. The operations keep that form, so two sets with the same characters have the
same ranges.
-/

namespace Newswire

structure CharSet where
  ranges : Array (Nat × Nat)
  deriving Repr, DecidableEq, Inhabited

namespace CharSet

/-- The greatest code point. -/
def top : Nat := 0x10FFFF

def empty : CharSet := ⟨#[]⟩

def all : CharSet := ⟨#[(0, top)]⟩

def single (n : Nat) : CharSet := ⟨#[(n, n)]⟩

def range (lo hi : Nat) : CharSet := if lo ≤ hi then ⟨#[(lo, hi)]⟩ else empty

/-- Looks for `n` among the ranges with index at least `lo` and below `hi`. -/
def search (ranges : Array (Nat × Nat)) (n : Nat) : Nat → Nat → Nat → Bool
  | 0, _, _ => false
  | fuel + 1, lo, hi =>
    if lo < hi then
      let mid := (lo + hi) / 2
      let (a, b) := ranges.getD mid (0, 0)
      if n < a then search ranges n fuel lo mid
      else if b < n then search ranges n fuel (mid + 1) hi
      else true
    else false

/-- Membership of a code point. The interval of a search of `k` ranges is halved at most
`log₂ k + 1` times. -/
def memNat (s : CharSet) (n : Nat) : Bool :=
  search s.ranges n (s.ranges.size.log2 + 2) 0 s.ranges.size

def mem (s : CharSet) (c : Char) : Bool := s.memNat c.toNat

/-- Adds a range that starts no earlier than those before it. -/
def append (out : Array (Nat × Nat)) (r : Nat × Nat) : Array (Nat × Nat) :=
  if r.2 < r.1 then out
  else
    match out.back? with
    | none => #[r]
    | some (a, b) => if r.1 ≤ b + 1 then out.pop.push (a, max b r.2) else out.push r

/-- The set with the given ranges, in whatever order and overlap. -/
def ofRanges (rs : List (Nat × Nat)) : CharSet :=
  ⟨(rs.mergeSort fun r s => decide (r.1 ≤ s.1)).foldl append #[]⟩

def union (s t : CharSet) : CharSet :=
  if s.ranges.isEmpty then t
  else if t.ranges.isEmpty then s
  else ofRanges (s.ranges.toList ++ t.ranges.toList)

/-- The ranges between those of the set, from `start` on. -/
def gaps (start : Nat) : List (Nat × Nat) → List (Nat × Nat)
  | [] => if start ≤ top then [(start, top)] else []
  | (a, b) :: rest => if start < a then (start, a - 1) :: gaps (b + 1) rest else gaps (b + 1) rest

def negate (s : CharSet) : CharSet := ⟨(gaps 0 s.ranges.toList).toArray⟩

def inter (s t : CharSet) : CharSet := (s.negate.union t.negate).negate

def diff (s t : CharSet) : CharSet := s.inter t.negate

def symmDiff (s t : CharSet) : CharSet := (s.union t).diff (s.inter t)

/-- The set has no character outside ASCII. -/
def isAscii (s : CharSet) : Bool := s.ranges.all fun r => r.2 < 0x80

/-- The number written in hexadecimal digits. -/
def hexNumber (cs : List Char) : Nat :=
  cs.foldl (fun n c => n * 16 + (if c.isDigit then c.toNat - 48 else c.toNat - 87)) 0

/-- The numbers of a table: hexadecimal, with blanks between them. -/
def numbers (table : String) : List Nat :=
  (Text.words table.toList).map hexNumber

/-- Ranges from a list that says in turn how many code points to pass over and how many to take. -/
def ofRuns (start : Nat) (out : Array (Nat × Nat)) : List Nat → Array (Nat × Nat)
  | skip :: take :: rest =>
    let first := start + skip
    ofRuns (first + take) (append out (first, first + take - 1)) rest
  | _ => out

def ofTable (table : String) : CharSet := ⟨ofRuns 0 #[] (numbers table)⟩

end CharSet

namespace Character

def unions (sets : List CharSet) : CharSet := .ofRanges (sets.flatMap fun s => s.ranges.toList)

end Character

end Newswire
