/-!
# Decimal numbers

When a number in decimal notation is small enough to be kept in double precision.
-/

namespace Newswire.Decimal

/-- The number that decimal digits denote. -/
def ofDigits (ds : List Char) : Nat := ds.foldl (fun n d => n * 10 + (d.toNat - 48)) 0

/-- Halfway from the largest finite number of double precision to the next power of two. -/
def tooLarge : Nat := Nat.pow 2 1024 - Nat.pow 2 970

/-- The number `m * 10 ^ e` rounds to a finite one of double precision. -/
def isFinite (m : Nat) (e : Int) : Bool :=
  if m = 0 then true
  else
    let top := (Nat.repr m).length + e
    if top ≤ 308 then true
    else if top > 310 then false
    else if 0 ≤ e then m * Nat.pow 10 e.toNat < tooLarge
    else m < tooLarge * Nat.pow 10 (-e).toNat

end Newswire.Decimal
