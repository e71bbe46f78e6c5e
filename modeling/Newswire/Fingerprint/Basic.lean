import Newswire.Article
import Newswire.Text.Digest

/-!
# Fingerprints

A fingerprint says that a value of a field has been seen in a feed. Values are kept as they are or
as digests; long ones always as digests.
-/

namespace Newswire

structure Fingerprint where
  feed : String
  field : String
  value : String
  isDigest : Bool
  /-- When it was made, in whole milliseconds. -/
  created : Int
  deriving Repr, DecidableEq

namespace Fingerprint

/-- The longest value that may be kept as it is. -/
def maxLength : Nat := 256

/-- How values are kept: as digests, or as they are where that is allowed. -/
structure Policy where
  digests : Bool := true
  deriving Repr, DecidableEq, Inhabited

/-- The form in which a value is kept, and whether it is a digest. -/
def Policy.kept (p : Policy) (value : String) : String × Bool :=
  if p.digests || maxLength < value.length then (Text.digest value, true) else (value, false)

end Fingerprint

/-- The fingerprints of all feeds, each value of a field of a feed once. -/
structure Fingerprints where
  rows : List Fingerprint := []
  deriving Repr, DecidableEq, Inhabited

namespace Fingerprints

def holds (fs : Fingerprints) (feed field value : String) : Bool :=
  fs.rows.any fun f => f.feed == feed && f.field == field && f.value == value

/-- Those of the values that have been seen. -/
def seen (fs : Fingerprints) (feed field : String) (values : List String) : List String :=
  values.filter (fs.holds feed field)

/-- Some value of the field has been seen. -/
def hasField (fs : Fingerprints) (feed field : String) : Bool :=
  fs.rows.any fun f => f.feed == feed && f.field == field

def insert (fs : Fingerprints) (f : Fingerprint) : Fingerprints :=
  if fs.holds f.feed f.field f.value then fs else ⟨fs.rows ++ [f]⟩

/-- Adds fingerprints and gives the number of those that were not there yet. -/
def insertAll (fs : Fingerprints) (new : List Fingerprint) : Nat × Fingerprints :=
  let result := new.foldl insert fs
  (result.rows.length - fs.rows.length, result)

/-- Removes the fingerprints of a feed and gives their number. -/
def delete (fs : Fingerprints) (feed : String) : Nat × Fingerprints :=
  ((fs.rows.filter (·.feed == feed)).length, ⟨fs.rows.filter (·.feed != feed)⟩)

end Fingerprints

end Newswire
