import Newswire.Fields
import Newswire.Text.Digest

/-!
# Articles

An article of a feed is a map of flattened fields, together with the fields as the feed gave them.
Its identity is a digest that stays the same when the feed is fetched again.
-/

namespace Newswire

structure Article where
  flattened : Fields := .empty
  raw : Fields := .empty
  deriving Repr, DecidableEq, Inhabited

namespace Article

/-- The field that holds the identity of an article which brings its own. -/
def identityField : String := "idHash"

/-- The value of a field, if it is there and not empty. -/
def filled? (a : Article) (name : String) : Option String :=
  (a.flattened.get? name).filter (· != "")

/-- All fields, one to a line, in the order of their names. -/
def listing (a : Article) : String :=
  String.intercalate "\n" (a.flattened.entries.map fun e => e.1 ++ "=" ++ e.2)

/-- The identity of an article: the one it brings; else a digest of title and link, of the link
alone, of an identifier of the feed, or of all fields, whichever comes first. -/
def identity (a : Article) : String :=
  match a.filled? identityField with
  | some hash => hash
  | none =>
    match a.filled? "title", a.filled? "link" with
    | some title, some link => Text.digest (title ++ link)
    | none, some link => Text.digest link
    | _, none =>
      match (a.filled? "id").or (a.filled? "guid") with
      | some id => Text.digest id
      | none => Text.digest a.listing

/-- A field as the feed gave it, or else as it was flattened. -/
def given? (a : Article) (name : String) : Option String :=
  (a.raw.get? name).or (a.flattened.get? name)

def decode : Json.Decoder Article :=
  Json.record {}
    [.requires "flattened" Fields.decode fun fs a => { a with flattened := fs },
     .allows "raw" Fields.decode fun fs a => { a with raw := fs }]

def encode (a : Article) : Json :=
  .obj [("flattened", a.flattened.encode), ("raw", a.raw.encode)]

end Article

end Newswire
