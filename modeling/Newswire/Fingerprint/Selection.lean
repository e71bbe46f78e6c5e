import Newswire.Calendar.Moment.Reader
import Newswire.Store.Action

/-!
# Choosing articles

Of the articles of a feed those are chosen that have not been seen before, and of those that have
been seen the ones whose passing fields have changed. New articles with a blocking value that was
seen before are held back. What is learnt about the articles is stored only after their delivery, so
that a run that was broken off chooses the same articles again.
-/

namespace Newswire

namespace Selection

structure Options where
  /-- A change in these fields lets an article through again. -/
  passing : List String := []
  /-- A value of these fields that was seen before holds a new article back. -/
  blocking : List String := []
  /-- The greatest age of an article, in seconds. -/
  maxAge : Option Int := none
  /-- The fields in which the date of an article is looked for. -/
  dateFields : List String := []
  /-- The articles of the first run are only stored. -/
  skipInitial : Bool := false
  deriving Repr, DecidableEq, Inhabited

/-- The list with only the first of equal items. -/
def distinct (names : List String) : List String :=
  names.foldl (fun kept name => if kept.contains name then kept else kept ++ [name]) []

/-- The fields that are compared, the blocking ones first. -/
def Options.compared (o : Options) : List String := distinct (o.blocking ++ o.passing)

def defaultDateFields : List String := ["date", "pubdate"]

end Selection

/-- What has been chosen. -/
structure Selection where
  /-- The articles to deliver, the oldest first. -/
  deliver : List Article := []
  /-- The number of new articles that were held back. -/
  blocked : Nat := 0
  /-- The number of articles that were let through again. -/
  passed : Nat := 0
  firstRun : Bool := false
  /-- The fingerprints to store after delivery. -/
  pending : List Fingerprint := []
  deriving Repr, DecidableEq, Inhabited

namespace Selection

/-- The fingerprint of the identity of an article. -/
def identity (feed : String) (now : Instant) (a : Article) : Fingerprint :=
  ⟨feed, Article.identityField, a.identity, false, now.millis⟩

/-- The fingerprint of a field that is filled. -/
def fieldPrint? (p : Fingerprint.Policy) (feed : String) (now : Instant) (a : Article)
    (name : String) : Option Fingerprint :=
  (a.filled? name).map fun value =>
    let (value, isDigest) := p.kept value
    ⟨feed, name, value, isDigest, now.millis⟩

/-- The names in their order, each once, without that of the identity. -/
def sortedNames (names : List String) : List String :=
  (distinct (names.filter (· != Article.identityField))).mergeSort fun a b => a ≤ b

/-- The fingerprints of the fields of an article, in the order of their names. -/
def fieldPrints (p : Fingerprint.Policy) (feed : String) (now : Instant) (names : List String)
    (a : Article) : List Fingerprint :=
  (sortedNames names).filterMap (fieldPrint? p feed now a)

/-- Identity and fields of an article. -/
def allPrints (p : Fingerprint.Policy) (feed : String) (now : Instant) (names : List String)
    (a : Article) : List Fingerprint :=
  identity feed now a :: fieldPrints p feed now names a

/-- The date of an article: the first of the fields that can be read as one. -/
def dateOf? (a : Article) (fields : List String) : Option Calendar.Moment :=
  fields.findSome? fun name => (a.given? name).bind Calendar.Moment.read?

/-- The article is not too old. One without a date never is. -/
def isRecent (o : Options) (now : Instant) (a : Article) : Bool :=
  match o.maxAge with
  | none => true
  | some seconds =>
    match dateOf? a (if o.dateFields.isEmpty then defaultDateFields else o.dateFields) with
    | none => true
    | some date => (Calendar.Moment.ofInstant now).nanosSince date ≤ seconds * 1000000000

/-- Keeps the items that pass the test. -/
def keepM {α : Type} (test : α → Store.Action Bool) : List α → Store.Action (List α)
  | [] => pure []
  | a :: rest => do
    let keep ← test a
    let rest ← keepM test rest
    return if keep then a :: rest else rest

/-- One of the fields has a value that was seen before. -/
def anySeen (p : Fingerprint.Policy) (feed : String) (a : Article) : List String → Store.Action Bool
  | [] => pure false
  | name :: rest =>
    match a.filled? name with
    | none => anySeen p feed a rest
    | some value => do
      let found ← Store.seenValues feed name [(p.kept value).1]
      if found.isEmpty then anySeen p feed a rest else return true

/-- Some of the fields of the article is filled, and none of them has a value seen before. -/
def hasChanged (p : Fingerprint.Policy) (feed : String) (names : List String) (a : Article) :
    Store.Action Bool := do
  if names.any fun name => (a.filled? name).isSome then return !(← anySeen p feed a names)
  else return false

/-- Chooses among the articles of a feed. -/
def choose (p : Fingerprint.Policy) (feed : String) (articles : List Article) (o : Options)
    (now : Instant) : Store.Action Selection := do
  if articles.isEmpty then return {}
  let hasPrior ← Store.hasField feed Article.identityField
  if !hasPrior && o.skipInitial then
    return { firstRun := true, pending := articles.flatMap (allPrints p feed now o.compared) }
  let active ← keepM (Store.hasField feed) o.compared
  let seenIds ← Store.seenValues feed Article.identityField (articles.map Article.identity)
  let (seen, fresh) := articles.partition fun a => seenIds.contains a.identity
  let blocking := o.blocking.filter active.contains
  let passing := o.passing.filter active.contains
  let unblocked ← keepM (fun a => (!·) <$> anySeen p feed a blocking) fresh
  let changed ← keepM (hasChanged p feed passing) seen
  let unstored := o.compared.filter fun name => !active.contains name
  return {
    deliver := (unblocked ++ changed).reverse.filter (isRecent o now)
    blocked := fresh.length - unblocked.length
    passed := changed.length
    pending := fresh.flatMap (allPrints p feed now o.compared)
      ++ changed.flatMap (fieldPrints p feed now passing)
      ++ seen.flatMap (fieldPrints p feed now unstored) }

/-- Stores fingerprints; where there are none no call is made. -/
def commit (pending : List Fingerprint) : Store.Action Nat :=
  if pending.isEmpty then pure 0 else Store.insertFingerprints pending

/-- The identity of the article has not been stored. -/
def isNew (feed : String) (a : Article) : Store.Action Bool :=
  List.isEmpty <$> Store.seenValues feed Article.identityField [a.identity]

end Selection

end Newswire
