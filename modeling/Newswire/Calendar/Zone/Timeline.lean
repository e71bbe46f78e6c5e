import Newswire.Calendar.Moment
import Newswire.Calendar.Layout
import Newswire.Calendar.Zone.Reader

/-!
# The time kept in a zone

From its stretches and rules follows at which moments the time kept in a zone changes. Changes by
rule are worked out for the years from 1800 to 2099; what holds at the end of them holds for good.
-/

namespace Newswire.Calendar

/-- A kind of time that is kept in a zone. -/
structure Spell where
  offset : Int
  saving : Int
  name : String
  deriving Repr, DecidableEq, Inhabited

/-- Seconds ahead of universal time. -/
def Spell.shift (s : Spell) : Int := s.offset + s.saving

structure Timeline where
  first : Spell
  /-- The moments of change in their order, and the time kept from each of them on. -/
  changes : List (Int × Spell)
  deriving Repr, Inhabited

namespace Timeline

def firstYear : Int := 1800

/-- The number of years for which changes by rule are worked out. -/
def yearCount : Nat := 300

/-- The letters put in the place of the mark in the form of a name. -/
def insertLetters (letters : List Char) : List Char → List Char
  | '%' :: 's' :: rest => letters ++ rest
  | c :: rest => c :: insertLetters letters rest
  | [] => []

/-- A short name: of two names with a slash between them the first is for standard time. -/
def nameOf (form : String) (saving : Int) (letters : String) : String :=
  match Zone.cutAt '/' form.toList with
  | [standard, summer] => String.ofList (if saving = 0 then standard else summer)
  | _ => String.ofList (insertLetters letters.toList form.toList)

/-- How far the changes of a zone have been worked out. -/
structure Progress where
  first : Option Spell := none
  changes : List (Int × Spell) := []
  /-- The beginning of the stretch; the first one has none. -/
  start : Option Int := none
  /-- The beginning of the stretch is still to be marked as a change. -/
  unmarked : Bool := false
  /-- The time kept at the beginning of the stretch, as far as it is known. -/
  initial : Option Spell := none
  saving : Int := 0

def Progress.add (p : Progress) (moment : Int) (s : Spell) : Progress :=
  { p with changes := (moment, s) :: p.changes }

/-- The rule whose change comes first in a year, with its moment, and the other rules. -/
def earliest (year offset saving : Int) : List SavingRule →
    Option ((Int × SavingRule) × List SavingRule)
  | [] => none
  | r :: rest =>
    let here := r.change.moment year offset saving
    match earliest year offset saving rest with
    | none => some ((here, r), [])
    | some (best, others) =>
      if here ≤ best.1 then some ((here, r), rest) else some (best, r :: others)

/-- Takes in one change by rule. A change before the beginning of the stretch tells only what time
is kept then. -/
def takeChange (s : Stretch) (p : Progress) (moment : Int) (r : SavingRule) : Progress :=
  let spell : Spell := ⟨s.offset, r.saving, nameOf s.form r.saving r.letters⟩
  let p := { p with saving := r.saving, unmarked := p.unmarked && p.start != some moment }
  if p.unmarked then
    if p.start.any (moment < ·) then { p with initial := some spell }
    else
      let p := if p.initial.isNone && r.saving == 0 then { p with initial := some spell } else p
      p.add moment spell
  else p.add moment spell

/-- Takes in the changes of one year, of which `fuel` are left at most. -/
def takeYear (s : Stretch) (year : Int) : Nat → List SavingRule → Progress → Progress
  | 0, _, p => p
  | fuel + 1, rules, p =>
    match earliest year s.offset p.saving rules with
    | none => p
    | some ((moment, r), others) =>
      if s.ending.any fun e => e.2.moment e.1 s.offset p.saving ≤ moment then p
      else takeYear s year fuel others (takeChange s p moment r)

def takeRules (s : Stretch) (rules : List SavingRule) (p : Progress) : Progress :=
  (List.range yearCount).foldl
    (fun p (n : Nat) =>
      let year := firstYear + n
      if s.ending.any (·.1 < year) then p
      else
        let active := rules.filter (·.appliesIn year)
        takeYear s year active.length active p)
    p

/-- Takes in a stretch that keeps the same time throughout. -/
def takeFixed (s : Stretch) (saving : Int) (p : Progress) : Progress :=
  let spell : Spell := ⟨s.offset, saving, nameOf s.form saving ""⟩
  let p := { p with saving }
  match p.start with
  | some start => { p.add start spell with unmarked := false }
  | none => { p with first := some spell }

def takeStretch (p : Progress) (s : Stretch) : Progress :=
  let p := { p with unmarked := p.start.isSome, initial := none, saving := 0 }
  let p := match s.saving with
    | .fixed saving => takeFixed s saving p
    | .byRules rules => takeRules s rules p
  let p := match p.unmarked, p.start, p.initial with
    | true, some start, some spell => p.add start spell
    | _, _, _ => p
  match s.ending with
  | some (year, time) => { p with start := some (time.moment year s.offset p.saving) }
  | none => p

/-- Leaves out changes that change nothing and changes that the next one overtakes; `kept` holds
the changes that stay, the last one first. -/
def simplify (kept : List (Int × Spell)) : List (Int × Spell) → List (Int × Spell)
  | [] => kept.reverse
  | (moment, s) :: rest =>
    match kept with
    | (last, t) :: (previous, u) :: older =>
      if moment + t.shift ≤ last + u.shift then simplify ((last, s) :: (previous, u) :: older) rest
      else if t = s then simplify kept rest
      else simplify ((moment, s) :: kept) rest
    | [(_, t)] => if t = s then simplify kept rest else simplify ((moment, s) :: kept) rest
    | [] => simplify [(moment, s)] rest

/-- The time kept in a zone from the beginning to the end of times. -/
def ofZone (z : Zone) : Timeline :=
  let p := z.foldl takeStretch {}
  let changes := p.changes.reverse.mergeSort fun a b => a.1 ≤ b.1
  ⟨p.first.getD default, simplify [] changes⟩

/-- The time kept at a moment. -/
def spellAt (t : Timeline) (moment : Int) : Spell :=
  t.changes.foldl (fun s c => if c.1 ≤ moment then c.2 else s) t.first

end Timeline

/-- A moment on the clock of a zone. -/
def Moment.inZone (m : Moment) (z : Zone) : Occasion :=
  let spell := (Timeline.ofZone z).spellAt m.seconds
  ⟨m.reading spell.shift, spell.shift, spell.name⟩

/-- A moment on the clock of universal time. -/
def Moment.universal (m : Moment) : Occasion := ⟨m.reading 0, 0, "UTC"⟩

end Newswire.Calendar
