import Newswire.Decimal
import Newswire.Pattern.Basic

/-!
# Replacements

A replacement is written with `$&` for the whole match, `$1` for a group by number, `$<name>` for a
group by name, and `$$` for a dollar. It is brought into a form in which every reference stands in
braces, and that form is filled in for each match.
-/

namespace Newswire.Pattern.Replacement

/-- Splits a text behind the first `c`, which is in neither part; `none` if there is none. -/
def splitAt (c : Char) (text : List Char) : Option (List Char × List Char) :=
  match text.dropWhile (· != c) with
  | _ :: after => some (text.takeWhile (· != c), after)
  | [] => none

theorem length_of_splitAt {c : Char} {text before after : List Char}
    (h : splitAt c text = some (before, after)) : after.length < text.length := by
  unfold splitAt at h
  split at h
  · next d after' hdrop =>
    obtain ⟨-, rfl⟩ : text.takeWhile (· != c) = before ∧ after' = after := by simpa using h
    have hle := (List.dropWhile_suffix (l := text) (· != c)).length_le
    rw [hdrop, List.length_cons] at hle
    omega
  · cases h

def braced (name : List Char) : List Char := '$' :: '\x7b' :: name ++ ['\x7d']

/-- The replacement with its references in braces. -/
def translate (cs : List Char) : List Char :=
  match cs with
  | [] => []
  | '$' :: '$' :: rest => '$' :: '$' :: translate rest
  | '$' :: '&' :: rest => braced ['0'] ++ translate rest
  | '$' :: '<' :: rest =>
    match _h : splitAt '>' rest with
    | some (name, after) => braced name ++ translate after
    | none => '$' :: '$' :: translate ('<' :: rest)
  | '$' :: rest =>
    let digits := rest.takeWhile Char.isDigit
    if digits.isEmpty then '$' :: '$' :: translate rest
    else braced digits ++ translate (rest.dropWhile Char.isDigit)
  | c :: rest => c :: translate rest
termination_by cs.length
decreasing_by
  · simp only [List.length_cons]
    omega
  · simp only [List.length_cons]
    omega
  · have := length_of_splitAt _h
    simp only [List.length_cons]
    omega
  · simp
  · simp
  · have := (List.dropWhile_suffix (l := rest) Char.isDigit).length_le
    simp only [List.length_cons]
    omega
  · simp

def isNameChar (c : Char) : Bool := c.isAlphanum || c == '_'

/-- The number that a name reads as, if it fits sixty-four bits. -/
def number? (name : List Char) : Option Nat :=
  let digits := if name.head? = some '+' then name.tail else name
  let n := Decimal.ofDigits digits
  if digits.isEmpty ∨ !digits.all Char.isDigit ∨ n ≥ 0x10000000000000000 then none else some n

/-- Fills in the references; `group` gives the text of a group by its name or number. -/
def expand (group : List Char → List Char) (form : List Char) : List Char :=
  match form with
  | [] => []
  | '$' :: '$' :: rest => '$' :: expand group rest
  | '$' :: '\x7b' :: rest =>
    match _h : splitAt '\x7d' rest with
    | some (name, after) => group name ++ expand group after
    | none => '$' :: expand group ('\x7b' :: rest)
  | '$' :: rest =>
    let name := rest.takeWhile isNameChar
    if name.isEmpty then '$' :: expand group rest
    else group name ++ expand group (rest.dropWhile isNameChar)
  | c :: rest => c :: expand group rest
termination_by form.length
decreasing_by
  · simp only [List.length_cons]
    omega
  · have := length_of_splitAt _h
    simp only [List.length_cons]
    omega
  · simp
  · simp
  · have := (List.dropWhile_suffix (l := rest) isNameChar).length_le
    simp only [List.length_cons]
    omega
  · simp

/-- The text of the group that a name denotes in a match: by its number if it reads as one. -/
def groupText (p : Pattern) (text : Array Char) (m : Match) (name : List Char) : List Char :=
  match number? name with
  | some n => m.group text n
  | none =>
    match p.names.find? fun e => e.1.toList == name with
    | some (_, index) => m.group text index
    | none => []

/-- The text with its matches replaced. -/
def apply (p : Pattern) (everywhere : Bool) (replacement text : String) : String :=
  let form := translate replacement.toList
  let chars := text.toList.toArray
  String.ofList (p.replace everywhere (fun m => expand (groupText p chars m) form) chars)

end Newswire.Pattern.Replacement
