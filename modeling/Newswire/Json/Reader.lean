import Newswire.Decimal
import Newswire.Json.Basic

/-!
# Reading JSON

Reading never fails as a whole: where the text stops being JSON the value ends in `broken`, so that
a consumer that works from the front meets a wrong value before a later fault of the text. Arrays
and objects nest up to `maxLevels` deep; what lies deeper is checked, but `unreadable`.
-/

namespace Newswire.Json

/-- The number of arrays and objects that may lie around a value, itself included. -/
def maxLevels : Nat := 127

/-- The text still to be read, or `none` once it has stopped being JSON. -/
abbrev Rest := Option (List Char)

def skipSpace (cs : List Char) : List Char :=
  cs.dropWhile fun c => c == ' ' || c == '\n' || c == '\t' || c == '\r'

def hexValue (c : Char) : Option Nat :=
  if '0' ≤ c ∧ c ≤ '9' then some (c.toNat - 48)
  else if 'a' ≤ c ∧ c ≤ 'f' then some (c.toNat - 87)
  else if 'A' ≤ c ∧ c ≤ 'F' then some (c.toNat - 55)
  else none

/-- The number written by four hexadecimal digits at the front. -/
def hexUnit : List Char → Option (Nat × List Char)
  | a :: b :: c :: d :: rest => do
    let a ← hexValue a
    let b ← hexValue b
    let c ← hexValue c
    let d ← hexValue d
    return (((a * 16 + b) * 16 + c) * 16 + d, rest)
  | _ => none

/-- The character that stands for itself after a backslash or has a letter of its own there. -/
def simpleEscape : Char → Option Char
  | '"' => some '"'
  | '\\' => some '\\'
  | '/' => some '/'
  | 'b' => some '\x08'
  | 'f' => some '\x0c'
  | 'n' => some '\n'
  | 'r' => some '\r'
  | 't' => some '\t'
  | _ => none

/-- A string being read: what it says so far, last character first, and whether all of it denotes
characters. -/
structure Draft where
  said : List Char := []
  sound : Bool := true

def Draft.push (d : Draft) (c : Char) : Draft := { d with said := c :: d.said }

def Draft.spoil (d : Draft) : Draft := { d with sound := false }

/-- Adds the character of a four-digit escape, which may need a second escape for the lower half of
a surrogate pair. -/
def Draft.pushUnit (d : Draft) (unit : Nat) (rest : List Char) : Draft × List Char :=
  if 0xD800 ≤ unit ∧ unit < 0xDC00 then
    match rest with
    | '\\' :: 'u' :: tail =>
      match hexUnit tail with
      | some (low, tail') =>
        if 0xDC00 ≤ low ∧ low < 0xE000 then
          (d.push (Char.ofNat (0x10000 + (unit - 0xD800) * 0x400 + (low - 0xDC00))), tail')
        else (d.spoil, rest)
      | none => (d.spoil, rest)
    | _ => (d.spoil, rest)
  else if 0xDC00 ≤ unit ∧ unit < 0xE000 then (d.spoil, rest)
  else (d.push (Char.ofNat unit), rest)

/-- Reads on to the closing quote; `none` where the text is no string. -/
def readChars : Nat → Draft → List Char → Option (Draft × List Char)
  | 0, _, _ => none
  | fuel + 1, d, cs =>
    match cs with
    | [] => none
    | '"' :: rest => some (d, rest)
    | '\\' :: 'u' :: rest => do
      let (unit, rest) ← hexUnit rest
      let (d, rest) := d.pushUnit unit rest
      readChars fuel d rest
    | '\\' :: c :: rest => do
      let c ← simpleEscape c
      readChars fuel (d.push c) rest
    | c :: rest => if c.toNat < 0x20 ∨ c = '\\' then none else readChars fuel (d.push c) rest

/-- The string whose opening quote has just been read. -/
def readString (cs : List Char) : Option (Draft × List Char) := readChars (cs.length + 1) {} cs

/-- The digits after a point, if one follows. -/
def readFraction : List Char → Option (List Char × List Char)
  | '.' :: rest =>
    let (digits, tail) := rest.span Char.isDigit
    if digits.isEmpty then none else some (digits, tail)
  | cs => some ([], cs)

/-- The exponent, if one follows. -/
def readExponent : List Char → Option (Option Int × List Char)
  | [] => some (none, [])
  | c :: rest =>
    if c = 'e' ∨ c = 'E' then
      let (negative, rest) :=
        match rest with
        | '-' :: tail => (true, tail)
        | '+' :: tail => (false, tail)
        | tail => (false, tail)
      let (digits, tail) := rest.span Char.isDigit
      if digits.isEmpty then none
      else
        let n : Int := Decimal.ofDigits digits
        some (some (if negative then -n else n), tail)
    else some (none, c :: rest)

/-- The number at the front. A whole number that fits sixty-four bits is an `int`. -/
def readNumber (cs : List Char) : Option (Json × List Char) := do
  let (negative, body) :=
    match cs with
    | '-' :: tail => (true, tail)
    | tail => (false, tail)
  let (digits, rest) := body.span Char.isDigit
  if digits.isEmpty ∨ (digits.length > 1 ∧ digits.head? = some '0') then none
  let (fraction, rest) ← readFraction rest
  let (exponent, rest) ← readExponent rest
  let n := Decimal.ofDigits digits
  if fraction.isEmpty ∧ exponent.isNone ∧
      (if negative then 0 < n ∧ n ≤ 0x8000000000000000 else n < 0x10000000000000000) then
    return (int (if negative then -n else n), rest)
  else if Decimal.isFinite (Decimal.ofDigits (digits ++ fraction))
      (exponent.getD 0 - fraction.length) then
    return (real (String.ofList (cs.take (cs.length - rest.length))), rest)
  else
    return (unreadable, rest)

/-- The text after a fixed word. -/
def readWord (word : List Char) (j : Json) (cs : List Char) : Json × Rest :=
  match word.isPrefixOf? cs with
  | some tail => (j, some tail)
  | none => (broken, none)

mutual

/-- The value at the front, with `levels` more arrays and objects allowed around its parts. -/
def readValue : Nat → Nat → List Char → Json × Rest
  | 0, _, _ => (broken, none)
  | fuel + 1, levels, cs =>
    match skipSpace cs with
    | [] => (broken, none)
    | '"' :: rest =>
      match readString rest with
      | some (d, tail) =>
        (if d.sound then str (String.ofList d.said.reverse) else unreadable, some tail)
      | none => (broken, none)
    | '[' :: rest =>
      let (items, tail) :=
        match skipSpace rest with
        | ']' :: tail => ([], some tail)
        | rest => readItems fuel (levels - 1) rest
      (if levels = 0 ∧ tail.isSome then unreadable else arr items, tail)
    | '\x7b' :: rest =>
      let (members, tail) :=
        match skipSpace rest with
        | '\x7d' :: tail => ([], some tail)
        | rest => readMembers fuel (levels - 1) rest
      (if levels = 0 ∧ tail.isSome then unreadable else obj members, tail)
    | 'n' :: rest => readWord ['u', 'l', 'l'] null rest
    | 't' :: rest => readWord ['r', 'u', 'e'] (bool true) rest
    | 'f' :: rest => readWord ['a', 'l', 's', 'e'] (bool false) rest
    | cs =>
      match readNumber cs with
      | some (j, tail) => (j, some tail)
      | none => (broken, none)

/-- The values up to the closing bracket. -/
def readItems : Nat → Nat → List Char → List Json × Rest
  | 0, _, _ => ([broken], none)
  | fuel + 1, levels, cs =>
    match readValue fuel levels cs with
    | (j, none) => ([j], none)
    | (j, some rest) =>
      match skipSpace rest with
      | ',' :: rest =>
        let (items, tail) := readItems fuel levels rest
        (j :: items, tail)
      | ']' :: rest => ([j], some rest)
      | _ => ([j, broken], none)

/-- The members up to the closing brace. -/
def readMembers : Nat → Nat → List Char → List (String × Json) × Rest
  | 0, _, _ => ([("", broken)], none)
  | fuel + 1, levels, cs =>
    match skipSpace cs with
    | '"' :: rest =>
      match readString rest with
      | none => ([("", broken)], none)
      | some (d, rest) =>
        if !d.sound then ([("", broken)], none) else
        let name := String.ofList d.said.reverse
        match skipSpace rest with
        | ':' :: rest =>
          match readValue fuel levels rest with
          | (j, none) => ([(name, j)], none)
          | (j, some rest) =>
            match skipSpace rest with
            | ',' :: rest =>
              let (members, tail) := readMembers fuel levels rest
              ((name, j) :: members, tail)
            | '\x7d' :: rest => ([(name, j)], some rest)
            | _ => ([(name, j), ("", broken)], none)
        | _ => ([("", broken)], none)
    | _ => ([("", broken)], none)

end

/-- The value that a text starts with, and whether nothing but blanks follows it. -/
def read (text : String) : Json × Bool :=
  let cs := text.toList
  match readValue (2 * cs.length + 2) maxLevels cs with
  | (j, none) => (j, false)
  | (j, some rest) => (j, (skipSpace rest).isEmpty)

end Newswire.Json
