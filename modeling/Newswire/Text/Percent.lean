/-!
# Percent encoding

Letters, digits and the four marks that need no encoding stay as they are; every other byte of the
UTF-8 form is written as a percent sign and two capital hexadecimal digits.
-/

namespace Newswire.Text.Percent

def isPlain (b : UInt8) : Bool :=
  let c := Char.ofNat b.toNat
  b < 0x80 && (c.isAlphanum || c == '-' || c == '_' || c == '.' || c == '~')

def digit (n : Nat) : Char := Char.ofNat (if n < 10 then 48 + n else 55 + n)

def escape (b : UInt8) : List Char :=
  if isPlain b then [Char.ofNat b.toNat] else ['%', digit (b.toNat / 16), digit (b.toNat % 16)]

def encode (s : String) : String := String.ofList (s.toUTF8.toList.flatMap escape)

end Newswire.Text.Percent
