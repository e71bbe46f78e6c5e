/-!
# Lines of input

Input comes as bytes. A line ends with a line feed, which the last one may lack. Reading stops at a
line that is not text.
-/

namespace Newswire.Program

/-- The bytes in front of the first line feed, and those behind it. -/
def cutLine? : List UInt8 → Option (List UInt8 × List UInt8)
  | [] => none
  | b :: rest =>
    if b = 10 then some ([], rest)
    else (cutLine? rest).map fun parts => (b :: parts.1, parts.2)

theorem length_of_cutLine? {bytes line rest : List UInt8}
    (h : cutLine? bytes = some (line, rest)) : rest.length < bytes.length := by
  induction bytes generalizing line with
  | nil => simp [cutLine?] at h
  | cons b bytes ih =>
    rw [cutLine?] at h
    split at h
    · obtain ⟨-, rfl⟩ : [] = line ∧ bytes = rest := by simpa using h
      simp
    · obtain ⟨parts, hp, he⟩ := Option.map_eq_some_iff.1 h
      obtain ⟨-, rfl⟩ : b :: parts.1 = line ∧ parts.2 = rest := by simpa using he
      have : parts.2.length < bytes.length := ih hp
      simp only [List.length_cons]
      omega

/-- The text that bytes are the encoding of. -/
def textOf? (bytes : List UInt8) : Option String := String.fromUTF8? ⟨bytes.toArray⟩

def lines (bytes : List UInt8) : List String :=
  match _h : cutLine? bytes with
  | some (line, rest) =>
    match textOf? line with
    | some s => s :: lines rest
    | none => []
  | none => if bytes.isEmpty then [] else (textOf? bytes).toList
termination_by bytes.length
decreasing_by exact length_of_cutLine? _h

end Newswire.Program
