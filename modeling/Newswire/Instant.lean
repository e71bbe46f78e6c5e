/-!
# Instants

A moment as the clock of a machine shows it, told to the nanosecond. What is stored of an instant is
the whole milliseconds; the rest is lost.
-/

namespace Newswire

/-- Counted from the beginning of 1970. A clock shows no leap seconds. -/
structure Instant where
  nanos : Int
  deriving Repr, DecidableEq, Inhabited

namespace Instant

instance : LE Instant := ⟨fun a b => a.nanos ≤ b.nanos⟩

instance : LT Instant := ⟨fun a b => a.nanos < b.nanos⟩

instance (a b : Instant) : Decidable (a ≤ b) := inferInstanceAs (Decidable (a.nanos ≤ b.nanos))

instance (a b : Instant) : Decidable (a < b) := inferInstanceAs (Decidable (a.nanos < b.nanos))

theorem le_def {a b : Instant} : a ≤ b ↔ a.nanos ≤ b.nanos := Iff.rfl

theorem lt_def {a b : Instant} : a < b ↔ a.nanos < b.nanos := Iff.rfl

theorem not_lt {a b : Instant} : ¬ a < b ↔ b ≤ a := Int.not_lt

/-- So many milliseconds after the beginning of 1970. -/
def ofMillis (n : Int) : Instant := ⟨n * 1000000⟩

/-- The whole milliseconds that have passed, rounded down. -/
def millis (t : Instant) : Int := t.nanos / 1000000

/-- So many milliseconds earlier. -/
def ago (t : Instant) (millis : Nat) : Instant := ⟨t.nanos - millis * 1000000⟩

/-- The instant that is read back where `t` was stored. -/
def stored (t : Instant) : Instant := ofMillis t.millis

@[simp] theorem millis_ofMillis (n : Int) : (ofMillis n).millis = n := by
  simp only [millis, ofMillis]
  omega

@[simp] theorem stored_ofMillis (n : Int) : (ofMillis n).stored = ofMillis n :=
  congrArg ofMillis (millis_ofMillis n)

/-- Going back by whole milliseconds takes just those off what is stored. -/
theorem millis_ago (t : Instant) (n : Nat) : (t.ago n).millis = t.millis - n := by
  simp only [millis, ago]
  omega

theorem ago_le_ago {a b : Instant} {m n : Nat} (h : a ≤ b) (hn : n ≤ m) : a.ago m ≤ b.ago n := by
  simp only [le_def, ago] at h ⊢
  omega

theorem millis_mono {a b : Instant} (h : a ≤ b) : a.millis ≤ b.millis := by
  simp only [le_def] at h
  simp only [millis]
  omega

/-- What is stored of an instant comes before a whole number of milliseconds as the instant does. -/
theorem millis_lt {t : Instant} {n : Int} : t.millis < n ↔ t < ofMillis n := by
  simp only [lt_def, millis, ofMillis]
  omega

theorem le_millis {t : Instant} {n : Int} : n ≤ t.millis ↔ ofMillis n ≤ t := by
  simp only [le_def, millis, ofMillis]
  omega

theorem ago_stored (t : Instant) (n : Nat) : t.stored.ago n = (t.ago n).stored := by
  rw [stored, stored, millis_ago, ago, ofMillis, ofMillis, Int.sub_mul]

/-- An instant without a fraction of a millisecond is told by the milliseconds. -/
theorem nanos_of_stored_eq {t : Instant} (h : t.stored = t) : t.nanos = t.millis * 1000000 :=
  congrArg nanos h.symm

end Instant

end Newswire
