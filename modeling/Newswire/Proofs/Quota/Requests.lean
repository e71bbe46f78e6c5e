import Newswire.Quota.Basic

/-!
# Requests one after the other

What a keeper of reservations answers to a list of requests and what it has come to after them. A
request is timely if the day that ends with it can be told.
-/

namespace Newswire

namespace RateLimit

variable {l : RateLimit} {now x : Instant}

theorem start_lt (l : RateLimit) (h : l.window ≠ 0) (hnow : firstMoment < now) :
    l.start now < now := by
  have hseconds : 0 < l.seconds := by
    simp only [seconds, maxSeconds, daySeconds]
    omega
  rw [start]
  split
  · exact hnow
  · simp only [Instant.lt_def, Instant.ago]
    omega

/-- A window of no seconds starts where it ends. -/
theorem start_of_window_eq_zero (h : l.window = 0) (hnow : firstMoment ≤ now) :
    l.start now = now := by
  have hago : now.ago (l.seconds * 1000) = now := by simp [Instant.ago, seconds, h]
  rw [start, hago]
  exact if_neg (Instant.not_lt.mpr hnow)

/-- Where a window can be told, it has the length of the limit. -/
theorem lt_start_iff (hx : firstMoment < x) :
    l.start now < x ↔ now.ago (l.seconds * 1000) < x := by
  rw [start]
  split
  · next h => exact iff_of_true hx (Int.lt_trans h hx)
  · rfl

/-- A window starts no earlier than it would if all moments could be told. -/
theorem ago_le_start (l : RateLimit) (now : Instant) :
    now.ago (l.seconds * 1000) ≤ l.start now := by
  rw [start]
  split
  · next h => exact Int.le_of_lt h
  · exact Int.le_refl _

/-- What is stored of the end of a window tells what is stored of its start. -/
theorem start_stored (l : RateLimit) (now : Instant) :
    l.start now.stored = (l.start now).stored := by
  have hfirst : (now.ago (l.seconds * 1000)).stored < firstMoment ↔
      now.ago (l.seconds * 1000) < firstMoment := by
    rw [firstMoment, ← Instant.millis_lt, ← Instant.millis_lt, Instant.stored,
      Instant.millis_ofMillis]
  simp only [start, Instant.ago_stored, hfirst]
  split
  · rw [firstMoment, Instant.stored_ofMillis]
  · rfl

end RateLimit

namespace Quota

/-- The limits that a request is made under. -/
def Request.limits? : Request → Option Limits
  | .reserve _ _ limits _ => some limits
  | _ => none

/-- The moment at which a day ends that a request looks back on. -/
def Request.dayEnd? : Request → Option Instant
  | .reserve _ _ _ now => some now
  | .remaining _ _ now => some now
  | _ => none

/-- The day that a request looks back on can be told. -/
def Request.IsTimely (q : Request) : Prop :=
  ∀ now ∈ q.dayEnd?, RateLimit.firstMoment ≤ dayStart now

instance (q : Request) : Decidable q.IsTimely :=
  inferInstanceAs (Decidable (∀ now ∈ q.dayEnd?, RateLimit.firstMoment ≤ dayStart now))

theorem isTimely_reserve {feed connection : String} {limits : Limits} {now : Instant} :
    (Request.reserve feed connection limits now).IsTimely ↔ RateLimit.firstMoment ≤ dayStart now :=
  ⟨fun h => h now rfl, fun h _ ht => Option.some.inj ht ▸ h⟩

/-- The instant that a request names. -/
def Request.instant? : Request → Option Instant
  | .reserve _ _ _ now => some now
  | .count _ _ since => some since
  | .remaining _ _ now => some now
  | .prune before => some before
  | _ => none

/-- Nothing is lost of the instant that a request names where it is stored. -/
def Request.IsWhole (q : Request) : Prop := ∀ t ∈ q.instant?, t.stored = t

instance (q : Request) : Decidable q.IsWhole :=
  inferInstanceAs (Decidable (∀ t ∈ q.instant?, t.stored = t))

theorem isWhole_reserve {feed connection : String} {limits : Limits} {now : Instant} :
    (Request.reserve feed connection limits now).IsWhole ↔ now.stored = now :=
  ⟨fun h => h now rfl, fun h _ ht => Option.some.inj ht ▸ h⟩

theorem dayStart_stored (now : Instant) : dayStart now.stored = (dayStart now).stored :=
  now.ago_stored _

theorem dayStart_lt (now : Instant) : dayStart now < now := by
  simp only [dayStart, RateLimit.daySeconds, Instant.lt_def, Instant.ago]
  omega

theorem firstMoment_lt {now : Instant} (h : RateLimit.firstMoment ≤ dayStart now) :
    RateLimit.firstMoment < now := Int.lt_of_le_of_lt h (dayStart_lt now)

section Keeper

variable {σ : Type} (answer : σ → Request → Answer × σ)

/-- What a keeper answers to requests that are made one after the other. -/
def answers : σ → List Request → List Answer
  | _, [] => []
  | s, q :: rest => (answer s q).1 :: answers (answer s q).2 rest

/-- What a keeper has come to after requests. -/
def afterwards (s : σ) (qs : List Request) : σ := qs.foldl (fun s q => (answer s q).2) s

theorem answers_append (s : σ) (qs rest : List Request) :
    answers answer s (qs ++ rest) =
      answers answer s qs ++ answers answer (afterwards answer s qs) rest := by
  induction qs generalizing s with
  | nil => rfl
  | cons q qs ih => exact congrArg _ (ih _)

theorem afterwards_append (s : σ) (qs rest : List Request) :
    afterwards answer s (qs ++ rest) = afterwards answer (afterwards answer s qs) rest :=
  List.foldl_append

/-- What holds of a keeper and is kept by every answer holds after any requests. -/
theorem afterwards_of_step {P : σ → Prop} {s : σ} {qs : List Request} (hs : P s)
    (hstep : ∀ s, ∀ q ∈ qs, P s → P (answer s q).2) : P (afterwards answer s qs) := by
  induction qs generalizing s with
  | nil => exact hs
  | cons q qs ih =>
      have hq := hstep s q (List.mem_cons_self ..) hs
      exact ih hq fun s p hp => hstep s p (List.mem_cons_of_mem _ hp)

end Keeper

end Quota

end Newswire
