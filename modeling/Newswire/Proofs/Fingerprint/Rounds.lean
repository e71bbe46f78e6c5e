import Newswire.Proofs.Fingerprint.Choosing

/-!
# Rounds of choosing

In each round something is chosen among the articles of a feed, and then the fingerprints of the
choice are stored. From then on the articles of the round are known: a later round lets them through
only because a passing field has changed. An article that is not yet known is judged by itself.
-/

namespace Newswire.Selection

/-- The articles of a feed, as they are given at some time, and how to choose among them. -/
structure Round where
  feed : String
  articles : List Article
  policy : Fingerprint.Policy := {}
  options : Options := {}
  now : Instant := ⟨0⟩
  around : Surroundings := {}

namespace Round

variable (r : Round)

def choosing : Store.Action Selection :=
  choose r.policy r.feed r.articles r.options r.now

/-- Chooses, and stores the fingerprints of the choice. -/
def plan : Store.Action Selection := do
  let selection ← r.choosing
  let _ ← commit selection.pending
  return selection

/-- What is left after the round, whether or not it came to its end. -/
def after (w : World) : World := (carryOut r.around r.plan w).2

/-- The fingerprints of the choice are stored at the end of the round. -/
def isCommitted (w : World) : Bool := (carryOut r.around r.plan w).1.isOk

/-- The value of the field of an article is stored; the field is then active. -/
def IsStored (fs : Fingerprints) (a : Article) (name : String) : Prop :=
  ∃ value, a.filled? name = some value ∧ fs.holds r.feed name (r.policy.kept value).1 = true

/-- The identity of an article is stored. -/
def Knows (fs : Fingerprints) (a : Article) : Prop :=
  fs.holds r.feed Article.identityField a.identity = true

/-- An active passing field of the article is filled, and no value of its passing fields is
stored. -/
def LetsThrough (fs : Fingerprints) (a : Article) : Prop :=
  (∃ name ∈ r.options.passing, fs.hasField r.feed name = true ∧ (a.filled? name).isSome = true) ∧
    ∀ name ∈ r.options.passing, ¬r.IsStored fs a name

end Round

section Due

variable (p : Fingerprint.Policy) (feed : String) (fs : Fingerprints) (o : Options) (now : Instant)
  (a : Article)

end Due

variable {r : Round} {fs : Fingerprints} {a : Article} {w : World}

section Store

/-- The fingerprints after a round that was committed. -/
def Round.fingerprints (r : Round) (fs : Fingerprints) : Fingerprints :=
  storedAfter r.policy r.feed fs r.articles r.options r.now

/-- A round chooses and stores the fingerprints of the choice, or a call is not answered and nothing
is stored. -/
theorem round_cases (r : Round) (w : World) :
    ∃ n, carryOut r.around r.plan w =
        (.ok (chosen r.policy r.feed w.stores.fingerprints r.articles r.options r.now),
          ⟨{ w.stores with fingerprints := r.fingerprints w.stores.fingerprints }, n, w.sent⟩) ∨
      r.around.Disturbed ∧
        ∃ o, carryOut r.around r.plan w = (.error (.outage o), { w with calls := n }) := by
  obtain ⟨n, hc | ⟨hd, o, hc⟩⟩ := choose_asks r.policy r.feed r.articles r.options r.now r.around w
  · rw [Round.plan, carryOut_bind, Round.choosing, hc]
    dsimp only
    rw [carryOut_bind]
    obtain ⟨m, ⟨⟨k, hm⟩, -⟩ | ⟨⟨o, hm⟩, hu⟩⟩ := commit_cases r.around
      (chosen r.policy r.feed w.stores.fingerprints r.articles r.options r.now).pending
      { w with calls := n }
    · exact ⟨m, Or.inl (by rw [hm]; rfl)⟩
    · have hd : r.around.Disturbed := disturbed_of_unanswered (by rw [hu]; simp)
      exact ⟨m, Or.inr ⟨hd, o, by rw [hm]⟩⟩
  · exact ⟨n, Or.inr ⟨hd, o, by rw [Round.plan, carryOut_bind, Round.choosing, hc]⟩⟩

end Store

end Newswire.Selection
