import Newswire.Proofs.Run.Counting

/-!
# Requests to disable

A connection is asked to be disabled by the report of the run in which its counter comes to the
threshold. A run that breaks off reports nothing, and the counter is then past the threshold
already: the request is not made up for when the event is handled again.
-/

namespace Newswire.Run

/-- The requests about something in the report of a run, if it has one. -/
def requests (answer : Except Error Report) (scope : Scope) : List DisableRequest :=
  (answer.toOption.map (·.disables scope)).getD []

theorem requests_error (err : Error) (scope : Scope) : requests (.error err) scope = [] := rfl

variable {around : Surroundings} {s : Setup} {r : Refresh} {w : World} {id : String}

/-- Where the counter of a connection has come to the threshold already, a run does not ask for
anything about it. -/
theorem requests_of_le (h : effectiveThreshold s.settings.threshold ≤
      w.stores.counters.attempts r.feed.id (.connection id)) :
    requests (carryOut around (handle s (.deliver r)) w).1 (.connection id) = [] := by
  obtain ⟨u, x, course⟩ := handle_course around s r w
  have hcounters : u.stores.counters = w.stores.counters := course.start_counters
  have hlinked := course.linked
  have hends := course.ends
  cases hanswer : (carryOut around (handle s (.deliver r)) w).1 with
  | error err => rfl
  | ok report =>
      rw [hanswer] at hends
      cases hends with
      | @completed fates visited fingerprints counters =>
          change (Report.ofFates ..).disables _ = []
          rw [visited.disables]
          by_cases hid : RejectedIn (tour around s r w) id
          · obtain ⟨y, hy⟩ := hlinked.exists_disables hid
            rw [hy, hcounters, disableRequest?, if_neg (by omega)]
            rfl
          · exact hlinked.disables_of_not_rejectedIn hid

/-- The report of a run that brings the counter of a connection to the threshold asks once for
disabling it. -/
theorem requests_of_reached {report : Report}
    (h : (carryOut around (handle s (.deliver r)) w).1 = .ok report)
    (hbefore : w.stores.counters.attempts r.feed.id (.connection id) <
      effectiveThreshold s.settings.threshold)
    (hafter : effectiveThreshold s.settings.threshold ≤
      (carryOut around (handle s (.deliver r)) w).2.stores.counters.attempts r.feed.id
        (.connection id)) :
    ∃ x : Rejection, report.disables (.connection id) =
      [⟨r.feed.id, .connection id, x.reason⟩] := by
  obtain ⟨u, x, course⟩ := handle_course around s r w
  have hcounters : u.stores.counters = w.stores.counters := course.start_counters
  have hlinked := course.linked
  have hends := course.ends
  rw [h] at hends
  cases hends with
  | @completed fates visited fingerprints counters =>
      have hraised := hlinked.counted.raised id
      rw [hcounters] at hraised
      rw [counters, countersAfter] at hafter
      have hpos : 0 < effectiveThreshold s.settings.threshold := Nat.lt_of_lt_of_le
        Nat.one_pos (Nat.le_max_right ..)
      -- A run without rejections would have set the counter back.
      split at hafter
      · have hid : RejectedIn (tour around s r w) id := by
          by_contra hn
          rw [if_neg hn] at hraised
          omega
        rw [if_pos hid] at hraised
        obtain ⟨y, hy⟩ := hlinked.exists_disables hid
        refine ⟨y, ?_⟩
        rw [visited.disables, hy, hcounters, disableRequest?, if_pos (by omega)]
        rfl
      · rw [Counters.reset_attempts] at hafter
        omega

/-- When a run brings the counter of a connection to the threshold and its event is then handled
again, the two together ask once for disabling it if the first came to its end, and never if it
broke off. -/
theorem requests_of_replay (around around' : Surroundings) (s : Setup) (r : Refresh) (w : World)
    (id : String) (now asked : Instant) (holder : String)
    (hbefore : w.stores.counters.attempts r.feed.id (.connection id) <
      effectiveThreshold s.settings.threshold)
    (hafter : effectiveThreshold s.settings.threshold ≤
      (carryOut around (handle s (.deliver r)) w).2.stores.counters.attempts r.feed.id
        (.connection id)) :
    let first := carryOut around (handle s (.deliver r)) w
    let again := carryOut around' (handle { s with now, asked, holder } (.deliver r)) first.2
    (∀ report, first.1 = .ok report → ∃ x : Rejection,
      requests first.1 (.connection id) ++ requests again.1 (.connection id) =
        [⟨r.feed.id, .connection id, x.reason⟩]) ∧
    (∀ err, first.1 = .error err →
      requests first.1 (.connection id) ++ requests again.1 (.connection id) = []) := by
  intro first again
  have hagain : requests again.1 (.connection id) = [] := requests_of_le hafter
  constructor
  · intro report hok
    obtain ⟨x, hx⟩ := requests_of_reached hok hbefore hafter
    refine ⟨x, ?_⟩
    rw [hagain, List.append_nil, hok]
    exact hx
  · intro err herr
    rw [hagain, herr, requests_error, List.append_nil]

/-- An article on its way to the one connection of its event. -/
def singleEvent : Refresh := sampleEvent ["x"] [newsConnection "c"]

def disablingReport : Report where
  events :=
    [.delivered "f" "c" "x" .failed (some .receiverBadRequest),
     .disable ⟨"f", .connection "c", .badFormat⟩]
  selected := 1

theorem requests_of_refusal :
    let first := carryOut { receiver := refusing "c" }
      (handle strictSetup (.deliver singleEvent)) {}
    let later : Setup :=
      { strictSetup with now := .ofMillis 2, asked := .ofMillis 1, holder := "second" }
    let again := carryOut {} (handle later (.deliver singleEvent)) first.2
    Counters.attempts {} "f" (.connection "c") < effectiveThreshold 1 ∧
      effectiveThreshold 1 ≤ first.2.stores.counters.attempts "f" (.connection "c") ∧
      ∃ x : Rejection,
        requests first.1 (.connection "c") ++ requests again.1 (.connection "c") =
          [⟨"f", .connection "c", x.reason⟩] := by
  intro first later again
  have hok : first.1 = .ok disablingReport := by decide +kernel
  have hbefore : Counters.attempts {} "f" (.connection "c") < effectiveThreshold 1 := by decide
  have hafter : effectiveThreshold 1 ≤
      first.2.stores.counters.attempts "f" (.connection "c") := by decide +kernel
  exact ⟨hbefore, hafter, (requests_of_replay { receiver := refusing "c" } {} strictSetup
    singleEvent {} "c" later.now later.asked "second" hbefore hafter).1 _ hok⟩

/-- The receiver rejects the connection, and then the fingerprints cannot be stored. -/
def strandedSurroundings : Surroundings :=
  { stalling .insertFingerprints with receiver := refusing "c" }

/-- What is left after a run that broke off when it had brought a counter to the threshold. -/
def strandedWorld : World :=
  (carryOut strandedSurroundings (handle strictSetup (.deliver singleEvent)) {}).2

/-- A request to disable is lost when the run breaks off that would have reported it. -/
theorem request_lost :
    let first := carryOut strandedSurroundings (handle strictSetup (.deliver singleEvent)) {}
    let again := carryOut {} (handle strictSetup (.deliver singleEvent)) strandedWorld
    first.1 = .error (.timeout "fingerprint commit") ∧
      Counters.attempts {} "f" (.connection "c") < effectiveThreshold 1 ∧
      effectiveThreshold 1 ≤ strandedWorld.stores.counters.attempts "f" (.connection "c") ∧
      again.1 = .ok { selected := 1, skipped := 1 } ∧
      (requests first.1 (.connection "c") ++ requests again.1 (.connection "c")).length ≠ 1 := by
  decide +kernel

end Newswire.Run
