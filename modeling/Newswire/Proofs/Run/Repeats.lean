import Mathlib.Data.List.Nodup
import Newswire.Proofs.Run.Tours

/-!
# Repeats

The records of an event are looked up once, before the first visit of a run. A record that is added
during the run therefore does not keep a later errand of the same key from being taken to its
receiver. No errand shares its key with another where articles and connections have identities of
their own, and then nothing is sent that has a record.
-/

namespace Newswire

open Delivery (Records)

namespace Run

/-- There is a record of the errand by the time of the visit. -/
def Visit.isCovered (r : Refresh) (v : Visit) : Bool :=
  (v.before.stores.records.ofEvent r.id).contains v.errand.key

/-- Nothing is sent for an errand that there is a record of by then. -/
def SendsOnce (r : Refresh) (vs : List Visit) : Prop :=
  ∀ v ∈ vs, v.isCovered r = true → v.sent = []

instance (r : Refresh) (vs : List Visit) : Decidable (SendsOnce r vs) :=
  inferInstanceAs (Decidable (∀ v ∈ vs, v.isCovered r = true → v.sent = []))

variable {around : Surroundings} {s : Setup} {r : Refresh} {w : World} {pre post : List Visit}
  {v : Visit}

/-- An errand is covered by a record from before the run, or by that of a visit before. -/
theorem isCovered_iff (h : tour around s r w = pre ++ v :: post) :
    v.isCovered r = true ↔ v.errand.key ∈ w.stores.records.ofEvent r.id ∨
      ∃ u ∈ pre, u.isEnded = true ∧ u.errand.key = v.errand.key := by
  obtain ⟨-, hpre, -, hrows, -⟩ := tour_split h
  rw [Visit.isCovered, List.contains_iff_mem, Records.mem_ofEvent_iff, Records.mem_ofEvent_iff,
    hrows]
  constructor
  · rintro ⟨x, hx, he, hk⟩
    rcases List.mem_append.mp hx with hx | hx
    · exact Or.inl ⟨x, hx, he, hk⟩
    · obtain ⟨u, hu, hx⟩ := List.mem_flatMap.mp hx
      obtain ⟨hof, hok⟩ := hpre u hu
      obtain ⟨outcome, ho⟩ := hof.added_eq.2 x hx
      refine Or.inr ⟨u, hu, hof.isEnded_of_ne_nil hok (Or.inl (List.ne_nil_of_mem hx)), ?_⟩
      rw [← hk, ho]
      rfl
  -- What the earlier visit left is still there, since records are only added during a run.
  · rintro (⟨x, hx, he, hk⟩ | ⟨u, hu, hended, hkey⟩)
    · exact ⟨x, List.mem_append_left _ hx, he, hk⟩
    · obtain ⟨first, rest, rfl⟩ := List.append_of_mem hu
      have hsplit : tour around s r w = first ++ u :: (rest ++ v :: post) := by rw [h]; simp
      obtain ⟨hof, -, -, hbefore, -⟩ := tour_split hsplit
      obtain ⟨x, hx, he, hk⟩ := hof.recorded_of_isEnded hended
      refine ⟨x, ?_, he, hk.trans hkey⟩
      rw [hbefore] at hx
      simp only [List.flatMap_append, List.flatMap_cons, ← List.append_assoc]
      exact List.mem_append_left _ hx

/-- A record does not keep an errand from being sent when it was added during the run, unless the
connection has been rejected by then. -/
theorem sends_again_iff (h : tour around s r w = pre ++ v :: post) :
    v.isCovered r = true ∧ v.sent ≠ [] ↔
      (∃ u ∈ pre, u.isEnded = true ∧ u.errand.key = v.errand.key) ∧
        v.errand.Opens around s r v.before ∧ ¬RejectedIn pre v.errand.connection.id ∧
        v.errand.key ∉ w.stores.records.ofEvent r.id := by
  obtain ⟨hv, -, hr, -⟩ := tour_split h
  rw [isCovered_iff h, hv.sent_ne_nil_iff, hr]
  constructor
  · rintro ⟨hk | hu, hn, hnk, ho⟩
    · exact absurd hk hnk
    · exact ⟨hu, ho, hn, hnk⟩
  · rintro ⟨hu, ho, hn, hnk⟩
    exact ⟨Or.inr hu, hn, hnk, ho⟩

/-- Errands of articles and connections that have identities of their own have keys of their
own. -/
theorem nodup_keys {selection : Selection} (ha : (selection.deliver.map Article.identity).Nodup)
    (hc : (r.connections.map Connection.id).Nodup) :
    ((errands r selection).map Errand.key).Nodup := by
  have hkeys : (errands r selection).map Errand.key =
      selection.deliver.flatMap fun a =>
        (r.connections.map Connection.id).map fun id => (id, a.identity) := by
    simp [errands, Errand.all, List.map_flatMap, Errand.key, Errand.connection,
      Lane.ofConnection, Function.comp_def]
  rw [hkeys, List.nodup_flatMap]
  constructor
  · intro a _
    exact hc.map fun _ _ h => congrArg Prod.fst h
  · rw [List.Nodup, List.pairwise_map] at ha
    refine ha.imp fun {a b} hne key hka hkb => ?_
    obtain ⟨_, -, rfl⟩ := List.mem_map.mp hka
    obtain ⟨_, -, hk⟩ := List.mem_map.mp hkb
    exact hne (congrArg Prod.snd hk).symm

/-- No key comes up twice in a tour of errands that have keys of their own. -/
theorem key_ne_of_nodup (hn : ((errands r (selected s r w.stores.fingerprints)).map
    Errand.key).Nodup) (h : tour around s r w = pre ++ v :: post) {u : Visit} (hu : u ∈ pre) :
    u.errand.key ≠ v.errand.key := by
  have hp := (tour_errands around s r w).map Errand.key
  rw [h] at hp
  have hd := hp.sublist.nodup hn
  rw [List.map_map, List.map_append, List.nodup_append] at hd
  exact hd.2.2 _ (List.mem_map_of_mem hu) _ (by simp)

/-- A tour sends nothing again exactly when no errand opens whose key was recorded in an earlier
visit, unless something else holds it back. -/
theorem sendsOnce_iff_forall :
    SendsOnce r (tour around s r w) ↔ ∀ pre v post, tour around s r w = pre ++ v :: post →
      (∃ u ∈ pre, u.isEnded = true ∧ u.errand.key = v.errand.key) →
      v.errand.Opens around s r v.before →
        RejectedIn pre v.errand.connection.id ∨
        v.errand.key ∈ w.stores.records.ofEvent r.id := by
  constructor
  · intro hs pre v post h hu ho
    by_contra hn
    rw [not_or] at hn
    obtain ⟨hc, hne⟩ := (sends_again_iff h).mpr ⟨hu, ho, hn.1, hn.2⟩
    exact hne (hs v (by simp [h]) hc)
  · intro ha v hv hc
    by_contra hne
    obtain ⟨pre, post, h⟩ := List.append_of_mem hv
    obtain ⟨hu, ho, hn, hk⟩ := (sends_again_iff h).mp ⟨hc, hne⟩
    exact (ha pre v post h hu ho).elim hn hk

/-- Where nothing is sent that has a record, no two errands of the same key are sent. -/
theorem sent_eq_nil_or (hs : SendsOnce r (tour around s r w))
    (h : tour around s r w = pre ++ v :: post) {u : Visit} (hu : u ∈ pre)
    (hk : u.errand.key = v.errand.key) : u.sent = [] ∨ v.sent = [] := by
  by_cases hsent : u.sent = []
  · exact Or.inl hsent
  · obtain ⟨-, hpre, -⟩ := tour_split h
    obtain ⟨hof, hok⟩ := hpre u hu
    have he : u.isEnded = true := hof.isEnded_of_ne_nil hok (Or.inr hsent)
    exact Or.inr (hs v (by simp [h]) ((isCovered_iff h).mpr (Or.inr ⟨u, hu, he, hk⟩)))

/-- What a run sends for an errand that has a record, it sends for one whose key an earlier errand
of the same run has recorded. There is none where articles and connections have identities of their
own. -/
theorem sendsOnce_iff (around : Surroundings) (s : Setup) (r : Refresh) (w : World) :
    (SendsOnce r (tour around s r w) ↔ ∀ pre v post, tour around s r w = pre ++ v :: post →
      (∃ u ∈ pre, u.isEnded = true ∧ u.errand.key = v.errand.key) →
      v.errand.Opens around s r v.before →
        RejectedIn pre v.errand.connection.id ∨
        v.errand.key ∈ w.stores.records.ofEvent r.id) ∧
    (SendsOnce r (tour around s r w) → ∀ pre v post, tour around s r w = pre ++ v :: post →
      ∀ u ∈ pre, u.errand.key = v.errand.key → u.sent = [] ∨ v.sent = []) ∧
    (((selected s r w.stores.fingerprints).deliver.map Article.identity).Nodup →
      (r.connections.map Connection.id).Nodup → SendsOnce r (tour around s r w)) := by
  refine ⟨sendsOnce_iff_forall, fun hs pre v post h u hu => sent_eq_nil_or hs h hu, ?_⟩
  intro ha hc
  refine sendsOnce_iff_forall.mpr fun pre v post h hu _ => ?_
  obtain ⟨u, hu, -, hk⟩ := hu
  exact absurd hk (key_ne_of_nodup (nodup_keys ha hc) h hu)

/-- Two articles of the same identity are both sent, although the first has left a record. -/
theorem repeated_identity_sent_again :
    ¬SendsOnce (sampleEvent ["h", "h"] [newsConnection "c"])
        (tour {} sampleSetup (sampleEvent ["h", "h"] [newsConnection "c"]) {}) ∧
      (carryOut {} (handle sampleSetup
        (.deliver (sampleEvent ["h", "h"] [newsConnection "c"]))) {}).2.sent.length = 2 := by
  decide +kernel

/-- Two articles and two connections with identities of their own make four messages. -/
theorem sendsOnce_of_distinct_identities :
    SendsOnce (sampleEvent ["x", "y"] [newsConnection "a", newsConnection "b"])
        (tour {} sampleSetup (sampleEvent ["x", "y"] [newsConnection "a", newsConnection "b"]) {}) ∧
      (carryOut {} (handle sampleSetup (.deliver
        (sampleEvent ["x", "y"] [newsConnection "a", newsConnection "b"]))) {}).2.sent.length = 4 :=
  ⟨(sendsOnce_iff ..).2.2 (by decide +kernel) (by decide +kernel), by decide +kernel⟩

end Run

end Newswire
