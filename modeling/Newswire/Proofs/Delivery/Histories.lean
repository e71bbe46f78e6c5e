import Mathlib.Data.List.Induction
import Mathlib.Data.List.Nodup
import Mathlib.Data.Prod.Lex
import Mathlib.Data.String.Basic
import Newswire.Proofs.Delivery.Records

/-!
# Records over time

Records are inserted and the records of whole feeds deleted. Neither what a record is known by nor
the key of its attempt says of which feed it is, and yet a record that was taken stays until its own
feed is deleted, and keeps all others of its key out. What is read of the records is read off these
rows.
-/

namespace Newswire.Delivery

/-- What an attempt is recorded for once. -/
def Attempt.key (a : Attempt) : String × String × String := (a.event, a.connection, a.article)

theorem Attempt.matchesKey_iff {a b : Attempt} : a.matchesKey b = true ↔ a.key = b.key := by
  simp [matchesKey, key, and_assoc]

theorem Record.clashes_iff {r s : Record} :
    r.clashes s = true ↔ r.id = s.id ∨ r.attempt.key = s.attempt.key := by
  rw [clashes, Bool.or_eq_true, beq_iff_eq, Attempt.matchesKey_iff]

namespace Records

variable {rs : Records} {r x : Record} {feed : String}

/-- A record is taken where there is none of its identifier and none of its key. -/
theorem insert_fst_iff :
    (rs.insert r).1 = true ↔ ∀ x ∈ rs.rows, x.id ≠ r.id ∧ x.attempt.key ≠ r.attempt.key := by
  have hclash : rs.rows.any (·.clashes r) = true ↔
      ∃ x ∈ rs.rows, x.id = r.id ∨ x.attempt.key = r.attempt.key := by
    rw [List.any_eq_true]
    exact exists_congr fun x => and_congr_right fun _ => Record.clashes_iff
  rw [insert]
  split
  · next h =>
      obtain ⟨x, hx, hr⟩ := hclash.mp h
      refine iff_of_false Bool.false_ne_true fun hn => ?_
      exact hr.elim (hn x hx).1 (hn x hx).2
  · next h => exact iff_of_true rfl fun x hx => not_or.mp fun hr => h (hclash.mpr ⟨x, hx, hr⟩)

theorem insert_rows :
    (rs.insert r).2.rows = if (rs.insert r).1 = true then rs.rows ++ [r] else rs.rows := by
  rw [insert]
  cases rs.rows.any (·.clashes r) <;> rfl

theorem mem_rows_insert :
    x ∈ (rs.insert r).2.rows ↔ x ∈ rs.rows ∨ x = r ∧ (rs.insert r).1 = true := by
  rw [insert_rows]
  split
  · next h => rw [List.mem_append, List.mem_singleton, and_iff_left h]
  · next h => rw [or_iff_left fun hx => h hx.2]

theorem mem_rows_delete :
    x ∈ (rs.delete feed).2.rows ↔ x ∈ rs.rows ∧ x.attempt.feed ≠ feed := by
  rw [delete, List.mem_filter, bne_iff_ne]

/-- No two rows have one identifier, and no two have one key. -/
structure Unique (rs : Records) : Prop where
  ids : (rs.rows.map (·.id)).Nodup
  keys : (rs.rows.map (·.attempt.key)).Nodup

namespace Unique

theorem empty : Unique {} := ⟨.nil, .nil⟩

theorem insert (h : rs.Unique) (r : Record) : (rs.insert r).2.Unique := by
  by_cases hr : (rs.insert r).1 = true
  · have hnew := insert_fst_iff.mp hr
    have hrows : (rs.insert r).2.rows = rs.rows ++ [r] := by rw [insert_rows, if_pos hr]
    constructor
    · rw [hrows, List.map_append, List.map_singleton, ← List.concat_eq_append]
      refine h.ids.concat ?_
      simpa using fun x hx => (hnew x hx).1
    · rw [hrows, List.map_append, List.map_singleton, ← List.concat_eq_append]
      refine h.keys.concat ?_
      simpa using fun x hx => (hnew x hx).2
  · have hrows : (rs.insert r).2.rows = rs.rows := by rw [insert_rows, if_neg hr]
    exact ⟨hrows ▸ h.ids, hrows ▸ h.keys⟩

theorem delete (h : rs.Unique) (feed : String) : (rs.delete feed).2.Unique :=
  ⟨h.ids.sublist (List.filter_sublist.map _), h.keys.sublist (List.filter_sublist.map _)⟩

/-- An event has no pair of a connection and an article twice. -/
theorem nodup_ofEvent (h : rs.Unique) (event : String) : (rs.ofEvent event).Nodup := by
  refine List.Nodup.map_on (fun x hx y hy hxy => ?_) (h.keys.of_map.filter _)
  obtain ⟨hx, hxe⟩ := List.mem_filter.mp hx
  obtain ⟨hy, hye⟩ := List.mem_filter.mp hy
  refine List.inj_on_of_nodup_map h.keys hx hy ?_
  exact Prod.ext ((beq_iff_eq.mp hxe).trans (beq_iff_eq.mp hye).symm) hxy

end Unique

end Records

/-- Something that is done to records. -/
inductive Change where
  | insert (r : Record)
  | delete (feed : String)
  deriving Repr, DecidableEq

namespace Records

/-- The records after a change. -/
def apply (rs : Records) : Change → Records
  | .insert r => (rs.insert r).2
  | .delete feed => (rs.delete feed).2

/-- The records after changes that start from none. -/
def after (changes : List Change) : Records := changes.foldl apply {}

theorem after_concat (changes : List Change) (c : Change) :
    after (changes ++ [c]) = (after changes).apply c := List.foldl_concat ..

theorem Unique.after (changes : List Change) : (after changes).Unique := by
  induction changes using List.reverseRecOn with
  | nil => exact .empty
  | append_singleton changes c ih =>
      rw [after_concat]
      cases c with
      | insert r => exact ih.insert r
      | delete feed => exact ih.delete feed

/-- The record was taken when it was inserted, and its feed has not been deleted since. -/
def Stands (changes : List Change) (r : Record) : Prop :=
  ∃ earlier later, changes = earlier ++ .insert r :: later ∧
    ((after earlier).insert r).1 = true ∧ .delete r.attempt.feed ∉ later

theorem stands_concat {changes : List Change} {c : Change} {r : Record} :
    Stands (changes ++ [c]) r ↔ (Stands changes r ∧ c ≠ .delete r.attempt.feed) ∨
      c = .insert r ∧ ((after changes).insert r).1 = true := by
  constructor
  · rintro ⟨earlier, later, h, htaken, hlater⟩
    rcases later.eq_nil_or_concat' with rfl | ⟨between, last, rfl⟩
    · obtain ⟨rfl, hc⟩ := List.append_inj' h rfl
      exact Or.inr ⟨List.singleton_inj.mp hc, htaken⟩
    · rw [← List.cons_append, ← List.append_assoc] at h
      obtain ⟨rfl, hc⟩ := List.append_inj' h rfl
      obtain rfl := List.singleton_inj.mp hc
      rw [List.mem_append, List.mem_singleton, not_or] at hlater
      exact Or.inl ⟨⟨earlier, between, rfl, htaken, hlater.1⟩, Ne.symm hlater.2⟩
  · rintro (⟨⟨earlier, later, rfl, htaken, hlater⟩, hc⟩ | ⟨rfl, htaken⟩)
    · refine ⟨earlier, later ++ [c], by simp, htaken, ?_⟩
      rw [List.mem_append, List.mem_singleton, not_or]
      exact ⟨hlater, Ne.symm hc⟩
    · exact ⟨changes, [], rfl, htaken, List.not_mem_nil⟩

/-- The rows are the records that stand. -/
theorem mem_rows_after_iff {changes : List Change} {r : Record} :
    r ∈ (after changes).rows ↔ Stands changes r := by
  induction changes using List.reverseRecOn with
  | nil =>
      refine iff_of_false List.not_mem_nil ?_
      rintro ⟨earlier, later, h, -⟩
      simp at h
  | append_singleton changes c ih =>
      rw [after_concat, stands_concat, ← ih]
      cases c with
      | insert s =>
          have hkept : Change.insert s ≠ .delete r.attempt.feed := nofun
          rw [apply, mem_rows_insert, Change.insert.injEq, and_iff_left hkept, eq_comm (a := s)]
          exact or_congr_right (and_congr_right fun hr => by rw [hr])
      | delete feed =>
          rw [apply, mem_rows_delete, ne_eq, ne_eq, Change.delete.injEq, or_iff_left (by simp),
            eq_comm]

section Views

theorem olderFirst_iff (x y : Record) :
    olderFirst x y = true ↔
      toLex (x.attempt.time, x.id.text) ≤ toLex (y.attempt.time, y.id.text) := by
  simp [olderFirst, Prod.Lex.toLex_le_toLex]

theorem pairwise_ofArticle (rs : Records) (article : String) :
    (rs.ofArticle article).Pairwise fun x y => x.attempt.time ≤ y.attempt.time := by
  have htrans (x y z : Record) (hxy : olderFirst x y = true) (hyz : olderFirst y z = true) :
      olderFirst x z = true := by
    rw [olderFirst_iff] at hxy hyz ⊢
    exact hxy.trans hyz
  have htotal (x y : Record) : (olderFirst x y || olderFirst y x) = true := by
    rw [Bool.or_eq_true, olderFirst_iff, olderFirst_iff]
    exact le_total ..
  refine (List.pairwise_mergeSort htrans htotal _).imp fun {x y} hxy => ?_
  exact Prod.Lex.monotone_fst _ _ ((olderFirst_iff x y).mp hxy)

/-- Every record has one of the three statuses. -/
theorem length_eq_add_statuses (rows : List Record) :
    (rows.filter fun r => r.attempt.outcome.status == .sent).length +
      (rows.filter fun r => r.attempt.outcome.status == .failed).length +
      (rows.filter fun r => r.attempt.outcome.status == .filteredOut).length = rows.length := by
  induction rows with
  | nil => rfl
  | cons r rest ih =>
      rw [List.length_cons, ← ih]
      cases h : r.attempt.outcome.status <;> simp [h] <;> omega

/-- The lists of a feed are the beginnings of one, which has the newest records first. -/
theorem exists_latest (rs : Records) (feed : String) :
    ∃ listed : List Record, listed.Perm (rs.rows.filter (·.attempt.feed == feed)) ∧
      (listed.Pairwise fun x y => y.attempt.time < x.attempt.time ∨
        y.attempt.time = x.attempt.time ∧ x.id.text ≤ y.id.text) ∧
      ∀ limit, rs.latest feed limit = if limit < 0 then listed else listed.take limit.toNat := by
  refine ⟨(rs.ofFeed feed).mergeSort newerFirst, List.mergeSort_perm .., ?_, fun _ => rfl⟩
  refine (List.pairwise_mergeSort newerFirst_trans newerFirst_total _).imp fun {x y} hxy => ?_
  exact (newerFirst_iff x y).mp hxy

theorem counts_add (rs : Records) (feed : String) {limit : Int} (h : limit < 0) :
    rs.count feed .sent + rs.count feed .failed + rs.count feed .filteredOut =
      (rs.latest feed limit).length := by
  rw [latest, if_pos h, List.length_mergeSort]
  exact length_eq_add_statuses (rs.ofFeed feed)

end Views

/-- What holds of records that changes have led to: of their rows, of what an insertion does to
these, and of what is read of them. -/
structure Lawful (changes : List Change) (rs : Records) : Prop where
  ids : (rs.rows.map (·.id)).Nodup
  keys : (rs.rows.map (·.attempt.key)).Nodup
  taken_iff (r : Record) : (rs.insert r).1 = true ↔
    (∀ x ∈ rs.rows, x.id ≠ r.id) ∧ ∀ x ∈ rs.rows, x.attempt.key ≠ r.attempt.key
  rows_insert (r : Record) :
    (rs.insert r).2.rows = if (rs.insert r).1 = true then rs.rows ++ [r] else rs.rows
  mem_rows_iff (r : Record) : r ∈ rs.rows ↔ Stands changes r
  mem_ofEvent_iff (event connection article : String) :
    (connection, article) ∈ rs.ofEvent event ↔
      ∃ x ∈ rs.rows, x.attempt.key = (event, connection, article)
  nodup_ofEvent (event : String) : (rs.ofEvent event).Nodup
  latest (feed : String) :
    ∃ listed : List Record, listed.Perm (rs.rows.filter (·.attempt.feed == feed)) ∧
      (listed.Pairwise fun x y => y.attempt.time < x.attempt.time ∨
        y.attempt.time = x.attempt.time ∧ x.id.text ≤ y.id.text) ∧
      ∀ limit, rs.latest feed limit = if limit < 0 then listed else listed.take limit.toNat
  ofArticle (article : String) :
    (rs.ofArticle article).Perm (rs.rows.filter (·.attempt.article == article)) ∧
      (rs.ofArticle article).Pairwise fun x y => x.attempt.time ≤ y.attempt.time
  counts (feed : String) (limit : Int) (h : limit < 0) :
    rs.count feed .sent + rs.count feed .failed + rs.count feed .filteredOut =
      (rs.latest feed limit).length

/-- However records are inserted and feeds deleted: each identifier and each key has one row at
most, an insertion is taken exactly where both are free and then adds its row, the rows are the
insertions that were taken and whose own feed has not been deleted since, and lists and counts show
these rows. -/
theorem after_lawful (changes : List Change) : Lawful changes (after changes) where
  ids := (Unique.after changes).ids
  keys := (Unique.after changes).keys
  taken_iff r := by rw [insert_fst_iff, forall₂_and]
  rows_insert _ := insert_rows
  mem_rows_iff _ := mem_rows_after_iff
  mem_ofEvent_iff event connection article := by
    rw [Records.mem_ofEvent_iff]
    simp [Attempt.key]
  nodup_ofEvent := (Unique.after changes).nodup_ofEvent
  latest := exists_latest _
  ofArticle article := ⟨List.mergeSort_perm .., pairwise_ofArticle _ article⟩
  counts feed _ h := counts_add _ feed h

/-- A key that another feed holds and an identifier that is there keep records out; only after the
first feed is deleted is the key free. -/
example :
    let first : Attempt := ⟨"e", "f", "c", "a", .sent, 1⟩
    let again : Attempt := ⟨"e", "g", "c", "a", .filteredOut, 2⟩
    let other : Attempt := ⟨"e", "g", "c", "b", .sent, 3⟩
    (after [.insert ⟨.given "1", first⟩, .insert ⟨.given "2", again⟩, .insert ⟨.given "1", other⟩,
      .delete "g", .delete "f", .insert ⟨.given "2", again⟩]).rows = [⟨.given "2", again⟩] := by
  decide

end Records

end Newswire.Delivery
