import Mathlib.Data.List.Basic
import Newswire.Fingerprint.Selection
import Newswire.Proofs.Outage

/-!
# What is chosen

The choice among the articles of a feed is a function of the fingerprints that are stored. Once the
fingerprints of a choice have been stored, the same articles are not chosen again, unless the
identity itself is compared and kept in another form.
-/

namespace Newswire

namespace Fingerprints

theorem hasField_iff (fs : Fingerprints) (feed field : String) :
    fs.hasField feed field = true ↔ ∃ value, fs.holds feed field value = true := by
  simp [hasField, holds, and_assoc]

theorem hasField_of_holds {fs : Fingerprints} {feed field value : String}
    (h : fs.holds feed field value = true) : fs.hasField feed field = true :=
  (hasField_iff ..).mpr ⟨value, h⟩

theorem insert_holds_iff (fs : Fingerprints) (f : Fingerprint) (feed field value : String) :
    (fs.insert f).holds feed field value = true ↔
      fs.holds feed field value = true ∨ f.feed = feed ∧ f.field = field ∧ f.value = value := by
  unfold insert
  split
  · next h =>
      refine ⟨Or.inl, ?_⟩
      rintro (hf | ⟨rfl, rfl, rfl⟩)
      · exact hf
      · exact h
  · simp [holds, and_assoc]

/-- What is stored after fingerprints were added. -/
theorem insertAll_holds_iff (fs : Fingerprints) (new : List Fingerprint)
    (feed field value : String) :
    (fs.insertAll new).2.holds feed field value = true ↔
      fs.holds feed field value = true ∨
        ∃ f ∈ new, f.feed = feed ∧ f.field = field ∧ f.value = value := by
  change (new.foldl insert fs).holds feed field value = true ↔ _
  induction new generalizing fs with
  | nil => simp
  | cons f rest ih =>
      rw [List.foldl_cons, ih, insert_holds_iff]
      simp [or_assoc]

/-- Deleting a feed leaves what is stored of other feeds. -/
theorem delete_holds (fs : Fingerprints) (feed other field value : String) :
    (fs.delete feed).2.holds other field value =
      (other != feed && fs.holds other field value) := by
  rw [Bool.eq_iff_iff]
  simp only [delete, holds, List.any_eq_true, List.mem_filter, Bool.and_eq_true, beq_iff_eq,
    bne_iff_ne, ne_eq]
  constructor
  · rintro ⟨f, ⟨hf, hn⟩, ⟨rfl, hfield⟩, hvalue⟩
    exact ⟨hn, f, hf, ⟨rfl, hfield⟩, hvalue⟩
  · rintro ⟨hn, f, hf, ⟨rfl, hfield⟩, hvalue⟩
    exact ⟨f, ⟨hf, hn⟩, ⟨rfl, hfield⟩, hvalue⟩

end Fingerprints

namespace Selection

section Chosen

variable (p : Fingerprint.Policy) (feed : String) (fs : Fingerprints)

/-- One of the fields of the article has a value that is stored. -/
def isSeen (names : List String) (a : Article) : Bool :=
  names.any fun name => (a.filled? name).any fun value => fs.holds feed name (p.kept value).1

/-- Some of the fields of the article is filled, and none of them has a value that is stored. -/
def isChanged (names : List String) (a : Article) : Bool :=
  (names.any fun name => (a.filled? name).isSome) && !isSeen p feed fs names a

/-- The identity of the article is stored. -/
def isKnown (a : Article) : Bool := fs.holds feed Article.identityField a.identity

/-- The choice among known and unknown articles, where only active fields are looked at. -/
def among (known : Article → Bool) (active : String → Bool) (articles : List Article) (o : Options)
    (now : Instant) : Selection :=
  let seen := articles.filter known
  let fresh := articles.filter (!known ·)
  let passing := o.passing.filter active
  let unblocked := fresh.filter (!isSeen p feed fs (o.blocking.filter active) ·)
  let changed := seen.filter (isChanged p feed fs passing)
  { deliver := (unblocked ++ changed).reverse.filter (isRecent o now)
    blocked := fresh.length - unblocked.length
    passed := changed.length
    pending := fresh.flatMap (allPrints p feed now o.compared)
      ++ changed.flatMap (fieldPrints p feed now passing)
      ++ seen.flatMap (fieldPrints p feed now (o.compared.filter (!active ·))) }

/-- The choice among articles, as a function of the fingerprints that are stored. -/
def chosen (articles : List Article) (o : Options) (now : Instant) : Selection :=
  if articles.isEmpty then {}
  else if !fs.hasField feed Article.identityField && o.skipInitial then
    { firstRun := true, pending := articles.flatMap (allPrints p feed now o.compared) }
  else among p feed fs (isKnown feed fs) (fs.hasField feed) articles o now

/-- Where articles may be of any age, it does not matter when they are chosen. -/
theorem chosen_deliver_of_ageless {o : Options} (h : o.maxAge = none) (articles : List Article)
    (now later : Instant) :
    (chosen p feed fs articles o later).deliver = (chosen p feed fs articles o now).deliver := by
  have hrecent : isRecent o later = isRecent o now := by
    funext a
    rw [isRecent, isRecent, h]
  unfold chosen
  split
  · rfl
  · split
    · rfl
    · rw [among, among, hrecent]

end Chosen

section Asks

variable (p : Fingerprint.Policy) (feed : String)

theorem seenValues_asks (field : String) (values : List String) :
    Asks (Store.seenValues feed field values) fun s =>
      s.fingerprints.seen feed field values := by
  unfold Store.seenValues
  split
  · next h =>
      obtain rfl := List.isEmpty_iff.mp h
      exact Asks.pure []
  · exact Asks.ask _ _

theorem keepM_asks {α : Type} {test : α → Store.Action Bool} {f : α → Stores → Bool}
    (h : ∀ a, Asks (test a) (f a)) (as : List α) :
    Asks (keepM test as) fun s => as.filter (f · s) := by
  induction as with
  | nil => exact Asks.pure []
  | cons a rest ih =>
      refine ((h a).bind fun keep => ih.bind fun kept => Asks.pure _).congr fun s => ?_
      simp [List.filter_cons]

theorem anySeen_asks (a : Article) (names : List String) :
    Asks (anySeen p feed a names) fun s => isSeen p feed s.fingerprints names a := by
  induction names with
  | nil => exact Asks.pure false
  | cons name rest ih =>
      unfold anySeen
      cases hv : a.filled? name with
      | none => exact ih.congr fun s => by simp [isSeen, hv]
      | some value =>
          have hstep (found : List String) :
              Asks (if found.isEmpty then anySeen p feed a rest else pure true) fun s =>
                if found.isEmpty then isSeen p feed s.fingerprints rest a else true :=
            ih.ite (Asks.pure true)
          refine ((seenValues_asks feed name _).bind hstep).congr fun s => ?_
          cases hh : s.fingerprints.holds feed name (p.kept value).1 <;>
            simp [isSeen, Fingerprints.seen, hv, hh]

theorem hasChanged_asks (names : List String) (a : Article) :
    Asks (hasChanged p feed names a) fun s => isChanged p feed s.fingerprints names a := by
  unfold hasChanged
  split
  · next h => exact ((anySeen_asks p feed a names).map _).congr fun s => by simp [isChanged, h]
  · next h => exact (Asks.pure false).congr fun s => by simp [isChanged, h]

theorem mem_distinct (names : List String) (name : String) :
    name ∈ distinct names ↔ name ∈ names := by
  suffices h : ∀ kept : List String, name ∈ names.foldl
      (fun kept name => if kept.contains name then kept else kept ++ [name]) kept ↔
        name ∈ kept ∨ name ∈ names by simpa [distinct] using h []
  induction names with
  | nil => simp
  | cons other rest ih =>
      intro kept
      rw [List.foldl_cons, ih]
      split
      · next h =>
          have ho : other ∈ kept := by simpa using h
          by_cases he : name = other
          · simp [he, ho]
          · simp [he]
      · simp [or_assoc]

theorem mem_compared (o : Options) (name : String) :
    name ∈ o.compared ↔ name ∈ o.blocking ∨ name ∈ o.passing := by
  simp [Options.compared, mem_distinct]

theorem among_congr {fs : Fingerprints} {known known' : Article → Bool}
    {active active' : String → Bool} {articles : List Article} {o : Options} (now : Instant)
    (hk : ∀ a ∈ articles, known a = known' a)
    (ha : ∀ name ∈ o.compared, active name = active' name) :
    among p feed fs known active articles o now =
      among p feed fs known' active' articles o now := by
  have hseen : articles.filter known = articles.filter known' := List.filter_congr hk
  have hfresh : articles.filter (!known ·) = articles.filter (!known' ·) :=
    List.filter_congr fun a h => congrArg _ (hk a h)
  have hblocking : o.blocking.filter active = o.blocking.filter active' :=
    List.filter_congr fun name h => ha name ((mem_compared o name).mpr (Or.inl h))
  have hpassing : o.passing.filter active = o.passing.filter active' :=
    List.filter_congr fun name h => ha name ((mem_compared o name).mpr (Or.inr h))
  have hunstored : o.compared.filter (!active ·) = o.compared.filter (!active' ·) :=
    List.filter_congr fun name h => congrArg _ (ha name h)
  simp only [among, hseen, hfresh, hblocking, hpassing, hunstored]

theorem among_asks (known : Article → Bool) (active : List String) (articles : List Article)
    (o : Options) (now : Instant) :
    Asks (do
      let fresh := articles.filter (!known ·)
      let seen := articles.filter known
      let blocking := o.blocking.filter active.contains
      let passing := o.passing.filter active.contains
      let unblocked ← keepM (fun a => (!·) <$> anySeen p feed a blocking) fresh
      let changed ← keepM (hasChanged p feed passing) seen
      let unstored := o.compared.filter fun name => !active.contains name
      return {
        deliver := (unblocked ++ changed).reverse.filter (isRecent o now)
        blocked := fresh.length - unblocked.length
        passed := changed.length
        pending := fresh.flatMap (allPrints p feed now o.compared)
          ++ changed.flatMap (fieldPrints p feed now passing)
          ++ seen.flatMap (fieldPrints p feed now unstored) : Selection })
      fun s => among p feed s.fingerprints known active.contains articles o now :=
  (keepM_asks (fun a => (anySeen_asks p feed a _).map _) _).bind fun _ =>
    (keepM_asks (hasChanged_asks p feed _) _).bind fun _ => Asks.pure _

/-- The choice depends on nothing but the fingerprints, and changes nothing. -/
theorem choose_asks (articles : List Article) (o : Options) (now : Instant) :
    Asks (choose p feed articles o now) fun s => chosen p feed s.fingerprints articles o now := by
  unfold choose
  split
  · next h => exact (Asks.pure _).congr fun s => by rw [chosen, if_pos h]
  · next h =>
      simp only [List.partition_eq_filter_filter]
      have hrest (active seenIds : List String) :=
        among_asks p feed (fun a => seenIds.contains a.identity) active articles o now
      have hchoice := (keepM_asks (fun name => Asks.ask .hasField
        (·.fingerprints.hasField feed name)) o.compared).bind fun active =>
          (seenValues_asks feed Article.identityField (articles.map Article.identity)).bind
            (hrest active)
      refine ((Asks.ask .hasField _).bind fun hasPrior =>
        (Asks.pure _).ite (c := (!hasPrior && o.skipInitial) = true) hchoice).congr fun s => ?_
      rw [chosen, if_neg h]
      refine if_congr Iff.rfl rfl (among_congr p feed now (fun a ha => ?_) fun name hn => ?_)
      · have hm : a.identity ∈ articles.map Article.identity := List.mem_map_of_mem ha
        cases hk : isKnown feed s.fingerprints a <;>
          simp_all [Fingerprints.seen, isKnown]
      · cases ha : s.fingerprints.hasField feed name <;> simp [hn, ha]

end Asks

section Brittle

variable {K : Store.Kind → Prop} {B : Prop}

theorem keepM_brittle {α : Type} {test : α → Store.Action Bool} (h : ∀ a, Brittle K B (test a))
    (as : List α) : Brittle K B (keepM test as) := by
  induction as with
  | nil => exact .pure []
  | cons a rest ih => exact .bind (h a) fun keep => .bind ih fun kept => .pure _

variable (hv : K .seenValues)

include hv

theorem seenValues_brittle (feed field : String) (values : List String) :
    Brittle K B (Store.seenValues feed field values) :=
  .ite (.pure []) (.call hv _)

theorem anySeen_brittle (p : Fingerprint.Policy) (feed : String) (a : Article)
    (names : List String) : Brittle K B (anySeen p feed a names) := by
  induction names with
  | nil => exact .pure false
  | cons name rest ih =>
      unfold anySeen
      split
      · exact ih
      · exact .bind (seenValues_brittle hv _ _ _) fun found => .ite ih (.pure true)

/-- The choice among articles breaks off only where fingerprints cannot be looked up. -/
theorem choose_brittle (hf : K .hasField) (p : Fingerprint.Policy) (feed : String)
    (articles : List Article) (o : Options) (now : Instant) :
    Brittle K B (choose p feed articles o now) := by
  have hfield (name : String) : Brittle K B (Store.hasField feed name) := .call hf _
  have hseen (names : List String) (a : Article) : Brittle K B (anySeen p feed a names) :=
    anySeen_brittle hv p feed a names
  refine .ite (.pure _) (.bind (hfield _) fun hasPrior => .ite (.pure _) ?_)
  refine .bind (keepM_brittle hfield _) fun active => ?_
  refine .bind (seenValues_brittle hv _ _ _) fun seenIds => ?_
  refine .bind (keepM_brittle (fun a => .map _ (hseen _ a)) _) fun unblocked => ?_
  exact .bind (keepM_brittle (fun a => .ite (.map _ (hseen _ a)) (.pure false)) _) fun _ => .pure _

end Brittle

section Confined

variable {R : Stores → Stores → Prop} {P : Sending → Prop}

theorem keepM_confined {α : Type} {test : α → Store.Action Bool} (h : ∀ a, Confined R P (test a))
    (as : List α) : Confined R P (keepM test as) := by
  induction as with
  | nil => exact .pure []
  | cons a rest ih => exact .bind (h a) fun keep => .bind ih fun kept => .pure _

variable [Std.Refl R]

theorem seenValues_confined (feed field : String) (values : List String) :
    Confined R P (Store.seenValues feed field values) :=
  .ite (.pure []) (.ask _ _)

theorem anySeen_confined (p : Fingerprint.Policy) (feed : String) (a : Article)
    (names : List String) : Confined R P (anySeen p feed a names) := by
  induction names with
  | nil => exact .pure false
  | cons name rest ih =>
      unfold anySeen
      split
      · exact ih
      · exact .bind (seenValues_confined _ _ _) fun found => .ite ih (.pure true)

/-- The choice among articles changes nothing, whatever it is told. -/
theorem choose_confined (p : Fingerprint.Policy) (feed : String) (articles : List Article)
    (o : Options) (now : Instant) : Confined R P (choose p feed articles o now) := by
  have hfield (name : String) : Confined R P (Store.hasField feed name) := .ask _ _
  have hseen (names : List String) (a : Article) : Confined R P (anySeen p feed a names) :=
    anySeen_confined p feed a names
  refine .ite (.pure _) (.bind (hfield _) fun hasPrior => .ite (.pure _) ?_)
  refine .bind (keepM_confined hfield _) fun active => ?_
  refine .bind (seenValues_confined _ _ _) fun seenIds => ?_
  refine .bind (keepM_confined (fun a => .map _ (hseen _ a)) _) fun unblocked => ?_
  exact .bind (keepM_confined (fun a => .ite (.map _ (hseen _ a)) (.pure false)) _)
    fun _ => .pure _

end Confined

/-- Fingerprints are stored, or the call that would store them is not answered. -/
theorem commit_cases (around : Surroundings) (pending : List Fingerprint) (w : World) :
    let fingerprints := (w.stores.fingerprints.insertAll pending).2
    ∃ n, (∃ k, carryOut around (commit pending) w =
        (.ok k, ⟨{ w.stores with fingerprints }, n, w.sent⟩)) ∧
        unanswered around (commit pending) w = [] ∨
      (∃ o, carryOut around (commit pending) w = (.error (.outage o), { w with calls := n })) ∧
        unanswered around (commit pending) w = [.insertFingerprints] := by
  intro fingerprints
  unfold commit
  split
  · next he =>
      obtain rfl := List.isEmpty_iff.mp he
      exact ⟨w.calls, Or.inl ⟨⟨0, rfl⟩, rfl⟩⟩
  · refine ⟨w.calls + 1, ?_⟩
    rw [Store.insertFingerprints, carryOut_call, unanswered_call]
    cases around.conditions w.calls .insertFingerprints with
    | some o => exact Or.inr ⟨⟨o, rfl⟩, rfl⟩
    | none => exact Or.inl ⟨⟨_, rfl⟩, rfl⟩

section Stored

variable {p : Fingerprint.Policy} {feed : String} {fs : Fingerprints}

theorem mem_sortedNames (names : List String) (name : String) :
    name ∈ sortedNames names ↔ name ∈ names ∧ name ≠ Article.identityField := by
  simp [sortedNames, mem_distinct]

/-- Every filled field but that of the identity has its fingerprint. -/
theorem exists_mem_fieldPrints (p : Fingerprint.Policy) (feed : String) {names : List String}
    {name value : String} {a : Article} (now : Instant) (hn : name ∈ names)
    (hi : name ≠ Article.identityField) (hv : a.filled? name = some value) :
    ∃ f ∈ fieldPrints p feed now names a,
      f.feed = feed ∧ f.field = name ∧ f.value = (p.kept value).1 := by
  refine ⟨⟨feed, name, (p.kept value).1, (p.kept value).2, now.millis⟩, ?_, rfl, rfl, rfl⟩
  exact List.mem_filterMap.mpr ⟨name, (mem_sortedNames names name).mpr ⟨hn, hi⟩, by
    simp [fieldPrint?, hv]⟩

/-- Nothing is stored of fields that no article has filled. -/
theorem fieldPrints_eq_nil {names : List String} {a : Article} (now : Instant)
    (h : ∀ name ∈ names, name ≠ Article.identityField → a.filled? name = none) :
    fieldPrints p feed now names a = [] := by
  refine List.filterMap_eq_nil_iff.mpr fun name hn => ?_
  obtain ⟨hn, hi⟩ := (mem_sortedNames names name).mp hn
  simp [fieldPrint?, h name hn hi]

/-- What an unknown article leaves behind. -/
theorem allPrints_pending {articles : List Article} {a : Article} {o : Options} (now : Instant)
    (ha : a ∈ articles) (hk : isKnown feed fs a = false) :
    ∀ f ∈ allPrints p feed now o.compared a, f ∈ (chosen p feed fs articles o now).pending := by
  intro f hf
  unfold chosen
  have hne : articles.isEmpty = false := by
    cases articles <;> simp_all
  rw [if_neg (by simp [hne])]
  split
  · exact List.mem_flatMap.mpr ⟨a, ha, hf⟩
  · refine List.mem_append_left _ (List.mem_append_left _ (List.mem_flatMap.mpr ⟨a, ?_, hf⟩))
    simp [ha, hk]

theorem chosen_of_known {articles : List Article} {a : Article} (o : Options) (now : Instant)
    (ha : a ∈ articles) (hk : isKnown feed fs a = true) :
    chosen p feed fs articles o now =
      among p feed fs (isKnown feed fs) (fs.hasField feed) articles o now := by
  have hne : articles.isEmpty = false := by
    cases articles <;> simp_all
  rw [chosen, if_neg (by simp [hne]), if_neg (by simp [Fingerprints.hasField_of_holds hk])]

/-- Fields of a known article that are looked at for the first time are stored. -/
theorem fieldPrints_pending {articles : List Article} {a : Article} {o : Options} (now : Instant)
    (ha : a ∈ articles) (hk : isKnown feed fs a = true) :
    ∀ f ∈ fieldPrints p feed now (o.compared.filter (!fs.hasField feed ·)) a,
      f ∈ (chosen p feed fs articles o now).pending := by
  intro f hf
  rw [chosen_of_known o now ha hk]
  refine List.mem_append_right _ (List.mem_flatMap.mpr ⟨a, ?_, hf⟩)
  simp [ha, hk]

/-- The changed fields of an article that is let through again are stored. -/
theorem changedPrints_pending {articles : List Article} {a : Article} {o : Options} (now : Instant)
    (ha : a ∈ articles) (hk : isKnown feed fs a = true)
    (hc : isChanged p feed fs (o.passing.filter (fs.hasField feed)) a = true) :
    ∀ f ∈ fieldPrints p feed now (o.passing.filter (fs.hasField feed)) a,
      f ∈ (chosen p feed fs articles o now).pending := by
  intro f hf
  rw [chosen_of_known o now ha hk]
  refine List.mem_append_left _ (List.mem_append_right _ (List.mem_flatMap.mpr ⟨a, ?_, hf⟩))
  simp [ha, hk, hc]

/-- The fingerprint is that of an article: of its identity, or of another of its fields that is
filled. -/
def IsPrintOf (p : Fingerprint.Policy) (feed : String) (now : Instant) (a : Article)
    (f : Fingerprint) : Prop :=
  f = identity feed now a ∨
    ∃ name value, name ≠ Article.identityField ∧ a.filled? name = some value ∧
      f = ⟨feed, name, (p.kept value).1, (p.kept value).2, now.millis⟩

section Source

variable {articles : List Article} {a : Article} {o : Options} {now : Instant} {f : Fingerprint}
  {names : List String}

theorem isPrintOf_of_mem_fieldPrints (h : f ∈ fieldPrints p feed now names a) :
    IsPrintOf p feed now a f := by
  obtain ⟨name, hname, hf⟩ := List.mem_filterMap.mp h
  obtain ⟨value, hv, rfl⟩ := Option.map_eq_some_iff.mp hf
  exact Or.inr ⟨name, value, ((mem_sortedNames names name).mp hname).2, hv, rfl⟩

theorem isPrintOf_of_mem_allPrints (h : f ∈ allPrints p feed now names a) :
    IsPrintOf p feed now a f := by
  rcases List.mem_cons.mp h with rfl | h
  · exact Or.inl rfl
  · exact isPrintOf_of_mem_fieldPrints h

/-- What is stored after a choice are fingerprints of its articles. -/
theorem exists_of_mem_pending (h : f ∈ (chosen p feed fs articles o now).pending) :
    ∃ a ∈ articles, IsPrintOf p feed now a f := by
  unfold chosen at h
  split at h
  · cases h
  · split at h
    · obtain ⟨a, ha, hf⟩ := List.mem_flatMap.mp h
      exact ⟨a, ha, isPrintOf_of_mem_allPrints hf⟩
    · rw [among, List.mem_append, List.mem_append] at h
      obtain (h | h) | h := h <;> obtain ⟨a, ha, hf⟩ := List.mem_flatMap.mp h
      · exact ⟨a, (List.mem_filter.mp ha).1, isPrintOf_of_mem_allPrints hf⟩
      · have hseen := (List.mem_filter.mp ha).1
        exact ⟨a, (List.mem_filter.mp hseen).1, isPrintOf_of_mem_fieldPrints hf⟩
      · exact ⟨a, (List.mem_filter.mp ha).1, isPrintOf_of_mem_fieldPrints hf⟩

/-- What is stored after a choice is about the feed of the choice. -/
theorem feed_of_mem_pending (h : f ∈ (chosen p feed fs articles o now).pending) :
    f.feed = feed := by
  obtain ⟨a, -, rfl | ⟨name, value, -, -, rfl⟩⟩ := exists_of_mem_pending h
  · rfl
  · rfl

end Source

end Stored

section Again

variable {p : Fingerprint.Policy} {feed : String} {fs : Fingerprints} {articles : List Article}
  {o : Options} {now : Instant} {a : Article}

/-- The fingerprints after a choice was stored. -/
def storedAfter (p : Fingerprint.Policy) (feed : String) (fs : Fingerprints)
    (articles : List Article) (o : Options) (now : Instant) : Fingerprints :=
  (fs.insertAll (chosen p feed fs articles o now).pending).2

theorem storedAfter_holds {other field value : String}
    (h : fs.holds other field value = true) :
    (storedAfter p feed fs articles o now).holds other field value = true :=
  (Fingerprints.insertAll_holds_iff ..).mpr (Or.inl h)

/-- Every article of a choice is known afterwards. -/
theorem isKnown_storedAfter (ha : a ∈ articles) :
    isKnown feed (storedAfter p feed fs articles o now) a = true := by
  cases hk : isKnown feed fs a with
  | true => exact storedAfter_holds hk
  | false =>
      exact (Fingerprints.insertAll_holds_iff ..).mpr (Or.inr ⟨identity feed now a,
        allPrints_pending now ha hk _ (List.mem_cons_self ..), rfl, rfl, rfl⟩)

/-- The filled fields that had not been looked at before are stored with a choice, and those of a
new article are in any case. -/
theorem holds_storedAfter {name value : String} (ha : a ∈ articles) (hn : name ∈ o.compared)
    (hi : name ≠ Article.identityField) (hv : a.filled? name = some value)
    (h : isKnown feed fs a = false ∨ fs.hasField feed name = false) :
    (storedAfter p feed fs articles o now).holds feed name (p.kept value).1 = true := by
  refine (Fingerprints.insertAll_holds_iff ..).mpr (Or.inr ?_)
  cases hk : isKnown feed fs a with
  | false =>
      obtain ⟨f, hf, hp⟩ := exists_mem_fieldPrints p feed now hn hi hv
      exact ⟨f, allPrints_pending now ha hk f (List.mem_cons_of_mem _ hf), hp⟩
  | true =>
      have hu : fs.hasField feed name = false := h.resolve_left (by simp [hk])
      have hm : name ∈ o.compared.filter (!fs.hasField feed ·) := by simp [hn, hu]
      obtain ⟨f, hf, hp⟩ := exists_mem_fieldPrints p feed now hm hi hv
      exact ⟨f, fieldPrints_pending now ha hk f hf, hp⟩

/-- The identities that are stored after a choice are those from before it and those of its
articles. -/
theorem holds_identity_storedAfter_iff (other hash : String) :
    (storedAfter p feed fs articles o now).holds other Article.identityField hash = true ↔
      fs.holds other Article.identityField hash = true ∨
        other = feed ∧ ∃ a ∈ articles, a.identity = hash := by
  constructor
  · intro h
    obtain h | ⟨f, hf, rfl, hfield, rfl⟩ := (Fingerprints.insertAll_holds_iff ..).mp h
    · exact Or.inl h
    · obtain ⟨a, ha, rfl | ⟨name, value, hn, -, rfl⟩⟩ := exists_of_mem_pending hf
      · exact Or.inr ⟨rfl, a, ha, rfl⟩
      · exact absurd hfield hn
  · rintro (h | ⟨rfl, a, ha, rfl⟩)
    · exact storedAfter_holds h
    · exact isKnown_storedAfter ha

theorem identity_of_filled {hash : String} (h : a.filled? Article.identityField = some hash) :
    a.identity = hash := by
  simp [Article.identity, h]

theorem isSeen_eq_true_iff (names : List String) :
    isSeen p feed fs names a = true ↔ ∃ name ∈ names, ∃ value, a.filled? name = some value ∧
      fs.holds feed name (p.kept value).1 = true := by
  simp [isSeen, Option.any_eq_true]

/-- Only active fields have values that are stored. -/
theorem isSeen_active_iff (names : List String) :
    isSeen p feed fs (names.filter (fs.hasField feed)) a = true ↔
      ∃ name ∈ names, ∃ value, a.filled? name = some value ∧
        fs.holds feed name (p.kept value).1 = true := by
  rw [isSeen_eq_true_iff]
  constructor
  · rintro ⟨name, hname, hstored⟩
    exact ⟨name, (List.mem_filter.mp hname).1, hstored⟩
  · rintro ⟨name, hname, value, hv, hh⟩
    have hactive : fs.hasField feed name = true := Fingerprints.hasField_of_holds hh
    exact ⟨name, List.mem_filter.mpr ⟨hname, hactive⟩, value, hv, hh⟩

theorem isChanged_active_iff (names : List String) :
    isChanged p feed fs (names.filter (fs.hasField feed)) a = true ↔
      (∃ name ∈ names, fs.hasField feed name = true ∧ (a.filled? name).isSome = true) ∧
        ∀ name ∈ names, ¬∃ value, a.filled? name = some value ∧
          fs.holds feed name (p.kept value).1 = true := by
  rw [isChanged, Bool.and_eq_true, List.any_eq_true, Bool.not_eq_true', ← Bool.not_eq_true,
    isSeen_active_iff, not_exists]
  simp only [List.mem_filter, and_assoc, not_and]

/-- Of an article with a filled field, some value is stored after a choice. -/
theorem exists_holds_storedAfter {name value : String} (ha : a ∈ articles)
    (hp : name ∈ o.passing) (hi : name ≠ Article.identityField)
    (hv : a.filled? name = some value) :
    ∃ other ∈ o.passing, ∃ v, a.filled? other = some v ∧
      (storedAfter p feed fs articles o now).holds feed other (p.kept v).1 = true := by
  by_cases hnew : isKnown feed fs a = false ∨ fs.hasField feed name = false
  · have hn : name ∈ o.compared := (mem_compared o name).mpr (Or.inr hp)
    exact ⟨name, hp, value, hv, holds_storedAfter ha hn hi hv hnew⟩
  rw [not_or, Bool.not_eq_false, Bool.not_eq_false] at hnew
  obtain ⟨hknown, hactive⟩ := hnew
  have hm : name ∈ o.passing.filter (fs.hasField feed) := List.mem_filter.mpr ⟨hp, hactive⟩
  cases hch : isChanged p feed fs (o.passing.filter (fs.hasField feed)) a with
  | true =>
      -- The value that lets the article through is among the fingerprints of the choice.
      obtain ⟨f, hf, he⟩ := exists_mem_fieldPrints p feed now hm hi hv
      exact ⟨name, hp, value, hv, (Fingerprints.insertAll_holds_iff ..).mpr
        (Or.inr ⟨f, changedPrints_pending now ha hknown hch f hf, he⟩)⟩
  | false =>
      -- Some value was seen before, and it still is.
      have hany : (o.passing.filter (fs.hasField feed)).any
          (fun name => (a.filled? name).isSome) = true :=
        List.any_eq_true.mpr ⟨name, hm, by simp [hv]⟩
      have hseen : isSeen p feed fs (o.passing.filter (fs.hasField feed)) a = true := by
        simpa [isChanged, hany] using hch
      obtain ⟨other, ho, v, hov, hh⟩ := (isSeen_eq_true_iff _).mp hseen
      exact ⟨other, (List.mem_filter.mp ho).1, v, hov, storedAfter_holds hh⟩

/-- After a choice was stored one of its articles counts as changed only by its own identity: no
other passing field is filled, and the identity is not stored in the form in which values are
looked up. -/
theorem isChanged_storedAfter_iff (ha : a ∈ articles) :
    let fs' := storedAfter p feed fs articles o now
    isChanged p feed fs' (o.passing.filter (fs'.hasField feed)) a = true ↔
      Article.identityField ∈ o.passing ∧
        (∀ name ∈ o.passing, name ≠ Article.identityField → a.filled? name = none) ∧
          ∃ hash, a.filled? Article.identityField = some hash ∧
            fs'.holds feed Article.identityField (p.kept hash).1 = false := by
  intro fs'
  rw [isChanged_active_iff]
  constructor
  · rintro ⟨⟨name, hp, -, hv⟩, hunseen⟩
    have hothers : ∀ name ∈ o.passing, name ≠ Article.identityField → a.filled? name = none := by
      intro name hp hi
      rw [← Option.not_isSome_iff_eq_none, Option.isSome_iff_exists]
      rintro ⟨value, hv⟩
      obtain ⟨other, ho, hstored⟩ : ∃ other ∈ o.passing, ∃ v, a.filled? other = some v ∧
          fs'.holds feed other (p.kept v).1 = true := exists_holds_storedAfter ha hp hi hv
      exact hunseen other ho hstored
    obtain ⟨hash, hv⟩ := Option.isSome_iff_exists.mp hv
    obtain rfl : name = Article.identityField := by
      by_contra hi
      rw [hothers name hp hi] at hv
      cases hv
    refine ⟨hp, hothers, hash, hv, ?_⟩
    rw [← Bool.not_eq_true]
    exact fun hh => hunseen _ hp ⟨hash, hv, hh⟩
  · rintro ⟨hp, hothers, hash, hv, hh⟩
    constructor
    · exact ⟨_, hp, Fingerprints.hasField_of_holds (isKnown_storedAfter ha), by simp [hv]⟩
    · rintro name hname ⟨value, hvalue, hstored⟩
      by_cases hi : name = Article.identityField
      · subst hi
        rw [hv] at hvalue
        cases hvalue
        rw [hh] at hstored
        cases hstored
      · rw [hothers name hname hi] at hvalue
        cases hvalue

theorem hasField_storedAfter {field : String} (h : fs.hasField feed field = true) :
    (storedAfter p feed fs articles o now).hasField feed field = true := by
  obtain ⟨value, hv⟩ := (Fingerprints.hasField_iff ..).mp h
  exact Fingerprints.hasField_of_holds (storedAfter_holds hv)

/-- A compared field of which nothing is stored after a choice is filled in none of its articles. -/
theorem filled?_of_inactive {name : String} (ha : a ∈ articles) (hn : name ∈ o.compared)
    (hi : name ≠ Article.identityField)
    (hf : (storedAfter p feed fs articles o now).hasField feed name = false) :
    a.filled? name = none := by
  rw [← Option.not_isSome_iff_eq_none, Option.isSome_iff_exists]
  rintro ⟨value, hv⟩
  rw [← Bool.not_eq_true] at hf
  have hold : fs.hasField feed name = false := by
    rw [← Bool.not_eq_true]
    exact fun h => hf (hasField_storedAfter h)
  exact hf (Fingerprints.hasField_of_holds (holds_storedAfter ha hn hi hv (Or.inr hold)))

/-- When the articles of a choice that was stored are given again, all of them are known. -/
theorem chosen_again (now' : Instant) :
    let fs' := storedAfter p feed fs articles o now
    let changed := articles.filter (isChanged p feed fs' (o.passing.filter (fs'.hasField feed)))
    let again := chosen p feed fs' articles o now'
    again.deliver = changed.reverse.filter (isRecent o now') ∧
      again.pending =
        changed.flatMap (fieldPrints p feed now' (o.passing.filter (fs'.hasField feed))) ++
        articles.flatMap (fieldPrints p feed now' (o.compared.filter (!fs'.hasField feed ·))) := by
  intro fs' changed again
  have hknown : ∀ a ∈ articles, isKnown feed fs' a = true := fun a ha => isKnown_storedAfter ha
  have hseen : articles.filter (isKnown feed fs') = articles := List.filter_eq_self.mpr hknown
  have hfresh : articles.filter (!isKnown feed fs' ·) = [] :=
    List.filter_eq_nil_iff.mpr fun a ha => by simp [hknown a ha]
  cases hne : articles with
  | nil => simp [again, changed, hne, chosen]
  | cons a rest =>
      have ha : a ∈ articles := hne ▸ List.mem_cons_self ..
      simp only [again, changed]
      rw [← hne, chosen_of_known o now' ha (hknown a ha)]
      simp [among, hseen, hfresh]

/-- Of the articles of a choice that was stored nothing more is stored. -/
theorem pending_again (now' : Instant) :
    (chosen p feed (storedAfter p feed fs articles o now) articles o now').pending = [] := by
  rw [(chosen_again now').2, List.append_eq_nil_iff]
  constructor
  · refine List.flatMap_eq_nil_iff.mpr fun a ha => fieldPrints_eq_nil now' fun name hn hi => ?_
    obtain ⟨ha, hc⟩ := List.mem_filter.mp ha
    exact ((isChanged_storedAfter_iff ha).mp hc).2.1 name (List.mem_filter.mp hn).1 hi
  · refine List.flatMap_eq_nil_iff.mpr fun a ha => fieldPrints_eq_nil now' fun name hn hi => ?_
    obtain ⟨hn, hf⟩ := List.mem_filter.mp hn
    exact filled?_of_inactive ha hn hi (by simpa using hf)

/-- The articles of a choice that was stored are not chosen again, and nothing more is stored of
them, provided that a compared identity is kept as it is. -/
theorem chosen_storedAfter (p : Fingerprint.Policy) (feed : String) (fs : Fingerprints)
    (articles : List Article) (o : Options) (now now' : Instant)
    (plain : Article.identityField ∈ o.passing → ∀ a ∈ articles, ∀ hash,
      a.filled? Article.identityField = some hash → (p.kept hash).1 = hash) :
    let again := chosen p feed (storedAfter p feed fs articles o now) articles o now'
    again.deliver = [] ∧ again.pending = [] := by
  intro again
  refine ⟨?_, pending_again now'⟩
  rw [(chosen_again now').1]
  refine List.filter_eq_nil_iff.mpr fun a ha => ?_
  obtain ⟨ha, hc⟩ := List.mem_filter.mp (List.mem_reverse.mp ha)
  obtain ⟨hp, -, hash, hv, hh⟩ := (isChanged_storedAfter_iff ha).mp hc
  rw [plain hp a ha hash hv, ← identity_of_filled hv] at hh
  exact absurd (isKnown_storedAfter ha) (by rw [isKnown, hh]; exact Bool.false_ne_true)

end Again

end Selection

end Newswire
