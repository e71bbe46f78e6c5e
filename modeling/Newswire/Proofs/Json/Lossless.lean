import Mathlib.Data.List.Nodup
import Newswire.Json.Record

/-!
# Writing and reading without loss

What is written of a value is read back as that value, and a value that has been read can be
written. Parts without loss make up lists, optional values and records without loss: a record fills
in one field after the other from its members, and what holds of the fields that have been read
holds of the record.
-/

namespace Newswire.Json

variable {α β σ : Type}

theorem map_eq_ok_iff {x : Except Misfit α} {f : α → β} {b : β} :
    f <$> x = .ok b ↔ ∃ a, x = .ok a ∧ f a = b := by
  cases x with
  | error e => exact ⟨nofun, fun ⟨_, h, _⟩ => nomatch h⟩
  | ok a => exact ⟨fun h => ⟨a, rfl, Except.ok.inj h⟩, fun ⟨_, rfl, h⟩ => congrArg Except.ok h⟩

theorem bind_eq_ok_iff {x : Except Misfit α} {f : α → Except Misfit β} {b : β} :
    x >>= f = .ok b ↔ ∃ a, x = .ok a ∧ f a = .ok b := by
  cases x with
  | error e => exact ⟨nofun, fun ⟨_, h, _⟩ => nomatch h⟩
  | ok a => exact ⟨fun h => ⟨a, rfl, h⟩, fun ⟨_, rfl, h⟩ => h⟩

theorem allItems_eq_all (p : Json → Bool) (items : List Json) :
    allItems p items = items.all (allParts p) := by
  induction items with
  | nil => rfl
  | cons j rest ih => rw [allItems, ih, List.all_cons]

theorem allMembers_eq_all (p : Json → Bool) (members : List (String × Json)) :
    allMembers p members = members.all fun m => allParts p m.2 := by
  induction members with
  | nil => rfl
  | cons m rest ih => rw [allMembers, ih, List.all_cons]

mutual

theorem allParts_mono {p q : Json → Bool} (h : ∀ j, p j = true → q j = true) :
    ∀ {j : Json}, allParts p j = true → allParts q j = true
  | arr items, hj => by
      rw [allParts, Bool.and_eq_true] at hj ⊢
      exact ⟨h _ hj.1, allItems_mono h hj.2⟩
  | obj members, hj => by
      rw [allParts, Bool.and_eq_true] at hj ⊢
      exact ⟨h _ hj.1, allMembers_mono h hj.2⟩
  | null, hj | bool _, hj | int _, hj | real _, hj | str _, hj | unreadable, hj | broken, hj =>
      h _ hj

theorem allItems_mono {p q : Json → Bool} (h : ∀ j, p j = true → q j = true) :
    ∀ {items : List Json}, allItems p items = true → allItems q items = true
  | [], _ => rfl
  | j :: rest, hj => by
      rw [allItems, Bool.and_eq_true] at hj ⊢
      exact ⟨allParts_mono h hj.1, allItems_mono h hj.2⟩

theorem allMembers_mono {p q : Json → Bool} (h : ∀ j, p j = true → q j = true) :
    ∀ {members : List (String × Json)}, allMembers p members = true → allMembers q members = true
  | [], _ => rfl
  | (_, j) :: rest, hj => by
      rw [allMembers, Bool.and_eq_true] at hj ⊢
      exact ⟨allParts_mono h hj.1, allMembers_mono h hj.2⟩

end

/-- Every part of the value denotes something, and its numbers are whole and of sixty-four bits. -/
def IsPlain (j : Json) : Prop :=
  j.allParts (fun
    | int n => -0x8000000000000000 ≤ n ∧ n < 0x10000000000000000
    | real _ => false
    | unreadable => false
    | broken => false
    | _ => true) = true

theorem IsPlain.isReadable {j : Json} (h : j.IsPlain) : j.isReadable = true :=
  allParts_mono (fun j hj => by cases j <;> first | rfl | cases hj) h

@[simp] theorem isPlain_str (s : String) : (str s).IsPlain := rfl

@[simp] theorem isPlain_ofText? (s : Option String) : (ofText? s).IsPlain := by
  cases s <;> rfl

@[simp] theorem isPlain_int (n : Int) :
    (int n).IsPlain ↔ -0x8000000000000000 ≤ n ∧ n < 0x10000000000000000 :=
  decide_eq_true_iff

@[simp] theorem isPlain_arr (items : List Json) : (arr items).IsPlain ↔ ∀ j ∈ items, j.IsPlain := by
  rw [IsPlain, allParts, Bool.true_and, allItems_eq_all, List.all_eq_true]
  rfl

@[simp] theorem isPlain_obj (members : List (String × Json)) :
    (obj members).IsPlain ↔ ∀ m ∈ members, m.2.IsPlain := by
  rw [IsPlain, allParts, Bool.true_and, allMembers_eq_all, List.all_eq_true]
  rfl

theorem Decoder.nullable_of_ne {d : Decoder α} {j : Json} (h : j ≠ .null) :
    d.nullable j = some <$> d j := by
  cases j with
  | null => exact absurd rfl h
  | _ => rfl

/-- Nothing is lost between a value and its written form: what is written of a value that fits is
plain and is read back as that value, and what has been read fits. -/
structure Lossless (decode : Decoder α) (encode : α → Json) (Fits : α → Prop) : Prop where
  plain {a : α} (h : Fits a) : (encode a).IsPlain
  decode_encode {a : α} (h : Fits a) : decode (encode a) = .ok a
  fits {j : Json} {a : α} (h : decode j = .ok a) : Fits a

namespace Lossless

variable {decode : Decoder α} {encode : α → Json} {Fits : α → Prop}

theorem text : Lossless .text str fun _ => True where
  plain _ := rfl
  decode_encode _ := rfl
  fits _ := trivial

theorem bool : Lossless .bool .bool fun _ => True where
  plain _ := rfl
  decode_encode _ := rfl
  fits _ := trivial

theorem natBelow {bound : Nat} (hbound : bound ≤ 0x10000000000000000) :
    Lossless (.natBelow bound) (fun n => int n) fun n => n < bound where
  plain {n} h := by
    rw [isPlain_int]
    omega
  decode_encode {n} h := by
    have hn : (0 : Int) ≤ n ∧ (n : Int) < bound := ⟨Int.natCast_nonneg n, Int.ofNat_lt.mpr h⟩
    rw [Decoder.natBelow, if_pos hn, Int.toNat_natCast]
  fits {j n} h := by
    cases j with
    | int m =>
        rw [Decoder.natBelow] at h
        split at h
        · next hm =>
            obtain rfl := Except.ok.inj h
            omega
        · cases h
    | _ => cases h

theorem nat32 : Lossless .nat32 (fun n => int n) fun n => n < 0x100000000 := natBelow (by decide)

theorem nat64 : Lossless .nat64 (fun n => int n) fun n => n < 0x10000000000000000 :=
  natBelow (by decide)

theorem nullable (h : Lossless decode encode Fits) (hnull : ∀ a, encode a ≠ null) :
    Lossless (.nullable decode) (fun o => o.elim null encode) fun o => ∀ a ∈ o, Fits a where
  plain {o} ho := by
    cases o with
    | none => rfl
    | some a => exact h.plain (ho a rfl)
  decode_encode {o} ho := by
    cases o with
    | none => rfl
    | some a =>
        rw [Option.elim_some, Decoder.nullable_of_ne (hnull a)]
        exact map_eq_ok_iff.mpr ⟨a, h.decode_encode (ho a rfl), rfl⟩
  fits {j o} hj a ha := by
    obtain rfl := Option.mem_def.mp ha
    have hj' : j ≠ null := by
      rintro rfl
      cases hj
    rw [Decoder.nullable_of_ne hj'] at hj
    obtain ⟨b, hb, heq⟩ := map_eq_ok_iff.mp hj
    exact h.fits (Option.some.inj heq ▸ hb)

theorem list (h : Lossless decode encode Fits) :
    Lossless (.list decode) (fun as => arr (as.map encode)) fun as => ∀ a ∈ as, Fits a where
  plain has := by
    rw [isPlain_arr]
    exact List.forall_mem_map.mpr fun a ha => h.plain (has a ha)
  decode_encode {as} has := by
    rw [Decoder.list]
    induction as with
    | nil => rfl
    | cons a rest ih =>
        obtain ⟨ha, hrest⟩ := List.forall_mem_cons.mp has
        rw [List.map_cons, List.mapM_cons, h.decode_encode ha, ih hrest]
        rfl
  fits {j as} hj := by
    cases j with
    | arr items =>
        rw [Decoder.list] at hj
        induction items generalizing as with
        | nil =>
            cases hj
            exact fun a ha => nomatch ha
        | cons j rest ih =>
            rw [List.mapM_cons] at hj
            obtain ⟨a, ha, hj⟩ := bind_eq_ok_iff.mp hj
            obtain ⟨others, hothers, hj⟩ := bind_eq_ok_iff.mp hj
            cases hj
            exact List.forall_mem_cons.mpr ⟨h.fits ha, ih hothers⟩
    | _ => cases hj

/-- A name for each of the values that can be chosen from. -/
theorem chooseName {choices : List (String × α)} {name : α → String}
    (h : ∀ a, choices.find? (·.1 == name a) = some (name a, a)) :
    Lossless (Json.chooseName choices) (fun a => str (name a)) fun _ => True where
  plain _ := isPlain_str _
  decode_encode {a} _ := by rw [Json.chooseName, chooseTag, h a]
  fits _ := trivial

theorem nullable_nat {d : Decoder Nat} {Fits : Nat → Prop}
    (h : Lossless d (fun n => int n) Fits) :
    Lossless d.nullable ofNat? fun o => ∀ n ∈ o, Fits n := by
  have hsame : ofNat? = fun o => o.elim null fun n => int n := by
    funext o
    cases o <;> rfl
  rw [hsame]
  exact h.nullable fun _ => nofun

theorem nullable_text {d : Decoder String} {Fits : String → Prop} (h : Lossless d str Fits) :
    Lossless d.nullable ofText? fun o => ∀ s ∈ o, Fits s := by
  have hsame : ofText? = fun o => o.elim null str := by
    funext o
    cases o <;> rfl
  rw [hsame]
  exact h.nullable fun _ => nofun

theorem text? : Lossless (.nullable .text) ofText? fun _ => True where
  plain {s} _ := isPlain_ofText? s
  decode_encode _ := text.nullable_text.decode_encode fun _ _ => trivial
  fits _ := trivial

end Lossless

@[simp] theorem Field.name_requires (name : String) (d : Decoder α) (set : α → σ → σ) :
    (Field.requires name d set).name = name := rfl

@[simp] theorem Field.name_allows (name : String) (d : Decoder α) (set : α → σ → σ) :
    (Field.allows name d set).name = name := rfl

/-- Members that give the fields of a record in their order, where fields that may be missing may be
left out, take it from a draft to its end. -/
inductive Fills : List (Field σ) → List (String × Json) → σ → σ → Prop
  | nil (a : σ) : Fills [] [] a a
  | read {f : Field σ} {fields : List (Field σ)} {j : Json} {members : List (String × Json)}
      {draft draft' a : σ} (hj : j.IsPlain) (h : f.read j draft = .ok draft')
      (rest : Fills fields members draft' a) : Fills (f :: fields) ((f.name, j) :: members) draft a
  | skip {f : Field σ} {fields : List (Field σ)} {members : List (String × Json)} {draft a : σ}
      (h : f.required = false) (rest : Fills fields members draft a) :
      Fills (f :: fields) members draft a

namespace Fills

variable {fields all : List (Field σ)} {members : List (String × Json)} {draft a : σ} {x : α}
  {name : String} {d : Decoder α} {encode : α → Json} {Fits : α → Prop} {set : α → σ → σ}

theorem requires_of {j : Json} (hj : j.IsPlain) (hx : d j = .ok x)
    (rest : Fills fields members (set x draft) a) :
    Fills (.requires name d set :: fields) ((name, j) :: members) draft a :=
  read (f := .requires name d set) hj (map_eq_ok_iff.mpr ⟨x, hx, rfl⟩) rest

theorem allows_of {j : Json} (hj : j.IsPlain) (hx : d j = .ok x)
    (rest : Fills fields members (set x draft) a) :
    Fills (.allows name d set :: fields) ((name, j) :: members) draft a :=
  read (f := .allows name d set) hj (map_eq_ok_iff.mpr ⟨x, hx, rfl⟩) rest

theorem requires (h : Lossless d encode Fits) (hx : Fits x)
    (rest : Fills fields members (set x draft) a) :
    Fills (.requires name d set :: fields) ((name, encode x) :: members) draft a :=
  requires_of (h.plain hx) (h.decode_encode hx) rest

theorem allows (h : Lossless d encode Fits) (hx : Fits x)
    (rest : Fills fields members (set x draft) a) :
    Fills (.allows name d set :: fields) ((name, encode x) :: members) draft a :=
  allows_of (h.plain hx) (h.decode_encode hx) rest

theorem isPlain (h : Fills fields members draft a) : (obj members).IsPlain := by
  rw [isPlain_obj]
  induction h with
  | nil a => exact fun _ h => nomatch h
  | read hj h rest ih => exact List.forall_mem_cons.mpr ⟨hj, ih⟩
  | skip h rest ih => exact ih

/-- Every field is found under its own name, and none is read twice. -/
theorem foldlM_readMember (h : Fills fields members draft a)
    (hfind : ∀ f ∈ fields, all.find? (·.name == f.name) = some f)
    (hnodup : (fields.map Field.name).Nodup) {seen : List String}
    (hseen : ∀ f ∈ fields, f.name ∉ seen) :
    ∃ seen', members.foldlM (readMember all) (seen, draft) = .ok (seen', a) ∧
      (∀ name ∈ seen, name ∈ seen') ∧ ∀ f ∈ fields, f.required = true → f.name ∈ seen' := by
  induction h generalizing seen with
  | nil a => exact ⟨seen, rfl, fun _ h => h, nofun⟩
  | @read f fields j members draft draft' a hj hread rest ih =>
      obtain ⟨hf, hfields⟩ := List.forall_mem_cons.mp hfind
      obtain ⟨hfresh, hothers⟩ := List.forall_mem_cons.mp hseen
      obtain ⟨hname, hnodup⟩ := List.nodup_cons.mp hnodup
      have hothers' : ∀ g ∈ fields, g.name ∉ f.name :: seen := by
        intro g hg hmem
        rcases List.mem_cons.mp hmem with hgf | hmem
        · exact hname (hgf ▸ List.mem_map_of_mem hg)
        · exact hothers g hg hmem
      obtain ⟨seen', hfold, hkept, hrequired⟩ := ih hfields hnodup hothers'
      have hfirst : readMember all (seen, draft) (f.name, j) = .ok (f.name :: seen, draft') := by
        simp only [readMember, hf, List.contains_eq_mem, hfresh, hread]
        rfl
      refine ⟨seen', ?_, fun name h => hkept name (List.mem_cons_of_mem _ h), ?_⟩
      · rw [List.foldlM_cons, hfirst]
        exact hfold
      · exact List.forall_mem_cons.mpr ⟨fun _ => hkept _ List.mem_cons_self, hrequired⟩
  | @skip f fields members draft a hf rest ih =>
      obtain ⟨-, hfields⟩ := List.forall_mem_cons.mp hfind
      obtain ⟨-, hothers⟩ := List.forall_mem_cons.mp hseen
      obtain ⟨seen', hfold, hkept, hrequired⟩ := ih hfields (List.nodup_cons.mp hnodup).2 hothers
      refine ⟨seen', hfold, hkept, List.forall_mem_cons.mpr ⟨fun h => ?_, hrequired⟩⟩
      rw [hf] at h
      cases h

/-- A record is read from members that fill it in. -/
theorem record (h : Fills fields members draft a) (hnodup : (fields.map Field.name).Nodup) :
    Json.record draft fields (.obj members) = .ok a := by
  have hfind : ∀ f ∈ fields, fields.find? (·.name == f.name) = some f := by
    intro f hf
    have hsome : (fields.find? (·.name == f.name)).isSome = true :=
      List.find?_isSome.mpr ⟨f, hf, beq_self_eq_true f.name⟩
    obtain ⟨g, hg⟩ := Option.isSome_iff_exists.mp hsome
    have hname : g.name = f.name := by simpa using List.find?_some hg
    rw [hg, List.inj_on_of_nodup_map hnodup (List.mem_of_find?_eq_some hg) hf hname]
  have hnone : ∀ f ∈ fields, f.name ∉ ([] : List String) := fun _ _ => List.not_mem_nil
  obtain ⟨seen, hfold, -, hrequired⟩ := h.foldlM_readMember hfind hnodup hnone
  have hmissing : (fields.any fun f => f.required && !seen.contains f.name) = false := by
    rw [List.any_eq_false]
    intro f hf
    simpa using hrequired f hf
  rw [Json.record, hfold]
  change (if _ then _ else _) = _
  rw [hmissing]
  rfl

end Fills

/-- Reading any of the fields keeps what holds of a draft and of the names that have been read. -/
def Keeps (P : List String → σ → Prop) (fields : List (Field σ)) : Prop :=
  ∀ f ∈ fields, ∀ seen j draft draft',
    P seen draft → f.read j draft = .ok draft' → P (f.name :: seen) draft'

namespace Keeps

variable {P : List String → σ → Prop} {fields : List (Field σ)} {name : String} {d : Decoder α}
  {encode : α → Json} {Fits : α → Prop} {set : α → σ → σ}

theorem nil : Keeps P [] := nofun

theorem requires (h : Lossless d encode Fits)
    (hset : ∀ {seen draft x}, Fits x → P seen draft → P (name :: seen) (set x draft))
    (rest : Keeps P fields) : Keeps P (.requires name d set :: fields) := by
  refine List.forall_mem_cons.mpr ⟨?_, rest⟩
  intro seen j draft a hdraft hread
  obtain ⟨x, hx, rfl⟩ := map_eq_ok_iff.mp hread
  exact hset (h.fits hx) hdraft

theorem allows (h : Lossless d encode Fits)
    (hset : ∀ {seen draft x}, Fits x → P seen draft → P (name :: seen) (set x draft))
    (rest : Keeps P fields) : Keeps P (.allows name d set :: fields) := by
  refine List.forall_mem_cons.mpr ⟨fun seen j draft draft' hdraft hread => ?_, rest⟩
  obtain ⟨x, hx, rfl⟩ := map_eq_ok_iff.mp hread
  exact hset (h.fits hx) hdraft

variable {seen : List String} {draft a : σ}

theorem readParts (hkeeps : Keeps P fields) {items : List Json} (hdraft : P seen draft)
    (h : Json.readParts fields items draft = .ok a) :
    ∃ seen', P seen' a ∧ (∀ name ∈ seen, name ∈ seen') ∧
      ∀ f ∈ fields, f.required = true → f.name ∈ seen' := by
  induction fields generalizing items seen draft with
  | nil =>
      cases items with
      | nil =>
          cases h
          exact ⟨seen, hdraft, fun _ h => h, nofun⟩
      | cons j rest => cases h
  | cons f fields ih =>
      obtain ⟨hf, hfields⟩ := List.forall_mem_cons.mp hkeeps
      cases items with
      | nil =>
          rw [Json.readParts] at h
          split at h
          · cases h
          · next hrequired =>
              obtain ⟨seen', ha, hkept, hall⟩ := ih hfields hdraft h
              exact ⟨seen', ha, hkept,
                List.forall_mem_cons.mpr ⟨fun hf => absurd hf hrequired, hall⟩⟩
      | cons j rest =>
          rw [Json.readParts] at h
          obtain ⟨draft', hread, h⟩ := bind_eq_ok_iff.mp h
          obtain ⟨seen', ha, hkept, hall⟩ := ih hfields (hf seen j draft draft' hdraft hread) h
          refine ⟨seen', ha, fun name hn => hkept name (List.mem_cons_of_mem _ hn), ?_⟩
          exact List.forall_mem_cons.mpr ⟨fun _ => hkept _ List.mem_cons_self, hall⟩

theorem readMember (hkeeps : Keeps P fields) {m : String × Json} (hdraft : P seen draft)
    {seen' : List String} (h : Json.readMember fields (seen, draft) m = .ok (seen', a)) :
    P seen' a := by
  obtain ⟨name, j⟩ := m
  rw [Json.readMember] at h
  cases hfind : fields.find? (·.name == name) with
  | none =>
      rw [hfind] at h
      dsimp only at h
      split at h
      · cases h
        exact hdraft
      · cases h
  | some f =>
      rw [hfind] at h
      dsimp only at h
      split at h
      · cases h
      · obtain ⟨draft', hread, heq⟩ := bind_eq_ok_iff.mp h
        cases heq
        have hname : f.name = name := by simpa using List.find?_some hfind
        exact hname ▸ hkeeps f (List.mem_of_find?_eq_some hfind) seen j draft a hdraft hread

theorem foldlM_readMember (hkeeps : Keeps P fields) {members : List (String × Json)}
    (hdraft : P seen draft) {seen' : List String}
    (h : members.foldlM (Json.readMember fields) (seen, draft) = .ok (seen', a)) : P seen' a := by
  induction members generalizing seen draft with
  | nil =>
      cases h
      exact hdraft
  | cons m rest ih =>
      rw [List.foldlM_cons] at h
      obtain ⟨⟨names, draft'⟩, hmember, h⟩ := bind_eq_ok_iff.mp h
      exact ih (hkeeps.readMember hdraft hmember) h

/-- What the fields keep holds of a record that has been read, with the names of all that it must
have. -/
theorem record (hkeeps : Keeps P fields) {blank : σ} (hblank : P [] blank) {j : Json}
    (h : Json.record blank fields j = .ok a) :
    ∃ seen, P seen a ∧ ∀ f ∈ fields, f.required = true → f.name ∈ seen := by
  cases j with
  | obj members =>
      obtain ⟨⟨seen, draft⟩, hfold, h⟩ := bind_eq_ok_iff.mp h
      change (if _ then _ else _) = _ at h
      split at h
      · cases h
      · next hmissing =>
          cases h
          refine ⟨seen, hkeeps.foldlM_readMember hblank hfold, fun f hf hrequired => ?_⟩
          by_contra hn
          exact hmissing (List.any_eq_true.mpr ⟨f, hf, by simp [hrequired, hn]⟩)
  | arr items =>
      obtain ⟨seen, ha, -, hall⟩ := hkeeps.readParts hblank h
      exact ⟨seen, ha, hall⟩
  | _ => cases h

/-- What fits from the start and with each field fits in the end. -/
theorem fits {Fits : σ → Prop} (hkeeps : Keeps (fun _ => Fits) fields) {blank : σ}
    (hblank : Fits blank) {j : Json} (h : Json.record blank fields j = .ok a) : Fits a := by
  obtain ⟨-, ha, -⟩ := hkeeps.record hblank h
  exact ha

end Keeps

/-- A record is without loss if its members fill in its fields. -/
theorem Lossless.record {fields : List (Field σ)} {blank : σ} {encode : σ → Json} {Fits : σ → Prop}
    (hfills : ∀ {a}, Fits a → ∃ members, encode a = obj members ∧ Fills fields members blank a)
    (hnodup : (fields.map Field.name).Nodup)
    (hfits : ∀ {j a}, Json.record blank fields j = .ok a → Fits a) :
    Lossless (Json.record blank fields) encode Fits where
  plain h := by
    obtain ⟨members, heq, hmembers⟩ := hfills h
    exact heq ▸ hmembers.isPlain
  decode_encode h := by
    obtain ⟨members, heq, hmembers⟩ := hfills h
    exact heq ▸ hmembers.record hnodup
  fits := hfits

/-- The tag is read off in front of the members of what it tags. -/
theorem untag_obj {key : String} {tag : Json} {members : List (String × Json)}
    (hplain : (obj ((key, tag) :: members)).IsPlain) (hkey : ∀ m ∈ members, m.1 ≠ key) :
    untag key (obj ((key, tag) :: members)) = .ok (tag, obj members) := by
  have hothers : members.filter (fun m => m.1 == key) = [] :=
    List.filter_eq_nil_iff.mpr fun m hm => mt beq_iff_eq.mp (hkey m hm)
  have hall : members.filter (fun m => m.1 != key) = members :=
    List.filter_eq_self.mpr fun m hm => bne_iff_ne.mpr (hkey m hm)
  rw [untag, hplain.isReadable]
  simp [hothers, hall]

end Newswire.Json
