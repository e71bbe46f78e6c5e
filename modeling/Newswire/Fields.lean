import Newswire.Json.Record

/-!
# Fields

A map from field names to texts. The entries are kept in the order of their names, each name once,
so that two maps with the same look-ups are the same map.
-/

namespace Newswire

structure Fields where
  entries : List (String × String)
  sorted : entries.Pairwise (·.1 < ·.1) := by simp
  deriving Repr, DecidableEq

namespace Fields

def empty : Fields := { entries := [] }

instance : Inhabited Fields := ⟨empty⟩

/-- The value of the first entry of that name. -/
def lookup (name : String) : List (String × String) → Option String
  | [] => none
  | (k, v) :: rest => if k = name then some v else lookup name rest

def get? (fs : Fields) (name : String) : Option String := lookup name fs.entries

/-- The value of a field, which is empty if there is none. -/
def value (fs : Fields) (name : String) : String := (fs.get? name).getD ""

/-- Puts an entry in its place and replaces the one that had its name. -/
def place (name value : String) : List (String × String) → List (String × String)
  | [] => [(name, value)]
  | (k, v) :: rest =>
    if name < k then (name, value) :: (k, v) :: rest
    else if name = k then (name, value) :: rest
    else (k, v) :: place name value rest

theorem mem_place {name value : String} {es : List (String × String)} {e : String × String}
    (h : e ∈ place name value es) : e = (name, value) ∨ e ∈ es := by
  induction es with
  | nil => simpa [place] using h
  | cons p rest ih =>
    obtain ⟨k, v⟩ := p
    simp only [place] at h
    split at h
    · simpa using h
    · split at h
      · rcases List.mem_cons.1 h with h | h
        · exact Or.inl h
        · exact Or.inr (List.mem_cons_of_mem _ h)
      · rcases List.mem_cons.1 h with h | h
        · exact Or.inr (h ▸ List.mem_cons_self ..)
        · rcases ih h with h | h
          · exact Or.inl h
          · exact Or.inr (List.mem_cons_of_mem _ h)

theorem lt_of_not_le {a b : String} (h : ¬ a < b) (hne : a ≠ b) : b < a := by
  rcases Decidable.em (b < a) with hb | hb
  · exact hb
  · exact absurd (String.le_antisymm (String.not_lt.1 hb) (String.not_lt.1 h)) hne

theorem pairwise_place (name value : String) {es : List (String × String)}
    (h : es.Pairwise (·.1 < ·.1)) : (place name value es).Pairwise (·.1 < ·.1) := by
  induction es with
  | nil => simp [place]
  | cons p rest ih =>
    obtain ⟨k, v⟩ := p
    obtain ⟨hk, hr⟩ := List.pairwise_cons.1 h
    simp only [place]
    split
    · next hlt =>
      refine List.pairwise_cons.2 ⟨fun e he => ?_, h⟩
      rcases List.mem_cons.1 he with he | he
      · simpa [he] using hlt
      · exact String.lt_trans hlt (hk e he)
    · split
      · next heq => exact List.pairwise_cons.2 ⟨fun e he => by simpa [heq] using hk e he, hr⟩
      · next hlt hne =>
        refine List.pairwise_cons.2 ⟨fun e he => ?_, ih hr⟩
        rcases mem_place he with he | he
        · simpa [he] using lt_of_not_le hlt hne
        · exact hk e he

def insert (fs : Fields) (name value : String) : Fields :=
  ⟨place name value fs.entries, pairwise_place name value fs.sorted⟩

theorem lookup_place (name value other : String) (es : List (String × String)) :
    lookup other (place name value es) = if name = other then some value else lookup other es := by
  induction es with
  | nil => simp [place, lookup]
  | cons p rest ih =>
    obtain ⟨k, v⟩ := p
    simp only [place]
    split
    · simp [lookup]
    · split
      · next heq =>
        subst heq
        by_cases h : name = other <;> simp [lookup, h]
      · next hne =>
        by_cases h : k = other
        · simp [lookup, h, show ¬ name = other from fun hn => hne (hn.trans h.symm)]
        · simp [lookup, h, ih]

@[simp] theorem get?_insert (fs : Fields) (name value other : String) :
    (fs.insert name value).get? other = if name = other then some value else fs.get? other :=
  lookup_place name value other fs.entries

@[simp] theorem get?_empty (name : String) : empty.get? name = none := rfl

theorem lookup_eq_none {name : String} {es : List (String × String)}
    (h : ∀ e ∈ es, name < e.1) : lookup name es = none := by
  induction es with
  | nil => rfl
  | cons p rest ih =>
    have hp : name < p.1 := h p (List.mem_cons_self ..)
    have hne : ¬ p.1 = name := fun he => String.lt_irrefl _ (he ▸ hp)
    simp only [lookup, hne, if_false]
    exact ih fun e he => h e (List.mem_cons_of_mem _ he)

/-- Maps with the same look-ups are equal. -/
theorem ext_get? {fs gs : Fields} (h : ∀ name, fs.get? name = gs.get? name) : fs = gs := by
  obtain ⟨es, hes⟩ := fs
  obtain ⟨ds, hds⟩ := gs
  suffices es = ds by subst this; rfl
  simp only [get?] at h
  induction es generalizing ds with
  | nil =>
    cases ds with
    | nil => rfl
    | cons q t => simpa [lookup] using h q.1
  | cons p s ih =>
    cases ds with
    | nil => simpa [lookup] using h p.1
    | cons q t =>
      obtain ⟨hp, hs⟩ := List.pairwise_cons.1 hes
      obtain ⟨hq, ht⟩ := List.pairwise_cons.1 hds
      have hkey : p.1 = q.1 := by
        rcases Decidable.em (p.1 = q.1) with he | he
        · exact he
        · rcases Decidable.em (p.1 < q.1) with hlt | hlt
          · have := h p.1
            rw [@lookup_eq_none _ (q :: t)] at this
            · simp [lookup] at this
            · intro e hm
              rcases List.mem_cons.1 hm with hm | hm
              · exact hm ▸ hlt
              · exact String.lt_trans hlt (hq e hm)
          · have hgt := lt_of_not_le hlt he
            have := h q.1
            rw [@lookup_eq_none _ (p :: s)] at this
            · simp [lookup] at this
            · intro e hm
              rcases List.mem_cons.1 hm with hm | hm
              · exact hm ▸ hgt
              · exact String.lt_trans hgt (hp e hm)
      have hval : p.2 = q.2 := by
        have := h p.1
        simpa [lookup, hkey] using this
      have htail : s = t := by
        refine ih hs t ht fun name => ?_
        by_cases hn : p.1 = name
        · subst hn
          rw [lookup_eq_none hp, lookup_eq_none (hkey ▸ hq)]
        · have := h name
          simpa [lookup, hn, show ¬ q.1 = name from hkey ▸ hn] using this
      rw [htail, show p = q from Prod.ext hkey hval]

/-- The map in which of several entries of one name the last one counts. -/
def ofList (entries : List (String × String)) : Fields :=
  entries.foldl (fun fs e => fs.insert e.1 e.2) empty

def decode : Json.Decoder Fields
  | .obj members => do
    let step (fs : Fields) (m : String × Json) : Except Json.Misfit Fields :=
      fs.insert m.1 <$> Json.Decoder.text m.2
    members.foldlM step empty
  | _ => .error .malformed

def encode (fs : Fields) : Json := .obj (fs.entries.map fun e => (e.1, .str e.2))

end Fields

end Newswire
