import Newswire.Proofs.Message.Composing

/-!
# Messages that show nothing

No message is made exactly when there is nothing to send: the text is blank, and so is every part
of every embed that counts. The text of a footer does not count, although it would be seen, so that
an embed with nothing but a footer is held to be empty.
-/

namespace Newswire.Message

open Text (AllBlank)

namespace Filling

/-- A template that is absent or shows nothing once it is filled in. -/
def Hides (f : Filling) (template : Option String) : Prop := ∀ t ∈ template, AllBlank (f.text t)

/-- The same for the template of an address, from which no markup is taken. -/
def HidesAddress (f : Filling) (template : Option String) : Prop :=
  ∀ t ∈ template, AllBlank (Template.fill f.options.fallbacks f.fields t)

/-- A field is shown only with name and value. -/
def HidesField (f : Filling) (field : FieldOutline) : Prop :=
  AllBlank (f.text field.name) ∨ AllBlank (f.text field.value)

end Filling

/-- Apart from its footer the embed shows nothing. -/
structure EmbedOutline.IsBare (f : Filling) (o : EmbedOutline) : Prop where
  title : f.Hides o.title
  description : f.Hides o.description
  author : f.Hides o.author
  url : f.HidesAddress o.url
  image : f.HidesAddress o.image
  thumbnail : f.HidesAddress o.thumbnail
  fields : ∀ field ∈ o.fields, f.HidesField field

/-- Nothing is shown, neither by the text nor by any part of an embed. -/
def Filling.ShowsNothing (f : Filling) (outline : Outline) : Prop :=
  f.Hides outline.content ∧ ∀ o ∈ outline.embeds, o.IsBare f ∧ f.Hides o.footer

/-- All that is shown are texts of footers. -/
def Filling.ShowsOnlyFooters (f : Filling) (outline : Outline) : Prop :=
  (f.Hides outline.content ∧ ∀ o ∈ outline.embeds, o.IsBare f) ∧
    ∃ o ∈ outline.embeds, ¬ f.Hides o.footer

section Embeds

variable {f : Filling}

theorem capped_eq_none_iff {limit : Nat} {template : String} :
    f.capped limit template = none ↔ AllBlank (f.text template) := by
  unfold Filling.capped AllBlank
  rw [← Text.trim_eq_nil_iff, ← List.isEmpty_iff]
  dsimp only
  split
  · next h => simp [h]
  · next h => simp [h]

theorem url_eq_none_iff {template : String} :
    f.url template = none ↔ AllBlank (Template.fill f.options.fallbacks f.fields template) := by
  unfold Filling.url AllBlank
  rw [← Text.words_eq_nil_iff]
  split
  · next h => simp [h]
  · next h => simpa using h

theorem bind_capped_eq_none_iff {limit : Nat} {template : Option String} :
    template.bind (f.capped limit) = none ↔ f.Hides template := by
  rw [Option.bind_eq_none_iff]
  exact forall₂_congr fun _ _ => capped_eq_none_iff

theorem bind_url_eq_none_iff {template : Option String} :
    template.bind f.url = none ↔ f.HidesAddress template := by
  rw [Option.bind_eq_none_iff]
  exact forall₂_congr fun _ _ => url_eq_none_iff

theorem field?_eq_none_iff {field : FieldOutline} :
    f.field? field = none ↔ f.HidesField field := by
  have hname : f.capped fieldNameLimit field.name = none ↔ AllBlank (f.text field.name) :=
    capped_eq_none_iff
  have hvalue : f.capped fieldValueLimit field.value = none ↔ AllBlank (f.text field.value) :=
    capped_eq_none_iff
  rw [Filling.HidesField, ← hname, ← hvalue, Filling.field?]
  cases f.capped fieldNameLimit field.name with
  | none => simp
  | some name =>
      cases f.capped fieldValueLimit field.value with
      | none => simp
      | some value => simp

theorem take_filterMap_field?_eq_nil_iff {fields : List FieldOutline} :
    (fields.filterMap f.field?).take maxEmbedFields = [] ↔
      ∀ field ∈ fields, f.HidesField field := by
  have hmax : maxEmbedFields ≠ 0 := by decide
  simp [List.take_eq_nil_iff, hmax, List.filterMap_eq_nil_iff, field?_eq_none_iff]

/-- An embed counts as empty exactly when it shows nothing but its footer. -/
theorem isEmpty_embed_iff {o : EmbedOutline} : (f.embed o).isEmpty = true ↔ o.IsBare f := by
  simp only [Embed.isEmpty, Filling.embed, Bool.and_eq_true, Option.isNone_iff_eq_none,
    List.isEmpty_iff, Option.map_eq_none_iff, bind_capped_eq_none_iff, bind_url_eq_none_iff,
    take_filterMap_field?_eq_nil_iff]
  constructor
  · rintro ⟨⟨⟨⟨⟨⟨htitle, hdescription⟩, hurl⟩, himage⟩, hthumbnail⟩, hauthor⟩, hfields⟩
    exact ⟨htitle, hdescription, hauthor, hurl, himage, hthumbnail, hfields⟩
  · intro h
    exact ⟨⟨⟨⟨⟨⟨h.title, h.description⟩, h.url⟩, h.image⟩, h.thumbnail⟩, h.author⟩, h.fields⟩

theorem embeds_eq_nil_iff {outlines : List EmbedOutline} :
    f.embeds outlines = [] ↔ ∀ o ∈ outlines, o.IsBare f := by
  have hmax : maxEmbeds ≠ 0 := by decide
  simp [Filling.embeds, List.take_eq_nil_iff, hmax, List.filter_eq_nil_iff, isEmpty_embed_iff]

end Embeds

section Texts

variable {f : Filling} {maxLength : Nat} {text : List Char}

theorem isShownPart_firstPart (c : Cutting) (hlength : 0 < maxLength) (hne : text ≠ [])
    (hhead : ∀ ch ∈ text.head?, Text.isBlank ch = false) :
    isShownPart (firstPart c maxLength text) = true := by
  have hcuts := areCuts_pieces c.nil_not_mem_separators hlength text
  have hfilled := hcuts.ne_nil c.nil_not_mem_separators hlength
  have hflatten := hcuts.flatten
  rw [firstPart, Nat.max_eq_left hlength]
  cases hpieces : pieces c.separators maxLength text with
  | nil =>
      rw [hpieces] at hflatten
      exact absurd hflatten.symm hne
  | cons piece more =>
      rw [hpieces] at hfilled hflatten
      -- The first piece starts with the character that the text starts with.
      obtain ⟨ch, rest, rfl⟩ := List.exists_cons_of_ne_nil (hfilled piece List.mem_cons_self)
      rw [← hflatten] at hhead
      exact isShownPart_iff.mpr ⟨ch, List.mem_cons_self, hhead ch rfl⟩

theorem exists_isShownPart_parts (c : Cutting) (limit : Nat)
    (h : ∃ ch ∈ text, Text.isBlank ch = false) :
    ∃ part ∈ parts c limit text, isShownPart part = true := by
  obtain ⟨ch, hch, hshown⟩ := h
  rcases Nat.lt_or_ge (max limit 1) text.length with hlt | hle
  · have hpos : 0 < max limit 1 := by omega
    have hwhole := (areParts_pieces c hpos text).whole
    rw [← hwhole] at hch
    obtain ⟨piece, hpiece, hch⟩ := List.mem_flatten.mp hch
    rw [parts_of_length_lt hlt]
    refine ⟨_, List.mem_map.mpr ⟨piece, hpiece, rfl⟩, isShownPart_iff.mpr ⟨ch, ?_, hshown⟩⟩
    simp [Cutting.wrap, hch]
  · rw [parts_of_length_le hle]
    exact ⟨text, List.mem_singleton.mpr rfl, isShownPart_iff.mpr ⟨ch, hch, hshown⟩⟩

/-- A text that shows something has a part that does, whether it is cut up or cut off. -/
theorem exists_isShownPart_contentParts (hlength : 0 < maxLength) (hne : text ≠ [])
    (hhead : ∀ ch ∈ text.head?, Text.isBlank ch = false) :
    ∃ part ∈ f.contentParts maxLength text, isShownPart part = true := by
  obtain ⟨ch, rest, rfl⟩ := List.exists_cons_of_ne_nil hne
  have hfirst (c : Cutting) : isShownPart (firstPart c maxLength (ch :: rest)) = true :=
    isShownPart_firstPart c hlength hne hhead
  unfold Filling.contentParts
  split
  · split
    · exact exists_isShownPart_parts _ _ ⟨ch, List.mem_cons_self, hhead ch rfl⟩
    · exact ⟨_, List.mem_singleton.mpr rfl, hfirst _⟩
  · exact ⟨_, List.mem_singleton.mpr rfl, hfirst _⟩

theorem content_eq_nil_iff {template : Option String} :
    f.content template = [] ↔ f.Hides template := by
  rw [Filling.content, Text.trim_eq_nil_iff]
  cases template with
  | none => simp [Filling.Hides]
  | some t => simp [Filling.Hides, AllBlank]

theorem texts_eq_nil_iff (hlength : 0 < maxLength) {template : Option String} :
    f.texts maxLength template = [] ↔ f.Hides template := by
  rw [← content_eq_nil_iff, texts_eq, List.map_eq_nil_iff, List.filter_eq_nil_iff]
  constructor
  · intro h
    by_contra hne
    have hpart : ∃ part ∈ f.contentParts maxLength (f.content template),
        isShownPart part = true :=
      exists_isShownPart_contentParts hlength hne fun _ => Text.not_isBlank_head_trim
    obtain ⟨part, hpart, hshown⟩ := hpart
    exact h part hpart hshown
  · intro h part hpart
    rw [h, contentParts_nil, List.mem_singleton] at hpart
    rw [hpart]
    decide

end Texts

theorem attach_eq_nil_iff {embeds : List Embed} {payloads : List Payload} :
    attach embeds payloads = [] ↔ payloads = [] ∧ embeds = [] := by
  cases payloads with
  | nil => simp [attach]
  | cons p rest => simp [attach_ne_nil (List.cons_ne_nil p rest)]

section Compose

variable {maxLength : Nat} {options : Options} {outline : Outline} {fields : Fields}

/-- No message is made exactly when nothing but footers would be shown. -/
theorem compose_eq_emptyMessage_iff :
    let f : Filling := ⟨Limit.applyAll fields options.limits, options⟩
    compose maxLength options outline fields = .error .emptyMessage ↔
      f.Hides outline.content ∧ ∀ o ∈ outline.embeds, o.IsBare f := by
  intro f
  have hlength : 0 < max maxLength 1 := by omega
  rw [← texts_eq_nil_iff hlength, ← embeds_eq_nil_iff, ← attach_eq_nil_iff, compose]
  split
  · next h => simpa using h
  · next h => simpa using h

end Compose

/-- An article of which nothing can be shown makes no message, and neither does one of which only
footers could be shown. In all other cases a message is made. -/
theorem emptyMessage_iff (maxLength : Nat) (c : Connection) (fields : Fields) :
    let f : Filling := ⟨Limit.applyAll fields c.options.limits, c.options⟩
    (compose maxLength c.options c.outline fields = .error .emptyMessage ↔
        f.ShowsNothing c.outline ∨ f.ShowsOnlyFooters c.outline) ∧
      ((compose maxLength c.options c.outline fields = .error .emptyMessage ↔
        f.ShowsNothing c.outline) ↔ ¬ f.ShowsOnlyFooters c.outline) := by
  intro f
  have hcompose : compose maxLength c.options c.outline fields = .error .emptyMessage ↔
      f.Hides c.outline.content ∧ ∀ o ∈ c.outline.embeds, o.IsBare f :=
    compose_eq_emptyMessage_iff
  have hexclusive : f.ShowsOnlyFooters c.outline → ¬ f.ShowsNothing c.outline := by
    rintro ⟨-, o, ho, hfooter⟩ ⟨-, hnothing⟩
    exact hfooter (hnothing o ho).2
  have hcases : (f.Hides c.outline.content ∧ ∀ o ∈ c.outline.embeds, o.IsBare f) ↔
      f.ShowsNothing c.outline ∨ f.ShowsOnlyFooters c.outline := by
    constructor
    · intro h
      by_cases hfooters : ∀ o ∈ c.outline.embeds, f.Hides o.footer
      · exact .inl ⟨h.1, fun o ho => ⟨h.2 o ho, hfooters o ho⟩⟩
      · push Not at hfooters
        exact .inr ⟨h, hfooters⟩
    · rintro (⟨hcontent, hembeds⟩ | ⟨h, -⟩)
      · exact ⟨hcontent, fun o ho => (hembeds o ho).1⟩
      · exact h
  rw [hcompose, hcases]
  refine ⟨Iff.rfl, ?_⟩
  tauto

/-- An embed with nothing but a footer. -/
def footed : Connection :=
  { id := "c", outline := { embeds := [{ footer := some "{{title}}" }] } }

/-- The footer of the embed would be seen, but no message is made. -/
theorem footer_not_sent :
    ¬ (compose 2000 footed.options footed.outline (.ofList [("title", "A")]) =
          .error .emptyMessage ↔
        Filling.ShowsNothing ⟨Limit.applyAll (.ofList [("title", "A")]) footed.options.limits,
          footed.options⟩ footed.outline) := by
  have hmade : compose 2000 footed.options footed.outline (.ofList [("title", "A")]) =
      .error .emptyMessage := by decide +kernel
  intro h
  obtain ⟨-, hembeds⟩ := h.mp hmade
  have hfooter := (hembeds { footer := some "{{title}}" } (by decide)).2
  have hblank := hfooter "{{title}}" rfl 'A' (by decide +kernel)
  exact absurd hblank (by decide)

end Newswire.Message
