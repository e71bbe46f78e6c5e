import Mathlib.Data.List.ReduceOption
import Newswire.Article
import Newswire.Connection
import Newswire.Message.Compose
import Newswire.Proofs.Message.Cutting
import Newswire.Proofs.Text.Blanks

/-!
# Composed messages

Whatever an article holds and a connection asks for, the messages that are made can be sent: their
texts show something and keep within their limits, and the embeds stand on the last one. Where a
long text is cut up, the messages carry all of it but blank pieces.
-/

namespace Newswire.Message

/-- A text that shows something, of at most `limit` characters. -/
def IsShown (limit : Nat) (s : String) : Prop := shows s = true ∧ s.length ≤ limit

/-- All the addresses in an embed. -/
def Embed.addresses (e : Embed) : List String :=
  [e.url, e.image, e.thumbnail, e.footer.bind (·.icon), e.author.bind (·.url),
    e.author.bind (·.icon)].reduceOption

/-- An embed that keeps within the limits. -/
structure Embed.IsSendable (e : Embed) : Prop where
  title : ∀ s ∈ e.title, IsShown 256 s
  description : ∀ s ∈ e.description, IsShown 4096 s
  footer : ∀ footer ∈ e.footer, IsShown 2048 footer.text
  author : ∀ author ∈ e.author, IsShown 256 author.name
  fields : ∀ field ∈ e.fields, IsShown 256 field.name ∧ IsShown 1024 field.value
  fieldCount : e.fields.length ≤ 25
  addresses : ∀ address ∈ e.addresses, ∀ c ∈ address.toList, Text.isBlank c = false

/-- The contents are the text cut up and put between markers, without blank pieces. -/
def Carries (markers : List Char × List Char) (text : List Char) (contents : List String) : Prop :=
  ∃ (chunks : List (List Char)) (shown : List Char → Bool),
    chunks.flatten = text ∧
      (∀ piece ∈ chunks, shown piece = false → ∀ c ∈ piece, Text.isBlank c = true) ∧
        contents = (chunks.filter shown).map fun piece =>
          String.ofList (markers.1 ++ piece ++ markers.2)

section Embeds

variable {f : Filling}

/-- What is left of a trimmed text starts with a character that is not blank, which every limit lets
through. -/
theorem isShown_truncate {limit : Nat} (hlimit : 0 < limit) {text : List Char}
    (h : Text.trim text ≠ []) :
    IsShown limit (String.ofList (truncate limit (Text.trim text)).1) := by
  constructor
  · obtain ⟨c, rest, hshown⟩ := List.exists_cons_of_ne_nil h
    have hhead : c ∈ (Text.trim text).head? := by
      rw [hshown]
      rfl
    obtain ⟨n, rfl⟩ := Nat.exists_eq_succ_of_ne_zero (Nat.ne_of_gt hlimit)
    refine shows_ofList_iff.mpr ⟨c, ?_, Text.not_isBlank_head_trim hhead⟩
    rw [truncate, hshown]
    exact List.mem_cons_self
  · rw [String.length_ofList]
    exact List.length_take_le ..

theorem isShown_capped {limit : Nat} (hlimit : 0 < limit) {template s : String}
    (h : s ∈ f.capped limit template) : IsShown limit s := by
  unfold Filling.capped at h
  dsimp only at h
  split at h
  · cases h
  · next hne =>
    obtain rfl := Option.some.inj h
    exact isShown_truncate hlimit fun hnil => hne (by rw [hnil]; rfl)

theorem isShown_bind_capped {limit : Nat} (hlimit : 0 < limit) {template : Option String}
    {s : String} (h : s ∈ template.bind (f.capped limit)) : IsShown limit s := by
  obtain ⟨t, -, ht⟩ := Option.bind_eq_some_iff.mp h
  exact isShown_capped hlimit ht

theorem not_isBlank_url {template : Option String} {address : String}
    (h : address ∈ template.bind f.url) : ∀ c ∈ address.toList, Text.isBlank c = false := by
  obtain ⟨t, -, h⟩ := Option.bind_eq_some_iff.mp h
  unfold Filling.url at h
  split at h
  · cases h
  · obtain rfl := Option.some.inj h
    rw [String.toList_intercalate, List.map_map]
    apply Text.not_isBlank_of_mem_intercalate
    · have hjoint : ("%20".toList.all fun c => Text.isBlank c == false) = true := rfl
      simpa using hjoint
    · intro w hw
      obtain ⟨word, hword, rfl⟩ := List.mem_map.mp hw
      simpa using Text.not_isBlank_of_mem_words hword

/-- Every address in an embed is made from a template. -/
theorem exists_template_of_mem_addresses {o : EmbedOutline} {address : String}
    (h : address ∈ (f.embed o).addresses) :
    ∃ template : Option String, address ∈ template.bind f.url := by
  rw [Embed.addresses, List.reduceOption_mem_iff] at h
  simp only [List.mem_cons, List.not_mem_nil, or_false] at h
  rcases h with h | h | h | h | h | h
  · exact ⟨o.url, h.symm⟩
  · exact ⟨o.image, h.symm⟩
  · exact ⟨o.thumbnail, h.symm⟩
  · obtain ⟨footer, hfooter, hicon⟩ := Option.bind_eq_some_iff.mp h.symm
    obtain ⟨text, -, rfl⟩ := Option.map_eq_some_iff.mp hfooter
    exact ⟨o.footerIcon, hicon⟩
  · obtain ⟨author, hauthor, hurl⟩ := Option.bind_eq_some_iff.mp h.symm
    obtain ⟨name, -, rfl⟩ := Option.map_eq_some_iff.mp hauthor
    exact ⟨o.authorUrl, hurl⟩
  · obtain ⟨author, hauthor, hicon⟩ := Option.bind_eq_some_iff.mp h.symm
    obtain ⟨name, -, rfl⟩ := Option.map_eq_some_iff.mp hauthor
    exact ⟨o.authorIcon, hicon⟩

theorem isSendable_embed (o : EmbedOutline) : (f.embed o).IsSendable := by
  constructor
  · exact fun s hs => isShown_bind_capped (by decide) hs
  · exact fun s hs => isShown_bind_capped (by decide) hs
  · intro footer hfooter
    obtain ⟨text, htext, rfl⟩ := Option.map_eq_some_iff.mp hfooter
    exact isShown_bind_capped (by decide) htext
  · intro author hauthor
    obtain ⟨name, hname, rfl⟩ := Option.map_eq_some_iff.mp hauthor
    exact isShown_bind_capped (by decide) hname
  · intro field hfield
    obtain ⟨t, -, ht⟩ := List.mem_filterMap.mp (List.mem_of_mem_take hfield)
    obtain ⟨name, hname, ht⟩ := Option.bind_eq_some_iff.mp ht
    obtain ⟨value, hvalue, ht⟩ := Option.bind_eq_some_iff.mp ht
    obtain rfl := Option.some.inj ht
    exact ⟨isShown_capped (by decide) hname, isShown_capped (by decide) hvalue⟩
  · exact List.length_take_le ..
  · intro address haddress
    obtain ⟨template, h⟩ := exists_template_of_mem_addresses haddress
    exact not_isBlank_url h

end Embeds

section Attach

variable {embeds : List Embed} {payloads : List Payload}

theorem contents_attach :
    (attach embeds payloads).filterMap (·.content) = payloads.filterMap (·.content) := by
  fun_induction attach embeds payloads with
  | case1 => rfl
  | case2 => rfl
  | case3 p => split <;> rfl
  | case4 p rest _ ih => rw [List.filterMap_cons, List.filterMap_cons, ih]

theorem attach_ne_nil (h : payloads ≠ []) : attach embeds payloads ≠ [] := by
  fun_cases attach embeds payloads with
  | case1 => exact absurd rfl h
  | case2 => exact absurd rfl h
  | case3 p => simp
  | case4 p rest => simp

/-- The embeds stand on the last message and nowhere else. -/
theorem embeds_attach (h : ∀ p ∈ payloads, p.embeds = []) :
    (∀ p ∈ (attach embeds payloads).dropLast, p.embeds = []) ∧
      ∀ p ∈ (attach embeds payloads).getLast?, p.embeds = embeds := by
  fun_induction attach embeds payloads with
  | case1 => simp
  | case2 => simp
  | case3 p =>
      split
      · next hnone =>
        have hp := h p (List.mem_singleton.mpr rfl)
        simp [hp, List.isEmpty_iff.mp hnone]
      · simp
  | case4 p rest hne ih =>
      obtain ⟨hp, hrest⟩ := List.forall_mem_cons.mp h
      obtain ⟨hbare, hlast⟩ := ih hrest
      -- There are messages behind the first one, so that it is not the last.
      have hmore : attach embeds rest ≠ [] := attach_ne_nil hne
      obtain ⟨q, more, hq⟩ := List.exists_cons_of_ne_nil hmore
      rw [hq] at hbare hlast ⊢
      rw [List.dropLast_cons_cons, List.getLast?_cons_cons]
      exact ⟨List.forall_mem_cons.mpr ⟨hp, hbare⟩, hlast⟩

end Attach

section Texts

variable {f : Filling} {maxLength : Nat}

/-- The text that a template gives the messages. -/
def Filling.content (f : Filling) (template : Option String) : List Char :=
  Text.trim ((template.map f.text).getD [])

theorem length_firstPart_le (c : Cutting) {limit : Nat} (hlimit : 0 < limit) (text : List Char) :
    (firstPart c limit text).length ≤ limit := by
  have hcuts := areCuts_pieces c.nil_not_mem_separators hlimit text
  rw [firstPart, Nat.max_eq_left hlimit]
  cases hpieces : pieces c.separators limit text with
  | nil => simp
  | cons piece more =>
      rw [hpieces] at hcuts
      exact hcuts.length_le piece List.mem_cons_self

theorem length_le_of_mem_parts {c : Cutting} {limit : Nat} {text part : List Char}
    (h : part ∈ parts c limit text) : part.length ≤ max limit 1 := by
  rcases Nat.lt_or_ge (max limit 1) text.length with hlt | hle
  · rw [parts_of_length_lt hlt] at h
    have hpos : 0 < max limit 1 := by omega
    exact (areParts_pieces c hpos text).fits part h
  · rw [parts_of_length_le hle] at h
    rw [List.mem_singleton.mp h]
    exact hle

theorem length_le_of_mem_contentParts (hlength : 0 < maxLength) {text part : List Char}
    (h : part ∈ f.contentParts maxLength text) : part.length ≤ maxLength := by
  unfold Filling.contentParts at h
  split at h
  · split at h
    · have hpart := length_le_of_mem_parts h
      omega
    · rw [List.mem_singleton.mp h]
      exact length_firstPart_le _ hlength text
  · rw [List.mem_singleton.mp h]
    exact length_firstPart_le _ hlength text

theorem contentParts_nil : f.contentParts maxLength [] = [[]] := by
  have hfirst (c : Cutting) : firstPart c maxLength [] = [] := by rw [firstPart, pieces]; rfl
  unfold Filling.contentParts
  split
  · split
    · exact parts_of_length_le (Nat.zero_le _)
    · rw [hfirst]
  · rw [hfirst]

/-- The part shows something. -/
def isShownPart (part : List Char) : Bool := !(Text.trim part).isEmpty

theorem isShownPart_iff {part : List Char} :
    isShownPart part = true ↔ ∃ c ∈ part, Text.isBlank c = false := by
  rw [← Text.trim_ne_nil_iff]
  simp [isShownPart]

theorem isShownPart_eq_false_iff {part : List Char} :
    isShownPart part = false ↔ ∀ c ∈ part, Text.isBlank c = true := by
  rw [← Text.trim_eq_nil_iff]
  simp [isShownPart]

/-- The messages of text alone are the parts that show something. -/
theorem texts_eq (template : Option String) :
    f.texts maxLength template =
      ((f.contentParts maxLength (f.content template)).filter isShownPart).map fun part =>
        .ofText (String.ofList part) := by
  unfold Filling.texts
  rw [← Filling.content]
  dsimp only
  split
  · next hnil =>
    rw [List.isEmpty_iff.mp hnil, contentParts_nil]
    rfl
  · rfl

theorem isShown_texts (hlength : 0 < maxLength) {template : Option String} {p : Payload}
    (hp : p ∈ f.texts maxLength template) :
    p.embeds = [] ∧ ∀ s ∈ p.content, IsShown maxLength s := by
  rw [texts_eq] at hp
  obtain ⟨part, hpart, rfl⟩ := List.mem_map.mp hp
  obtain ⟨hmem, hshown⟩ := List.mem_filter.mp hpart
  refine ⟨rfl, fun s hs => ?_⟩
  obtain rfl := Option.some.inj hs
  refine ⟨shows_ofList_iff.mpr (isShownPart_iff.mp hshown), ?_⟩
  rw [String.length_ofList]
  exact length_le_of_mem_contentParts hlength hmem

theorem contents_texts (template : Option String) :
    (f.texts maxLength template).filterMap (·.content) =
      ((f.contentParts maxLength (f.content template)).filter isShownPart).map String.ofList := by
  rw [texts_eq, List.filterMap_map]
  exact congrFun List.filterMap_eq_map _

theorem contentParts_of_isEnabled {c : Cutting} (hc : c ∈ f.options.cutting)
    (henabled : c.isEnabled = true) (text : List Char) :
    f.contentParts maxLength text = parts c (min (c.limit.getD maxLength) maxLength) text := by
  rw [Filling.contentParts, Option.mem_def.mp hc]
  exact if_pos henabled

theorem carries_parts (c : Cutting) (limit : Nat) (text : List Char) :
    Carries (if text.length ≤ max limit 1 then ([], []) else c.kept (max limit 1)) text
      (((parts c limit text).filter isShownPart).map String.ofList) := by
  rcases Nat.lt_or_ge (max limit 1) text.length with hlt | hle
  · rw [if_neg (Nat.not_le.mpr hlt), parts_of_length_lt hlt, List.filter_map, List.map_map]
    have hpos : 0 < max limit 1 := by omega
    refine ⟨pieces c.separators (c.room (max limit 1)) text, _, ?_, ?_, rfl⟩
    · exact (areParts_pieces c hpos text).whole
    · -- A part that shows nothing has a piece that shows nothing, whatever its markers are.
      intro piece _ hblank ch hch
      apply isShownPart_eq_false_iff.mp hblank
      simp [Cutting.wrap, hch]
  · rw [if_pos hle, parts_of_length_le hle]
    refine ⟨[text], isShownPart, by simp, fun piece _ => isShownPart_eq_false_iff.mp, ?_⟩
    simp

end Texts

/-- What is promised of the messages that an outline makes of a filling. -/
structure AreSendable (maxLength : Nat) (f : Filling) (outline : Outline)
    (payloads : List Payload) : Prop where
  nonempty : payloads ≠ []
  contents : ∀ p ∈ payloads, ∀ s ∈ p.content, IsShown (max maxLength 1) s
  /-- Only the last message has embeds. -/
  bare : ∀ p ∈ payloads.dropLast, p.embeds = []
  embeds : ∀ p ∈ payloads.getLast?, p.embeds.Sublist (outline.embeds.map f.embed) ∧
    p.embeds.length ≤ 10 ∧ ∀ e ∈ p.embeds, e.isEmpty = false ∧ e.IsSendable
  /-- Where a long text is cut up, all of it is sent. -/
  whole : ∀ c ∈ f.options.cutting, c.isEnabled = true →
    let longest := max maxLength 1
    let limit := max (min (c.limit.getD longest) longest) 1
    let text := f.content outline.content
    Carries (if text.length ≤ limit then ([], []) else c.kept limit) text
      (payloads.filterMap (·.content))

theorem areSendable_attach {maxLength : Nat} {f : Filling} {outline : Outline}
    {payloads : List Payload} (hne : payloads ≠ [])
    (h : payloads = attach (f.embeds outline.embeds) (f.texts (max maxLength 1) outline.content)) :
    AreSendable maxLength f outline payloads := by
  have hlength : 0 < max maxLength 1 := by omega
  have hcontents : payloads.filterMap (·.content) =
      (f.texts (max maxLength 1) outline.content).filterMap (·.content) := by
    rw [h, contents_attach]
  obtain ⟨hbare, hlast⟩ := embeds_attach fun p hp => (isShown_texts hlength hp).1
  rw [← h] at hbare hlast
  constructor
  · exact hne
  · intro p hp s hs
    have hmem : s ∈ payloads.filterMap (·.content) := List.mem_filterMap.mpr ⟨p, hp, hs⟩
    rw [hcontents] at hmem
    obtain ⟨q, hq, hs⟩ := List.mem_filterMap.mp hmem
    exact (isShown_texts hlength hq).2 s hs
  · exact hbare
  · intro p hp
    rw [hlast p hp]
    refine ⟨?_, List.length_take_le .., ?_⟩
    · exact (List.take_sublist ..).trans List.filter_sublist
    · intro e he
      obtain ⟨hmem, hshown⟩ := List.mem_filter.mp (List.mem_of_mem_take he)
      obtain ⟨o, -, rfl⟩ := List.mem_map.mp hmem
      exact ⟨by simpa using hshown, isSendable_embed o⟩
  · intro c hc henabled
    dsimp only
    rw [hcontents, contents_texts, contentParts_of_isEnabled hc henabled]
    exact carries_parts c _ _

section Compose

variable {maxLength : Nat} {options : Options} {outline : Outline} {fields : Fields}
  {payloads : List Payload}

theorem compose_ok (h : compose maxLength options outline fields = .ok payloads) :
    let f : Filling := ⟨Limit.applyAll fields options.limits, options⟩
    payloads ≠ [] ∧
      payloads = attach (f.embeds outline.embeds) (f.texts (max maxLength 1) outline.content) := by
  unfold compose at h
  dsimp only at h ⊢
  split at h
  · cases h
  · next hne =>
    obtain rfl := Except.ok.inj h
    exact ⟨hne, rfl⟩

theorem compose_ne_nil (h : compose maxLength options outline fields = .ok payloads) :
    payloads ≠ [] :=
  (compose_ok h).1

end Compose

/-- Whenever messages are made for an article, they can be sent. -/
theorem messagesFor_areSendable (maxLength : Nat) (article : Article) (c : Connection)
    (payloads : List Payload) (h : messagesFor maxLength article c = .ok payloads) :
    ∃ fields, Derivation.addAll article.flattened c.derivations = .ok fields ∧
      AreSendable maxLength ⟨Limit.applyAll fields c.options.limits, c.options⟩ c.outline
        payloads := by
  unfold messagesFor at h
  cases hadd : Derivation.addAll article.flattened c.derivations with
  | error failure =>
      rw [hadd] at h
      cases h
  | ok fields =>
      rw [hadd] at h
      have hcompose : compose maxLength c.options c.outline fields = .ok payloads := h
      obtain ⟨hne, heq⟩ := compose_ok hcompose
      exact ⟨fields, rfl, areSendable_attach hne heq⟩

/-- An article with a long gap in its title. -/
def gapped : Article :=
  { flattened := .ofList [("title", " One.          Two"), ("link", "https://a.example/x y")] }

/-- Texts of five characters with a line break behind each, and two embeds, one of them empty. -/
def narrow : Connection :=
  { outline :=
      { content := some "{{title}}"
        embeds := [{ title := some "{{source}}", color := some 1 }, { url := some "{{link}}" }] }
    options := { cutting := some { appended := some "\n", limit := some 5 } } }

def gappedPayloads : List Payload :=
  [.ofText "One.\n",
   { content := some "Two\n", embeds := [{ url := some "https://a.example/x%20y" }] }]

theorem gapped_areSendable :
    messagesFor 2000 gapped narrow = .ok gappedPayloads ∧
      ∃ fields, Derivation.addAll gapped.flattened narrow.derivations = .ok fields ∧
        AreSendable 2000 ⟨Limit.applyAll fields narrow.options.limits, narrow.options⟩
          narrow.outline gappedPayloads := by
  have hmade : messagesFor 2000 gapped narrow = .ok gappedPayloads := by decide +kernel
  exact ⟨hmade, messagesFor_areSendable 2000 gapped narrow gappedPayloads hmade⟩

end Newswire.Message
