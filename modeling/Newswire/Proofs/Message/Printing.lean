import Mathlib.Data.List.Chain
import Newswire.Proofs.Message.Placeholders

/-!
# Writing templates

Nodes are written as a template from which they can be read again. Double braces in a text are
written behind a backslash; what a placeholder names has to be such that it ends where it should
and is parted where it should. Every text can be written, so that any text can be filled in as
itself; and what is read of any template are texts and placeholders in their simplest form.
-/

namespace Newswire.Message

/-- A source as it stands among the alternatives of a placeholder. -/
def Source.written : Source → List Char
  | field name => name
  | literal text => Template.literalMark ++ text

/-- The name of a field is read as it stands. -/
def Source.KeepsName : Source → Prop
  | field name => Text.IsTrimmed name ∧ ¬ Template.literalMark <+: name
  | literal _ => True

instance : (s : Source) → Decidable s.KeepsName
  | .field name =>
      inferInstanceAs (Decidable (Text.IsTrimmed name ∧ ¬ Template.literalMark <+: name))
  | .literal _ => .isTrue trivial

def Node.isText : Node → Bool
  | text _ => true
  | placeholder _ => false

namespace Template

/-- A text with a backslash in front of its double braces. -/
def escape : List Char → List Char
  | '\x7b' :: '\x7b' :: rest => '\\' :: '\x7b' :: '\x7b' :: escape rest
  | c :: rest => c :: escape rest
  | [] => []

/-- What a placeholder with the sources holds between its braces. -/
def accessorOf (sources : List Source) : List Char := bars.intercalate (sources.map (·.written))

def writeNode : Node → List Char
  | .text text => escape text
  | .placeholder sources => enclosed (accessorOf sources)

/-- The template of nodes. -/
def write (nodes : List Node) : List Char := nodes.flatMap writeNode

/-- Sources that can be told apart when they are written between bars. -/
structure AreAlternatives (sources : List Source) : Prop where
  nonempty : sources ≠ []
  clear : ∀ s ∈ sources, ¬ bars <:+: s.written
  parted : ∀ s ∈ sources.dropLast, s.written.getLast? ≠ some '|'
  named : ∀ s ∈ sources, s.KeepsName

/-- Sources that can be read again when they are written between braces. Without alternatives there
is one, a field. -/
structure IsExpressible (fallbacks : Bool) (sources : List Source) : Prop where
  closes : StandsBefore '\x7d' (accessorOf sources)
  trimmed : Text.IsTrimmed (accessorOf sources)
  told : if fallbacks then AreAlternatives sources else ∃ name, sources = [.field name]

/-- Nodes in their simplest form. -/
structure IsParted (nodes : List Node) : Prop where
  filled : ∀ text, .text text ∈ nodes → text ≠ []
  apart : nodes.IsChain fun a b => ¬ (a.isText ∧ b.isText)
  sourced : ∀ sources, .placeholder sources ∈ nodes → sources ≠ []

/-- Behind the text a pair of braces is read as the start of a placeholder. -/
def MayPrecede (text : List Char) : Prop :=
  text.getLast? ≠ some '\x7b' ∧ text.getLast? ≠ some '\\'

/-- Nodes that can be read again when they are written. -/
structure IsWritable (fallbacks : Bool) (nodes : List Node) : Prop extends IsParted nodes where
  bounded : nodes.IsChain fun a b => ∀ text sources,
    a = .text text → b = .placeholder sources → MayPrecede text
  expressible : ∀ sources, .placeholder sources ∈ nodes → IsExpressible fallbacks sources

section Texts

variable {fallbacks : Bool} {text more : List Char}

theorem parse_cons {c : Char} {cs : List Char}
    (hopen : ¬ (c = '\x7b' ∧ cs.head? = some '\x7b'))
    (hescape : ¬ (c = '\\' ∧ ['\x7b', '\x7b'] <+: cs)) :
    parse fallbacks (c :: cs) = prepend [c] (parse fallbacks cs) := by
  rw [parse]
  · rintro rest rfl rfl
    exact hescape ⟨rfl, rest, rfl⟩
  · rintro rest rfl rfl
    exact hopen ⟨rfl, rfl⟩

theorem escape_cons {c : Char} {rest : List Char}
    (h : ¬ (c = '\x7b' ∧ rest.head? = some '\x7b')) : escape (c :: rest) = c :: escape rest := by
  rw [escape]
  rintro more rfl rfl
  exact h ⟨rfl, rfl⟩

/-- What follows an escaped text does not change how the text is read. -/
def Follows (text more : List Char) : Prop := more ≠ [] → MayPrecede text

theorem Follows.tail {c : Char} (h : Follows (c :: text) more) : Follows text more := by
  intro hmore
  obtain ⟨hbrace, hslash⟩ := h hmore
  cases text with
  | nil => exact ⟨by simp, by simp⟩
  | cons d rest => exact ⟨by simpa using hbrace, by simpa using hslash⟩

/-- An escaped text does not start with double braces. -/
theorem not_opens_escape {c : Char} {rest : List Char} (h : Follows (c :: rest) more) :
    ¬ ['\x7b', '\x7b'] <+: escape (c :: rest) ++ more := by
  by_cases hpair : c = '\x7b' ∧ rest.head? = some '\x7b'
  · obtain ⟨rfl, hhead⟩ := hpair
    obtain ⟨rest, rfl⟩ := List.head?_eq_some_iff.mp hhead
    simp [escape, List.cons_prefix_cons]
  · rw [escape_cons hpair, List.cons_append, List.cons_prefix_cons]
    rintro ⟨rfl, hhead⟩
    cases rest with
    | nil =>
        cases more with
        | nil => simp [escape] at hhead
        | cons d more => exact (h (List.cons_ne_nil d more)).1 rfl
    | cons d rest =>
        have hd : d ≠ '\x7b' := fun hd => hpair ⟨rfl, congrArg some hd⟩
        rw [escape_cons fun hpair => hd hpair.1, List.cons_append, List.cons_prefix_cons] at hhead
        exact hd hhead.1.symm

theorem prepend_prepend (front : List Char) (nodes : List Node) :
    prepend front (prepend text nodes) = prepend (front ++ text) nodes := by
  cases nodes with
  | nil => rfl
  | cons node rest =>
      cases node with
      | text t => simp [prepend]
      | placeholder sources => rfl

/-- An escaped text is read as the text. -/
theorem parse_escape_append (hne : text ≠ []) (h : Follows text more) :
    parse fallbacks (escape text ++ more) = prepend text (parse fallbacks more) := by
  fun_induction escape text with
  | case1 rest ih =>
      have hread : parse fallbacks ('\\' :: '\x7b' :: '\x7b' :: escape rest ++ more) =
          prepend ['\x7b', '\x7b'] (parse fallbacks (escape rest ++ more)) := by
        simp only [List.cons_append]
        rw [parse]
      rw [hread]
      by_cases hrest : rest = []
      · rw [hrest]
        rfl
      · rw [ih hrest h.tail.tail, prepend_prepend]
        rfl
  | case2 c rest hpair ih =>
      have hplain : ¬ (c = '\x7b' ∧ rest.head? = some '\x7b') := by
        rintro ⟨rfl, hhead⟩
        obtain ⟨rest, rfl⟩ := List.head?_eq_some_iff.mp hhead
        exact hpair rest rfl rfl
      have hopen : ¬ (c = '\x7b' ∧ (escape rest ++ more).head? = some '\x7b') := by
        rintro ⟨rfl, hhead⟩
        obtain ⟨tail, htail⟩ := List.head?_eq_some_iff.mp hhead
        apply not_opens_escape h
        rw [escape_cons hplain, List.cons_append, htail]
        exact ⟨tail, rfl⟩
      have hescape : ¬ (c = '\\' ∧ ['\x7b', '\x7b'] <+: escape rest ++ more) := by
        rintro ⟨rfl, hprefix⟩
        cases rest with
        | nil =>
            have hmore : more ≠ [] := by
              rintro rfl
              simp [escape] at hprefix
            exact (h hmore).2 rfl
        | cons d rest => exact not_opens_escape h.tail hprefix
      rw [List.cons_append, parse_cons hopen hescape]
      by_cases hrest : rest = []
      · rw [hrest]
        rfl
      · rw [ih hrest h.tail, prepend_prepend]
        rfl
  | case3 => exact absurd rfl hne

theorem parse_escape (hne : text ≠ []) : parse fallbacks (escape text) = [.text text] := by
  have hend : Follows text [] := fun h => absurd rfl h
  rw [← List.append_nil (escape text), parse_escape_append hne hend, parse]
  rfl

/-- An escaped text is filled in as itself. -/
theorem fill_escape (fields : Fields) (text : List Char) :
    fill fallbacks fields (String.ofList (escape text)) = text := by
  rw [fill, String.toList_ofList]
  by_cases hne : text = []
  · rw [hne, escape, parse]
    rfl
  · rw [parse_escape hne]
    exact List.append_nil text

end Texts

section Sources

variable {fallbacks : Bool} {sources : List Source}

theorem sourceOf_written {s : Source} (h : s.KeepsName) : sourceOf s.written = s := by
  cases s with
  | field name =>
      obtain ⟨htrimmed, hmark⟩ := h
      rw [Source.written, sourceOf_field hmark, htrimmed.trim_eq]
  | literal text => exact sourceOf_literal text

theorem intercalate_concat (parts : List (List Char)) (last : List Char) :
    bars.intercalate (parts ++ [last]) = led parts ++ last := by
  induction parts with
  | nil => simp [led]
  | cons part rest ih =>
      rw [List.cons_append, List.intercalate_cons_of_ne_nil (by simp), ih]
      simp [led]

theorem alternatives_accessorOf (h : AreAlternatives sources) :
    alternatives (accessorOf sources) = sources.map (·.written) := by
  obtain ⟨hne, hclear, hparted, -⟩ := h
  -- All but the last source have bars behind them.
  have hlast := List.dropLast_append_getLast hne
  have hled : accessorOf sources =
      led (sources.dropLast.map (·.written)) ++ (sources.getLast hne).written := by
    rw [← intercalate_concat, ← List.map_singleton, ← List.map_append, hlast, accessorOf]
  rw [hled, alternatives_led, alternatives_of_clear (hclear _ (List.getLast_mem hne)),
    ← List.map_singleton, ← List.map_append, hlast]
  intro part hpart
  obtain ⟨s, hs, rfl⟩ := List.mem_map.mp hpart
  exact ⟨hclear s (List.mem_of_mem_dropLast hs), hparted s hs⟩

theorem sourcesOf_accessorOf (h : IsExpressible fallbacks sources) :
    sourcesOf fallbacks (accessorOf sources) = sources := by
  have htold := h.told
  rw [sourcesOf, h.trimmed.trim_eq]
  cases fallbacks with
  | false =>
      obtain ⟨name, rfl⟩ : ∃ name, sources = [.field name] := htold
      simp [accessorOf, Source.written]
  | true =>
      have htold : AreAlternatives sources := htold
      rw [if_pos rfl, alternatives_accessorOf htold, List.map_map]
      have hread : ∀ s ∈ sources, (sourceOf ∘ (·.written)) s = s :=
        fun s hs => sourceOf_written (htold.named s hs)
      rw [List.map_congr_left hread, List.map_id']

end Sources

section Nodes

variable {fallbacks : Bool} {nodes : List Node}

theorem write_cons (node : Node) (nodes : List Node) :
    write (node :: nodes) = writeNode node ++ write nodes := List.flatMap_cons

theorem IsWritable.tail {node : Node} (h : IsWritable fallbacks (node :: nodes)) :
    IsWritable fallbacks nodes where
  filled text htext := h.filled text (List.mem_cons_of_mem _ htext)
  apart := h.apart.tail
  sourced sources hsources := h.sourced sources (List.mem_cons_of_mem _ hsources)
  bounded := h.bounded.tail
  expressible sources hsources := h.expressible sources (List.mem_cons_of_mem _ hsources)

/-- What is written behind a text leaves the text as it is. -/
theorem IsWritable.follows {text : List Char} (h : IsWritable fallbacks (.text text :: nodes)) :
    Follows text (write nodes) := by
  intro hmore
  cases nodes with
  | nil => exact absurd rfl hmore
  | cons node rest =>
      cases node with
      | text t => exact absurd ⟨rfl, rfl⟩ (List.isChain_cons_cons.mp h.apart).1
      | placeholder sources => exact (List.isChain_cons_cons.mp h.bounded).1 text sources rfl rfl

theorem prepend_of_apart {text : List Char} (h : IsParted (.text text :: nodes)) :
    prepend text nodes = .text text :: nodes := by
  cases nodes with
  | nil => rfl
  | cons node rest =>
      cases node with
      | text t => exact absurd ⟨rfl, rfl⟩ (List.isChain_cons_cons.mp h.apart).1
      | placeholder sources => rfl

/-- Nodes are read again from the template that is written for them. -/
theorem parse_write (h : IsWritable fallbacks nodes) : parse fallbacks (write nodes) = nodes := by
  induction nodes with
  | nil => rw [write, List.flatMap_nil, parse]
  | cons node rest ih =>
      rw [write_cons]
      cases node with
      | text text =>
          rw [writeNode, parse_escape_append (h.filled text List.mem_cons_self) h.follows,
            ih h.tail, prepend_of_apart h.toIsParted]
      | placeholder sources =>
          have hsources := h.expressible sources List.mem_cons_self
          rw [writeNode, parse_enclosed hsources.closes, sourcesOf_accessorOf hsources, ih h.tail]

theorem isParted_nil : IsParted [] := ⟨by simp, .nil, by simp⟩

theorem IsParted.prepend {text : List Char} (hne : text ≠ []) (h : IsParted nodes) :
    IsParted (prepend text nodes) := by
  cases nodes with
  | nil => exact ⟨by simpa [Template.prepend] using hne, .singleton _, by simp [Template.prepend]⟩
  | cons node rest =>
      obtain ⟨hfilled, hapart, hsourced⟩ := h
      cases node with
      | text t =>
          -- The text grows, which changes nothing for what follows it.
          refine ⟨?_, ?_, ?_⟩
          · simp only [Template.prepend, List.mem_cons, Node.text.injEq] at hfilled ⊢
            rintro s (rfl | hs)
            · simp [hne]
            · exact hfilled s (.inr hs)
          · cases rest with
            | nil => exact .singleton _
            | cons next more =>
                obtain ⟨hnext, hmore⟩ := List.isChain_cons_cons.mp hapart
                exact List.isChain_cons_cons.mpr ⟨hnext, hmore⟩
          · simpa [Template.prepend] using hsourced
      | placeholder sources =>
          refine ⟨?_, ?_, ?_⟩
          · simp only [Template.prepend, List.mem_cons, Node.text.injEq] at hfilled ⊢
            rintro s (rfl | hs)
            · exact hne
            · exact hfilled s hs
          · exact List.isChain_cons_cons.mpr ⟨by simp [Node.isText], hapart⟩
          · simpa [Template.prepend] using hsourced

theorem IsParted.placeholder {sources : List Source} (hne : sources ≠ []) (h : IsParted nodes) :
    IsParted (.placeholder sources :: nodes) := by
  obtain ⟨hfilled, hapart, hsourced⟩ := h
  refine ⟨by simpa using hfilled, ?_, by simpa [hne] using hsourced⟩
  cases nodes with
  | nil => exact .singleton _
  | cons next more => exact List.isChain_cons_cons.mpr ⟨by simp [Node.isText], hapart⟩

theorem sourcesOf_ne_nil (accessor : List Char) : sourcesOf fallbacks accessor ≠ [] := by
  unfold sourcesOf
  cases fallbacks with
  | false => simp
  | true => simp [alternatives_ne_nil]

/-- Whatever is read, the nodes are in their simplest form. -/
theorem isParted_parse (cs : List Char) : IsParted (parse fallbacks cs) := by
  fun_induction parse fallbacks cs with
  | case1 => exact isParted_nil
  | case2 rest ih => exact ih.prepend (by simp)
  | case3 rest accessor after _ ih => exact ih.placeholder (sourcesOf_ne_nil accessor)
  | case4 rest _ => exact isParted_nil.prepend (by simp)
  | case5 c rest _ _ ih => exact ih.prepend (by simp)

end Nodes

/-- Nodes that can be written are read again as they were; every text is filled in as itself once it
is escaped; and every template is read as texts and placeholders in their simplest form. -/
theorem writing_reading (fallbacks : Bool) :
    (∀ nodes, IsWritable fallbacks nodes → parse fallbacks (write nodes) = nodes) ∧
      (∀ fields text, fill fallbacks fields (String.ofList (escape text)) = text) ∧
        ∀ template, IsParted (parse fallbacks template) :=
  ⟨fun _ => parse_write, fill_escape, isParted_parse⟩

/-- Braces, bars and backslashes wherever they may stand. -/
def braced : List Node :=
  [.text "\\\x7b\x7b\x7b |".toList,
   .placeholder [.field "\x7ba".toList, .literal " b\x7d ".toList, .field "|c".toList],
   .placeholder [.field []], .text "\x7d\\".toList]

theorem braced_read_again : IsWritable true braced ∧ parse true (write braced) = braced := by
  have hchoice : IsExpressible true
      [.field "\x7ba".toList, .literal " b\x7d ".toList, .field "|c".toList] :=
    ⟨by decide, by decide, ⟨by decide, by decide, by decide, by decide⟩⟩
  have hempty : IsExpressible true [.field []] :=
    ⟨by decide, by decide, ⟨by decide, by decide, by decide, by decide⟩⟩
  have h : IsWritable true braced :=
    { filled := by simp [braced]
      apart := by simp [braced, Node.isText]
      sourced := by simp [braced]
      bounded := by simp [braced, MayPrecede]
      expressible := by simp [braced]; exact ⟨hchoice, hempty⟩ }
  exact ⟨h, (writing_reading true).1 braced h⟩

end Template

end Newswire.Message
