import Newswire.Message.Outline
import Newswire.Message.Payload
import Newswire.Proofs.Json.Lossless

/-!
# Messages and their settings in written form

A message, and all that a connection says about its messages, is read back from its written form. A
value fits if its numbers do not exceed what the format has room for.
-/

namespace Newswire

open Json

namespace Json.Fills

variable {σ α : Type} {fields : List (Field σ)} {members : List (String × Json)} {draft a : σ}
  {name : String} {d : Decoder α} {encode : α → Json}

/-- A part that is missing leaves the draft as it is, whether it is written or not. -/
theorem given {o : Option α} {Fits : Option α → Prop} {set : Option α → σ → σ}
    (h : Lossless d.nullable (fun o => o.elim null encode) Fits) (ho : Fits o)
    (rest : Fills fields members (set o draft) a) (hnone : set none draft = draft := by rfl) :
    Fills (.allows name d.nullable set :: fields) (Message.given name encode o ++ members) draft
      a := by
  cases o with
  | none =>
      rw [hnone] at rest
      exact .skip rfl rest
  | some x => exact .allows h ho rest

theorem given_text {o : Option String} {set : Option String → σ → σ}
    (rest : Fills fields members (set o draft) a) (hnone : set none draft = draft := by rfl) :
    Fills (.allows name (.nullable .text) set :: fields) (Message.given name .str o ++ members)
      draft a :=
  .given (Lossless.text.nullable fun _ => nofun) (fun _ _ => trivial) rest hnone

theorem listed {items : List α} {Fits : α → Prop} {set : List α → σ → σ}
    (h : Lossless d encode Fits) (hitems : ∀ x ∈ items, Fits x)
    (rest : Fills fields members (set items draft) a) (hnil : set [] draft = draft := by rfl) :
    Fills (.allows name (.list d) set :: fields) (Message.listed name encode items ++ members) draft
      a := by
  cases items with
  | nil =>
      rw [hnil] at rest
      exact .skip rfl rest
  | cons x items => exact .allows h.list hitems rest

end Json.Fills

namespace Message

namespace Derivation

theorem Step.lossless (setting : Setting) :
    Lossless (Step.decode setting) Step.encode fun _ => True where
  plain {s} _ := by cases s <;> simp [Step.encode]
  decode_encode {s} _ := by
    refine bind_eq_ok_iff.mpr ?_
    cases s with
    | replace search flags replacement =>
        refine ⟨_, untag_obj (by simp) (by simp), ?_⟩
        refine bind_eq_ok_iff.mpr ⟨.replace, rfl, bind_eq_ok_iff.mpr ?_⟩
        refine ⟨⟨search, flags, replacement⟩, Fills.record ?_ (by decide), rfl⟩
        exact .requires .text trivial <| .allows .text? trivial <| .allows .text? trivial <| .nil _
    | percentEncode => exact ⟨_, untag_obj (by simp) (by simp), rfl⟩
    | upperCase => exact ⟨_, untag_obj (by simp) (by simp), rfl⟩
    | lowerCase => exact ⟨_, untag_obj (by simp) (by simp), rfl⟩
    | reformatDate layout zone =>
        refine ⟨_, untag_obj (by simp) (by simp), ?_⟩
        refine bind_eq_ok_iff.mpr ⟨.reformatDate, rfl, bind_eq_ok_iff.mpr ?_⟩
        refine ⟨(layout, zone), Fills.record ?_ (by decide), rfl⟩
        exact .allows .text? trivial <| .allows .text? trivial <| .nil _
  fits _ := trivial

theorem lossless (setting : Setting) : Lossless (decode setting) encode fun _ => True := by
  refine .record (fun _ => ⟨_, rfl, ?_⟩) (by simp) fun _ => trivial
  exact .allows .text trivial <| .requires .text trivial <| .requires .text trivial <|
    .allows (Step.lossless setting).list (fun _ _ => trivial) <| .nil _

end Derivation

namespace Limit

def Fits (l : Limit) : Prop := l.length < 0x10000000000000000

theorem lossless : Lossless decode encode Fits := by
  refine .record (fun h => ⟨_, rfl, ?_⟩) (by simp) fun h => Keeps.fits ?_ (by simp [Fits]) h
  · exact .requires .text trivial <| .requires .nat64 h <| .allows .text? trivial <| .nil _
  · exact .requires .text (fun _ h => h) <| .requires .nat64 (fun h _ => h) <|
      .allows .text? (fun _ h => h) .nil

end Limit

namespace Cutting

def Fits (c : Cutting) : Prop := ∀ n ∈ c.limit, n < 0x10000000000000000

theorem lossless : Lossless decode encode Fits := by
  have switch : Lossless (.nullable .bool) (fun o => o.elim null bool) fun o => ∀ b ∈ o, True :=
    Lossless.nullable .bool nofun
  refine .record (fun {c} h => ⟨_, ?_, .allows switch (fun _ _ => trivial) <|
      .allows .text? trivial <| .allows .text? trivial <| .allows .text? trivial <|
      .allows (.nullable_nat .nat64) h <| .nil _⟩) (by simp) fun h => Keeps.fits ?_ (by simp [Fits]) h
  · rcases c with ⟨_ | _⟩ <;> rfl
  · exact .allows switch (fun _ h => h) <| .allows .text? (fun _ h => h) <|
      .allows .text? (fun _ h => h) <| .allows .text? (fun _ h => h) <|
      .allows (.nullable_nat .nat64) (fun h _ => h) .nil

end Cutting

namespace FieldOutline

theorem lossless : Lossless decode encode fun _ => True := by
  refine .record (fun _ => ⟨_, rfl, ?_⟩) (by simp) fun _ => trivial
  exact .requires .text trivial <| .requires .text trivial <| .allows .bool trivial <| .nil _

end FieldOutline

namespace EmbedOutline

def Fits (e : EmbedOutline) : Prop := ∀ n ∈ e.color, n < 0x100000000

theorem lossless : Lossless decode encode Fits := by
  refine .record (fun h => ⟨_, rfl, ?_⟩) (by simp) fun h => Keeps.fits ?_ (by simp [Fits]) h
  · exact .allows .text? trivial <| .allows .text? trivial <| .allows .text? trivial <|
      .allows (.nullable_nat .nat32) h <| .allows .text? trivial <| .allows .text? trivial <|
      .allows .text? trivial <| .allows .text? trivial <| .allows .text? trivial <|
      .allows .text? trivial <| .allows .text? trivial <|
      .allows FieldOutline.lossless.list (fun _ _ => trivial) <| .nil _
  · exact .allows .text? (fun _ h => h) <| .allows .text? (fun _ h => h) <|
      .allows .text? (fun _ h => h) <| .allows (.nullable_nat .nat32) (fun h _ => h) <|
      .allows .text? (fun _ h => h) <| .allows .text? (fun _ h => h) <|
      .allows .text? (fun _ h => h) <| .allows .text? (fun _ h => h) <|
      .allows .text? (fun _ h => h) <| .allows .text? (fun _ h => h) <|
      .allows .text? (fun _ h => h) <| .allows FieldOutline.lossless.list (fun _ h => h) .nil

end EmbedOutline

namespace Outline

def Fits (o : Outline) : Prop := ∀ e ∈ o.embeds, e.Fits

theorem lossless : Lossless decode encode Fits := by
  refine .record (fun h => ⟨_, rfl, ?_⟩) (by simp) fun h => Keeps.fits ?_ (by simp [Fits]) h
  · exact .allows .text? trivial <| .allows EmbedOutline.lossless.list h <| .nil _
  · exact .allows .text? (fun _ h => h) <| .allows EmbedOutline.lossless.list (fun h _ => h) .nil

end Outline

namespace Options

def Fits (o : Options) : Prop := (∀ c ∈ o.cutting, c.Fits) ∧ ∀ l ∈ o.limits, l.Fits

theorem lossless : Lossless decode encode Fits := by
  have cutting := Cutting.lossless.nullable nofun
  refine .record (fun {o} h => ⟨_, ?_, .allows .bool trivial <| .allows .bool trivial <|
      .allows cutting h.1 <| .allows Limit.lossless.list h.2 <| .allows .bool trivial <|
      .nil _⟩) (by simp) fun h => Keeps.fits ?_ (by simp [Fits]) h
  · rcases o with ⟨_, _, _ | _⟩ <;> rfl
  · exact .allows .bool (fun _ h => h) <| .allows .bool (fun _ h => h) <|
      .allows cutting (fun h₁ h => ⟨h₁, h.2⟩) <|
      .allows Limit.lossless.list (fun h₂ h => ⟨h.1, h₂⟩) <| .allows .bool (fun _ h => h) .nil

end Options

namespace Footer

theorem lossless : Lossless decode encode fun _ => True := by
  refine .record (fun _ => ⟨_, ?_, .requires .text trivial <| .given_text <| .nil _⟩) (by simp)
    fun _ => trivial
  simp [encode]

end Footer

namespace Author

theorem lossless : Lossless decode encode fun _ => True := by
  refine .record (fun _ => ⟨_, ?_, .requires .text trivial <| .given_text <| .given_text <|
    .nil _⟩) (by simp) fun _ => trivial
  simp [encode]

end Author

namespace EmbedField

theorem lossless : Lossless decode encode fun _ => True := by
  refine .record (fun _ => ⟨_, rfl, ?_⟩) (by simp) fun _ => trivial
  exact .requires .text trivial <| .requires .text trivial <| .allows .bool trivial <| .nil _

end EmbedField

namespace Embed

def Fits (e : Embed) : Prop := ∀ n ∈ e.color, n < 0x100000000

theorem lossless_media : Lossless decodeMedia encodeMedia fun _ => True := by
  refine .record (fun _ => ⟨_, rfl, ?_⟩) (by simp) fun _ => trivial
  exact .requires .text trivial <| .nil _

theorem lossless : Lossless decode encode Fits := by
  have footer := Footer.lossless.nullable nofun
  have media := lossless_media.nullable nofun
  have author := Author.lossless.nullable nofun
  refine .record (fun h => ⟨_, ?_, .given_text <| .given_text <| .given_text <|
    .given (Lossless.nat32.nullable fun _ => nofun) h <| .given footer (fun _ _ => trivial) <|
    .given media (fun _ _ => trivial) <| .given media (fun _ _ => trivial) <|
    .given author (fun _ _ => trivial) <|
    .listed EmbedField.lossless (fun _ _ => trivial) <| .nil _⟩) (by simp)
    fun h => Keeps.fits ?_ (by simp [Fits]) h
  · simp [encode]
  · exact .allows .text? (fun _ h => h) <| .allows .text? (fun _ h => h) <|
      .allows .text? (fun _ h => h) <| .allows (.nullable_nat .nat32) (fun h _ => h) <|
      .allows footer (fun _ h => h) <| .allows media (fun _ h => h) <|
      .allows media (fun _ h => h) <| .allows author (fun _ h => h) <|
      .allows EmbedField.lossless.list (fun _ h => h) .nil

end Embed

namespace Payload

def Fits (p : Payload) : Prop := ∀ e ∈ p.embeds, e.Fits

theorem lossless : Lossless decode encode Fits := by
  refine .record (fun h => ⟨_, ?_, .given_text <| .listed Embed.lossless h <| .nil _⟩) (by simp)
    fun h => Keeps.fits ?_ (by simp [Fits]) h
  · simp [encode]
  · exact .allows .text? (fun _ h => h) <| .allows Embed.lossless.list (fun h _ => h) .nil

end Payload

end Message

end Newswire
