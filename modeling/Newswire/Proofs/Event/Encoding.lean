import Newswire.Event.Input
import Newswire.Proofs.Json.Rereading
import Newswire.Proofs.Message.Encoding
import Newswire.Proofs.Rule.Encoding

/-!
# Events in written form

An event that comes in is read back from its written form, with its feed, its articles and its
connections. An event fits if its numbers do not exceed what the format has room for and each of its
connections has an identifier that shows something.
-/

namespace Newswire

open Json

namespace Fields

theorem place_of_lt {name value : String} {es : List (String × String)}
    (h : ∀ e ∈ es, e.1 < name) : place name value es = es ++ [(name, value)] := by
  induction es with
  | nil => rfl
  | cons e rest ih =>
      obtain ⟨he, hrest⟩ := List.forall_mem_cons.mp h
      have hne : name ≠ e.1 := fun heq => String.lt_irrefl _ (heq ▸ he)
      rw [place, if_neg (String.lt_asymm he), if_neg hne, ih hrest, List.cons_append]

/-- The entries are already in the order in which the map keeps them. -/
theorem foldlM_insert {es : List (String × String)} {fs gs : Fields}
    (h : gs.entries = fs.entries ++ es) :
    (es.map fun e => (e.1, Json.str e.2)).foldlM
      (fun (fs : Fields) m => fs.insert m.1 <$> Decoder.text m.2) fs = .ok gs := by
  induction es generalizing fs with
  | nil =>
      obtain ⟨ds, hds⟩ := gs
      obtain rfl : ds = fs.entries := by simpa using h
      rfl
  | cons e rest ih =>
      have hsorted := gs.sorted
      rw [h, List.pairwise_append] at hsorted
      have hlast : ∀ d ∈ fs.entries, d.1 < e.1 := fun d hd => hsorted.2.2 d hd e List.mem_cons_self
      rw [List.map_cons, List.foldlM_cons]
      refine bind_eq_ok_iff.mpr ⟨fs.insert e.1 e.2, rfl, ih ?_⟩
      change gs.entries = place e.1 e.2 fs.entries ++ rest
      rw [place_of_lt hlast, h, List.append_assoc, List.singleton_append]

theorem lossless : Lossless decode encode fun _ => True where
  plain _ := (isPlain_obj _).mpr (List.forall_mem_map.mpr fun e _ => isPlain_str e.2)
  decode_encode _ := foldlM_insert (List.nil_append _).symm
  fits _ := trivial

end Fields

namespace Article

theorem lossless : Lossless decode encode fun _ => True := by
  refine .record (fun _ => ⟨_, rfl, ?_⟩) (by simp) fun _ => trivial
  exact .requires Fields.lossless trivial <| .allows Fields.lossless trivial <| .nil _

end Article

namespace RateLimit

def Fits (l : RateLimit) : Prop := l.window < 0x10000000000000000 ∧ l.limit < 0x100000000

theorem lossless : Lossless decode encode Fits := by
  refine .record (fun h => ⟨_, rfl, ?_⟩) (by simp) fun h => Keeps.fits ?_ (by simp [Fits]) h
  · exact .requires .text trivial <| .requires .nat64 h.1 <| .requires .nat32 h.2 <| .nil _
  · exact .requires .text (fun _ h => h) <| .requires .nat64 (fun h₁ h => ⟨h₁, h.2⟩) <|
      .requires .nat32 (fun h₂ h => ⟨h.1, h₂⟩) .nil

end RateLimit

namespace Target

theorem lossless_webhook : Lossless decodeWebhook encodeWebhook fun _ => True := by
  refine .record (fun _ => ⟨_, rfl, ?_⟩) (by simp) fun _ => trivial
  exact .requires .text trivial <| .allows .text? trivial <| .nil _

theorem lossless : Lossless decode encode fun _ => True := by
  refine .record (fun {t} _ => ⟨_, ?_, .allows .text? trivial <|
    .allows (lossless_webhook.nullable nofun) (fun _ _ => trivial) <| .nil _⟩) (by simp)
    fun _ => trivial
  rcases t with ⟨_, _ | _⟩ <;> rfl

end Target

namespace Connection

theorem lossless_id : Lossless decodeId str fun id => shows id = true where
  plain _ := rfl
  decode_encode h := bind_eq_ok_iff.mpr ⟨_, rfl, if_pos h⟩
  fits {j id} h := by
    obtain ⟨s, -, h⟩ := bind_eq_ok_iff.mp h
    split at h
    · next hs =>
        cases h
        exact hs
    · cases h

def Fits (c : Connection) : Prop :=
  shows c.id = true ∧ c.outline.Fits ∧ c.options.Fits ∧ ∀ l ∈ c.limits, l.Fits

/-- A connection that is being read fits, but for an identifier that has not been read yet. -/
def FitsOnce (seen : List String) (c : Connection) : Prop :=
  ("id" ∈ seen → shows c.id = true) ∧ c.outline.Fits ∧ c.options.Fits ∧ ∀ l ∈ c.limits, l.Fits

theorem FitsOnce.cons {name : String} {seen : List String} {c : Connection} (h : FitsOnce seen c)
    (hname : "id" ≠ name := by decide) : FitsOnce (name :: seen) c :=
  ⟨fun hid => h.1 (List.mem_of_ne_of_mem hname hid), h.2⟩

theorem fits_of_decode {setting : Setting} {j : Json} {c : Connection}
    (h : decode setting j = .ok c) : c.Fits := by
  have rule := (Rule.lossless setting).nullable fun r => by cases r <;> nofun
  have derivations := (Message.Derivation.lossless setting).list
  obtain ⟨seen, hc, hseen⟩ := Keeps.record (P := FitsOnce) (by
    exact .requires lossless_id (fun hid h => ⟨fun _ => hid, h.2⟩) <|
      .allows Target.lossless (fun _ h => h.cons) <| .allows rule (fun _ h => h.cons) <|
      .allows Message.Outline.lossless (fun ho h => ⟨h.cons.1, ho, h.2.2⟩) <|
      .allows Message.Options.lossless (fun ho h => ⟨h.cons.1, h.2.1, ho, h.2.2.2⟩) <|
      .allows derivations (fun _ h => h.cons) <|
      .allows RateLimit.lossless.list (fun hl h => ⟨h.cons.1, h.2.1, h.2.2.1, hl⟩) .nil)
    (by simp [FitsOnce, Message.Outline.Fits, Message.Options.Fits]) h
  exact ⟨hc.1 (hseen _ List.mem_cons_self rfl), hc.2⟩

theorem lossless (setting : Setting) : Lossless (decode setting) encode Fits := by
  have rule := (Rule.lossless setting).nullable fun r => by cases r <;> nofun
  have derivations := (Message.Derivation.lossless setting).list
  refine .record (fun {c} h => ⟨_, ?_, .requires lossless_id h.1 <|
    .allows Target.lossless trivial <| .allows rule (fun _ _ => trivial) <|
    .allows Message.Outline.lossless h.2.1 <| .allows Message.Options.lossless h.2.2.1 <|
    .allows derivations (fun _ _ => trivial) <| .allows RateLimit.lossless.list h.2.2.2 <|
    .nil _⟩) (by simp) fits_of_decode
  rcases c with ⟨_, _, _ | _⟩ <;> rfl

end Connection

namespace Feed

def Fits (f : Feed) : Prop :=
  (∀ n ∈ f.dailyLimit, n < 0x100000000) ∧ ∀ n ∈ f.maxAge, n < 0x10000000000000000

theorem lossless : Lossless decode encode Fits := by
  have texts := Lossless.text.list
  refine .record (fun h => ⟨_, rfl, ?_⟩) (by simp) fun h => Keeps.fits ?_ (by simp [Fits]) h
  · exact .requires .text trivial <| .allows .text trivial <|
      .allows texts (fun _ _ => trivial) <| .allows texts (fun _ _ => trivial) <|
      .allows (.nullable_nat .nat32) h.1 <| .allows (.nullable_nat .nat64) h.2 <|
      .allows texts (fun _ _ => trivial) <| .nil _
  · exact .requires .text (fun _ h => h) <| .allows .text (fun _ h => h) <|
      .allows texts (fun _ h => h) <| .allows texts (fun _ h => h) <|
      .allows (.nullable_nat .nat32) (fun h₁ h => ⟨h₁, h.2⟩) <|
      .allows (.nullable_nat .nat64) (fun h₂ h => ⟨h.1, h₂⟩) <| .allows texts (fun _ h => h) .nil

end Feed

def Refresh.Fits (r : Refresh) : Prop := r.feed.Fits ∧ ∀ c ∈ r.connections, c.Fits

def Rebuff.Fits (r : Rebuff) : Prop := ∀ id ∈ r.connection, shows id = true

namespace Event.Input

/-- The numbers are of the thirty-two or sixty-four bits that the format has for them, and every
identifier of a connection shows something. -/
def Fits : Input → Prop
  | deliver r => r.Fits
  | feedDeleted _ => True
  | feedRejected r => r.Fits

/-- What is written of an event behind its kind. -/
def members : Input → List (String × Json)
  | deliver r =>
    [("id", .str r.id), ("feed", r.feed.encode), ("articles", .arr (r.articles.map Article.encode)),
     ("connections", .arr (r.connections.map Connection.encode))]
  | feedDeleted feed => [("feedId", .str feed)]
  | feedRejected r =>
    [("feedId", .str r.feed), ("connectionId", .ofText? r.connection),
     ("rejectionCode", .str r.code)]

theorem lossless_refresh :
    Lossless decodeRefresh (fun r => obj (deliver r).members) Refresh.Fits := by
  have articles := Article.lossless.list
  have connections := (Connection.lossless .inner).list
  refine .record (fun h => ⟨_, rfl, ?_⟩) (by simp) fun h =>
    Keeps.fits ?_ (by simp [Refresh.Fits, Feed.Fits]) h
  · exact .requires .text trivial <| .requires Feed.lossless h.1 <|
      .allows articles (fun _ _ => trivial) <| .allows connections h.2 <| .nil _
  · exact .requires .text (fun _ h => h) <| .requires Feed.lossless (fun h₁ h => ⟨h₁, h.2⟩) <|
      .allows articles (fun _ h => h) <| .allows connections (fun h₂ h => ⟨h.1, h₂⟩) .nil

theorem lossless_rebuff :
    Lossless decodeRebuff (fun r => obj (feedRejected r).members) Rebuff.Fits := by
  have id := Connection.lossless_id.nullable_text
  refine .record (fun h => ⟨_, rfl, ?_⟩) (by simp) fun h => Keeps.fits ?_ (by simp [Rebuff.Fits]) h
  · exact .requires .text trivial <| .allows id h <| .requires .text trivial <| .nil _
  · exact .requires .text (fun _ h => h) <| .allows id (fun h _ => h) <|
      .requires .text (fun _ h => h) .nil

theorem lossless_deleted :
    Lossless (record "" [.requires "feedId" .text fun s _ => s])
      (fun feed => obj (feedDeleted feed).members) fun _ => True := by
  refine .record (fun _ => ⟨_, rfl, ?_⟩) (by simp) fun _ => trivial
  exact .requires .text trivial <| .nil _

theorem isPlain_encode {e : Input} (h : e.Fits) : e.encode.IsPlain := by
  have hmembers : (obj e.members).IsPlain := by
    cases e with
    | deliver r => exact lossless_refresh.plain h
    | feedDeleted feed => exact lossless_deleted.plain trivial
    | feedRejected r => exact lossless_rebuff.plain h
  rw [isPlain_obj] at hmembers
  cases e <;> exact (isPlain_obj _).mpr (List.forall_mem_cons.mpr ⟨rfl, hmembers⟩)

theorem lossless : Lossless decode encode Fits where
  plain := isPlain_encode
  decode_encode {e} h := by
    have hplain := isPlain_encode h
    refine bind_eq_ok_iff.mpr ?_
    cases e with
    | deliver r =>
        refine ⟨_, untag_obj hplain (by simp), bind_eq_ok_iff.mpr ⟨.deliver, rfl, ?_⟩⟩
        exact bind_eq_ok_iff.mpr ⟨r, lossless_refresh.decode_encode h, rfl⟩
    | feedDeleted feed =>
        refine ⟨_, untag_obj hplain (by simp), bind_eq_ok_iff.mpr ⟨.feedDeleted, rfl, ?_⟩⟩
        exact bind_eq_ok_iff.mpr ⟨feed, lossless_deleted.decode_encode trivial, rfl⟩
    | feedRejected r =>
        refine ⟨_, untag_obj hplain (by simp), bind_eq_ok_iff.mpr ⟨.feedRejected, rfl, ?_⟩⟩
        exact bind_eq_ok_iff.mpr ⟨r, lossless_rebuff.decode_encode h, rfl⟩
  fits {j e} h := by
    obtain ⟨⟨tag, body⟩, -, h⟩ := bind_eq_ok_iff.mp h
    obtain ⟨kind, -, h⟩ := bind_eq_ok_iff.mp h
    cases kind with
    | deliver =>
        obtain ⟨r, hr, h⟩ := bind_eq_ok_iff.mp h
        cases h
        exact lossless_refresh.fits hr
    | feedDeleted =>
        obtain ⟨feed, -, h⟩ := bind_eq_ok_iff.mp h
        cases h
        trivial
    | feedRejected =>
        obtain ⟨r, hr, h⟩ := bind_eq_ok_iff.mp h
        cases h
        exact lossless_rebuff.fits hr

/-- Nothing is lost on the wire: every event and every message that fits is read back, and so is
every one that has been read from any value. -/
theorem wire_lossless :
    (∀ e : Input, e.Fits → ReadsBack decode encode e) ∧
      (∀ p : Message.Payload, p.Fits → ReadsBack Message.Payload.decode Message.Payload.encode p) ∧
      (∀ j e, decode j = .ok e → ReadsBack decode encode e) ∧
      ∀ j p, Message.Payload.decode j = .ok p →
        ReadsBack Message.Payload.decode Message.Payload.encode p := by
  refine ⟨fun e he => ?_, fun p hp => ?_, fun j e hj => ?_, fun j p hj => ?_⟩
  · exact lossless.readsBack he
  · exact Message.Payload.lossless.readsBack hp
  · exact lossless.readsBack_of_decode hj
  · exact Message.Payload.lossless.readsBack_of_decode hj

/-- An event with one connection that uses most of what the format has. -/
def sample : Input :=
  .deliver
    { id := "1"
      feed := { id := "f", dailyLimit := some 5 }
      articles := [{ flattened := Fields.ofList [("title", "a\n"), ("link", "b")] }]
      connections :=
        [{ id := "c"
           target := { channel := some "1" }
           rule := some (.group .any [.negation (.compare ⟨.matching, true⟩ "title" (.text "a"))])
           outline := { content := some "\"", embeds := [{ color := some 255 }] }
           options := { limits := [{ field := "title", length := 9 }] }
           derivations := [{ name := "t", source := "title", steps := [.replace "a" none none] }]
           limits := [{ id := "l", window := 60, limit := 1 }] }] }

theorem sample_fits : sample.Fits := by
  have hid : shows "c" = true := by decide
  simp [sample, Fits, Refresh.Fits, Feed.Fits, Connection.Fits, hid, Message.Outline.Fits,
    Message.EmbedOutline.Fits, Message.Options.Fits, Message.Cutting.Fits, Message.Limit.Fits,
    RateLimit.Fits]

theorem wire_lossless_sample :
    (sample.Fits ∧ sample.encode.depth ≤ maxLevels ∧
      decodeText decode sample.encode.compact = .ok sample) ∧
    (Message.Payload.Fits { embeds := [{ color := some 255 }] } ∧
      ReadsBack Message.Payload.decode Message.Payload.encode
        { embeds := [{ color := some 255 }] }) ∧
    (decode (.arr [.str "feed-deleted", .str "f"]) = .ok (.feedDeleted "f") ∧
      ReadsBack decode encode (.feedDeleted "f")) ∧
    Message.Payload.decode (.arr []) = .ok {} ∧
      ReadsBack Message.Payload.decode Message.Payload.encode {} := by
  have hdepth : sample.encode.depth ≤ maxLevels := by decide
  have hmessage : Message.Payload.Fits { embeds := [{ color := some 255 }] } := by
    simp [Message.Payload.Fits, Message.Embed.Fits]
  have hdeleted : decode (.arr [.str "feed-deleted", .str "f"]) = .ok (.feedDeleted "f") := rfl
  have hempty : Message.Payload.decode (.arr []) = .ok {} := rfl
  exact ⟨⟨sample_fits, hdepth, (wire_lossless.1 _ sample_fits).2 hdepth⟩,
    ⟨hmessage, wire_lossless.2.1 _ hmessage⟩, ⟨hdeleted, wire_lossless.2.2.1 _ _ hdeleted⟩,
    hempty, wire_lossless.2.2.2 _ _ hempty⟩

end Event.Input

end Newswire
