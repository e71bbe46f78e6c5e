import Mathlib.Data.List.Chain
import Newswire.Proofs.Message.Tags

/-!
# Images that are left

An image has marks: the angle and the name of a tag, the two signs in front of a link and the two
between its text and its address. Taking an image out brings what stands around it together, and so
another one can come about. No image is left but those of which a mark was apart in the text.
-/

namespace Newswire.Message.Markup

/-- An image, and the marks by which it is told. -/
inductive Image {α : Type} (char : α → Char) : List α → List (List α) → Prop where
  | tag {angle close : α} {word attributes : List α} (hangle : char angle = '<')
      (hword : (word.map char).map Char.toLower = ['i', 'm', 'g'])
      (hends : endsWord (attributes.map char) = true) (hattributes : '>' ∉ attributes.map char)
      (hclose : char close = '>') :
      Image char (angle :: word ++ (attributes ++ [close])) [angle :: word]
  | link {mark text seam address : List α} {close : α} (hmark : mark.map char = ['!', '['])
      (htext : ']' ∉ text.map char) (hseam : seam.map char = [']', '('])
      (haddress : ')' ∉ address.map char) (hclose : char close = ')') :
      Image char (mark ++ (text ++ (seam ++ (address ++ [close])))) [mark, seam]

/-- The text is an image. -/
def IsImage (img : List Char) : Prop := ∃ marks, Image id img marks

/-- Some part of the text is an image. -/
def HasImage (cs : List Char) : Prop := ∃ img, img <:+: cs ∧ IsImage img

section Image

variable {α : Type} {char : α → Char} {img : List α} {cs : List Char}

theorem Image.isImage {marks : List (List α)} (h : Image char img marks) :
    IsImage (img.map char) := by
  cases h with
  | @tag angle close word attributes hangle hword hends hattributes hclose =>
      have himage : Image id
          (char angle :: word.map char ++ (attributes.map char ++ [char close]))
          [char angle :: word.map char] :=
        .tag hangle (by simpa using hword) (by simpa using hends) (by simpa using hattributes) hclose
      exact ⟨_, by simpa using himage⟩
  | @link mark text seam address close hmark htext hseam haddress hclose =>
      have himage : Image id (mark.map char ++
          (text.map char ++ (seam.map char ++ (address.map char ++ [char close]))))
          [mark.map char, seam.map char] :=
        .link (by simpa using hmark) (by simpa using htext) (by simpa using hseam)
          (by simpa using haddress) hclose
      exact ⟨_, by simpa using himage⟩

/-- The marks of an image are found again among what its characters carry. -/
theorem exists_image_of_isImage (h : IsImage (img.map char)) : ∃ marks, Image char img marks := by
  obtain ⟨marks, h⟩ := h
  generalize hcs : img.map char = cs at h
  cases h with
  | @tag angle close word attributes hangle hword hends hattributes hclose =>
      obtain ⟨front, back, rfl, hfront, hback⟩ := List.map_eq_append_iff.mp hcs
      obtain ⟨a, w, rfl, rfl, rfl⟩ := List.map_eq_cons_iff.mp hfront
      obtain ⟨b, e, rfl, rfl, he⟩ := List.map_eq_append_iff.mp hback
      obtain ⟨c, rfl, rfl⟩ := List.map_eq_singleton_iff.mp he
      simp only [List.map_id, id_eq] at hword hends hattributes hangle hclose
      exact ⟨_, .tag hangle hword hends hattributes hclose⟩
  | @link mark text seam address close hmark htext hseam haddress hclose =>
      obtain ⟨m, afterMark, rfl, rfl, hm⟩ := List.map_eq_append_iff.mp hcs
      obtain ⟨t, afterText, rfl, rfl, ht⟩ := List.map_eq_append_iff.mp hm
      obtain ⟨s, afterSeam, rfl, rfl, hs⟩ := List.map_eq_append_iff.mp ht
      obtain ⟨a, e, rfl, rfl, ha⟩ := List.map_eq_append_iff.mp hs
      obtain ⟨c, rfl, rfl⟩ := List.map_eq_singleton_iff.mp ha
      simp only [List.map_id, id_eq] at hmark htext hseam haddress hclose
      exact ⟨_, .link hmark htext hseam haddress hclose⟩

theorem imageTag_isSome_iff :
    (imageTag cs).isSome = true ↔
      ∃ word attributes after, cs = '<' :: (word ++ (attributes ++ '>' :: after)) ∧
        word.map Char.toLower = ['i', 'm', 'g'] ∧ endsWord attributes = true ∧ '>' ∉ attributes := by
  rw [imageTag, Option.isSome_map, Option.isSome_iff_exists]
  constructor
  · rintro ⟨after, h⟩
    obtain ⟨word, attributes, hcs, h⟩ := behindOpening_eq_some_iff.mp h
    exact ⟨word, attributes, after, hcs, h⟩
  · rintro ⟨word, attributes, after, hcs, h⟩
    exact ⟨after, behindOpening_eq_some_iff.mpr ⟨word, attributes, hcs, h⟩⟩

theorem imageLink_isSome_iff :
    (imageLink cs).isSome = true ↔
      ∃ text address after, cs = '!' :: '[' :: (text ++ ']' :: '(' :: (address ++ ')' :: after)) ∧
        ']' ∉ text ∧ ')' ∉ address := by
  constructor
  · intro h
    unfold imageLink at h
    split at h
    · next rest =>
      obtain ⟨hit, h⟩ := Option.isSome_iff_exists.mp h
      obtain ⟨more, hmore, h⟩ := Option.bind_eq_some_iff.mp h
      split at h
      · next back =>
        obtain ⟨after, hafter, -⟩ := Option.bind_eq_some_iff.mp h
        obtain ⟨text, rfl, htext⟩ := behindFirst_eq_some_iff.mp hmore
        obtain ⟨address, rfl, haddress⟩ := behindFirst_eq_some_iff.mp hafter
        exact ⟨text, address, after, rfl, htext, haddress⟩
      · cases h
    · cases h
  · rintro ⟨text, address, after, rfl, htext, haddress⟩
    have hfront : behindFirst ']' (text ++ ']' :: '(' :: (address ++ ')' :: after)) =
        some ('(' :: (address ++ ')' :: after)) := behindFirst_eq_some_iff.mpr ⟨text, rfl, htext⟩
    have hback : behindFirst ')' (address ++ ')' :: after) = some after :=
      behindFirst_eq_some_iff.mpr ⟨address, rfl, haddress⟩
    simp [imageLink, hfront, hback]

/-- A hit is an image that stands in front. -/
theorem hit_iff :
    ((imageTag cs).isSome = true ∨ (imageLink cs).isSome = true) ↔
      ∃ img, img <+: cs ∧ IsImage img := by
  rw [imageTag_isSome_iff, imageLink_isSome_iff]
  constructor
  · rintro (⟨word, attributes, after, rfl, hword, hends, hattributes⟩ |
      ⟨text, address, after, rfl, htext, haddress⟩)
    · refine ⟨'<' :: word ++ (attributes ++ ['>']), ⟨after, by simp⟩, _, .tag rfl ?_ ?_ ?_ rfl⟩
      · simpa using hword
      · simpa using hends
      · simpa using hattributes
    · refine ⟨['!', '['] ++ (text ++ ([']', '('] ++ (address ++ [')']))), ⟨after, by simp⟩, _,
        .link rfl ?_ rfl ?_ rfl⟩
      · simpa using htext
      · simpa using haddress
  · rintro ⟨img, ⟨after, rfl⟩, marks, himg⟩
    cases himg with
    | @tag angle close word attributes hangle hword hends hattributes hclose =>
        obtain rfl : angle = '<' := hangle
        obtain rfl : close = '>' := hclose
        rw [List.map_id] at hword hends hattributes
        exact .inl ⟨word, attributes, after, by simp, hword, hends, hattributes⟩
    | @link mark text seam address close hmark htext hseam haddress hclose =>
        obtain rfl : close = ')' := hclose
        rw [List.map_id] at hmark htext hseam haddress
        subst hmark hseam
        exact .inr ⟨text, address, after, by simp, htext, haddress⟩

end Image

/-- Hits for which nothing is put in their place. -/
def Erases (hit : List Char → Option Hit) : Prop := ∀ cs, ∀ h ∈ hit cs, h.text = []

theorem erases_imageTag : Erases imageTag := by
  intro cs h hh
  obtain ⟨after, -, rfl⟩ := Option.map_eq_some_iff.mp hh
  rfl

theorem erases_imageLink : Erases imageLink := by
  intro cs h hh
  unfold imageLink at hh
  split at hh
  · obtain ⟨more, -, hmore⟩ := Option.bind_eq_some_iff.mp hh
    split at hmore
    · obtain ⟨after, -, hafter⟩ := Option.bind_eq_some_iff.mp hmore
      rw [← Option.some.inj hafter]
      rfl
    · cases hmore
  · cases hh

section Erasing

variable {hit : List Char → Option Hit} {cs : List Char}

theorem substituteFrom_sublist (hhit : Erases hit) (n : Nat) (cs : List Char) :
    (substituteFrom hit n cs).Sublist (cs.drop n) := by
  induction cs generalizing n with
  | nil => cases n <;> exact List.Sublist.refl _
  | cons c rest ih =>
      cases n with
      | succ n => exact ih n
      | zero =>
          rw [substituteFrom]
          split
          · next h hh =>
            rw [hhit _ h hh]
            exact ((ih h.behind).trans (List.drop_sublist ..)).cons c
          · exact (ih 0).cons_cons c

theorem substitute_sublist (hhit : Erases hit) (cs : List Char) :
    (substitute hit cs).Sublist cs := substituteFrom_sublist hhit 0 cs

/-- Only a text without hits is left as it is. -/
theorem substitute_eq_self_iff (hhit : Erases hit) (hnil : hit [] = none) :
    substitute hit cs = cs ↔ ∀ rest, rest <:+ cs → hit rest = none := by
  induction cs with
  | nil =>
      simp only [List.suffix_nil, forall_eq, hnil, iff_true]
      rfl
  | cons c cs ih =>
      simp only [List.suffix_cons_iff, forall_eq_or_imp]
      rw [substitute, substituteFrom, ← ih]
      cases hh : hit (c :: cs) with
      | none => simp [substitute]
      | some h =>
          have hshort : (substituteFrom hit h.behind cs).length ≤ cs.length :=
            ((substituteFrom_sublist hhit h.behind cs).trans (List.drop_sublist ..)).length_le
          simp only [hhit _ h hh, List.nil_append, reduceCtorEq, false_and, iff_false]
          intro heq
          rw [heq] at hshort
          exact absurd hshort (Nat.not_succ_le_self _)

theorem not_hasImage_iff :
    ¬ HasImage cs ↔ ∀ rest, rest <:+ cs → imageTag rest = none ∧ imageLink rest = none := by
  simp only [HasImage, List.infix_iff_prefix_suffix, not_exists, not_and]
  constructor
  · intro h rest hrest
    rw [← Option.not_isSome_iff_eq_none, ← Option.not_isSome_iff_eq_none, ← not_or, hit_iff]
    rintro ⟨img, himg, hisImage⟩
    exact h img ⟨rest, himg, hrest⟩ hisImage
  · rintro h img ⟨rest, himg, hrest⟩ hisImage
    obtain ⟨htag, hlink⟩ := h rest hrest
    rcases hit_iff.mpr ⟨img, himg, hisImage⟩ with hsome | hsome
    · rw [htag] at hsome
      cases hsome
    · rw [hlink] at hsome
      cases hsome

/-- A text is left as it is exactly if it has no image. -/
theorem stripImages_eq_self_iff : stripImages cs = cs ↔ ¬ HasImage cs := by
  have htag : substitute imageTag cs = cs ↔ ∀ rest, rest <:+ cs → imageTag rest = none :=
    substitute_eq_self_iff erases_imageTag rfl
  have hlink : substitute imageLink cs = cs ↔ ∀ rest, rest <:+ cs → imageLink rest = none :=
    substitute_eq_self_iff erases_imageLink rfl
  rw [not_hasImage_iff]
  constructor
  · intro h
    have hle : cs.length ≤ (substitute imageTag cs).length := by
      have hshort := (substitute_sublist erases_imageLink (substitute imageTag cs)).length_le
      rwa [← stripImages, h] at hshort
    have hsame := (substitute_sublist erases_imageTag cs).eq_of_length_le hle
    rw [stripImages, hsame] at h
    exact fun rest hrest => ⟨htag.mp hsame rest hrest, hlink.mp h rest hrest⟩
  · intro h
    rw [stripImages, htag.mpr fun rest hrest => (h rest hrest).1]
    exact hlink.mpr fun rest hrest => (h rest hrest).2

end Erasing

section Remaining

variable {α : Type}

/-- What erasing the hits leaves of characters that carry something along. -/
def remainFrom (hit : List Char → Option Hit) : Nat → List (Char × α) → List (Char × α)
  | _, [] => []
  | skip + 1, _ :: rest => remainFrom hit skip rest
  | 0, x :: rest =>
    match hit ((x :: rest).map Prod.fst) with
    | some h => remainFrom hit h.behind rest
    | none => x :: remainFrom hit 0 rest

def remain (hit : List Char → Option Hit) (xs : List (Char × α)) : List (Char × α) :=
  remainFrom hit 0 xs

variable {hit : List Char → Option Hit} {xs ys : List (Char × α)} {x y : Char × α}

theorem remain_cons_of_none (h : hit ((x :: xs).map Prod.fst) = none) :
    remain hit (x :: xs) = x :: remain hit xs := by
  rw [remain, remainFrom, h]
  rfl

theorem remainFrom_map_fst (hhit : Erases hit) (n : Nat) (xs : List (Char × α)) :
    (remainFrom hit n xs).map Prod.fst = substituteFrom hit n (xs.map Prod.fst) := by
  induction xs generalizing n with
  | nil => cases n <;> rfl
  | cons x rest ih =>
      cases n with
      | succ n => exact ih n
      | zero =>
          rw [remainFrom, List.map_cons, substituteFrom]
          cases hh : hit (x.1 :: rest.map Prod.fst) with
          | none => exact congrArg (x.1 :: ·) (ih 0)
          | some h =>
              dsimp only
              rw [hhit _ h hh, List.nil_append]
              exact ih h.behind

theorem remainFrom_sublist (hit : List Char → Option Hit) (n : Nat) (xs : List (Char × α)) :
    (remainFrom hit n xs).Sublist xs := by
  induction xs generalizing n with
  | nil => cases n <;> exact List.Sublist.refl _
  | cons x rest ih =>
      cases n with
      | succ n => exact (ih n).cons x
      | zero =>
          rw [remainFrom]
          split
          · exact (ih _).cons x
          · exact (ih 0).cons_cons x

theorem remain_sublist (hit : List Char → Option Hit) (xs : List (Char × α)) :
    (remain hit xs).Sublist xs := remainFrom_sublist hit 0 xs

/-- There is no hit where something is left, and what is left behind it is left of what stands
behind it. -/
theorem exists_of_remainFrom {n : Nat} {front : List (Char × α)}
    (h : remainFrom hit n xs = front ++ y :: ys) :
    ∃ before rest, xs = before ++ y :: rest ∧ hit ((y :: rest).map Prod.fst) = none ∧
      remain hit rest = ys := by
  induction xs generalizing n front with
  | nil => cases n <;> simp [remainFrom] at h
  | cons x xs ih =>
      cases n with
      | succ n =>
          obtain ⟨before, rest, rfl, hnone, hrest⟩ := ih h
          exact ⟨x :: before, rest, rfl, hnone, hrest⟩
      | zero =>
          rw [remainFrom] at h
          split at h
          · obtain ⟨before, rest, rfl, hnone, hrest⟩ := ih h
            exact ⟨x :: before, rest, rfl, hnone, hrest⟩
          · next hnone =>
            cases front with
            | nil =>
                obtain ⟨rfl, hrest⟩ := List.cons.inj h
                exact ⟨[], xs, rfl, hnone, hrest⟩
            | cons z front =>
                obtain ⟨before, rest, rfl, hnone, hrest⟩ := ih (List.cons.inj h).2
                exact ⟨x :: before, rest, rfl, hnone, hrest⟩

end Remaining

section Places

/-- Characters with their places in a text, in order. -/
abbrev InPlaces (xs : List (Char × Nat)) : Prop := xs.Pairwise (·.2 < ·.2)

/-- Each place is the next one after that before it. -/
abbrev Together (xs : List (Char × Nat)) : Prop := xs.IsChain fun x y => y.2 = x.2 + 1

theorem together_zipIdx (cs : List Char) (n : Nat) : Together (cs.zipIdx n) := by
  induction cs generalizing n with
  | nil => exact .nil
  | cons c rest ih =>
      cases rest with
      | nil => exact .singleton _
      | cons d rest => exact .cons_cons rfl (ih (n + 1))

theorem inPlaces_zipIdx (cs : List Char) : InPlaces cs.zipIdx := by
  rw [InPlaces, ← List.pairwise_map, List.zipIdx_map_snd]
  exact List.pairwise_lt_range'

variable {hit : List Char → Option Hit} {xs mark tail front : List (Char × Nat)} {x : Char × Nat}

/-- What is left together behind a character stood there. -/
theorem exists_of_together (hplaces : InPlaces (x :: xs)) (hmark : Together (x :: mark))
    (h : remain hit xs = mark ++ tail) :
    ∃ rest, xs = mark ++ rest ∧ remain hit rest = tail := by
  induction mark generalizing x xs with
  | nil => exact ⟨xs, rfl, h⟩
  | cons y mark ih =>
      obtain ⟨hnext, hmark⟩ := List.isChain_cons_cons.mp hmark
      have hfront : remainFrom hit 0 xs = [] ++ y :: (mark ++ tail) := h
      obtain ⟨before, more, rfl, -, hmore⟩ := exists_of_remainFrom hfront
      obtain ⟨hfirst, hplaces⟩ := List.pairwise_cons.mp hplaces
      cases before with
      | nil =>
          obtain ⟨rest, rfl, hrest⟩ := ih hplaces hmark hmore
          exact ⟨rest, rfl, hrest⟩
      -- A character between the two would need a place between theirs.
      | cons z before =>
          have hz := hfirst z List.mem_cons_self
          have hy := (List.pairwise_cons.mp hplaces).1 y (by simp)
          omega

/-- A mark that is left and was not apart stood in the text as it is, and there was no hit. -/
theorem exists_of_remain_mark (hplaces : InPlaces xs) (hmark : Together (x :: mark))
    (h : remain hit xs = front ++ (x :: mark ++ tail)) :
    ∃ before rest, xs = before ++ (x :: mark ++ rest) ∧
      hit ((x :: mark ++ rest).map Prod.fst) = none ∧ remain hit rest = tail := by
  obtain ⟨before, more, rfl, hnone, hmore⟩ := exists_of_remainFrom h
  obtain ⟨rest, rfl, hrest⟩ :=
    exists_of_together (List.pairwise_append.mp hplaces).2.1 hmark hmore
  exact ⟨before, rest, rfl, hnone, hrest⟩

end Places

/-- The characters that are left of a text, with their places in it. -/
def leftOf (cs : List Char) : List (Char × Nat) := remain imageLink (remain imageTag cs.zipIdx)

theorem leftOf_map_fst (cs : List Char) : (leftOf cs).map Prod.fst = stripImages cs := by
  rw [leftOf, remain, remainFrom_map_fst erases_imageLink, remain,
    remainFrom_map_fst erases_imageTag, List.zipIdx_map_fst]
  rfl

section Marks

variable {xs front tail : List (Char × Nat)}

/-- The name of a tag is not left as it stood. -/
theorem not_together_tag {angle close : Char × Nat} {word attributes back : List (Char × Nat)}
    (hplaces : InPlaces xs)
    (h : remain imageLink (remain imageTag xs) =
      front ++ (angle :: word ++ (attributes ++ close :: back)))
    (hangle : angle.1 = '<')
    (hword : (word.map Prod.fst).map Char.toLower = ['i', 'm', 'g'])
    (hends : endsWord (attributes.map Prod.fst) = true) (hclose : close.1 = '>') :
    ¬ Together (angle :: word) := by
  intro hmark
  have hbetween : InPlaces (remain imageTag xs) := hplaces.sublist (remain_sublist ..)
  obtain ⟨before, middle, hmiddle, -, htail⟩ := exists_of_remain_mark hbetween hmark h
  obtain ⟨before', rest, rfl, hnone, rfl⟩ := exists_of_remain_mark hplaces hmark hmiddle
  have hends' : endsWord ((remain imageLink (remain imageTag rest)).map Prod.fst) = true := by
    rw [htail, List.map_append, List.map_cons, hclose, endsWord_append, hends]
  have hmem : '>' ∈ rest.map Prod.fst := by
    have hleft : close ∈ remain imageLink (remain imageTag rest) := by rw [htail]; simp
    have hin := (remain_sublist ..).mem ((remain_sublist ..).mem hleft)
    exact hclose ▸ List.mem_map_of_mem hin
  by_cases hrest : endsWord (rest.map Prod.fst) = true
  -- A name that ends there is that of a tag, as it is closed somewhere behind.
  · obtain ⟨as, after, hsplit, has⟩ := List.eq_append_cons_of_mem hmem
    rw [hsplit, endsWord_append] at hrest
    have hsome := imageTag_isSome_iff.mpr ⟨word.map Prod.fst, as, after, rfl, hword, hrest, has⟩
    rw [List.map_append, List.map_cons, hangle, hsplit, List.cons_append] at hnone
    rw [hnone] at hsome
    cases hsome
  -- A longer name is left longer.
  · cases rest with
    | nil => exact absurd rfl hrest
    | cons z rest =>
        have hz : Pattern.wordChars.mem z.1 = true := by simpa [endsWord] using hrest
        obtain ⟨hopen, -, hlink⟩ := ne_of_mem_wordChars hz
        rw [remain_cons_of_none, remain_cons_of_none] at hends'
        · exact hrest hends'
        · rw [List.map_cons, imageLink]
          rintro rest hcons
          exact hlink (List.cons.inj hcons).1
        · rw [List.map_cons, imageTag, behindOpening]
          · rfl
          · rintro rest hcons
            exact hopen (List.cons.inj hcons).1

/-- Behind the mark of a link that is none, no link is taken out in front of a bracket that is
left. -/
theorem exists_of_remain_text {rest text : List (Char × Nat)} {bracket : Char × Nat}
    (hnone : imageLink ('!' :: '[' :: rest.map Prod.fst) = none)
    (h : remain imageLink rest = text ++ bracket :: tail) (htext : ']' ∉ text.map Prod.fst) :
    ∃ more, rest = text ++ bracket :: more ∧ remain imageLink more = tail := by
  induction rest generalizing text with
  | nil => simp [remain, remainFrom] at h
  | cons c rest ih =>
      cases hhit : imageLink ((c :: rest).map Prod.fst) with
      -- The brackets of a link behind it would make a link of the mark as well.
      | some hit =>
          obtain ⟨body, address, after, hcs, hbody, haddress⟩ :=
            imageLink_isSome_iff.mp (Option.isSome_of_eq_some hhit)
          have hsome := imageLink_isSome_iff.mpr ⟨'!' :: '[' :: body, address, after, rfl, by
            simpa using hbody, haddress⟩
          rw [List.map_cons] at hcs hnone
          rw [hcs] at hnone
          rw [List.cons_append, List.cons_append, hnone] at hsome
          cases hsome
      | none =>
          rw [remain_cons_of_none hhit] at h
          cases text with
          | nil =>
              obtain ⟨rfl, htail⟩ := List.cons.inj h
              exact ⟨rest, rfl, htail⟩
          | cons d text =>
              obtain ⟨rfl, hrest⟩ := List.cons.inj h
              obtain ⟨hd, htext⟩ := List.ne_and_not_mem_of_not_mem_cons htext
              have hnone' : imageLink ('!' :: '[' :: rest.map Prod.fst) = none := by
                rw [← Option.not_isSome_iff_eq_none, imageLink_isSome_iff]
                rintro ⟨body, address, after, hcs, hbody, haddress⟩
                obtain hcs : rest.map Prod.fst = _ := (List.cons.inj (List.cons.inj hcs).2).2
                have hsome := imageLink_isSome_iff.mpr ⟨_ :: body, address, after, rfl,
                  List.not_mem_cons_of_ne_of_not_mem hd hbody, haddress⟩
                rw [List.map_cons, hcs] at hnone
                rw [List.cons_append, hnone] at hsome
                cases hsome
              obtain ⟨more, rfl, hmore⟩ := ih hnone' hrest htext
              exact ⟨more, rfl, hmore⟩

/-- The marks of a link are not both left as they stood. -/
theorem not_together_link {close : Char × Nat} {mark text seam address back : List (Char × Nat)}
    (hplaces : InPlaces xs)
    (h : remain imageLink (remain imageTag xs) =
      front ++ (mark ++ (text ++ (seam ++ (address ++ close :: back)))))
    (hmark : mark.map Prod.fst = ['!', '[']) (htext : ']' ∉ text.map Prod.fst)
    (hseam : seam.map Prod.fst = [']', '(']) (hclose : close.1 = ')') :
    ¬ (Together mark ∧ Together seam) := by
  rintro ⟨hmarks, hseams⟩
  have hbetween : InPlaces (remain imageTag xs) := hplaces.sublist (remain_sublist ..)
  cases mark with
  | nil => cases hmark
  | cons sign mark =>
  cases seam with
  | nil => cases hseam
  | cons bracket seam =>
  obtain ⟨before, rest, hrest, hnone, htail⟩ := exists_of_remain_mark hbetween hmarks h
  rw [List.map_append, hmark] at hnone
  obtain ⟨more, rfl, hmore⟩ := exists_of_remain_text hnone htail htext
  rw [hrest] at hbetween
  have hbehind : InPlaces (bracket :: more) := by
    refine hbetween.sublist ?_
    exact ((List.sublist_append_right ..).trans (List.sublist_append_right ..)).trans
      (List.sublist_append_right ..)
  obtain ⟨rest, rfl, hback⟩ := exists_of_together hbehind hseams hmore
  have hmem : ')' ∈ rest.map Prod.fst := by
    have hleft : close ∈ remain imageLink rest := by rw [hback]; simp
    exact hclose ▸ List.mem_map_of_mem ((remain_sublist ..).mem hleft)
  obtain ⟨as, after, hsplit, has⟩ := List.eq_append_cons_of_mem hmem
  have hsome := imageLink_isSome_iff.mpr ⟨text.map Prod.fst, as, after, rfl, htext, has⟩
  rw [← List.cons_append, List.map_append, List.map_append, hseam, hsplit] at hnone
  simp only [List.cons_append, List.nil_append] at hnone
  rw [hnone] at hsome
  cases hsome

end Marks

section Left

variable {content : List Char} {img : List (Char × Nat)} {marks : List (List (Char × Nat))}

theorem together_of_stands {mark : List (Char × Nat)} (h : mark <:+: content.zipIdx) :
    Together mark := by
  obtain ⟨before, after, h⟩ := h
  have htogether := together_zipIdx content 0
  rw [← h, List.append_assoc] at htogether
  exact htogether.right_of_append.left_of_append

/-- Some mark does not stand in the text as it is. -/
def Apart (content : List Char) (marks : List (List (Char × Nat))) : Prop :=
  ∃ mark ∈ marks, ¬ mark <:+: content.zipIdx

/-- An image that is left has a mark that was apart. -/
theorem apart_of_image (hleft : img <:+: leftOf content) (himg : Image Prod.fst img marks) :
    Apart content marks := by
  by_contra hnone
  have htogether : ∀ mark ∈ marks, Together mark := fun mark hmem =>
    together_of_stands (not_not.mp fun h => hnone ⟨mark, hmem, h⟩)
  obtain ⟨front, back, h⟩ := hleft
  have hplaces := inPlaces_zipIdx content
  cases himg with
  | @tag angle close word attributes hangle hword hends hattributes hclose =>
      have hspelled : leftOf content =
          front ++ (angle :: word ++ (attributes ++ close :: back)) := by rw [← h]; simp
      exact not_together_tag hplaces hspelled hangle hword hends hclose
        (htogether _ List.mem_cons_self)
  | @link mark text seam address close hmark htext hseam haddress hclose =>
      have hspelled : leftOf content =
          front ++ (mark ++ (text ++ (seam ++ (address ++ close :: back)))) := by rw [← h]; simp
      exact not_together_link hplaces hspelled hmark htext hseam hclose
        ⟨htogether _ List.mem_cons_self, htogether _ (List.mem_cons_of_mem _ List.mem_cons_self)⟩

/-- Stripping leaves an image exactly if some image among the characters left has a mark that was
apart in the content; every image that is left is such a one, and stripping once more changes
nothing exactly if there is none. -/
theorem hasImage_stripImages_iff (content : List Char) :
    (leftOf content).Sublist content.zipIdx ∧
    (leftOf content).map Prod.fst = stripImages content ∧
    (∀ img marks, img <:+: leftOf content → Image Prod.fst img marks → Apart content marks) ∧
    (HasImage (stripImages content) ↔
      ∃ img marks, img <:+: leftOf content ∧ Image Prod.fst img marks ∧ Apart content marks) ∧
    (stripImages (stripImages content) = stripImages content ↔
      ¬ HasImage (stripImages content)) := by
  refine ⟨(remain_sublist ..).trans (remain_sublist ..), leftOf_map_fst content,
    fun _ _ => apart_of_image, ?_, stripImages_eq_self_iff⟩
  constructor
  · rintro ⟨cs, hcs, hisImage⟩
    rw [← leftOf_map_fst] at hcs
    obtain ⟨img, himg, rfl⟩ := List.infix_map_iff.mp hcs
    obtain ⟨marks, hmarks⟩ := exists_image_of_isImage hisImage
    exact ⟨img, marks, himg, hmarks, apart_of_image himg hmarks⟩
  · rintro ⟨img, marks, himg, hmarks, -⟩
    exact ⟨img.map Prod.fst, leftOf_map_fst content ▸ himg.map _, hmarks.isImage⟩

/-- The angle in front of a tag and the name behind it make a tag. -/
theorem stripImages_tag_in_tag :
    stripImages "<<img>img>".toList = "<img>".toList ∧
    HasImage (stripImages "<<img>img>".toList) ∧
    stripImages (stripImages "<<img>img>".toList) ≠ stripImages "<<img>img>".toList := by
  have hfirst : imageTag ('<' :: '<' :: "img>img>".toList) = none := rfl
  have hsecond : imageTag ('<' :: "img>img>".toList) = some ⟨4, []⟩ := by
    have hbehind : behindOpening ['i', 'm', 'g'] ('<' :: "img>img>".toList) =
        some "img>".toList :=
      behindOpening_eq_some_iff.mpr ⟨"img".toList, [], rfl, rfl, rfl, List.not_mem_nil⟩
    rw [imageTag, hbehind]
    rfl
  have hskipped : substituteFrom imageTag 4 "img>img>".toList = "img>".toList := rfl
  have htags : substitute imageTag ('<' :: '<' :: "img>img>".toList) = "<img>".toList := by
    rw [substitute, substituteFrom, hfirst, substituteFrom, hsecond]
    exact congrArg ('<' :: ·) hskipped
  have hlinks : substitute imageLink "<img>".toList = "<img>".toList := rfl
  have hstrip : stripImages "<<img>img>".toList = "<img>".toList :=
    (congrArg (substitute imageLink) htags).trans hlinks
  have htag : Image id ('<' :: "img".toList ++ ([] ++ ['>'])) ['<' :: "img".toList] :=
    .tag rfl rfl rfl List.not_mem_nil rfl
  have himage : HasImage "<img>".toList := ⟨_, List.infix_rfl, _, htag⟩
  rw [hstrip]
  exact ⟨rfl, himage, fun h => stripImages_eq_self_iff.mp h himage⟩

end Left

end Newswire.Message.Markup
