import Newswire.Proofs.Json.Lossless
import Newswire.Rule.Basic

/-!
# Rules in written form

A rule of any shape is read back from its written form, wherever it stands. The reader counts the
levels of the written rule down, and has one left for each of its parts.
-/

namespace Newswire

open Json

theorem Relation.lossless_name :
    Lossless (chooseName Relation.names) (fun r => str r.name) fun _ => True := by
  apply Lossless.chooseName
  rintro ⟨_ | _ | _, _ | _⟩ <;> rfl

theorem Junction.lossless_name :
    Lossless (chooseName Junction.names) (fun x => str x.name) fun _ => True := by
  apply Lossless.chooseName
  rintro (_ | _) <;> rfl

namespace Operand

theorem lossless : Lossless decode encode fun _ => True where
  plain {x} _ := by cases x <;> simp [encode]
  decode_encode {x} _ := by
    refine bind_eq_ok_iff.mpr ?_
    cases x with
    | text s =>
        refine ⟨⟨.text, s⟩, Fills.record ?_ (by simp), rfl⟩
        exact .requires_of rfl rfl <| .requires .text trivial <| .nil _
    | field name =>
        refine ⟨⟨.field, name⟩, Fills.record ?_ (by simp), rfl⟩
        exact .requires_of rfl rfl <| .requires .text trivial <| .nil _
  fits _ := trivial

end Operand

namespace Rule

mutual

theorem isPlain_encode : ∀ r : Rule, r.encode.IsPlain
  | group junction rules => by
      simpa [encode] using isPlain_encodeAll rules
  | negation rule => by
      simpa [encode] using isPlain_encode rule
  | compare relation field operand => by
      simpa [encode] using Operand.lossless.plain trivial

theorem isPlain_encodeAll : ∀ rules : List Rule, ∀ j ∈ encodeAll rules, j.IsPlain
  | [] => nofun
  | r :: rest => List.forall_mem_cons.mpr ⟨isPlain_encode r, isPlain_encodeAll rest⟩

end

mutual

theorem decodeWithin_encode : ∀ {fuel : Nat} {setting : Setting} {r : Rule},
    r.encode.depth < fuel → decodeWithin fuel setting r.encode = .ok r
  | 0, _, _, h => absurd h (Nat.not_lt_zero _)
  | fuel + 1, setting, group junction rules, h => by
      have hplain := isPlain_encode (group junction rules)
      rw [encode] at h hplain ⊢
      have hrules : depthOfItems (encodeAll rules) < fuel := by
        simp only [depth, depthOfMembers] at h
        omega
      refine bind_eq_ok_iff.mpr ⟨_, untag_obj hplain (by simp), ?_⟩
      refine bind_eq_ok_iff.mpr ⟨.group, by cases setting <;> rfl, bind_eq_ok_iff.mpr ?_⟩
      refine ⟨⟨junction, rules⟩, Fills.record ?_ (by simp), rfl⟩
      exact .requires Junction.lossless_name trivial <|
        .allows_of ((isPlain_arr _).mpr (isPlain_encodeAll rules))
          (mapM_decodeWithin_encodeAll hrules) <| .nil _
  | fuel + 1, setting, negation rule, h => by
      have hplain := isPlain_encode (negation rule)
      rw [encode] at h hplain ⊢
      have hrule : rule.encode.depth < fuel := by
        simp only [depth, depthOfMembers] at h
        omega
      refine bind_eq_ok_iff.mpr ⟨_, untag_obj hplain (by simp), ?_⟩
      refine bind_eq_ok_iff.mpr ⟨.negation, by cases setting <;> rfl, bind_eq_ok_iff.mpr ?_⟩
      refine ⟨some rule, Fills.record ?_ (by simp), rfl⟩
      exact .requires_of (isPlain_encode rule) (decodeWithin_encode hrule) <| .nil _
  | fuel + 1, setting, compare relation field operand, h => by
      have hplain := isPlain_encode (compare relation field operand)
      rw [encode] at h hplain ⊢
      refine bind_eq_ok_iff.mpr ⟨_, untag_obj hplain (by simp), ?_⟩
      refine bind_eq_ok_iff.mpr ⟨.compare, by cases setting <;> rfl, bind_eq_ok_iff.mpr ?_⟩
      refine ⟨⟨relation, field, operand⟩, Fills.record ?_ (by simp), rfl⟩
      exact .requires Relation.lossless_name trivial <| .requires .text trivial <|
        .requires Operand.lossless trivial <| .nil _

theorem mapM_decodeWithin_encodeAll : ∀ {fuel : Nat} {rules : List Rule},
    depthOfItems (encodeAll rules) < fuel →
      (encodeAll rules).mapM (decodeWithin fuel .inner) = .ok rules
  | _, [], _ => rfl
  | fuel, r :: rest, h => by
      rw [encodeAll, depthOfItems] at h
      rw [encodeAll, List.mapM_cons]
      refine bind_eq_ok_iff.mpr ⟨r, decodeWithin_encode (by omega), bind_eq_ok_iff.mpr ?_⟩
      exact ⟨rest, mapM_decodeWithin_encodeAll (by omega), rfl⟩

end

theorem lossless (setting : Setting) : Lossless (decode setting) encode fun _ => True where
  plain {r} _ := r.isPlain_encode
  decode_encode _ := decodeWithin_encode (Nat.lt_succ_self _)
  fits _ := trivial

end Rule

end Newswire
