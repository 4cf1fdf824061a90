import MetaParity.Model
import Mathlib.Data.List.Nodup

/-! # Tables of blobs

Blobs lie in ascending order of their tokens, so neither pairs that ascend already nor the order of pairs with tokens of
their own make a difference. -/

namespace MetaParity.Blobs

variable {blobs : Blobs} {token token' : Token} {bytes bytes' : Bytes} {pairs pairs' : List (Token × Bytes)}

theorem isSome_get?_iff : (blobs.get? token).isSome ↔ token ∈ blobs.map (·.1) := by
  simp [get?, List.find?_isSome]

theorem insert_of_forall_lt (h : ∀ blob ∈ blobs, blob.1.raw < token.raw) :
    insert token bytes blobs = blobs ++ [(token, bytes)] := by
  induction blobs with
  | nil => rfl
  | cons blob blobs ih =>
      obtain ⟨hblob, hblobs⟩ := List.forall_mem_cons.mp h
      rw [insert, if_neg (UInt32.lt_asymm hblob), if_neg (UInt32.ne_of_lt hblob).symm, ih hblobs, List.cons_append]

theorem ofPairs_eq_self (h : pairs.Pairwise (·.1.raw < ·.1.raw)) : ofPairs pairs = pairs := by
  suffices hfold : ∀ front back : List (Token × Bytes), (front ++ back).Pairwise (·.1.raw < ·.1.raw) →
      back.foldl (fun blobs pair => insert pair.1 pair.2 blobs) front = front ++ back from hfold [] pairs h
  intro front back
  induction back generalizing front with
  | nil => simp
  | cons pair back ih =>
      intro hsorted
      have hlt : ∀ blob ∈ front, blob.1.raw < pair.1.raw := fun blob hmem =>
        (List.pairwise_append.mp hsorted).2.2 blob hmem pair List.mem_cons_self
      rw [List.foldl_cons, insert_of_forall_lt hlt, ih _ (by simpa using hsorted), List.append_assoc,
        List.singleton_append]

theorem insert_insert (hne : token.raw ≠ token'.raw) (blobs : Blobs) :
    insert token' bytes' (insert token bytes blobs) = insert token bytes (insert token' bytes' blobs) := by
  induction blobs with
  | nil => grind [insert]
  | cons blob blobs ih => grind [insert]

/-- The order of pairs with tokens of their own does not matter. -/
theorem ofPairs_of_perm (h : pairs.Perm pairs') (hnodup : (pairs.map (·.1)).Nodup) :
    ofPairs pairs = ofPairs pairs' := by
  refine h.foldl_eq' (fun pair hmem pair' hmem' blobs => ?_) []
  by_cases heq : pair = pair'
  · rw [heq]
  · refine insert_insert (fun hraw => heq ?_) blobs
    exact List.inj_on_of_nodup_map hnodup hmem hmem' (congrArg Token.mk hraw)

end MetaParity.Blobs
