import BearerGate.Text.Blank
import Mathlib.Data.List.Basic
import Mathlib.Data.List.Induction

/-!
# Each text once

`Text.distinct` keeps the first occurrence of each member of a list: the members stay the same, none is there
twice (`nodup_distinct`), and they stand in the order in which they first occurred (`pairwise_distinct`).
-/

namespace BearerGate.Text

/-- One step of the walk: a member that was seen is passed over. -/
private def keep (seen : List String) (x : String) : List String :=
  if seen.contains x then seen else seen ++ [x]

private theorem mem_foldl_keep {x : String} (xs seen : List String) :
    x ∈ xs.foldl keep seen ↔ x ∈ seen ∨ x ∈ xs := by
  induction xs generalizing seen with
  | nil => simp
  | cons y ys ih =>
    rw [List.foldl_cons, ih]
    by_cases there : seen.contains y
    · have member : y ∈ seen := by simpa using there
      simp only [keep, if_pos there, List.mem_cons]
      constructor
      · rintro (h | h)
        · exact .inl h
        · exact .inr (.inr h)
      · rintro (h | rfl | h)
        · exact .inl h
        · exact .inl member
        · exact .inr h
    · rw [keep, if_neg there]
      simp [or_assoc]

/-- **No member is lost, and none is added.** -/
@[simp]
theorem mem_distinct {x : String} {xs : List String} : x ∈ distinct xs ↔ x ∈ xs := by
  change x ∈ xs.foldl keep [] ↔ x ∈ xs
  rw [mem_foldl_keep]
  simp

private theorem nodup_foldl_keep (xs seen : List String) (nodup : seen.Nodup) : (xs.foldl keep seen).Nodup := by
  induction xs generalizing seen with
  | nil => exact nodup
  | cons y ys ih =>
    refine ih _ ?_
    unfold keep
    split
    · exact nodup
    · rename_i new
      rw [List.contains_iff_mem] at new
      rw [List.nodup_append]
      refine ⟨nodup, by simp, fun a there b last same => new ?_⟩
      rw [← List.mem_singleton.1 last, ← same]
      exact there

/-- **None is there twice.** -/
theorem nodup_distinct (xs : List String) : (distinct xs).Nodup := nodup_foldl_keep xs [] List.nodup_nil

/-- One more member goes to the end, unless it is there already. -/
theorem distinct_concat (xs : List String) (x : String) :
    distinct (xs ++ [x]) = if x ∈ xs then distinct xs else distinct xs ++ [x] := by
  have walk : distinct (xs ++ [x]) = keep (distinct xs) x := by
    change (xs ++ [x]).foldl keep [] = _
    rw [List.foldl_append]
    rfl
  rw [walk, keep]
  simp only [List.contains_iff_mem, mem_distinct]

/-- **The order is that of first occurrence.** -/
theorem pairwise_distinct (xs : List String) : (distinct xs).Pairwise fun x y => xs.idxOf x < xs.idxOf y := by
  induction xs using List.reverseRecOn with
  | nil => exact .nil
  | append_singleton xs last ih =>
    have stays : ∀ {x}, x ∈ distinct xs → (xs ++ [last]).idxOf x = xs.idxOf x := fun there =>
      List.idxOf_append_of_mem (mem_distinct.1 there)
    have before : (distinct xs).Pairwise fun x y => (xs ++ [last]).idxOf x < (xs ++ [last]).idxOf y := by
      refine ih.imp_of_mem fun {x y} first second less => ?_
      rw [stays first, stays second]
      exact less
    rw [distinct_concat]
    split
    · exact before
    · rename_i new
      refine List.pairwise_append.2 ⟨before, List.pairwise_singleton _ _, fun x there y single => ?_⟩
      -- A new member stands behind all that were there.
      rw [List.mem_singleton.1 single, stays there, List.idxOf_append_of_notMem new]
      have inside : xs.idxOf x < xs.length := List.idxOf_lt_length_of_mem (mem_distinct.1 there)
      omega

/-- A list with no member twice stays as it is. -/
theorem distinct_eq_self {xs : List String} (nodup : xs.Nodup) : distinct xs = xs := by
  induction xs using List.reverseRecOn with
  | nil => rfl
  | append_singleton xs last ih =>
    rw [List.nodup_append] at nodup
    have new : last ∉ xs := fun there => nodup.2.2 last there last (List.mem_singleton_self last) rfl
    rw [distinct_concat, if_neg new, ih nodup.1]

end BearerGate.Text
