/-!
# Sorted sets of texts
-/

namespace RequestRouting.Text

theorem nodup_eraseDups (texts : List String) : texts.eraseDups.Nodup := by
  match texts with
  | [] => exact .nil
  | text :: rest =>
    rw [List.eraseDups_cons, List.nodup_cons]
    exact ⟨by simp [List.mem_eraseDups], nodup_eraseDups _⟩
termination_by texts.length
decreasing_by exact Nat.lt_succ_of_le (List.length_filter_le _ _)

def sortedSet (texts : List String) : List String := texts.eraseDups.mergeSort

@[simp] theorem mem_sortedSet {text : String} {texts : List String} :
    text ∈ sortedSet texts ↔ text ∈ texts := by
  rw [sortedSet, List.mem_mergeSort, List.mem_eraseDups]

theorem pairwise_sortedSet (texts : List String) : (sortedSet texts).Pairwise (· < ·) := by
  have hle : (sortedSet texts).Pairwise fun a b => decide (a ≤ b) = true := by
    apply List.pairwise_mergeSort
    · intro a b c hab hbc
      simp only [decide_eq_true_eq] at hab hbc ⊢
      exact String.le_trans hab hbc
    · intro a b
      simpa using String.le_total a b
  have hne : (sortedSet texts).Nodup :=
    (List.mergeSort_perm _ _).nodup_iff.2 (nodup_eraseDups texts)
  refine hle.imp₂ ?_ hne
  intro a b hab hab'
  exact String.not_le.1 fun hba => hab' (String.le_antisymm (of_decide_eq_true hab) hba)

end RequestRouting.Text
