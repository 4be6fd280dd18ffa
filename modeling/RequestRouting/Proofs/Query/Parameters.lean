import Mathlib.Data.List.DropRight
import Mathlib.Data.List.Nodup
import RequestRouting.Query

/-!
# Parameters of queries

The pieces of a query between its ampersands are read in turn, each of them setting its key. A key
stands where its first piece put it and has the value of its last piece. Empty pieces set the empty
key, except at the end of the query, where they are dropped.
-/

namespace RequestRouting

namespace Variables

variable {vars more : Variables}

theorem set_ne_nil (vars : Variables) (name : String) (value : Option String) :
    vars.set name value ≠ [] := by
  cases vars with
  | nil => simp [set]
  | cons p rest =>
    rw [set]
    split <;> simp

theorem update_eq_nil_iff : vars.update more = [] ↔ vars = [] ∧ more = [] := by
  induction more generalizing vars with
  | nil => simp [update]
  | cons p more ih =>
    rw [update, List.foldl_cons, ← update, ih]
    simp [set_ne_nil]

theorem update_concat (vars more : Variables) (p : String × Option String) :
    vars.update (more ++ [p]) = (vars.update more).set p.1 p.2 := by
  rw [update, List.foldl_append]
  rfl

theorem mem_set (h : vars.names.Nodup) {name : String} {value : Option String}
    {p : String × Option String} :
    p ∈ vars.set name value ↔ p = (name, value) ∨ name ≠ p.1 ∧ p ∈ vars := by
  induction vars with
  | nil => simp [set]
  | cons q rest ih =>
    obtain ⟨n, v⟩ := q
    obtain ⟨(hn : n ∉ names rest), hrest⟩ := List.nodup_cons.1 h
    rw [set]
    split
    · next heq =>
      subst heq
      have hne : p ∈ rest → n ≠ p.1 := by
        rintro hp rfl
        exact hn (List.mem_map.2 ⟨p, hp, rfl⟩)
      rw [List.mem_cons, List.mem_cons]
      grind
    · next hne =>
      rw [List.mem_cons, List.mem_cons, ih hrest]
      grind

end Variables

namespace Query

/-- The pieces between the ampersands, without the empty ones at the end. -/
def keptPieces (query : String) : List (List Char) :=
  (query.toList.splitOn '&').rdropWhile List.isEmpty

def key (piece : List Char) : String := String.ofList (piece.takeWhile (· != '='))

def value? (piece : List Char) : Option String :=
  if '=' ∈ piece then some (String.ofList (piece.dropWhile (· != '=')).tail) else none

section Pieces

variable {piece front rest : List Char}

theorem takeWhile_ne_of_not_mem (h : '=' ∉ front) : front.takeWhile (· != '=') = front :=
  List.takeWhile_eq_self_iff.2 fun c hc => by simpa using ne_of_mem_of_not_mem hc h

theorem key_of_not_mem (h : '=' ∉ piece) : key piece = String.ofList piece := by
  rw [key, takeWhile_ne_of_not_mem h]

theorem value?_of_not_mem (h : '=' ∉ piece) : value? piece = none := if_neg h

theorem key_append_cons (h : '=' ∉ front) (rest : List Char) :
    key (front ++ '=' :: rest) = String.ofList front := by
  rw [key, List.takeWhile_append_of_pos fun c hc => by simpa using ne_of_mem_of_not_mem hc h]
  simp

theorem value?_append_cons (h : '=' ∉ front) (rest : List Char) :
    value? (front ++ '=' :: rest) = some (String.ofList rest) := by
  rw [value?, if_pos (by simp),
    List.dropWhile_append_of_pos fun c hc => by simpa using ne_of_mem_of_not_mem hc h]
  simp

theorem readToken_eq (piece : List Char) : readToken piece = (key piece, value? piece) := by
  rw [readToken]
  cases hcut : Text.cut '=' piece with
  | none =>
    have h := Text.cut_eq_none_iff.1 hcut
    rw [key_of_not_mem h, value?_of_not_mem h]
  | some p =>
    have h := Text.not_mem_of_cut hcut
    rw [Text.eq_of_cut hcut, key_append_cons h, value?_append_cons h]

end Pieces

theorem pairs_eq (query : String) :
    pairs query = (keptPieces query).map fun piece => (key piece, value? piece) := by
  rw [pairs, tokens]
  exact List.map_congr_left fun piece _ => readToken_eq piece

theorem parameters?_of_ne {query : String} (h : query ≠ "") :
    parameters? (some query) = some (Variables.update [] (pairs query)) := if_neg h

theorem keptPieces_eq_nil_iff {query : String} :
    keptPieces query = [] ↔ ∀ c ∈ query.toList, c = '&' := by
  rw [keptPieces, List.rdropWhile_eq_nil_iff]
  induction query.toList with
  | nil => simp [List.splitOn_nil]
  | cons c text ih =>
    rw [List.splitOn_cons_eq_if_modifyHead, List.forall_mem_cons, ← ih]
    by_cases hc : c = '&'
    · simp [hc]
    · cases h : text.splitOn '&' with
      | nil => exact absurd h (List.splitOn_ne_nil _ _)
      | cons piece more => simp [hc]

theorem parameters?_eq_some_nil_iff {query : String} :
    parameters? (some query) = some [] ↔ query ≠ "" ∧ ∀ c ∈ query.toList, c = '&' := by
  by_cases h : query = ""
  · simp [h, parameters?]
  · rw [parameters?_of_ne h, Option.some.injEq, Variables.update_eq_nil_iff, pairs_eq,
      List.map_eq_nil_iff, keptPieces_eq_nil_iff]
    simp [h]

/-- No later piece has the key of this one. -/
def IsLast (pieces : List (List Char)) (piece : List Char) : Prop :=
  ∃ before after, pieces = before ++ piece :: after ∧ ∀ later ∈ after, key later ≠ key piece

theorem isLast_concat {pieces : List (List Char)} {last piece : List Char} :
    IsLast (pieces ++ [last]) piece ↔
      piece = last ∨ key last ≠ key piece ∧ IsLast pieces piece := by
  constructor
  · rintro ⟨before, after, heq, hafter⟩
    rcases List.eq_nil_or_concat after with rfl | ⟨after, other, rfl⟩
    · obtain ⟨-, hlast⟩ := List.append_inj' heq rfl
      exact .inl (List.head_eq_of_cons_eq hlast).symm
    · rw [List.concat_eq_append] at heq hafter
      rw [← List.cons_append, ← List.append_assoc] at heq
      obtain ⟨rfl, hlast⟩ := List.append_inj' heq rfl
      obtain rfl := List.head_eq_of_cons_eq hlast
      refine .inr ⟨hafter last (by simp), before, after, rfl, ?_⟩
      intro later hlater
      exact hafter later (by simp [hlater])
  · rintro (rfl | ⟨hlast, before, after, rfl, hafter⟩)
    · exact ⟨pieces, [], rfl, by simp⟩
    · refine ⟨before, after ++ [last], by simp, ?_⟩
      intro later hlater
      rcases List.mem_append.1 hlater with hlater | hlater
      · exact hafter later hlater
      · obtain rfl := List.mem_singleton.1 hlater
        exact hlast

/-- Each key of a piece once, in the order of the first pieces, with the values of the last ones. -/
structure Collects (pieces : List (List Char)) (vars : Variables) : Prop where
  once : vars.names.Nodup
  keys : ∀ name, name ∈ vars.names ↔ name ∈ pieces.map key
  ordered : vars.names.Pairwise fun a b => (pieces.map key).idxOf a < (pieces.map key).idxOf b
  values : ∀ p, p ∈ vars ↔ ∃ piece, IsLast pieces piece ∧ p = (key piece, value? piece)

theorem collects_nil : Collects [] [] where
  once := .nil
  keys := by simp [Variables.names]
  ordered := .nil
  values p := by simp [IsLast]

theorem Collects.concat {pieces : List (List Char)} {vars : Variables} (h : Collects pieces vars)
    (piece : List Char) : Collects (pieces ++ [piece]) (vars.set (key piece) (value? piece)) := by
  have hold : vars.names.Pairwise fun a b =>
      ((pieces ++ [piece]).map key).idxOf a < ((pieces ++ [piece]).map key).idxOf b := by
    apply h.ordered.imp_of_mem
    intro a b ha hb hab
    rwa [List.map_append, List.idxOf_append_of_mem ((h.keys a).1 ha),
      List.idxOf_append_of_mem ((h.keys b).1 hb)]
  constructor
  · rw [Variables.names_set]
    split
    · exact h.once
    · next hnew =>
      rw [← List.concat_eq_append]
      exact (List.nodup_concat _ _).2 ⟨hnew, h.once⟩
  · intro name
    rw [Variables.names_set, List.map_append, List.mem_append, ← h.keys]
    split
    · next hmem =>
      simp only [List.map_cons, List.map_nil, List.mem_singleton, iff_self_or]
      rintro rfl
      exact hmem
    · exact List.mem_append
  · rw [Variables.names_set]
    split
    · exact hold
    · next hnew =>
      refine List.pairwise_append.2 ⟨hold, List.pairwise_singleton _ _, ?_⟩
      intro a ha b hb
      obtain rfl := List.mem_singleton.1 hb
      have hkey : key piece ∉ pieces.map key := mt (h.keys _).2 hnew
      rw [List.map_append, List.idxOf_append_of_mem ((h.keys a).1 ha),
        List.idxOf_append_of_notMem hkey]
      exact Nat.lt_add_right _ (List.idxOf_lt_length_iff.2 ((h.keys a).1 ha))
  · intro p
    rw [Variables.mem_set h.once, h.values]
    constructor
    · rintro (rfl | ⟨hne, last, hlast, rfl⟩)
      · exact ⟨piece, isLast_concat.2 (.inl rfl), rfl⟩
      · exact ⟨last, isLast_concat.2 (.inr ⟨hne, hlast⟩), rfl⟩
    · rintro ⟨last, hlast, rfl⟩
      rcases isLast_concat.1 hlast with rfl | ⟨hne, hlast⟩
      · exact .inl rfl
      · exact .inr ⟨hne, last, hlast, rfl⟩

theorem collects_update (pieces : List (List Char)) :
    Collects pieces (Variables.update [] (pieces.map fun piece => (key piece, value? piece))) := by
  induction pieces using List.reverseRecOn with
  | nil => exact collects_nil
  | append_singleton pieces piece ih =>
    rw [List.map_append, List.map_singleton, Variables.update_concat]
    exact ih.concat piece

/-- A query that is not empty yields each key of its pieces once, in the place of the first piece
and with the value of the last one. An empty piece in front of another piece counts as the empty
key. -/
theorem parameters?_collects {query : String} (h : query ≠ "") :
    ∃ vars, parameters? (some query) = some vars ∧ Collects (keptPieces query) vars ∧
      (∀ before after, keptPieces query = before ++ [] :: after →
        (∀ later ∈ after, key later ≠ "") → ("", none) ∈ vars) ∧
      (vars = [] ↔ ∀ c ∈ query.toList, c = '&') := by
  have hcollects := collects_update (keptPieces query)
  rw [← pairs_eq] at hcollects
  refine ⟨_, parameters?_of_ne h, hcollects, ?_, ?_⟩
  · intro before after heq hafter
    exact (hcollects.values _).2 ⟨[], ⟨before, after, heq, hafter⟩, rfl⟩
  · rw [← Option.some.injEq, ← parameters?_of_ne h, parameters?_eq_some_nil_iff]
    simp [h]

theorem parameters?_collects_empty_key :
    ∃ vars, parameters? (some "=1&&a=2&a&&") = some vars ∧ vars.names.Nodup ∧ ("", none) ∈ vars ∧
      ("a", none) ∈ vars ∧ vars ≠ [] := by
  obtain ⟨vars, hvars, hcollects, hempty, hnil⟩ :=
    @parameters?_collects "=1&&a=2&a&&" (by decide)
  have hpieces : keptPieces "=1&&a=2&a&&" = [['=', '1'], [], ['a', '=', '2'], ['a']] := by
    decide +kernel
  rw [hpieces] at hcollects hempty
  have hlast : IsLast [['=', '1'], [], ['a', '=', '2'], ['a']] ['a'] :=
    ⟨[['=', '1'], [], ['a', '=', '2']], [], rfl, by simp⟩
  refine ⟨vars, hvars, hcollects.once, ?_, (hcollects.values _).2 ⟨['a'], hlast, rfl⟩, ?_⟩
  · exact hempty [['=', '1']] [['a', '=', '2'], ['a']] rfl (by decide +kernel)
  · rw [ne_eq, hnil]
    intro hall
    exact absurd (hall '=' (by decide +kernel)) (by decide)

end Query

end RequestRouting
