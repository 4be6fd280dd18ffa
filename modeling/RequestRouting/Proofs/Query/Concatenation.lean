import RequestRouting.Proofs.Query.Encoding

/-!
# Queries one after the other

A query put behind another one with an ampersand between them overrides its parameters: names that
are there keep their place and take the later value, new names follow in their order. The query in
front must not end in an ampersand, since its empty pieces at the end would count then.
-/

namespace RequestRouting

namespace Variables

/-- The names of `vars` in their places, with the values of `more` where it has any. -/
def replacedBy (vars more : Variables) : Variables :=
  vars.map fun p => (p.1, (more.get? p.1).getD p.2)

/-- What is new in `more` stands behind the names of `vars`. -/
def overriddenBy (vars more : Variables) : Variables :=
  vars.replacedBy more ++ more.filter fun p => p.1 ∉ vars.names

variable {vars : Variables} {name : String}

@[simp] theorem mem_names_cons {p : String × Option String} {vars : Variables} :
    name ∈ names (p :: vars) ↔ name = p.1 ∨ name ∈ vars.names := List.mem_cons

@[simp] theorem names_replacedBy (vars more : Variables) :
    (vars.replacedBy more).names = vars.names := by
  rw [names, replacedBy, List.map_map]
  rfl

theorem set_append (vars more : Variables) (name : String) (value : Option String) :
    set (vars ++ more) name value =
      if name ∈ vars.names then vars.set name value ++ more else vars ++ more.set name value := by
  induction vars with
  | nil => simp [names]
  | cons p vars ih =>
    rw [List.cons_append, set, ih, set]
    by_cases hp : p.1 = name
    · simp [hp]
    · by_cases hname : name ∈ names vars
      · simp [hp, hname]
      · simp [hp, Ne.symm hp, hname]

theorem set_of_mem (h : vars.names.Nodup) (hname : name ∈ vars.names) (value : Option String) :
    vars.set name value = vars.map fun p => (p.1, if p.1 = name then value else p.2) := by
  induction vars with
  | nil => cases hname
  | cons p vars ih =>
    obtain ⟨hp, hrest⟩ := List.nodup_cons.1 h
    rw [set, List.map_cons]
    split
    · next heq =>
      have hsame : ∀ q ∈ vars, (q.1, if q.1 = name then value else q.2) = q := by
        intro q hq
        rw [if_neg (heq ▸ ne_of_mem_of_not_mem (List.mem_map_of_mem hq) hp)]
      rw [List.map_congr_left hsame, List.map_id']
    · next hne => rw [ih hrest ((mem_names_cons.1 hname).resolve_left (Ne.symm hne))]

theorem replacedBy_set_of_mem (h : vars.names.Nodup) (hname : name ∈ vars.names)
    (more : Variables) (value : Option String) :
    vars.replacedBy (more.set name value) = (vars.replacedBy more).set name value := by
  have hset : (vars.replacedBy more).set name value =
      (vars.replacedBy more).map fun p => (p.1, if p.1 = name then value else p.2) :=
    set_of_mem (by rwa [names_replacedBy]) (by rwa [names_replacedBy]) value
  rw [hset, replacedBy, replacedBy, List.map_map]
  apply List.map_congr_left
  intro p _
  rw [get?_set, Function.comp_apply]
  split <;> rfl

theorem replacedBy_set_of_not_mem (hname : name ∉ vars.names) (more : Variables)
    (value : Option String) : vars.replacedBy (more.set name value) = vars.replacedBy more := by
  apply List.map_congr_left
  intro p hp
  rw [get?_set, if_neg (ne_of_mem_of_not_mem (List.mem_map_of_mem hp) hname)]

theorem filter_set (more : Variables) (keep : String → Bool) (name : String)
    (value : Option String) :
    (more.set name value).filter (keep ·.1) =
      if keep name then set (more.filter (keep ·.1)) name value else more.filter (keep ·.1) := by
  induction more with
  | nil => cases h : keep name <;> simp [set, h]
  | cons p more ih =>
    rw [set]
    split
    · next heq => cases h : keep p.1 <;> simp [← heq, h, set]
    · next hne =>
      rw [List.filter_cons, List.filter_cons, ih]
      cases h : keep p.1 <;> cases h' : keep name <;> simp [set, hne]

theorem overriddenBy_set (h : vars.names.Nodup) (more : Variables) (name : String)
    (value : Option String) :
    vars.overriddenBy (more.set name value) = (vars.overriddenBy more).set name value := by
  rw [overriddenBy, overriddenBy, set_append, names_replacedBy, filter_set more (· ∉ vars.names)]
  by_cases hname : name ∈ vars.names
  · rw [if_pos hname, replacedBy_set_of_mem h hname, if_neg (by simpa using hname)]
  · rw [if_neg hname, replacedBy_set_of_not_mem hname, if_pos (by simpa using hname)]

/-- Setting pairs in turn comes to overriding with what they come to on their own. -/
theorem update_eq_overriddenBy (h : vars.names.Nodup) (more : Variables) :
    vars.update more = vars.overriddenBy (update [] more) := by
  induction more using List.reverseRecOn with
  | nil => simp [update, overriddenBy, replacedBy, get?]
  | append_singleton more p ih => rw [update_concat, update_concat, ih, overriddenBy_set h]

end Variables

namespace Query

theorem splitOn_append_ampersand (query more : String) :
    (query ++ "&" ++ more).toList.splitOn '&' =
      query.toList.splitOn '&' ++ more.toList.splitOn '&' := by
  rw [String.toList_append, String.toList_append, List.append_assoc]
  exact List.splitOnP_append_cons _ _ (beq_self_eq_true _)

/-- A list that is kept whole is also kept in front of another one. -/
theorem rdropWhile_append {α : Type} {p : α → Bool} {xs : List α} (h : xs.rdropWhile p = xs)
    (ys : List α) : (xs ++ ys).rdropWhile p = xs ++ ys.rdropWhile p := by
  rw [List.rdropWhile, List.reverse_append, List.dropWhile_append]
  split
  · next hempty =>
    rw [List.rdropWhile, List.isEmpty_iff.1 hempty, List.reverse_nil, List.append_nil]
    exact h
  · rw [List.reverse_append, List.reverse_reverse, List.rdropWhile]

theorem keptPieces_append {query : String} (h : query ≠ "")
    (hlast : query.toList.getLast? ≠ some '&') (more : String) :
    keptPieces (query ++ "&" ++ more) = keptPieces query ++ keptPieces more := by
  have hfirst := keptPieces_of_getLast? h hlast
  rw [keptPieces, splitOn_append_ampersand, rdropWhile_append hfirst, hfirst, keptPieces]

theorem pairs_append {query : String} (h : query ≠ "")
    (hlast : query.toList.getLast? ≠ some '&') (more : String) :
    pairs (query ++ "&" ++ more) = pairs query ++ pairs more := by
  rw [pairs_eq, pairs_eq, pairs_eq, keptPieces_append h hlast, List.map_append]

theorem getD_parameters? (query : String) :
    (parameters? (some query)).getD [] = Variables.update [] (pairs query) := by
  by_cases h : query = ""
  · subst h
    rfl
  · rw [parameters?_of_ne h, Option.getD_some]

theorem nodup_names_update_pairs (query : String) :
    (Variables.update [] (pairs query)).names.Nodup := by
  rw [pairs_eq]
  exact (collects_update (keptPieces query)).once

/-- With a second query behind it a query yields its own parameters, updated with those of the
second one. A second query without parameters changes nothing. -/
theorem parameters?_concatenated {query : String} (h : query ≠ "")
    (hlast : query.toList.getLast? ≠ some '&') (more : String) :
    ∃ vars later, parameters? (some query) = some vars ∧
      (parameters? (some more)).getD [] = later ∧
      parameters? (some (query ++ "&" ++ more)) = some (vars.update later) ∧
      vars.update later = vars.overriddenBy later := by
  have hvars := nodup_names_update_pairs query
  have hmore := nodup_names_update_pairs more
  have hboth : query ++ "&" ++ more ≠ "" := by simp
  have hlater : Variables.update [] (Variables.update [] (pairs more)) =
      Variables.update [] (pairs more) := @Variables.update_of_nodup [] _ hmore
  have hupdate := Variables.update_eq_overriddenBy hvars (Variables.update [] (pairs more))
  rw [hlater] at hupdate
  refine ⟨_, _, parameters?_of_ne h, getD_parameters? more, ?_, hupdate⟩
  rw [parameters?_of_ne hboth, pairs_append h hlast, hupdate,
    ← Variables.update_eq_overriddenBy hvars, Variables.update, Variables.update,
    Variables.update, List.foldl_append]

theorem parameters?_concatenated_samples :
    parameters? (some "a=1&b&a=2&&c=3&a&") =
      some [("a", none), ("b", none), ("", none), ("c", some "3")] ∧
    parameters? (some "a=1&b&&&") = some [("a", some "1"), ("b", none)] := by
  have hfirst : parameters? (some "a=1&b") = some [("a", some "1"), ("b", none)] := by
    decide +kernel
  have hmore : parameters? (some "a=2&&c=3&a&") =
      some [("a", none), ("", none), ("c", some "3")] := by decide +kernel
  have hnone : parameters? (some "&&") = some [] := by decide +kernel
  have h (more : String) := @parameters?_concatenated "a=1&b" (by decide) (by decide +kernel) more
  constructor
  · obtain ⟨vars, later, hvars, hlater, hboth, -⟩ := h "a=2&&c=3&a&"
    cases hfirst.symm.trans hvars
    cases (congrArg (·.getD []) hmore).symm.trans hlater
    exact hboth
  · obtain ⟨vars, later, hvars, hlater, hboth, -⟩ := h "&&"
    cases hfirst.symm.trans hvars
    cases (congrArg (·.getD []) hnone).symm.trans hlater
    exact hboth

end Query

end RequestRouting
