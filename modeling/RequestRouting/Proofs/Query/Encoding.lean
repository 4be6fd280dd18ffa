import RequestRouting.Proofs.Query.Parameters

/-!
# Encoding queries

Pairs written one after the other, an ampersand between any two of them, are a query that reads
back as the same pairs. The other way round, a query with different keys that does not end in an
ampersand is what its parameters are written as.
-/

namespace RequestRouting

namespace Variables

theorem set_of_not_mem {vars : Variables} {name : String} (h : name ∉ vars.names)
    (value : Option String) : vars.set name value = vars ++ [(name, value)] := by
  induction vars with
  | nil => rfl
  | cons p rest ih =>
    obtain ⟨hp, hrest⟩ := not_or.1 (mt List.mem_cons.2 h)
    rw [set, if_neg (Ne.symm hp), ih hrest, List.cons_append]

theorem update_of_nodup {vars more : Variables} (h : (vars ++ more).names.Nodup) :
    vars.update more = vars ++ more := by
  induction more using List.reverseRecOn with
  | nil => simp [update]
  | append_singleton more p ih =>
    rw [← List.append_assoc, names, List.map_append, List.map_singleton, ← List.concat_eq_append,
      List.nodup_concat] at h
    obtain ⟨hp, hmore⟩ := h
    rw [update_concat, ih hmore, set_of_not_mem hp, List.append_assoc]

end Variables

namespace Query

open Text

/-- A key alone if there is no value. -/
def encodePair : String × Option String → String
  | (key, none) => key
  | (key, some value) => key ++ "=" ++ value

def encode (pairs : Variables) : String := "&".intercalate (pairs.map encodePair)

/-- Pairs that can be told apart in a query. The last one is not lost if its text is not empty. -/
structure Encodable (pairs : Variables) : Prop where
  nonempty : pairs ≠ []
  distinct : pairs.names.Nodup
  keys : ∀ p ∈ pairs, '&' ∉ p.1.toList ∧ '=' ∉ p.1.toList
  values : ∀ p ∈ pairs, ∀ value, p.2 = some value → '&' ∉ value.toList
  last : pairs.getLast? ≠ some ("", none)

theorem key_encodePair {p : String × Option String} (h : '=' ∉ p.1.toList) :
    key (encodePair p).toList = p.1 := by
  obtain ⟨name, value⟩ := p
  cases value with
  | none => simp [encodePair, key_of_not_mem h]
  | some value => simpa [encodePair] using key_append_cons h value.toList

theorem value?_encodePair {p : String × Option String} (h : '=' ∉ p.1.toList) :
    value? (encodePair p).toList = p.2 := by
  obtain ⟨name, value⟩ := p
  cases value with
  | none => exact value?_of_not_mem h
  | some value => simpa [encodePair] using value?_append_cons h value.toList

theorem encodePair_key_value? (piece : List Char) :
    (encodePair (key piece, value? piece)).toList = piece := by
  cases hcut : cut '=' piece with
  | none =>
    have h := cut_eq_none_iff.1 hcut
    rw [key_of_not_mem h, value?_of_not_mem h, encodePair, String.toList_ofList]
  | some p =>
    have h := not_mem_of_cut hcut
    rw [eq_of_cut hcut, key_append_cons h, value?_append_cons h]
    simp [encodePair]

theorem eq_of_encodePair_eq_empty {p : String × Option String} (h : encodePair p = "") :
    p = ("", none) := by
  obtain ⟨name, value⟩ := p
  cases value with
  | none => exact congrArg (·, none) h
  | some value =>
    have hchars := congrArg String.toList h
    simp [encodePair] at hchars

theorem encode_toList (pairs : Variables) :
    (encode pairs).toList = ['&'].intercalate (pairs.map fun p => (encodePair p).toList) := by
  rw [encode, String.toList_intercalate, List.map_map]
  rfl

namespace Encodable

variable {pairs : Variables}

theorem ampersand_not_mem (h : Encodable pairs) {p : String × Option String} (hp : p ∈ pairs) :
    '&' ∉ (encodePair p).toList := by
  obtain ⟨hkey, -⟩ := h.keys p hp
  have hvalue := h.values p hp
  obtain ⟨name, value⟩ := p
  cases value with
  | none => exact hkey
  | some value => simp [encodePair, hkey, hvalue value rfl]

theorem keptPieces_encode (h : Encodable pairs) :
    keptPieces (encode pairs) = pairs.map fun p => (encodePair p).toList := by
  rw [keptPieces, encode_toList, List.splitOn_intercalate, List.rdropWhile_eq_self_iff]
  · intro hne hempty
    rw [List.getLast_map] at hempty
    have hlast : encodePair (pairs.getLast h.nonempty) = "" := by simpa using hempty
    exact h.last (eq_of_encodePair_eq_empty hlast ▸ List.getLast?_eq_some_getLast h.nonempty)
  · intro piece hpiece
    obtain ⟨p, hp, rfl⟩ := List.mem_map.1 hpiece
    exact h.ampersand_not_mem hp
  · simpa using h.nonempty

theorem pairs_encode (h : Encodable pairs) : Query.pairs (encode pairs) = pairs := by
  rw [pairs_eq, h.keptPieces_encode, List.map_map]
  conv_rhs => rw [← List.map_id pairs]
  apply List.map_congr_left
  intro p hp
  obtain ⟨-, hkey⟩ := h.keys p hp
  exact Prod.ext (key_encodePair hkey) (value?_encodePair hkey)

theorem encode_ne (h : Encodable pairs) : encode pairs ≠ "" := by
  intro hempty
  have hpairs := h.pairs_encode
  rw [hempty] at hpairs
  exact h.nonempty hpairs.symm

end Encodable

theorem intercalate_concat_nil {c : Char} {pieces : List (List Char)} (h : pieces ≠ []) :
    [c].intercalate (pieces ++ [[]]) = [c].intercalate pieces ++ [c] := by
  induction pieces with
  | nil => exact absurd rfl h
  | cons piece pieces ih =>
    by_cases hlast : pieces = []
    · simp [hlast]
    · rw [List.cons_append, List.intercalate_cons_of_ne_nil (by simp), ih hlast,
        List.intercalate_cons_of_ne_nil hlast, List.append_assoc (piece ++ [c])]

/-- The last piece is empty only behind an ampersand. -/
theorem keptPieces_of_getLast? {query : String} (h : query ≠ "")
    (hlast : query.toList.getLast? ≠ some '&') : keptPieces query = query.toList.splitOn '&' := by
  rw [keptPieces, List.rdropWhile_eq_self_iff]
  intro hne hempty
  have hpieces := List.dropLast_append_getLast hne
  rw [List.isEmpty_iff.1 hempty] at hpieces
  have htext := @List.intercalate_splitOn _ query.toList _ _ '&'
  rw [← hpieces] at htext
  by_cases hfirst : (query.toList.splitOn '&').dropLast = []
  · rw [hfirst] at htext
    simp at htext
    exact h htext
  · rw [intercalate_concat_nil hfirst] at htext
    rw [← htext] at hlast
    simp at hlast

/-- Reading is the inverse of writing, for all pairs that can be told apart in a query. Writing is
the inverse of reading, for all queries with different keys that do not end in an ampersand. -/
theorem parameters?_encode :
    (∀ pairs, Encodable pairs → parameters? (some (encode pairs)) = some pairs) ∧
    ∀ query, query ≠ "" → query.toList.getLast? ≠ some '&' → ((keptPieces query).map key).Nodup →
      ∃ pairs, parameters? (some query) = some pairs ∧ encode pairs = query := by
  constructor
  · intro pairs h
    rw [parameters?_of_ne h.encode_ne, h.pairs_encode]
    exact congrArg some (Variables.update_of_nodup h.distinct)
  · intro query hne hlast hkeys
    have hnames : (Query.pairs query).names = (keptPieces query).map key := by
      rw [pairs_eq, Variables.names, List.map_map]
      rfl
    rw [← hnames] at hkeys
    refine ⟨Query.pairs query, ?_, ?_⟩
    · rw [parameters?_of_ne hne]
      exact congrArg some (Variables.update_of_nodup hkeys)
    · rw [← String.toList_inj, encode_toList, pairs_eq, List.map_map,
        keptPieces_of_getLast? hne hlast]
      have hpieces := List.map_congr_left (l := query.toList.splitOn '&')
        fun piece _ => encodePair_key_value? piece
      rw [List.map_id'] at hpieces
      exact (congrArg _ hpieces).trans (List.intercalate_splitOn '&')

theorem parameters?_encode_samples :
    Encodable [("", some "1"), ("a", none), ("b", some "x=y"), ("c", some "")] ∧
    parameters? (some "=1&a&b=x=y&c=") =
      some [("", some "1"), ("a", none), ("b", some "x=y"), ("c", some "")] ∧
    ∃ pairs, parameters? (some "&a=&b") = some pairs ∧ encode pairs = "&a=&b" := by
  have h : Encodable [("", some "1"), ("a", none), ("b", some "x=y"), ("c", some "")] := by
    constructor <;> decide +kernel
  have hencode : encode [("", some "1"), ("a", none), ("b", some "x=y"), ("c", some "")] =
      "=1&a&b=x=y&c=" := by decide +kernel
  have hread := parameters?_encode.1 _ h
  rw [hencode] at hread
  exact ⟨h, hread, parameters?_encode.2 "&a=&b" (by decide) (by decide +kernel)
    (by decide +kernel)⟩

end Query

end RequestRouting
