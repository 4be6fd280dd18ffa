import RequestRouting.Proofs.Template.Capture
import RequestRouting.Proofs.Template.Memo

/-!
# Matching grammatical templates

A grammatical template matches exactly the paths that can be cut into pieces for its tokens, and it
binds its variables to the pieces of the greedy cut.
-/

namespace RequestRouting.Template

theorem compiledChoice_rejects {alternatives : List (List Token)} (hne : alternatives ≠ [])
    {path : String} (h : ∀ tokens ∈ alternatives, greedy tokens path.toList = none) :
    (compiledChoice alternatives).accepts path = false ∧
      (compiledChoice alternatives).extract path = [] := by
  have hsearch : (compiledChoice alternatives).search? path = none := by
    rw [Compiled.search?, compiledChoice, search?_choiceExpr hne, findSome?_choice_eq_none h]
    rfl
  rw [Compiled.accepts, Compiled.extract, hsearch]
  exact ⟨rfl, rfl⟩

/-- A choice binds what its first matching alternative binds, and nothing else. -/
theorem compiledChoice_binds {skipped : List (List Token)} {tokens : List Token} {path : String}
    {pieces : List (List Char)} (hskipped : ∀ other ∈ skipped, greedy other path.toList = none)
    (hgreedy : greedy tokens path.toList = some pieces) (others : List (List Token)) :
    (compiledChoice (skipped ++ tokens :: others)).accepts path = true ∧
      (compiledChoice (skipped ++ tokens :: others)).extract path =
        unbound (skipped.flatMap names) ++
          (bindings tokens pieces ++ unbound (others.flatMap names)) := by
  let m : Regex.Match :=
    ⟨path.toList.length, ⟨marks (skipped.flatMap names).length tokens pieces, 0⟩⟩
  have hne : skipped ++ tokens :: others ≠ [] := by simp
  have hsearch : (compiledChoice (skipped ++ tokens :: others)).search? path = some m := by
    rw [Compiled.search?, compiledChoice, search?_choiceExpr hne,
      findSome?_choice_eq_some hskipped hgreedy, Nat.zero_add]
    rfl
  have hbefore : values m path.toList (skipped.flatMap names) 0 =
      unbound (skipped.flatMap names) := by
    refine values_eq_unbound ?_ _
    intro k hk
    have := group_of_mem_marks hk
    omega
  have hbound : values m path.toList (names tokens) (skipped.flatMap names).length =
      bindings tokens pieces := by
    obtain ⟨hfits, hjoins⟩ := decomposes_greedy hgreedy
    have hvalues := values_eq_bindings (m := m) hfits (List.nil_append _).symm []
    rwa [List.nil_append, hjoins] at hvalues
  have hbehind : values m path.toList (others.flatMap names)
      ((skipped.flatMap names).length + (names tokens).length) =
      unbound (others.flatMap names) := by
    refine values_eq_unbound ?_ _
    intro k hk
    have := group_of_mem_marks hk
    omega
  have hvariables : (compiledChoice (skipped ++ tokens :: others)).variables =
      skipped.flatMap names ++ (names tokens ++ others.flatMap names) := by
    rw [compiledChoice, names_joined, List.flatMap_append, List.flatMap_cons]
  rw [Compiled.accepts, Compiled.extract, hsearch, hvariables]
  refine ⟨rfl, ?_⟩
  change values m path.toList _ 0 = _
  rw [values_append, values_append, Nat.zero_add, hbefore, hbound, hbehind]

theorem compiledChoice_singleton (tokens : List Token) (path : String) :
    greedy tokens path.toList = none ∧ (compiledChoice [tokens]).accepts path = false ∧
        (compiledChoice [tokens]).extract path = [] ∨
      ∃ pieces, greedy tokens path.toList = some pieces ∧
        (compiledChoice [tokens]).accepts path = true ∧
        (compiledChoice [tokens]).extract path = bindings tokens pieces := by
  cases hgreedy : greedy tokens path.toList with
  | none => exact .inl ⟨rfl, compiledChoice_rejects (List.cons_ne_nil tokens []) (by simpa)⟩
  | some pieces =>
    have hnone : ∀ other ∈ [], greedy other path.toList = none := by simp
    obtain ⟨haccepts, hextract⟩ := compiledChoice_binds hnone hgreedy []
    exact .inr ⟨pieces, rfl, haccepts, by simpa [unbound] using hextract⟩

theorem compiled_of_ofSource? {tokens : List Token} {t : PathTemplate} (h : Grammatical tokens)
    (hd : (names tokens).Nodup) (ht : PathTemplate.ofSource? (source tokens) = .ok t) :
    t.compiled = compiledChoice [tokens] := by
  have hcompile := PathTemplate.compile_of_ofSource? ht
  rw [compile_grammatical h hd] at hcompile
  exact (Except.ok.inj hcompile).symm

/-- A template matches a path if and only if the path can be cut into pieces for its tokens. -/
theorem accepts_iff_decomposes {tokens : List Token} (h : Grammatical tokens)
    (hd : (names tokens).Nodup) :
    ∃ t, PathTemplate.ofSource? (source tokens) = .ok t ∧
      ∀ path, t.accepts path = true ↔ ∃ pieces, Decomposes tokens path.toList pieces := by
  obtain ⟨t, ht, hcompiled, -⟩ := PathTemplate.exists_ofSource? (compile_grammatical h hd)
  refine ⟨t, ht, ?_⟩
  intro path
  rw [PathTemplate.accepts, hcompiled, exists_decomposes_iff]
  rcases compiledChoice_singleton tokens path with ⟨hgreedy, haccepts, -⟩ |
    ⟨pieces, hgreedy, haccepts, -⟩
  · simp [hgreedy, haccepts]
  · simp [hgreedy, haccepts]

theorem accepts_iff_decomposes_two_segments :
    ∃ t, PathTemplate.ofSource? "/\x7ba\x7d-\x7bb\x7d" = .ok t ∧ t.accepts "/x-y" = true := by
  have hgrammatical : Grammatical [.literal '/', .segment "a", .literal '-', .segment "b"] := by
    decide +kernel
  obtain ⟨t, ht, h⟩ := accepts_iff_decomposes hgrammatical (by decide +kernel)
  refine ⟨t, ht, (h "/x-y").2 ⟨[['/'], ['x'], ['-'], ['y']], ?_, rfl⟩⟩
  simp [Token.Fits]

theorem isSome_of_mem_bindings {tokens : List Token} {pieces : List (List Char)}
    {p : String × Option String} (hp : p ∈ bindings tokens pieces) : p.2.isSome := by
  obtain ⟨⟨t, piece⟩, -, hname⟩ := List.mem_filterMap.1 hp
  obtain ⟨name, -, rfl⟩ := Option.map_eq_some_iff.1 hname
  rfl

/-- The pieces that a template binds are those of the cut with the largest widths. -/
theorem extract_eq_bindings {tokens : List Token} (h : Grammatical tokens)
    (hd : (names tokens).Nodup) :
    ∃ t, PathTemplate.ofSource? (source tokens) = .ok t ∧
      ∀ (earlier : List String) (path : String),
        (t.accepts path = true → ∃ pieces, Decomposes tokens path.toList pieces ∧
          (∀ other, Decomposes tokens path.toList other →
            other = pieces ∨ List.Lex (· < ·) (widths tokens other) (widths tokens pieces)) ∧
          ((t.after earlier).extract path).1 = bindings tokens pieces ∧
          ((t.after earlier).extract path).1.names = names tokens ∧
          ∀ p ∈ ((t.after earlier).extract path).1, p.2.isSome) ∧
        (t.accepts path = false → ((t.after earlier).extract path).1 = []) := by
  obtain ⟨t, ht, hcompiled, hmemo⟩ := PathTemplate.exists_ofSource? (compile_grammatical h hd)
  refine ⟨t, ht, ?_⟩
  intro earlier path
  rw [PathTemplate.extract_after (PathTemplate.faithful_of_memo_eq_nil hmemo), PathTemplate.accepts,
    hcompiled]
  rcases compiledChoice_singleton tokens path with ⟨-, haccepts, hextract⟩ |
    ⟨pieces, hgreedy, haccepts, hextract⟩
  · simp [haccepts, hextract]
  · refine ⟨fun _ => ⟨pieces, decomposes_greedy hgreedy, ?_, hextract, ?_, ?_⟩, ?_⟩
    · intro other ho
      exact eq_greedy_or_widths_lt hgreedy ho
    · rw [Compiled.names_extract haccepts]
      exact congrArg names (joined_singleton tokens)
    · intro p hp
      rw [hextract] at hp
      exact isSome_of_mem_bindings hp
    · intro hf
      rw [haccepts] at hf
      cases hf

theorem extract_eq_bindings_two_splats :
    ∃ t pieces, PathTemplate.ofSource? "/\x7ba\x7d**-\x7bb\x7d**" = .ok t ∧
      Decomposes [.literal '/', .splat "a", .literal '-', .splat "b"] "/x-y-z".toList pieces ∧
      ((t.after ["/x-y"]).extract "/x-y-z").1 =
        bindings [.literal '/', .splat "a", .literal '-', .splat "b"] pieces := by
  have hgrammatical : Grammatical [.literal '/', .splat "a", .literal '-', .splat "b"] := by
    decide +kernel
  obtain ⟨t, ht, h⟩ := extract_eq_bindings hgrammatical (by decide +kernel)
  have haccepts : t.accepts "/x-y-z" = true := by
    rw [PathTemplate.accepts, compiled_of_ofSource? hgrammatical (by decide +kernel) ht]
    decide +kernel
  obtain ⟨pieces, hdecomposes, -, hextract, -⟩ := (h ["/x-y"] "/x-y-z").1 haccepts
  exact ⟨t, pieces, ht, hdecomposes, hextract⟩

end RequestRouting.Template
