import RequestRouting.Proofs.Template.Matching

/-!
# Choices between templates

Templates with bars between them match what one of them matches. The first that does binds its
variables as it would alone, and those of all others stay unbound.
-/

namespace RequestRouting.Template

theorem source_joined (alternatives : List (List Token)) :
    source (joined alternatives) = "|".intercalate (alternatives.map source) := by
  induction alternatives with
  | nil => rfl
  | cons tokens alternatives ih =>
    by_cases hne : alternatives = []
    · simp [hne, joined_singleton]
    · have hmap : alternatives.map source ≠ [] := by simpa using hne
      rw [joined_cons hne, List.map_cons, String.intercalate_cons_of_ne_nil hmap, ← ih,
        ← String.toList_inj]
      simp [source_toList, Token.chars, Token.text]

/-- The template of its own that an alternative stands for. -/
structure StandsAlone (tokens : List Token) (part : PathTemplate) : Prop where
  ofSource : PathTemplate.ofSource? (source tokens) = .ok part
  compiled : part.compiled = compiledChoice [tokens]
  memo : part.memo = []

namespace StandsAlone

variable {tokens : List Token} {part : PathTemplate} {alternatives : List (List Token)}
  {parts : List PathTemplate}

theorem variables_eq (h : StandsAlone tokens part) : part.variables = names tokens := by
  rw [PathTemplate.variables, h.compiled, compiledChoice, joined_singleton]

theorem accepts_eq (h : StandsAlone tokens part) (path : String) :
    part.accepts path = (greedy tokens path.toList).isSome := by
  rw [PathTemplate.accepts, h.compiled]
  rcases compiledChoice_singleton tokens path with ⟨hgreedy, haccepts, -⟩ |
    ⟨pieces, hgreedy, haccepts, -⟩
  · simp [hgreedy, haccepts]
  · simp [hgreedy, haccepts]

theorem extract_after_eq (h : StandsAlone tokens part) (earlier : List String) {path : String}
    {pieces : List (List Char)} (hgreedy : greedy tokens path.toList = some pieces) :
    ((part.after earlier).extract path).1 = bindings tokens pieces := by
  rw [PathTemplate.extract_after (PathTemplate.faithful_of_memo_eq_nil h.memo), h.compiled]
  rcases compiledChoice_singleton tokens path with ⟨hnone, -⟩ | ⟨found, hfound, -, hextract⟩
  · simp [hnone] at hgreedy
  · rw [hextract, Option.some.inj (hfound.symm.trans hgreedy)]

theorem extract_eq (h : StandsAlone tokens part) {path : String} {pieces : List (List Char)}
    (hgreedy : greedy tokens path.toList = some pieces) :
    (part.extract path).1 = bindings tokens pieces :=
  h.extract_after_eq [] hgreedy

theorem exists_of_grammatical (h : Grammatical tokens) (hd : (names tokens).Nodup) :
    ∃ part, StandsAlone tokens part := by
  obtain ⟨part, hof, hcompiled, hmemo⟩ :=
    PathTemplate.exists_ofSource? (compile_grammatical h hd)
  exact ⟨part, hof, hcompiled, hmemo⟩

theorem flatMap_variables (h : List.Forall₂ StandsAlone alternatives parts) :
    parts.flatMap PathTemplate.variables = alternatives.flatMap names := by
  induction h with
  | nil => rfl
  | cons hpart _ ih => rw [List.flatMap_cons, List.flatMap_cons, hpart.variables_eq, ih]

theorem rejects_iff (h : List.Forall₂ StandsAlone alternatives parts) (path : String) :
    (∀ part ∈ parts, part.accepts path = false) ↔
      ∀ tokens ∈ alternatives, greedy tokens path.toList = none := by
  induction h with
  | nil => simp
  | cons hpart _ ih => simp [hpart.accepts_eq, ih]

theorem exists_of_choice (h : GrammaticalChoice alternatives)
    (hd : (names (joined alternatives)).Nodup) :
    ∃ parts, List.Forall₂ StandsAlone alternatives parts := by
  induction alternatives with
  | nil => exact ⟨[], .nil⟩
  | cons tokens alternatives ih =>
    rw [names_joined, List.flatMap_cons] at hd
    obtain ⟨htokens, halternatives, -⟩ := List.nodup_append.1 hd
    obtain ⟨parts, hparts⟩ := ih h.tail (by rwa [names_joined])
    obtain ⟨part, hpart⟩ := exists_of_grammatical h.head htokens
    exact ⟨part :: parts, .cons hpart hparts⟩

theorem exists_split {skipped others : List PathTemplate}
    (h : List.Forall₂ StandsAlone alternatives (skipped ++ part :: others)) :
    ∃ before tokens behind, alternatives = before ++ tokens :: behind ∧
      List.Forall₂ StandsAlone before skipped ∧ StandsAlone tokens part ∧
      List.Forall₂ StandsAlone behind others := by
  have hskipped := List.forall₂_take_append alternatives skipped (part :: others) h
  have hrest := List.forall₂_drop_append alternatives skipped (part :: others) h
  obtain ⟨tokens, behind, hpart, hothers, hdrop⟩ := List.forall₂_cons_right_iff.1 hrest
  refine ⟨alternatives.take skipped.length, tokens, behind, ?_, hskipped, hpart, hothers⟩
  rw [← hdrop, List.take_append_drop]

/-- The first matching part binds its variables as it would alone. -/
theorem choice_binds {skipped others : List PathTemplate} {path : String}
    (h : List.Forall₂ StandsAlone alternatives (skipped ++ part :: others))
    (hskipped : ∀ other ∈ skipped, other.accepts path = false)
    (haccepts : part.accepts path = true) :
    (compiledChoice alternatives).accepts path = true ∧
      (compiledChoice alternatives).extract path =
        unbound (skipped.flatMap PathTemplate.variables) ++
          ((part.extract path).1 ++ unbound (others.flatMap PathTemplate.variables)) := by
  obtain ⟨before, tokens, behind, rfl, hbefore, hpart, hbehind⟩ := exists_split h
  rw [hpart.accepts_eq] at haccepts
  obtain ⟨pieces, hgreedy⟩ := Option.isSome_iff_exists.1 haccepts
  rw [flatMap_variables hbefore, flatMap_variables hbehind, hpart.extract_eq hgreedy]
  exact compiledChoice_binds ((rejects_iff hbefore path).1 hskipped) hgreedy behind

theorem choice_rejects (hne : alternatives ≠ []) (h : List.Forall₂ StandsAlone alternatives parts)
    {path : String} (hparts : ∀ part ∈ parts, part.accepts path = false) :
    (compiledChoice alternatives).accepts path = false ∧
      (compiledChoice alternatives).extract path = [] :=
  compiledChoice_rejects hne ((rejects_iff h path).1 hparts)

theorem choice_accepts_iff (hne : alternatives ≠ [])
    (h : List.Forall₂ StandsAlone alternatives parts) (path : String) :
    (compiledChoice alternatives).accepts path = true ↔
      ∃ part ∈ parts, part.accepts path = true := by
  constructor
  · intro haccepts
    by_contra hnone
    obtain ⟨hrejects, -⟩ := choice_rejects hne h (by simpa using hnone)
    rw [hrejects] at haccepts
    cases haccepts
  · intro hsome
    obtain ⟨part, hfind⟩ := Option.isSome_iff_exists.1 (List.find?_isSome.2 hsome)
    obtain ⟨haccepts, skipped, others, rfl, hskipped⟩ := List.find?_eq_some_iff_append.1 hfind
    have hrejects : ∀ other ∈ skipped, other.accepts path = false := by
      intro other ho
      simpa using hskipped other ho
    exact (choice_binds h hrejects haccepts).1

end StandsAlone

/-- A choice matches what one of its parts matches. Of its variables, the first matching part binds
its own as it would alone. -/
theorem extract_joined {alternatives : List (List Token)} (hne : alternatives ≠ [])
    (h : GrammaticalChoice alternatives) (hd : (names (joined alternatives)).Nodup) :
    ∃ t parts, PathTemplate.ofSource? ("|".intercalate (alternatives.map source)) = .ok t ∧
      List.Forall₂ (fun tokens part => PathTemplate.ofSource? (source tokens) = .ok part)
        alternatives parts ∧
      t.variables = names (joined alternatives) ∧
      ∀ (earlier : List String) (path : String),
        (t.accepts path = true ↔ ∃ part ∈ parts, part.accepts path = true) ∧
        (∀ skipped part others, parts = skipped ++ part :: others →
          (∀ other ∈ skipped, other.accepts path = false) → part.accepts path = true →
          ((t.after earlier).extract path).1 =
              unbound (skipped.flatMap PathTemplate.variables) ++
                ((part.extract path).1 ++ unbound (others.flatMap PathTemplate.variables)) ∧
            ((t.after earlier).extract path).1.names = t.variables) ∧
        ((∀ part ∈ parts, part.accepts path = false) ∨ t.variables = [] →
          ((t.after earlier).extract path).1 = []) := by
  have hcompile := compile_joined hne h hd
  rw [source_joined] at hcompile
  obtain ⟨t, ht, hcompiled, hmemo⟩ := PathTemplate.exists_ofSource? hcompile
  obtain ⟨parts, hparts⟩ := StandsAlone.exists_of_choice h hd
  have hsources := hparts.imp fun tokens part hpart => hpart.ofSource
  have hvariables : t.variables = names (joined alternatives) := by
    rw [PathTemplate.variables, hcompiled, compiledChoice]
  refine ⟨t, parts, ht, hsources, hvariables, ?_⟩
  intro earlier path
  rw [PathTemplate.extract_after (PathTemplate.faithful_of_memo_eq_nil hmemo),
    PathTemplate.variables, PathTemplate.accepts, hcompiled]
  refine ⟨StandsAlone.choice_accepts_iff hne hparts path, ?_, ?_⟩
  · rintro skipped part others rfl hskipped haccepts
    obtain ⟨hchoice, hextract⟩ := StandsAlone.choice_binds hparts hskipped haccepts
    exact ⟨hextract, Compiled.names_extract hchoice⟩
  · rintro (hrejects | hempty)
    · exact (StandsAlone.choice_rejects hne hparts hrejects).2
    · exact Compiled.extract_eq_nil hempty path

theorem extract_joined_two_parts :
    ∃ t first second, PathTemplate.ofSource? "/\x7bx\x7d|/a/\x7by\x7d**" = .ok t ∧
      PathTemplate.ofSource? "/\x7bx\x7d" = .ok first ∧
      PathTemplate.ofSource? "/a/\x7by\x7d**" = .ok second ∧
      (t.extract "/a/b").1 = ("x", none) :: (second.extract "/a/b").1 := by
  have hchoice : GrammaticalChoice [[.literal '/', .segment "x"],
      [.literal '/', .literal 'a', .literal '/', .splat "y"]] := by decide +kernel
  obtain ⟨t, parts, ht, hparts, -, h⟩ := extract_joined (by simp) hchoice (by decide +kernel)
  cases hparts with
  | @cons _ first _ parts hfirst hparts =>
    cases hparts with
    | @cons _ second _ parts hsecond hparts =>
      cases hparts
      have hcompiled := compiled_of_ofSource? hchoice.head (by decide +kernel) hfirst
      have hrejects : first.accepts "/a/b" = false := by
        rw [PathTemplate.accepts, hcompiled]
        decide +kernel
      have haccepts : second.accepts "/a/b" = true := by
        rw [PathTemplate.accepts,
          compiled_of_ofSource? hchoice.tail.head (by decide +kernel) hsecond]
        decide +kernel
      have hvariables : first.variables = ["x"] := by
        rw [PathTemplate.variables, hcompiled]
        decide +kernel
      obtain ⟨hextract, -⟩ := (h [] "/a/b").2.1 [first] second [] rfl (by simpa) haccepts
      refine ⟨t, first, second, ht, hfirst, hsecond, ?_⟩
      simpa [hvariables, unbound, PathTemplate.after] using hextract

end RequestRouting.Template
