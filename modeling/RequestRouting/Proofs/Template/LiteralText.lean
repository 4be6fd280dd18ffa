import RequestRouting.Proofs.Template.Decomposition

/-!
# Literal text in templates

Text without metacharacters stands for itself. In front of a template it adds neither names nor
faults, and it takes exactly the same text from the front of a path.
-/

namespace RequestRouting.Template

def IsLiteral (text : List Char) : Prop := ∀ c ∈ text, c ∉ metacharacters

instance (text : List Char) : Decidable (IsLiteral text) := List.decidableBAll _ _

theorem IsLiteral.not_mem {text : List Char} (h : IsLiteral text) {c : Char}
    (hc : c ∈ metacharacters) : c ∉ text := fun hm => h c hm hc

def literalText (text : List Char) : List Token := text.map .literal

@[simp] theorem literalText_nil : literalText [] = [] := rfl

@[simp] theorem literalText_cons (c : Char) (text : List Char) :
    literalText (c :: text) = .literal c :: literalText text := rfl

theorem flatMap_literalText {f : Token → List Char} (hf : ∀ c, f (.literal c) = [c])
    (text : List Char) : (literalText text).flatMap f = text := by
  simp [literalText, List.flatMap_map, hf]

theorem source_append (tokens more : List Token) :
    source (tokens ++ more) = source tokens ++ source more := by
  rw [← String.toList_inj]
  simp [source_toList]

theorem source_literalText (text : String) : source (literalText text.toList) = text := by
  have hchars : ∀ c, (Token.literal c).chars = [c] := fun c => String.toList_singleton c
  rw [← String.toList_inj, source_toList, flatMap_literalText hchars]

theorem names_literalText_append (text : List Char) (tokens : List Token) :
    names (literalText text ++ tokens) = names tokens := by
  induction text with
  | nil => rfl
  | cons c text ih => exact ih

theorem Grammatical.literalText_append {text : List Char} {tokens : List Token}
    (htext : IsLiteral text) (h : Grammatical tokens) :
    Grammatical (literalText text ++ tokens) := by
  induction text with
  | nil => exact h
  | cons c text ih =>
    obtain ⟨hc, htext⟩ := List.forall_mem_cons.1 htext
    exact (ih htext).cons_literal hc

theorem greedy_literal_cons {c d : Char} {tokens : List Token} {path : List Char} :
    (greedy (.literal c :: tokens) (d :: path)).isSome ↔ d = c ∧ (greedy tokens path).isSome := by
  rw [greedy, Option.isSome_map, Token.cut]
  split
  · next hd => simp [hd]
  · next hd => simp [hd]

theorem greedy_literalText_append {text : List Char} {tokens : List Token} {path : List Char} :
    (greedy (literalText text ++ tokens) path).isSome ↔
      ∃ rest, path = text ++ rest ∧ (greedy tokens rest).isSome := by
  induction text generalizing path with
  | nil => simp
  | cons c text ih =>
    rw [literalText_cons, List.cons_append]
    cases path with
    | nil => simp [greedy, Token.cut]
    | cons d path =>
      rw [greedy_literal_cons, ih]
      constructor
      · rintro ⟨rfl, rest, rfl, hrest⟩
        exact ⟨rest, rfl, hrest⟩
      · rintro ⟨rest, heq, hrest⟩
        obtain ⟨rfl, rfl⟩ := List.cons.inj heq
        exact ⟨rfl, rest, rfl, hrest⟩

theorem greedy_literalText {text path : List Char} :
    (greedy (literalText text) path).isSome ↔ path = text := by
  have happend := @greedy_literalText_append text [] path
  rw [List.append_nil] at happend
  rw [happend]
  constructor
  · rintro ⟨rest, rfl, hrest⟩
    cases rest with
    | nil => exact List.append_nil text
    | cons c rest => simp [greedy] at hrest
  · rintro rfl
    exact ⟨[], (List.append_nil path).symm, rfl⟩

theorem greedy_bareSplat_literalText {behind path : List Char} :
    (greedy (.bareSplat :: literalText behind) path).isSome ↔
      ∃ piece, path = piece ++ behind ∧ '\n' ∉ piece := by
  rw [← exists_decomposes_iff]
  constructor
  · rintro ⟨pieces, hfits, rfl⟩
    obtain ⟨piece, rest, hpiece, hrest, rfl⟩ := List.forall₂_cons_left_iff.1 hfits
    have hliteral := (exists_decomposes_iff _ _).1 ⟨rest, hrest, rfl⟩
    rw [greedy_literalText] at hliteral
    exact ⟨piece, by rw [List.flatten_cons, hliteral], hpiece⟩
  · rintro ⟨piece, rfl, hpiece⟩
    obtain ⟨rest, hrest, hjoins⟩ := (exists_decomposes_iff _ _).2 (greedy_literalText.2 rfl)
    exact ⟨piece :: rest, .cons hpiece hrest, congrArg (piece ++ ·) hjoins⟩

theorem greedy_bareSplat {path : List Char} :
    (greedy [.bareSplat] path).isSome ↔ '\n' ∉ path := by
  have hempty := @greedy_bareSplat_literalText [] path
  simpa using hempty

end RequestRouting.Template
