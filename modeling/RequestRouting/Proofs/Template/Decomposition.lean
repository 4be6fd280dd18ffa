import Mathlib.Data.List.Basic
import RequestRouting.Proofs.Template.Grammar

/-!
# Decompositions of paths

A template says how a path may be cut into pieces, one for each of its tokens. Several cuts are
possible when variables stand close together. The greedy one gives every variable as much as the
tokens behind it leave; among all cuts it has the largest widths in lexicographic order.
-/

namespace RequestRouting.Template

def Token.Fits : Token → List Char → Prop
  | .literal c, piece => piece = [c]
  | .segment _, piece => '/' ∉ piece
  | .splat _, piece | .bareSplat, piece => '\n' ∉ piece

structure Decomposes (tokens : List Token) (path : List Char) (pieces : List (List Char)) :
    Prop where
  fits : List.Forall₂ Token.Fits tokens pieces
  joins : pieces.flatten = path

/-- The lengths of the pieces of all variables and bare splats, from left to right. -/
def widths (tokens : List Token) (pieces : List (List Char)) : List Nat :=
  (tokens.zip pieces).filterMap fun (t, p) => if t.literal?.isSome then none else some p.length

def bindings (tokens : List Token) (pieces : List (List Char)) : Variables :=
  (tokens.zip pieces).filterMap fun (t, p) => t.name?.map fun name => (name, some (String.ofList p))

/-- The longest start of a text that has only accepted characters and leaves a rest that `next`
takes, with what `next` makes of that rest. -/
def longest {α : Type} (accepts : Char → Bool) (next : List Char → Option α) :
    List Char → Option (List Char × α)
  | [] => (next []).map fun x => ([], x)
  | c :: rest =>
    match (if accepts c then longest accepts next rest else none) with
    | some (piece, x) => some (c :: piece, x)
    | none => (next (c :: rest)).map fun x => ([], x)

def Token.cut {α : Type} (next : List Char → Option α) : Token → List Char → Option (List Char × α)
  | .literal _, [] => none
  | .literal c, d :: rest => if d = c then (next rest).map fun x => ([c], x) else none
  | .segment _, text => longest (· != '/') next text
  | .splat _, text | .bareSplat, text => longest (· != '\n') next text

def greedy : List Token → List Char → Option (List (List Char))
  | [], text => if text = [] then some [] else none
  | t :: tokens, text => (t.cut (greedy tokens) text).map fun p => p.1 :: p.2

theorem longest_eq_none {α : Type} {accepts : Char → Bool} {next : List Char → Option α}
    {piece rest : List Char} (h : longest accepts next (piece ++ rest) = none)
    (ha : ∀ c ∈ piece, accepts c) : next rest = none := by
  induction piece with
  | nil =>
    cases rest with
    | nil => simpa [longest] using h
    | cons c rest =>
      rw [List.nil_append, longest] at h
      split at h
      · cases h
      · simpa using h
  | cons c piece ih =>
    have hc : accepts c := ha c (by simp)
    rw [List.cons_append, longest, if_pos hc] at h
    apply ih _ fun d hd => ha d (by simp [hd])
    split at h
    · cases h
    · assumption

/-- The text starts with a piece that fits, `next` takes the rest, and no longer piece would do. -/
structure IsLongest {α : Type} (fits : List Char → Prop) (next : List Char → Option α)
    (text piece rest : List Char) (x : α) : Prop where
  joins : text = piece ++ rest
  allowed : fits piece
  taken : next rest = some x
  longest : ∀ piece' rest', text = piece' ++ rest' → fits piece' → next rest' ≠ none →
    piece'.length ≤ piece.length

namespace IsLongest

variable {α : Type} {next : List Char → Option α} {text piece rest : List Char} {x : α}

theorem congr {fits fits' : List Char → Prop} (h : IsLongest fits next text piece rest x)
    (hiff : ∀ piece, fits piece ↔ fits' piece) : IsLongest fits' next text piece rest x := by
  refine ⟨h.joins, (hiff piece).1 h.allowed, h.taken, ?_⟩
  intro piece' rest' he hfits hnext
  exact h.longest piece' rest' he ((hiff piece').2 hfits) hnext

theorem cons {accepts : Char → Bool} {c : Char} (hc : accepts c)
    (h : IsLongest (∀ d ∈ ·, accepts d) next text piece rest x) :
    IsLongest (∀ d ∈ ·, accepts d) next (c :: text) (c :: piece) rest x := by
  refine ⟨by simp [h.joins], List.forall_mem_cons.2 ⟨hc, h.allowed⟩, h.taken, ?_⟩
  intro piece' rest' he hfits hnext
  cases piece' with
  | nil => simp
  | cons d piece' =>
    obtain ⟨rfl, ht⟩ := List.cons.inj he
    have hle := h.longest piece' rest' ht (List.forall_mem_cons.1 hfits).2 hnext
    simpa using hle

theorem nil {fits : List Char → Prop} (hfits : fits []) (hnext : next text = some x)
    (h : ∀ c piece' rest', text = c :: piece' ++ rest' → fits (c :: piece') → next rest' = none) :
    IsLongest fits next text [] text x := by
  refine ⟨rfl, hfits, hnext, ?_⟩
  intro piece' rest' he hfits' hnext'
  cases piece' with
  | nil => simp
  | cons c piece' => exact absurd (h c piece' rest' he hfits') hnext'

end IsLongest

theorem longest_eq_some {α : Type} {accepts : Char → Bool} {next : List Char → Option α}
    {text piece : List Char} {x : α} (h : longest accepts next text = some (piece, x)) :
    ∃ rest, IsLongest (∀ c ∈ ·, accepts c) next text piece rest x := by
  induction text generalizing piece with
  | nil =>
    obtain ⟨y, hy, he⟩ := Option.map_eq_some_iff.1 h
    cases he
    refine ⟨[], .nil (by simp) hy ?_⟩
    intro c piece' rest' he
    cases he
  | cons c text ih =>
    rw [longest] at h
    split at h
    · next piece₀ y hrest =>
      cases h
      by_cases hc : accepts c
      · rw [if_pos hc] at hrest
        obtain ⟨rest, hlongest⟩ := ih hrest
        exact ⟨rest, hlongest.cons hc⟩
      · rw [if_neg hc] at hrest
        cases hrest
    · next hnone =>
      obtain ⟨y, hy, he⟩ := Option.map_eq_some_iff.1 h
      cases he
      refine ⟨c :: text, .nil (by simp) hy ?_⟩
      intro d piece' rest' he ha
      obtain ⟨rfl, rfl⟩ := List.cons.inj he
      obtain ⟨hc, ha⟩ := List.forall_mem_cons.1 ha
      rw [if_pos hc] at hnone
      exact longest_eq_none hnone ha

theorem forall_bne_iff {d : Char} (piece : List Char) :
    (∀ c ∈ piece, (c != d) = true) ↔ d ∉ piece := by
  constructor
  · intro h hm
    simpa using h d hm
  · intro h c hc
    simpa using ne_of_mem_of_not_mem hc h

theorem cut_eq_none {α : Type} {next : List Char → Option α} {t : Token} {piece rest : List Char}
    (h : t.cut next (piece ++ rest) = none) (hf : t.Fits piece) : next rest = none := by
  cases t with
  | literal c =>
    obtain rfl : piece = [c] := hf
    simpa [Token.cut] using h
  | segment => exact longest_eq_none h ((forall_bne_iff piece).2 hf)
  | splat => exact longest_eq_none h ((forall_bne_iff piece).2 hf)
  | bareSplat => exact longest_eq_none h ((forall_bne_iff piece).2 hf)

theorem cut_eq_some {α : Type} {next : List Char → Option α} {t : Token}
    {text piece : List Char} {x : α} (h : t.cut next text = some (piece, x)) :
    ∃ rest, IsLongest t.Fits next text piece rest x := by
  have hstar : ∀ d, longest (· != d) next text = some (piece, x) →
      ∃ rest, IsLongest (d ∉ ·) next text piece rest x := by
    intro d hd
    obtain ⟨rest, hlongest⟩ := longest_eq_some hd
    exact ⟨rest, hlongest.congr forall_bne_iff⟩
  cases t with
  | literal c =>
    cases text with
    | nil => simp [Token.cut] at h
    | cons d rest =>
      rw [Token.cut] at h
      by_cases hd : d = c
      · rw [if_pos hd] at h
        obtain ⟨y, hy, he⟩ := Option.map_eq_some_iff.1 h
        cases he
        subst hd
        refine ⟨rest, rfl, rfl, hy, ?_⟩
        rintro piece' rest' - rfl -
        exact le_rfl
      · rw [if_neg hd] at h
        cases h
  | segment => exact hstar _ h
  | splat => exact hstar _ h
  | bareSplat => exact hstar _ h

theorem widths_cons {t : Token} (h : t.literal? = none) (tokens : List Token) (piece : List Char)
    (pieces : List (List Char)) :
    widths (t :: tokens) (piece :: pieces) = piece.length :: widths tokens pieces := by
  simp [widths, h]

theorem greedy_eq_none {tokens : List Token} {path : List Char} (h : greedy tokens path = none)
    (pieces : List (List Char)) : ¬ Decomposes tokens path pieces := by
  rintro ⟨hf, rfl⟩
  induction hf with
  | nil => simp [greedy] at h
  | cons ht _ ih => exact ih (cut_eq_none (Option.map_eq_none_iff.1 h) ht)

theorem decomposes_greedy {tokens : List Token} {path : List Char} {pieces : List (List Char)}
    (h : greedy tokens path = some pieces) : Decomposes tokens path pieces := by
  induction tokens generalizing path pieces with
  | nil =>
    rw [greedy] at h
    split at h
    · next hp => cases h; exact ⟨.nil, hp.symm⟩
    · cases h
  | cons t tokens ih =>
    obtain ⟨⟨piece, rest⟩, hcut, rfl⟩ := Option.map_eq_some_iff.1 h
    obtain ⟨text, rfl, hfit, hn, -⟩ := cut_eq_some hcut
    obtain ⟨hf, hj⟩ := ih hn
    exact ⟨.cons hfit hf, by simp [hj]⟩

/-- Every other decomposition has lexicographically smaller widths than the greedy one. -/
theorem eq_greedy_or_widths_lt {tokens : List Token} {path : List Char}
    {pieces other : List (List Char)} (h : greedy tokens path = some pieces)
    (ho : Decomposes tokens path other) :
    other = pieces ∨ List.Lex (· < ·) (widths tokens other) (widths tokens pieces) := by
  induction tokens generalizing path pieces other with
  | nil =>
    obtain ⟨⟨⟩, -⟩ := ho
    obtain ⟨⟨⟩, -⟩ := decomposes_greedy h
    exact .inl rfl
  | cons t tokens ih =>
    obtain ⟨⟨piece, rest⟩, hcut, rfl⟩ := Option.map_eq_some_iff.1 h
    obtain ⟨text, htext, hfit, hn, hmax⟩ := cut_eq_some hcut
    obtain ⟨hf, rfl⟩ := ho
    cases hf with
    | @cons _ piece' _ others ht hf =>
      have hother : Decomposes tokens others.flatten others := ⟨hf, rfl⟩
      have hle : piece'.length ≤ piece.length :=
        hmax piece' others.flatten rfl ht fun hnone => greedy_eq_none hnone _ hother
      rcases Nat.lt_or_eq_of_le hle with hlt | hlen
      · cases hl : t.literal? with
        | some c =>
          cases t <;> cases hl
          obtain rfl : piece' = [c] := ht
          obtain rfl : piece = [c] := hfit
          exact absurd hlt (Nat.lt_irrefl _)
        | none =>
          rw [widths_cons hl, widths_cons hl]
          exact .inr (.rel hlt)
      · obtain ⟨rfl, rfl⟩ := List.append_inj htext hlen
        rcases ih hn hother with rfl | hlex
        · exact .inl rfl
        · right
          cases hl : t.literal? with
          | some c => cases t <;> cases hl; exact hlex
          | none => rw [widths_cons hl, widths_cons hl]; exact .cons hlex

theorem exists_decomposes_iff (tokens : List Token) (path : List Char) :
    (∃ pieces, Decomposes tokens path pieces) ↔ (greedy tokens path).isSome := by
  constructor
  · rintro ⟨pieces, h⟩
    by_contra hn
    exact greedy_eq_none (by simpa using hn) pieces h
  · intro h
    obtain ⟨pieces, hp⟩ := Option.isSome_iff_exists.1 h
    exact ⟨pieces, decomposes_greedy hp⟩

end RequestRouting.Template
