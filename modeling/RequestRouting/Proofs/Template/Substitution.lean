import RequestRouting.Proofs.Template.Alternation

/-!
# Filling in templates

Values put in the place of the variables give a path of the template. Where no two variables share a
segment and a variable for the rest stands last, the slashes around a value show where it begins and
ends. The path then has only one decomposition, and extraction gets the values back.
-/

namespace RequestRouting.Template

def untilSlash (tokens : List Token) : List Token := tokens.takeWhile (· != .literal '/')

theorem untilSlash_cons_of_ne {t : Token} (h : t ≠ .literal '/') (tokens : List Token) :
    untilSlash (t :: tokens) = t :: untilSlash tokens :=
  List.takeWhile_cons_of_pos (by simpa using h)

theorem untilSlash_slash (tokens : List Token) : untilSlash (.literal '/' :: tokens) = [] := by
  simp [untilSlash]

theorem splitOn_slash_cons (tokens : List Token) :
    (.literal '/' :: tokens : List Token).splitOn (.literal '/') =
      [] :: tokens.splitOn (.literal '/') := by
  simp [List.splitOn, List.splitOnP_cons_eq_if_modifyHead]

theorem splitOn_cons_of_ne {t : Token} (h : t ≠ .literal '/') (tokens : List Token) :
    (t :: tokens).splitOn (.literal '/') =
      (tokens.splitOn (.literal '/')).modifyHead (t :: ·) := by
  simp [List.splitOn, List.splitOnP_cons_eq_if_modifyHead, h]

theorem exists_splitOn_eq (tokens : List Token) :
    ∃ parts, tokens.splitOn (.literal '/') = untilSlash tokens :: parts := by
  induction tokens with
  | nil => exact ⟨[], rfl⟩
  | cons t tokens ih =>
    by_cases ht : t = .literal '/'
    · rw [ht, untilSlash_slash]
      exact ⟨_, splitOn_slash_cons tokens⟩
    · obtain ⟨parts, hparts⟩ := ih
      rw [untilSlash_cons_of_ne ht, splitOn_cons_of_ne ht, hparts]
      exact ⟨parts, rfl⟩

/-- One variable at most stands between two slashes, and a variable for the rest stands last. -/
@[mk_iff]
structure Unambiguous (tokens : List Token) : Prop where
  literals : ∀ c ∈ literals tokens, c ∉ metacharacters
  names : ∀ name ∈ names tokens, IsName name
  noBareSplat : .bareSplat ∉ tokens
  splatLast : ∀ t ∈ tokens.dropLast, ¬ t.isSplat
  alone : ∀ part ∈ tokens.splitOn (.literal '/'), (Template.names part).length ≤ 1

instance (tokens : List Token) : Decidable (Unambiguous tokens) :=
  decidable_of_iff' _ (unambiguous_iff tokens)

theorem shielded_of_names_untilSlash {tokens : List Token} (h : names (untilSlash tokens) = []) :
    Shielded tokens := by
  induction tokens with
  | nil => simp [Shielded]
  | cons t tokens ih =>
    by_cases ht : t = .literal '/'
    · exact shielded_cons.2 (.inl ht)
    · rw [untilSlash_cons_of_ne ht] at h
      refine shielded_cons.2 (.inr ?_)
      cases t with
      | literal | bareSplat => exact ⟨by simp [Token.isSplat], ih h⟩
      | segment | splat => cases h

theorem splatsApart_of_not_mem {tokens : List Token} (h : .bareSplat ∉ tokens) :
    SplatsApart tokens := by
  induction tokens with
  | nil => exact .nil
  | cons t tokens ih =>
    obtain ⟨-, htokens⟩ := not_or.1 (mt List.mem_cons.2 h)
    refine List.isChain_cons.2 ⟨?_, ih htokens⟩
    rintro u hu ⟨-, rfl⟩
    exact htokens (List.mem_of_mem_head? hu)

namespace Unambiguous

variable {t : Token} {tokens : List Token}

theorem length_names_untilSlash (h : Unambiguous (t :: tokens)) (ht : t ≠ .literal '/') :
    (Template.names (t :: untilSlash tokens)).length ≤ 1 := by
  obtain ⟨parts, hparts⟩ := exists_splitOn_eq tokens
  apply h.alone
  rw [splitOn_cons_of_ne ht, hparts]
  exact List.mem_cons_self

theorem names_untilSlash (h : Unambiguous (t :: tokens)) (ht : t.name?.isSome) :
    Template.names (untilSlash tokens) = [] := by
  have hle := h.length_names_untilSlash (by rintro rfl; cases ht)
  rw [length_names_cons, Token.arity, ht, Bool.toNat_true] at hle
  exact List.eq_nil_of_length_eq_zero (by omega)

theorem tail (h : Unambiguous (t :: tokens)) : Unambiguous tokens where
  literals c hc := h.literals c (literals_subset_cons t tokens hc)
  names name hn := h.names name (names_subset_cons t tokens hn)
  noBareSplat hm := h.noBareSplat (List.mem_cons_of_mem t hm)
  splatLast u hu := h.splatLast u (by
    rw [List.dropLast_cons_of_ne_nil (List.ne_nil_of_mem (List.mem_of_mem_dropLast hu))]
    exact List.mem_cons_of_mem t hu)
  alone part hpart := by
    by_cases ht : t = .literal '/'
    · apply h.alone
      rw [ht, splitOn_slash_cons]
      exact List.mem_cons_of_mem _ hpart
    · obtain ⟨parts, hparts⟩ := exists_splitOn_eq tokens
      rw [hparts] at hpart
      rcases List.mem_cons.1 hpart with rfl | hpart
      · have hle := h.length_names_untilSlash ht
        rw [length_names_cons] at hle
        omega
      · apply h.alone
        rw [splitOn_cons_of_ne ht, hparts]
        exact List.mem_cons_of_mem _ hpart

theorem segmentsShielded (h : Unambiguous tokens) : SegmentsShielded tokens := by
  induction tokens with
  | nil => simp [SegmentsShielded]
  | cons t tokens ih =>
    refine segmentsShielded_cons.2 ⟨?_, ih h.tail⟩
    intro ht
    cases t <;> cases ht
    exact shielded_of_names_untilSlash (h.names_untilSlash rfl)

theorem grammatical (h : Unambiguous tokens) : Grammatical tokens where
  literals := h.literals
  names := h.names
  apart := splatsApart_of_not_mem h.noBareSplat
  shielded := h.segmentsShielded

theorem tail_splat {name : String} (h : Unambiguous (.splat name :: tokens)) : tokens = [] := by
  by_contra hne
  refine h.splatLast (.splat name) ?_ rfl
  rw [List.dropLast_cons_of_ne_nil hne]
  exact List.mem_cons_self

end Unambiguous

theorem takeWhile_flatten {tokens : List Token} {pieces : List (List Char)}
    (hfits : List.Forall₂ Token.Fits tokens pieces) (hbare : .bareSplat ∉ tokens)
    (hnames : names (untilSlash tokens) = []) :
    pieces.flatten.takeWhile (· != '/') = literals (untilSlash tokens) := by
  induction hfits with
  | nil => rfl
  | @cons t piece tokens pieces ht _ ih =>
    obtain ⟨hne, htail⟩ := not_or.1 (mt List.mem_cons.2 hbare)
    by_cases hslash : t = .literal '/'
    · subst hslash
      obtain rfl : piece = ['/'] := ht
      rw [untilSlash_slash]
      rfl
    · rw [untilSlash_cons_of_ne hslash] at hnames ⊢
      cases t with
      | literal c =>
        obtain rfl : piece = [c] := ht
        have hc : c ≠ '/' := by
          rintro rfl
          exact hslash rfl
        rw [List.flatten_cons, List.singleton_append, List.takeWhile_cons_of_pos (by simpa),
          ih htail hnames]
        rfl
      | bareSplat => exact absurd rfl hne
      | segment | splat => cases hnames

/-- A path has one decomposition at most. -/
theorem Unambiguous.pieces_eq {tokens : List Token} {path : List Char}
    {pieces other : List (List Char)} (h : Unambiguous tokens)
    (hpieces : Decomposes tokens path pieces) (hother : Decomposes tokens path other) :
    pieces = other := by
  obtain ⟨hfits, hjoins⟩ := hpieces
  obtain ⟨hfits', hjoins'⟩ := hother
  induction hfits generalizing path other with
  | nil =>
    cases hfits'
    rfl
  | @cons t piece tokens pieces ht hfits ih =>
    cases hfits' with
    | @cons _ piece' _ pieces' ht' hfits' =>
      rw [List.flatten_cons] at hjoins hjoins'
      have hsame : piece = piece' := by
        cases t with
        | literal c =>
          obtain rfl : piece = [c] := ht
          exact Eq.symm ht'
        | bareSplat => exact absurd List.mem_cons_self h.noBareSplat
        | splat name =>
          obtain rfl := h.tail_splat
          cases hfits
          cases hfits'
          simpa using hjoins.trans hjoins'.symm
        | segment name =>
          have hbare := h.tail.noBareSplat
          have hnames := h.names_untilSlash rfl
          have hbehind := takeWhile_flatten hfits hbare hnames
          have hbehind' := takeWhile_flatten hfits' hbare hnames
          have htake := congrArg (List.takeWhile (· != '/')) (hjoins.trans hjoins'.symm)
          rw [List.takeWhile_append_of_pos ((forall_bne_iff piece).2 ht), hbehind,
            List.takeWhile_append_of_pos ((forall_bne_iff piece').2 ht'), hbehind'] at htake
          exact List.append_cancel_right htake
      subst hsame
      have htail : pieces.flatten = pieces'.flatten :=
        List.append_cancel_left (hjoins.trans hjoins'.symm)
      rw [ih h.tail rfl hfits' htail.symm]

def Token.filled (values : String → String) : Token → String
  | literal c => String.singleton c
  | segment name | splat name => values name
  | bareSplat => ""

def fill (values : String → String) (tokens : List Token) : String :=
  String.join (tokens.map (Token.filled values))

def filledPieces (values : String → String) (tokens : List Token) : List (List Char) :=
  tokens.map fun t => (t.filled values).toList

theorem fill_toList (values : String → String) (tokens : List Token) :
    (fill values tokens).toList = (filledPieces values tokens).flatten := by
  simp [fill, filledPieces, List.flatMap_def, Function.comp_def]

theorem bindings_filledPieces (values : String → String) (tokens : List Token) :
    bindings tokens (filledPieces values tokens) =
      (names tokens).map fun name => (name, some (values name)) := by
  induction tokens with
  | nil => rfl
  | cons t tokens ih =>
    cases t with
    | literal | bareSplat => exact ih
    | segment name | splat name =>
      have hvalue : String.ofList (values name).toList = values name := String.ofList_toList
      exact congrArg₂ List.cons (congrArg (fun value => (name, some value)) hvalue) ih

theorem decomposes_fill {values : String → String} {tokens : List Token}
    (hsegment : ∀ name, .segment name ∈ tokens → '/' ∉ (values name).toList)
    (hsplat : ∀ name, .splat name ∈ tokens → '\n' ∉ (values name).toList) :
    Decomposes tokens (fill values tokens).toList (filledPieces values tokens) := by
  refine ⟨?_, (fill_toList values tokens).symm⟩
  refine List.forall₂_map_right_iff.2 (List.forall₂_same.2 ?_)
  intro t ht
  cases t with
  | literal c => exact String.toList_singleton c
  | segment name => exact hsegment name ht
  | splat name => exact hsplat name ht
  | bareSplat => exact List.not_mem_nil

/-- A path made from a template and values is matched, and extraction gets the values back. -/
theorem extract_fill {tokens : List Token} (h : Unambiguous tokens) (hd : (names tokens).Nodup) :
    ∃ t, PathTemplate.ofSource? (source tokens) = .ok t ∧
      ∀ (values : String → String) (earlier : List String),
        (∀ name, .segment name ∈ tokens → '/' ∉ (values name).toList) →
        (∀ name, .splat name ∈ tokens → '\n' ∉ (values name).toList) →
        t.accepts (fill values tokens) = true ∧
          ((t.after earlier).extract (fill values tokens)).1 =
            (names tokens).map fun name => (name, some (values name)) := by
  obtain ⟨t, ht⟩ := StandsAlone.exists_of_grammatical h.grammatical hd
  refine ⟨t, ht.ofSource, ?_⟩
  intro values earlier hsegment hsplat
  have hfill := decomposes_fill hsegment hsplat
  have hsome := (exists_decomposes_iff tokens (fill values tokens).toList).1 ⟨_, hfill⟩
  obtain ⟨pieces, hgreedy⟩ := Option.isSome_iff_exists.1 hsome
  have hpieces := h.pieces_eq (decomposes_greedy hgreedy) hfill
  constructor
  · rw [ht.accepts_eq, hsome]
  · rw [ht.extract_after_eq earlier hgreedy, hpieces, bindings_filledPieces]

theorem extract_fill_repeated_text :
    ∃ t, PathTemplate.ofSource? "/\x7ba\x7d-/\x7brest\x7d**" = .ok t ∧
      t.accepts "/--/-/b" = true ∧
      ((t.after ["/-"]).extract "/--/-/b").1 = [("a", some "-"), ("rest", some "-/b")] := by
  have hunambiguous : Unambiguous
      [.literal '/', .segment "a", .literal '-', .literal '/', .splat "rest"] := by
    decide +kernel
  let values := fun name => if name = "a" then "-" else "-/b"
  obtain ⟨t, ht, h⟩ := extract_fill hunambiguous (by decide +kernel)
  refine ⟨t, ht, h values ["/-"] ?_ ?_⟩
  · intro name hname
    obtain rfl : name = "a" := by simpa using hname
    decide +kernel
  · intro name hname
    obtain rfl : name = "rest" := by simpa using hname
    decide +kernel

end RequestRouting.Template
