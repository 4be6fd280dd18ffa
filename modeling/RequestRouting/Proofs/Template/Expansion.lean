import RequestRouting.Proofs.Template.Grammar
import RequestRouting.Proofs.Text.Starts

/-!
# Expanding grammatical templates

Each pass of the expansion rewrites one kind of token and leaves the text of all others as it is.
What a pass has behind it, in front of the token it comes to next, holds no occurrence of its
construct, not even one that begins there and ends further right.
-/

namespace RequestRouting.Template

open RequestRouting.Text (isPrefixOf?_eq_none_of_head)

def AfterEach (c : Char) (P : List Char → Prop) : List Char → Prop
  | [] => True
  | d :: text => (d = c → P text) ∧ AfterEach c P text

namespace AfterEach

variable {c : Char} {P Q : List Char → Prop} {text more : List Char}

theorem imp (h : AfterEach c P text) (hpq : ∀ rest, P rest → Q rest) : AfterEach c Q text := by
  induction text with
  | nil => trivial
  | cons d text ih => exact ⟨fun hd => hpq _ (h.1 hd), ih h.2⟩

theorem append (h : AfterEach c (fun rest => P (rest ++ more)) text) (h' : AfterEach c P more) :
    AfterEach c P (text ++ more) := by
  induction text with
  | nil => exact h'
  | cons d text ih => exact ⟨h.1, ih h.2⟩

theorem of_not_mem (h : c ∉ text) : AfterEach c P text := by
  induction text with
  | nil => trivial
  | cons d text ih =>
    obtain ⟨hd, ht⟩ := not_or.1 (mt List.mem_cons.2 h)
    exact ⟨fun he => absurd he.symm hd, ih ht⟩

theorem right {before : List Char} (h : AfterEach c P (before ++ text)) : AfterEach c P text := by
  induction before with
  | nil => exact h
  | cons d before ih => exact ih h.2

theorem behind {before : List Char} (h : AfterEach c P (before ++ c :: text)) : P text :=
  h.right.1 rfl

theorem of_suffixes (h : ∀ rest, rest <:+ text.tail → P rest) : AfterEach c P text := by
  induction text with
  | nil => trivial
  | cons d text ih =>
    constructor
    · intro _
      exact h text (List.suffix_refl text)
    · apply ih
      intro rest hrest
      exact h rest (hrest.trans (List.tail_suffix text))

theorem not_mem {d : Char} (h : AfterEach c (d ∈ ·) text) (hd : d ∉ text) : c ∉ text := by
  intro hc
  obtain ⟨before, rest, rfl⟩ := List.append_of_mem hc
  exact hd (by simp [h.behind])

end AfterEach

section Variables

variable {closing : List Char}

theorem findVariable?_append (closing rest : List Char) {before : List Char}
    (h : AfterEach '\x7b' (fun b => nameBefore? closing (b ++ rest) = none) before) :
    findVariable? closing (before ++ rest) =
      (findVariable? closing rest).map fun o => { o with before := before ++ o.before } := by
  induction before with
  | nil => simp
  | cons c before ih =>
    have hc : (if c = '\x7b' then nameBefore? closing (before ++ rest) else none) = none := by
      split
      · next hb => exact h.1 hb
      · rfl
    rw [List.cons_append, findVariable?, hc, ih h.2, Option.map_map]
    rfl

theorem findVariable?_eq_none {closing text : List Char}
    (h : AfterEach '\x7b' (nameBefore? closing · = none) text) :
    findVariable? closing text = none := by
  have happend := findVariable?_append closing [] (h.imp fun b hb => by rwa [List.append_nil])
  rwa [List.append_nil] at happend

theorem nameBefore?_name {name : List Char} (hne : name ≠ []) (hs : '/' ∉ name)
    (hb : '\x7d' ∉ name) (after : List Char) :
    nameBefore? ('\x7d' :: closing) (name ++ '\x7d' :: (closing ++ after)) =
      some (name, after) := by
  induction name with
  | nil => exact absurd rfl hne
  | cons c name ih =>
    have hc : c ≠ '/' := fun he => hs (by simp [he])
    rw [List.cons_append, nameBefore?, if_neg hc]
    cases name with
    | nil => simp [List.isPrefixOf?]
    | cons d name =>
      have hd : (d :: name ++ '\x7d' :: (closing ++ after)).head? ≠ some '\x7d' := by
        simp only [List.cons_append, List.head?_cons, ne_eq, Option.some.injEq]
        rintro rfl
        exact hb (by simp)
      rw [isPrefixOf?_eq_none_of_head hd, ih (by simp) (fun hm => hs (by simp [hm]))
        fun hm => hb (by simp [hm])]
      rfl

theorem findVariable?_variable (closing after : List Char) {before name : List Char}
    (hne : name ≠ []) (hs : '/' ∉ name) (hb : '\x7d' ∉ name)
    (h : AfterEach '\x7b' (fun b => nameBefore? ('\x7d' :: closing)
      (b ++ '\x7b' :: (name ++ '\x7d' :: (closing ++ after))) = none) before) :
    findVariable? ('\x7d' :: closing) (before ++ '\x7b' :: (name ++ '\x7d' :: (closing ++ after))) =
      some ⟨before, name, after⟩ := by
  rw [findVariable?_append _ _ h, findVariable?, if_pos rfl, nameBefore?_name hne hs hb]
  simp

theorem isPrefixOf?_eq_none_iff_of_slash {before : List Char} (h : '/' ∈ before)
    (hc : '/' ∉ closing) (rest rest' : List Char) :
    closing.isPrefixOf? (before ++ rest) = none ↔ closing.isPrefixOf? (before ++ rest') = none := by
  induction closing generalizing before with
  | nil => simp [List.isPrefixOf?]
  | cons c closing ih =>
    cases before with
    | nil => cases h
    | cons d before =>
      simp only [List.cons_append, List.isPrefixOf?]
      by_cases hd : c = d
      · subst hd
        have hslash : '/' ≠ c := fun he => hc (by simp [← he])
        simpa using ih ((List.mem_cons.1 h).resolve_left hslash) fun hm => hc (by simp [hm])
      · simp [hd]

/-- Whether a name is closed before the first slash does not depend on what follows the slash. -/
theorem nameBefore?_eq_none_of_slash {before rest : List Char} (h : '/' ∈ before)
    (hc : '/' ∉ closing) (rest' : List Char) (hn : nameBefore? closing (before ++ rest) = none) :
    nameBefore? closing (before ++ rest') = none := by
  induction before with
  | nil => cases h
  | cons c before ih =>
    rw [List.cons_append, nameBefore?] at hn ⊢
    split
    · rfl
    · next hslash =>
      have hb : '/' ∈ before := (List.mem_cons.1 h).resolve_left (Ne.symm hslash)
      rw [if_neg hslash] at hn
      cases hd : closing.isPrefixOf? (before ++ rest) with
      | some after => simp [hd] at hn
      | none =>
        rw [hd] at hn
        rw [(isPrefixOf?_eq_none_iff_of_slash hb hc rest rest').1 hd]
        simpa using ih hb (by simpa using hn)

end Variables

theorem replaceAll_of_none {α : Type} {find? : List Char → Option (Occurrence α)}
    {write : α → List Char} {text : List Char} (h : find? text = none) (n : Nat) :
    replaceAll find? write n text = (text, []) := by
  cases n with
  | zero => rfl
  | succ n => rw [replaceAll, h]

/-- One pass over the text of a list of tokens. The pass rewrites the tokens that carry an item;
`Inv` says what it relies on about the text behind it and the tokens in front of it. -/
theorem replaceAll_flatMap {α : Type} {find? : List Char → Option (Occurrence α)}
    {write : α → List Char} {item? : Token → Option α} {text written : Token → List Char}
    (Inv : List Char → List Token → Prop)
    (hsame : ∀ t, item? t = none → written t = text t)
    (hwritten : ∀ t x, item? t = some x → written t = write x)
    (stop : ∀ before, Inv before [] → find? before = none)
    (keep : ∀ before t tokens, item? t = none → Inv before (t :: tokens) →
      Inv (before ++ text t) tokens)
    (hit : ∀ before t tokens x, item? t = some x → Inv before (t :: tokens) →
      find? (before ++ (text t ++ tokens.flatMap text)) = some ⟨before, x, tokens.flatMap text⟩ ∧
        Inv (before ++ write x) tokens)
    (tokens : List Token) (before : List Char) (n : Nat) (hn : (tokens.filterMap item?).length ≤ n)
    (h : Inv before tokens) :
    replaceAll find? write n (before ++ tokens.flatMap text) =
      (before ++ tokens.flatMap written, tokens.filterMap item?) := by
  induction tokens generalizing before n with
  | nil => simpa using replaceAll_of_none (stop before h) n
  | cons t tokens ih =>
    cases ht : item? t with
    | none =>
      rw [List.filterMap_cons_none ht] at hn ⊢
      have := ih (before ++ text t) n hn (keep before t tokens ht h)
      simpa [hsame t ht] using this
    | some x =>
      rw [List.filterMap_cons_some ht] at hn ⊢
      obtain ⟨hfind, hinv⟩ := hit before t tokens x ht h
      cases n with
      | zero => simp at hn
      | succ n =>
        have := ih (before ++ write x) n (by simpa using hn) hinv
        rw [List.flatMap_cons, replaceAll, hfind]
        simp only [this]
        simp [hwritten t x ht]

/-- The text bounds the number of replacements when every rewritten token holds the character. -/
theorem length_filterMap_le_count {α : Type} {item? : Token → Option α} {text : Token → List Char}
    {c : Char} (h : ∀ t x, item? t = some x → c ∈ text t) (tokens : List Token) :
    (tokens.filterMap item?).length ≤ (tokens.flatMap text).count c := by
  induction tokens with
  | nil => simp
  | cons t tokens ih =>
    rw [List.flatMap_cons, List.count_append]
    cases ht : item? t with
    | none => rw [List.filterMap_cons_none ht]; omega
    | some x =>
      have hpos : 0 < (text t).count c := List.count_pos_iff.2 (h t x ht)
      rw [List.filterMap_cons_some ht, List.length_cons]
      omega

namespace Token

def splatName? : Token → Option (List Char)
  | splat name => some name.toList
  | _ => none

def segmentName? : Token → Option (List Char)
  | segment name => some name.toList
  | _ => none

def bareSplat? : Token → Option Unit
  | bareSplat => some ()
  | _ => none

def textAfterSplats : Token → List Char
  | splat name => splatGroup name.toList
  | t => t.chars

def textAfterSegments : Token → List Char
  | segment name => segmentGroup name.toList
  | t => t.textAfterSplats

end Token

def Unclosed (text : List Char) : Prop :=
  ['\x7d', '*', '*'].isPrefixOf? text = none ∧ nameBefore? ['\x7d', '*', '*'] text = none

theorem unclosed_slash (text : List Char) : Unclosed ('/' :: text) := by
  simp [Unclosed, List.isPrefixOf?, nameBefore?]

theorem Unclosed.cons {c : Char} {text : List Char} (h : Unclosed text)
    (hc : ['\x7d', '*', '*'].isPrefixOf? (c :: text) = none) : Unclosed (c :: text) := by
  refine ⟨hc, ?_⟩
  rw [nameBefore?]
  split
  · rfl
  · simp [h.1, h.2]

theorem Unclosed.append {word text : List Char} (h : Unclosed text) (hw : '\x7d' ∉ word) :
    Unclosed (word ++ text) := by
  induction word with
  | nil => exact h
  | cons c word ih =>
    obtain ⟨hc, hw⟩ := not_or.1 (mt List.mem_cons.2 hw)
    exact (ih hw).cons (isPrefixOf?_eq_none_of_head (by simpa using Ne.symm hc))

theorem head?_text_ne_star {tokens : List Token} (h : Rewritable tokens)
    (hh : tokens.head? ≠ some .bareSplat) :
    (tokens.flatMap Token.chars).head? ≠ some '*' := by
  cases tokens with
  | nil => simp
  | cons t tokens =>
    cases t with
    | literal c => simpa [Token.chars, Token.text] using h.literal_ne (by decide) (by decide)
    | segment name => simp [Token.chars, Token.text]
    | splat name => simp [Token.chars, Token.text]
    | bareSplat => simp at hh

theorem unclosed_segment {name : String} {tokens : List Token} (hname : IsName name)
    (h : Unclosed (tokens.flatMap Token.chars))
    (hstar : (tokens.flatMap Token.chars).head? ≠ some '*') :
    Unclosed (name.toList ++ '\x7d' :: tokens.flatMap Token.chars) := by
  have hbrace : Unclosed ('\x7d' :: tokens.flatMap Token.chars) :=
    h.cons (by simpa [List.isPrefixOf?] using isPrefixOf?_eq_none_of_head hstar)
  exact hbrace.append (hname.not_mem rfl)

theorem unclosed_of_shielded {tokens : List Token} (h : Rewritable tokens)
    (hs : Shielded tokens) : Unclosed (tokens.flatMap Token.chars) := by
  induction tokens with
  | nil => simp [Unclosed, List.isPrefixOf?, nameBefore?]
  | cons t tokens ih =>
    by_cases hslash : t = .literal '/'
    · subst hslash
      exact unclosed_slash _
    · have ih := ih h.tail (hs.tail hslash)
      cases t with
      | literal c =>
        have hc : c ≠ '\x7d' := h.literal_ne (by decide) (by decide)
        exact ih.append (by simpa [Token.chars, Token.text] using hc.symm)
      | segment name =>
        have hname : IsName name := h.isName rfl
        have hbrace := unclosed_segment hname ih (head?_text_ne_star h.tail (h.head?_ne rfl))
        have hopen : '\x7d' ∉ ['\x7b'] := by simp
        simpa [Token.chars, Token.text] using hbrace.append hopen
      | splat name => simp [shielded_cons, Token.isSplat] at hs
      | bareSplat => exact ih.append (by simp [Token.chars, Token.text])

/-- What holds behind an open brace: no variable for the rest is closed there, and unless a slash
has come by, none will be before one does. -/
def Harmless (tokens : List Token) (b : List Char) : Prop :=
  nameBefore? ['\x7d', '*', '*'] (b ++ tokens.flatMap Token.chars) = none ∧
    ('/' ∉ b → Shielded tokens)

theorem Harmless.keep {t : Token} {tokens : List Token} {b : List Char}
    (h : Harmless (t :: tokens) b) : Harmless tokens (b ++ t.chars) := by
  refine ⟨by simpa using h.1, ?_⟩
  intro hslash
  obtain ⟨hb, ht⟩ := not_or.1 (mt List.mem_append.2 hslash)
  exact (h.2 hb).tail (by rintro rfl; simp [Token.chars, Token.text] at ht)

/-- A variable for the rest can follow only behind a slash, which shields the open brace. -/
theorem Harmless.rewrite {name : String} {tokens : List Token} {b : List Char}
    (h : Harmless (.splat name :: tokens) b) (written : List Char) :
    Harmless tokens (b ++ written) := by
  have hslash : '/' ∈ b := by
    by_contra hc
    exact not_shielded_splat name tokens (h.2 hc)
  refine ⟨?_, fun hc => absurd (List.mem_append_left _ hslash) hc⟩
  rw [List.append_assoc]
  exact nameBefore?_eq_none_of_slash hslash (by decide) _ h.1

theorem afterEach_brace_chars {t : Token} {tokens : List Token} (h : Rewritable (t :: tokens))
    (ht : t.splatName? = none) : AfterEach '\x7b' (Harmless tokens) t.chars := by
  cases t with
  | literal c =>
    have hc : c ≠ '\x7b' := h.literal_ne (by decide) (by decide)
    exact .of_not_mem (by simpa [Token.chars, Token.text] using hc.symm)
  | segment name =>
    have hname : IsName name := h.isName rfl
    have hs : Shielded tokens := h.shielded_tail
    have hu := unclosed_segment hname (unclosed_of_shielded h.tail hs)
      (head?_text_ne_star h.tail (h.head?_ne rfl))
    have hopen : '\x7b' ∉ name.toList := hname.not_mem rfl
    have hrest : AfterEach '\x7b' (Harmless tokens) (name.toList ++ ['\x7d']) :=
      .of_not_mem (by simp [hopen])
    have hharmless : Harmless tokens (name.toList ++ ['\x7d']) :=
      ⟨by simpa using hu.2, fun _ => hs⟩
    simpa [Token.chars, Token.text, AfterEach] using And.intro hharmless hrest
  | splat name => simp [Token.splatName?] at ht
  | bareSplat => exact .of_not_mem (by simp [Token.chars, Token.text])

theorem splatVariables_chars {tokens : List Token} (h : Rewritable tokens) :
    splatVariables (tokens.flatMap Token.chars) =
      (tokens.flatMap Token.textAfterSplats, tokens.filterMap Token.splatName?) := by
  refine replaceAll_flatMap
    (fun before tokens => Rewritable tokens ∧ AfterEach '\x7b' (Harmless tokens) before)
    ?_ ?_ ?_ ?_ ?_ tokens [] _ ?_ ⟨h, trivial⟩
  · intro t ht
    cases t <;> simp_all [Token.splatName?, Token.textAfterSplats]
  · intro t x ht
    cases t <;> simp_all [Token.splatName?, Token.textAfterSplats]
  · rintro before ⟨-, hb⟩
    exact findVariable?_eq_none (hb.imp fun b hb => by simpa using hb.1)
  · rintro before t tokens ht ⟨hr, hb⟩
    exact ⟨hr.tail, .append (hb.imp fun b hb => hb.keep) (afterEach_brace_chars hr ht)⟩
  · rintro before t tokens x ht ⟨hr, hb⟩
    cases t <;> cases ht
    next name =>
    have hname : IsName name := hr.isName rfl
    have hopen : '\x7b' ∉ splatGroup name.toList := by
      simp [splatGroup, groupStart, hname.not_mem (c := '\x7b') rfl]
    refine ⟨?_, hr.tail, .append (hb.imp fun b hb => hb.rewrite _) (.of_not_mem hopen)⟩
    simpa [Token.chars, Token.text] using
      findVariable?_variable ['*', '*'] (tokens.flatMap Token.chars) hname.toList_ne_nil
        (hname.not_mem rfl) (hname.not_mem rfl)
        (hb.imp fun b hb => by simpa [Token.chars, Token.text] using hb.1)
  · apply length_filterMap_le_count
    intro t x ht
    cases t <;> simp_all [Token.splatName?, Token.chars, Token.text]

theorem segmentVariables_textAfterSplats {tokens : List Token} (h : Rewritable tokens) :
    segmentVariables (tokens.flatMap Token.textAfterSplats) =
      (tokens.flatMap Token.textAfterSegments, tokens.filterMap Token.segmentName?) := by
  refine replaceAll_flatMap (fun before tokens => Rewritable tokens ∧ '\x7b' ∉ before)
    ?_ ?_ ?_ ?_ ?_ tokens [] _ ?_ ⟨h, by simp⟩
  · intro t ht
    cases t <;> simp_all [Token.segmentName?, Token.textAfterSegments]
  · intro t x ht
    cases t <;> simp_all [Token.segmentName?, Token.textAfterSegments]
  · rintro before ⟨-, hb⟩
    exact findVariable?_eq_none (.of_not_mem hb)
  · rintro before t tokens ht ⟨hr, hb⟩
    refine ⟨hr.tail, ?_⟩
    cases t with
    | literal c =>
      have hc : c ≠ '\x7b' := hr.literal_ne (by decide) (by decide)
      simp [Token.textAfterSplats, Token.chars, Token.text, hb, hc.symm]
    | segment name => cases ht
    | splat name =>
      have hname : '\x7b' ∉ name.toList := (hr.isName rfl).not_mem rfl
      simp [Token.textAfterSplats, splatGroup, groupStart, hb, hname]
    | bareSplat => simp [Token.textAfterSplats, Token.chars, Token.text, hb]
  · rintro before t tokens x ht ⟨hr, hb⟩
    cases t <;> cases ht
    next name =>
    have hname : IsName name := hr.isName rfl
    have hopen : '\x7b' ∉ name.toList := hname.not_mem rfl
    refine ⟨?_, hr.tail, by simp [segmentGroup, groupStart, hb, hopen]⟩
    simpa [Token.textAfterSplats, Token.chars, Token.text] using
      findVariable?_variable [] (tokens.flatMap Token.textAfterSplats) hname.toList_ne_nil
        (hname.not_mem rfl) (hname.not_mem rfl) (.of_not_mem hb)
  · apply length_filterMap_le_count
    intro t x ht
    cases t <;> simp_all [Token.segmentName?, Token.textAfterSplats, Token.chars, Token.text]

theorem findSplat?_append (rest : List Char) {before : List Char}
    (h : AfterEach '*' (fun b => (b ++ rest).head? ≠ some '*') before) :
    findSplat? (before ++ rest) =
      (findSplat? rest).map fun o => { o with before := before ++ o.before } := by
  induction before with
  | nil => simp
  | cons c before ih =>
    have hc : ['*', '*'].isPrefixOf? (c :: (before ++ rest)) = none := by
      rw [List.isPrefixOf?]
      split
      · next hs => exact isPrefixOf?_eq_none_of_head (h.1 (eq_of_beq hs).symm)
      · rfl
    rw [List.cons_append, findSplat?, hc, ih h.2, Option.map_map]
    rfl

theorem head?_textAfterSegments_ne_star {tokens : List Token} (h : Rewritable tokens)
    (hh : tokens.head? ≠ some .bareSplat) :
    (tokens.flatMap Token.textAfterSegments).head? ≠ some '*' := by
  cases tokens with
  | nil => simp
  | cons t tokens =>
    cases t with
    | literal c =>
      simpa [Token.textAfterSegments, Token.textAfterSplats, Token.chars, Token.text] using
        h.literal_ne (by decide) (by decide)
    | segment name => simp [Token.textAfterSegments, segmentGroup, groupStart]
    | splat name => simp [Token.textAfterSegments, Token.textAfterSplats, splatGroup, groupStart]
    | bareSplat => simp at hh

def NoStarAhead (tokens : List Token) (b : List Char) : Prop :=
  (b ++ tokens.flatMap Token.textAfterSegments).head? ≠ some '*'

theorem NoStarAhead.keep {t : Token} {tokens : List Token} {b : List Char}
    (h : NoStarAhead (t :: tokens) b) : NoStarAhead tokens (b ++ t.textAfterSegments) := by
  simpa [NoStarAhead] using h

theorem NoStarAhead.rewrite {tokens : List Token} {b : List Char}
    (h : NoStarAhead (.bareSplat :: tokens) b) : NoStarAhead tokens (b ++ splatText) := by
  cases b with
  | nil =>
    simp [NoStarAhead, Token.textAfterSegments, Token.textAfterSplats, Token.chars,
      Token.text] at h
  | cons c b => simpa [NoStarAhead] using h

theorem afterEach_star_group {name : String} (h : IsName name) (set : List Char)
    (hs : '*' ∉ set) {P : List Char → Prop} (hp : P [')']) :
    AfterEach '*' P (groupStart name.toList ++ (set ++ ['*', ')'])) := by
  have hname : '*' ∉ name.toList := h.not_mem rfl
  refine .append (.of_not_mem (by simp [groupStart, hname])) (.append (.of_not_mem hs) ?_)
  exact ⟨fun _ => hp, .of_not_mem (by simp)⟩

theorem afterEach_star_text {t : Token} {tokens : List Token} (h : Rewritable (t :: tokens))
    (ht : t.bareSplat? = none) : AfterEach '*' (NoStarAhead tokens) t.textAfterSegments := by
  have hclose : NoStarAhead tokens [')'] := by simp [NoStarAhead]
  cases t with
  | literal c =>
    have hc : c ≠ '*' := h.literal_ne (by decide) (by decide)
    apply AfterEach.of_not_mem
    simpa [Token.textAfterSegments, Token.textAfterSplats, Token.chars, Token.text] using hc.symm
  | segment name =>
    exact afterEach_star_group (h.isName rfl) ['[', '^', '/', ']'] (by decide) hclose
  | splat name => exact afterEach_star_group (h.isName rfl) ['.'] (by decide) hclose
  | bareSplat => cases ht

theorem afterEach_star_splatText {tokens : List Token} (h : Rewritable (.bareSplat :: tokens)) :
    AfterEach '*' (NoStarAhead tokens) splatText := by
  have hstar := head?_textAfterSegments_ne_star h.tail (h.head?_ne rfl)
  exact ⟨fun hc => absurd hc (by decide), fun _ => hstar, trivial⟩

theorem bareSplats_textAfterSegments {tokens : List Token} (h : Rewritable tokens) :
    bareSplats (tokens.flatMap Token.textAfterSegments) =
      (tokens.flatMap fun t => t.pattern.toList, tokens.filterMap Token.bareSplat?) := by
  refine replaceAll_flatMap
    (fun before tokens => Rewritable tokens ∧ AfterEach '*' (NoStarAhead tokens) before)
    ?_ ?_ ?_ ?_ ?_ tokens [] _ ?_ ⟨h, trivial⟩
  · intro t ht
    cases t <;> simp_all [Token.bareSplat?, Token.textAfterSegments, Token.textAfterSplats,
      Token.chars, Token.text, Token.pattern, splatGroup, segmentGroup, groupStart]
  · intro t x ht
    cases t <;> simp_all [Token.bareSplat?, splatText, Token.pattern]
  · rintro before ⟨-, hb⟩
    simpa [findSplat?] using findSplat?_append [] hb
  · rintro before t tokens ht ⟨hr, hb⟩
    exact ⟨hr.tail, .append (hb.imp fun b hb => hb.keep) (afterEach_star_text hr ht)⟩
  · rintro before t tokens x ht ⟨hr, hb⟩
    cases t <;> cases ht
    constructor
    · rw [← List.flatMap_cons, findSplat?_append _ hb]
      simp [Token.textAfterSegments, Token.textAfterSplats, Token.chars, Token.text, findSplat?,
        List.isPrefixOf?]
    · exact ⟨hr.tail, .append (hb.imp fun b hb => hb.rewrite) (afterEach_star_splatText hr)⟩
  · apply length_filterMap_le_count
    intro t x ht
    cases t <;> simp_all [Token.bareSplat?, Token.textAfterSegments, Token.textAfterSplats,
      Token.chars, Token.text]

/-- The expansion translates token by token. The names of variables for the rest come first. -/
theorem expand_source {tokens : List Token} (h : Rewritable tokens) :
    expand (source tokens).toList = (tokens.flatMap fun t => t.pattern.toList,
      tokens.filterMap Token.splatName? ++ tokens.filterMap Token.segmentName?) := by
  rw [source_toList, expand, splatVariables_chars h]
  simp only
  rw [segmentVariables_textAfterSplats h]
  simp only [bareSplats_textAfterSegments h]

end RequestRouting.Template
