import Mathlib.Data.List.Chain
import Mathlib.Tactic.MkIffOfInductiveProp
import RequestRouting.Template.Basic

/-!
# The grammar of templates

A template is written from tokens: plain characters, variables for one segment, variables for the
rest of a path, and bare splats. Not every list of tokens can be read back from its text. A bare
splat must not touch the brace of a segment or another splat, and a slash must stand between a
segment and any later variable for the rest.
-/

namespace RequestRouting.Template

inductive Token where
  | literal (c : Char)
  | segment (name : String)
  | splat (name : String)
  | bareSplat
  deriving DecidableEq, Repr

namespace Token

def text : Token → String
  | literal c => String.singleton c
  | segment name => "\x7b" ++ name ++ "\x7d"
  | splat name => "\x7b" ++ name ++ "\x7d**"
  | bareSplat => "**"

def chars (t : Token) : List Char := t.text.toList

def pattern : Token → String
  | literal c => String.singleton c
  | segment name => "(?P<" ++ name ++ ">[^/]*)"
  | splat name => "(?P<" ++ name ++ ">.*)"
  | bareSplat => ".*"

def literal? : Token → Option Char
  | literal c => some c
  | _ => none

def name? : Token → Option String
  | segment name | splat name => some name
  | literal _ | bareSplat => none

/-- Two stars right behind such a token would be read together with it. -/
def absorbsStars : Token → Bool
  | segment _ | bareSplat => true
  | literal _ | splat _ => false

def isSplat : Token → Bool
  | splat _ => true
  | _ => false

def isSegment : Token → Bool
  | segment _ => true
  | _ => false

end Token

def source (tokens : List Token) : String := String.join (tokens.map Token.text)

def literals (tokens : List Token) : List Char := tokens.filterMap Token.literal?

def names (tokens : List Token) : List String := tokens.filterMap Token.name?

def metacharacters : List Char :=
  ['\\', '.', '+', '*', '?', '(', ')', '[', ']', '\x7b', '\x7d', '|', '^', '$']

def IsName (name : String) : Prop := name ≠ "" ∧ ∀ c ∈ name.toList, Character.isWordChar c

instance (name : String) : Decidable (IsName name) :=
  have : Decidable (∀ c ∈ name.toList, Character.isWordChar c) := List.decidableBAll _ _
  inferInstanceAs (Decidable (_ ∧ _))

def SplatsApart (tokens : List Token) : Prop :=
  tokens.IsChain fun t u => ¬ (t.absorbsStars ∧ u = .bareSplat)

instance (tokens : List Token) : Decidable (SplatsApart tokens) :=
  inferInstanceAs (Decidable (tokens.IsChain _))

def Shielded (tokens : List Token) : Prop :=
  ∀ between name after, tokens = between ++ .splat name :: after → .literal '/' ∈ between

def SegmentsShielded (tokens : List Token) : Prop :=
  ∀ before name after, tokens = before ++ .segment name :: after → Shielded after

@[mk_iff]
structure Grammatical (tokens : List Token) : Prop where
  literals : ∀ c ∈ literals tokens, c ∉ metacharacters
  names : ∀ name ∈ names tokens, IsName name
  apart : SplatsApart tokens
  shielded : SegmentsShielded tokens

def joined (alternatives : List (List Token)) : List Token :=
  [.literal '|'].intercalate alternatives

/-- Each alternative is grammatical by itself. Names and slashes are a matter of the whole. -/
@[mk_iff]
structure GrammaticalChoice (alternatives : List (List Token)) : Prop where
  literals : ∀ tokens ∈ alternatives, ∀ c ∈ literals tokens, c ∉ metacharacters
  names : ∀ name ∈ Template.names (joined alternatives), IsName name
  apart : ∀ tokens ∈ alternatives, SplatsApart tokens
  shielded : SegmentsShielded (joined alternatives)

/-- What the rewriting of a template relies on, for single templates and for choices alike. -/
structure Rewritable (tokens : List Token) : Prop where
  literals : ∀ c ∈ literals tokens, c = '|' ∨ c ∉ metacharacters
  names : ∀ name ∈ names tokens, IsName name
  apart : SplatsApart tokens
  shielded : SegmentsShielded tokens

theorem joined_cons {alternatives : List (List Token)} (h : alternatives ≠ [])
    (tokens : List Token) :
    joined (tokens :: alternatives) = tokens ++ .literal '|' :: joined alternatives := by
  cases alternatives with
  | nil => exact absurd rfl h
  | cons more alternatives => simp [joined, List.intercalate_cons_cons]

theorem names_joined (alternatives : List (List Token)) :
    names (joined alternatives) = alternatives.flatMap names := by
  induction alternatives with
  | nil => rfl
  | cons tokens alternatives ih =>
    by_cases hne : alternatives = []
    · simp [hne, joined]
    · rw [joined_cons hne, List.flatMap_cons, ← ih, names, List.filterMap_append]
      rfl

theorem literals_subset_cons (t : Token) (tokens : List Token) :
    literals tokens ⊆ literals (t :: tokens) :=
  ((List.sublist_cons_self t tokens).filterMap _).subset

theorem names_subset_cons (t : Token) (tokens : List Token) :
    names tokens ⊆ names (t :: tokens) :=
  ((List.sublist_cons_self t tokens).filterMap _).subset

theorem source_toList (tokens : List Token) :
    (source tokens).toList = tokens.flatMap Token.chars := by
  simp [source, List.flatMap_map]
  rfl

theorem IsName.not_mem {name : String} (h : IsName name) {c : Char}
    (hc : Character.isWordChar c = false) : c ∉ name.toList := by
  intro hm
  rw [h.2 c hm] at hc
  cases hc

theorem IsName.toList_ne_nil {name : String} (h : IsName name) : name.toList ≠ [] := by
  simpa using h.1

theorem shielded_cons {t : Token} {tokens : List Token} :
    Shielded (t :: tokens) ↔ t = .literal '/' ∨ ¬ t.isSplat ∧ Shielded tokens := by
  constructor
  · intro h
    by_cases ht : t = .literal '/'
    · exact .inl ht
    refine .inr ⟨?_, ?_⟩
    · intro hsplat
      cases t <;> cases hsplat
      next name => simpa using h [] name tokens rfl
    · rintro between name after rfl
      simpa [Ne.symm ht] using h (t :: between) name after rfl
  · rintro (rfl | ⟨ht, h⟩) between name after he
    · cases between with
      | nil => cases he
      | cons u between => simp [(List.cons.inj he).1]
    · cases between with
      | nil => simp [(List.cons.inj he).1, Token.isSplat] at ht
      | cons u between => exact List.mem_cons_of_mem u (h between name after (List.cons.inj he).2)

theorem not_shielded_splat (name : String) (tokens : List Token) :
    ¬ Shielded (.splat name :: tokens) := by
  simp [shielded_cons, Token.isSplat]

theorem Shielded.tail {t : Token} {tokens : List Token} (h : Shielded (t :: tokens))
    (ht : t ≠ .literal '/') : Shielded tokens :=
  ((shielded_cons.1 h).resolve_left ht).2

theorem segmentsShielded_cons {t : Token} {tokens : List Token} :
    SegmentsShielded (t :: tokens) ↔ (t.isSegment → Shielded tokens) ∧ SegmentsShielded tokens := by
  constructor
  · intro h
    constructor
    · intro ht
      cases t <;> cases ht
      next name => exact h [] name tokens rfl
    · rintro before name after rfl
      exact h (t :: before) name after rfl
  · rintro ⟨ht, h⟩ before name after he
    cases before with
    | nil =>
      obtain ⟨rfl, rfl⟩ := List.cons.inj he
      exact ht rfl
    | cons u before => exact h before name after (List.cons.inj he).2

instance decidableShielded : (tokens : List Token) → Decidable (Shielded tokens)
  | [] => .isTrue (by simp [Shielded])
  | t :: tokens =>
    have := decidableShielded tokens
    decidable_of_iff' _ shielded_cons

instance decidableSegmentsShielded : (tokens : List Token) → Decidable (SegmentsShielded tokens)
  | [] => .isTrue (by simp [SegmentsShielded])
  | t :: tokens =>
    have := decidableSegmentsShielded tokens
    decidable_of_iff' _ segmentsShielded_cons

-- by going through the list, not through all characters
instance (tokens : List Token) : Decidable (∀ c ∈ literals tokens, c ∉ metacharacters) :=
  List.decidableBAll _ _

instance (tokens : List Token) : Decidable (Grammatical tokens) :=
  decidable_of_iff' _ (grammatical_iff tokens)

instance (alternatives : List (List Token)) : Decidable (GrammaticalChoice alternatives) :=
  decidable_of_iff' _ (grammaticalChoice_iff alternatives)

theorem Shielded.of_append {tokens more : List Token} (h : Shielded (tokens ++ more)) :
    Shielded tokens := by
  rintro between name after rfl
  exact h between name (after ++ more) (by simp)

theorem SegmentsShielded.of_append_left {tokens more : List Token}
    (h : SegmentsShielded (tokens ++ more)) : SegmentsShielded tokens := by
  rintro before name after rfl
  have hafter : Shielded (after ++ more) := h before name (after ++ more) (by simp)
  exact hafter.of_append

theorem SegmentsShielded.of_append_right {tokens more : List Token}
    (h : SegmentsShielded (tokens ++ more)) : SegmentsShielded more := by
  rintro before name after rfl
  exact h (tokens ++ before) name after (by simp)

namespace Rewritable

variable {t : Token} {tokens : List Token}

theorem tail (h : Rewritable (t :: tokens)) : Rewritable tokens where
  literals c hc := h.literals c (literals_subset_cons t tokens hc)
  names name hn := h.names name (names_subset_cons t tokens hn)
  apart := h.apart.of_cons
  shielded := (segmentsShielded_cons.1 h.shielded).2

theorem literal_ne {c d : Char} (h : Rewritable (.literal c :: tokens)) (hd : d ∈ metacharacters)
    (hb : d ≠ '|') : c ≠ d := by
  rintro rfl
  rcases h.literals c (by simp [Template.literals, Token.literal?]) with hc | hc
  · exact hb hc
  · exact hc hd

theorem isName {name : String} (h : Rewritable (t :: tokens)) (ht : t.name? = some name) :
    IsName name :=
  h.names name (by simp [Template.names, ht])

theorem head?_ne (h : Rewritable (t :: tokens)) (ht : t.absorbsStars) :
    tokens.head? ≠ some .bareSplat := by
  cases tokens with
  | nil => simp
  | cons u tokens =>
    have hu := h.apart.rel
    simp_all

theorem shielded_tail {name : String} (h : Rewritable (.segment name :: tokens)) :
    Shielded tokens :=
  (segmentsShielded_cons.1 h.shielded).1 rfl

end Rewritable

namespace Grammatical

variable {tokens : List Token} {c : Char} {name : String}

theorem cons_literal (hc : c ∉ metacharacters) (h : Grammatical tokens) :
    Grammatical (.literal c :: tokens) where
  literals := List.forall_mem_cons.2 ⟨hc, h.literals⟩
  names := h.names
  apart := List.isChain_cons.2 ⟨by simp [Token.absorbsStars], h.apart⟩
  shielded := segmentsShielded_cons.2 ⟨nofun, h.shielded⟩

theorem cons_segment (hname : IsName name) (hstars : tokens.head? ≠ some .bareSplat)
    (hshielded : Shielded tokens) (h : Grammatical tokens) :
    Grammatical (.segment name :: tokens) where
  literals := h.literals
  names := List.forall_mem_cons.2 ⟨hname, h.names⟩
  apart := List.isChain_cons.2 ⟨by rintro u hu ⟨-, rfl⟩; exact hstars hu, h.apart⟩
  shielded := segmentsShielded_cons.2 ⟨fun _ => hshielded, h.shielded⟩

theorem cons_splat (hname : IsName name) (h : Grammatical tokens) :
    Grammatical (.splat name :: tokens) where
  literals := h.literals
  names := List.forall_mem_cons.2 ⟨hname, h.names⟩
  apart := List.isChain_cons.2 ⟨by simp [Token.absorbsStars], h.apart⟩
  shielded := segmentsShielded_cons.2 ⟨nofun, h.shielded⟩

end Grammatical

theorem Grammatical.choice {tokens : List Token} (h : Grammatical tokens) :
    GrammaticalChoice [tokens] where
  literals := by simpa using h.literals
  names := by simpa [names_joined] using h.names
  apart := by simpa using h.apart
  shielded := by simpa [joined] using h.shielded

namespace GrammaticalChoice

variable {tokens : List Token} {alternatives : List (List Token)}

theorem tail (h : GrammaticalChoice (tokens :: alternatives)) : GrammaticalChoice alternatives where
  literals more hm := h.literals more (List.mem_cons_of_mem _ hm)
  names name hn := h.names name (by simp [names_joined] at hn ⊢; exact .inr hn)
  apart more hm := h.apart more (List.mem_cons_of_mem _ hm)
  shielded := by
    by_cases hne : alternatives = []
    · simp [hne, joined, SegmentsShielded]
    · have hs := h.shielded
      rw [joined_cons hne] at hs
      exact (segmentsShielded_cons.1 hs.of_append_right).2

theorem head (h : GrammaticalChoice (tokens :: alternatives)) : Grammatical tokens where
  literals := h.literals tokens List.mem_cons_self
  names name hn := h.names name (by simp [names_joined, hn])
  apart := h.apart tokens List.mem_cons_self
  shielded := by
    have hs := h.shielded
    by_cases hne : alternatives = []
    · simpa [hne, joined] using hs
    · rw [joined_cons hne] at hs
      exact hs.of_append_left

theorem splatsApart_joined (h : GrammaticalChoice alternatives) :
    SplatsApart (joined alternatives) := by
  induction alternatives with
  | nil => exact .nil
  | cons tokens alternatives ih =>
    by_cases hne : alternatives = []
    · simpa [hne, joined] using h.head.apart
    · have hbar : SplatsApart (.literal '|' :: joined alternatives) := by
        refine List.isChain_cons.2 ⟨?_, ih h.tail⟩
        intro u _
        simp [Token.absorbsStars]
      rw [joined_cons hne]
      refine List.isChain_append.2 ⟨h.head.apart, hbar, ?_⟩
      intro t _ u hu
      obtain rfl : .literal '|' = u := by simpa using hu
      simp

theorem literals_joined (h : GrammaticalChoice alternatives) {c : Char}
    (hc : c ∈ Template.literals (joined alternatives)) : c = '|' ∨ c ∉ metacharacters := by
  induction alternatives with
  | nil => cases hc
  | cons tokens alternatives ih =>
    by_cases hne : alternatives = []
    · exact .inr (h.head.literals c (by simpa [hne, joined] using hc))
    · rw [joined_cons hne, Template.literals, List.filterMap_append] at hc
      rcases List.mem_append.1 hc with hc | hc
      · exact .inr (h.head.literals c hc)
      · rcases List.mem_cons.1 hc with hc | hc
        · exact .inl hc
        · exact ih h.tail hc

theorem rewritable (h : GrammaticalChoice alternatives) : Rewritable (joined alternatives) where
  literals _ hc := h.literals_joined hc
  names := h.names
  apart := h.splatsApart_joined
  shielded := h.shielded

end GrammaticalChoice

end RequestRouting.Template
