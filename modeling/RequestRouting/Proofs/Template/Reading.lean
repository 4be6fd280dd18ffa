import RequestRouting.Proofs.Regex.Plain
import RequestRouting.Proofs.Regex.Steps
import RequestRouting.Proofs.Template.Grammar

/-!
# Reading the patterns of templates

The pattern of a template reads as a plain expression: one set for each literal, a repeated set for
each bare splat, and a numbered group around a repeated set for each variable. The alternatives of
a choice stay side by side between the anchors.
-/

namespace RequestRouting.Regex.Reader

open RequestRouting.Template (Token metacharacters IsName)

def add (s : Reader) (items : List Regex) (groups : Nat) (operator : List Char) : Reader :=
  { s with
    branches := { s.branches with items := items.reverse ++ s.branches.items }
    groupCount := s.groupCount + groups
    repetition := operator }

theorem add_add (s : Reader) (items more : List Regex) (groups groups' : Nat)
    (operator operator' : List Char) :
    (s.add items groups operator).add more groups' operator' =
      s.add (items ++ more) (groups + groups') operator' := by
  simp [add, Nat.add_assoc]

theorem step_literal {c : Char} (hc : c ∉ metacharacters) (pattern : List Char) (s : Reader)
    (rest : List Char) : s.step pattern c rest = .ok (s.push (s.flags.literal c), rest) := by
  have hr : repetitionOf? c = none := by
    unfold repetitionOf?
    split <;> first | rfl | exact absurd (by decide) hc
  unfold step
  split <;> first | exact absurd (by decide) hc | skip
  rw [hr]

theorem step_dot (pattern : List Char) (s : Reader) (rest : List Char) :
    s.step pattern '.' rest = .ok (s.push s.flags.dot, rest) := rfl

theorem step_star {rest : List Char} (hrest : rest.head? ≠ some '?') (pattern : List Char)
    (s : Reader) (hs : s.flags = {}) (r : Regex) :
    (s.push r).step pattern '*' rest =
      .ok (s.add [.repeated .zeroOrMore true r] 0 ['*'], rest) := by
  have hd : ['?'].isPrefixOf? rest = none := Text.isPrefixOf?_eq_none_of_head hrest
  simp [step, repetitionOf?, hd, repeatLast, push, Branches.push, add, hs, Except.map]

theorem step_open {name : String} (hname : IsName name) (pattern : List Char) (s : Reader)
    (rest : List Char) :
    s.step pattern '(' ('?' :: 'P' :: '<' :: (name.toList ++ '>' :: rest)) =
      .ok (s.openCapture (some name), rest) := by
  have hcut := Text.cut_append_cons (hname.not_mem (c := '>') rfl) rest
  have his : GroupSyntax.isName name.toList := by
    simp only [GroupSyntax.isName, Bool.and_eq_true, List.all_eq_true]
    refine ⟨by simpa using hname.1, ?_⟩
    intro c hc
    exact Character.isNameChar_of_isWordChar (hname.2 c hc)
  simp [step, List.isPrefixOf?, GroupSyntax.read, GroupSyntax.readName, hcut, his, openSyntax,
    Except.map]

theorem step_open_error {name : List Char} (hname : GroupSyntax.isName name = false)
    (hclosing : '>' ∉ name) (pattern : List Char) (s : Reader) (rest : List Char) :
    s.step pattern '(' ('?' :: 'P' :: '<' :: (name ++ '>' :: rest)) =
      .error (.badGroupName (Template.groupStart name)) := by
  have hcut := Text.cut_append_cons hclosing rest
  have hread : '(' :: '?' :: 'P' :: '<' :: (name ++ '>' :: rest) =
      Template.groupStart name ++ rest := by simp [Template.groupStart]
  simp [step, List.isPrefixOf?, GroupSyntax.read, GroupSyntax.readName, hcut, hname, hread,
    Except.map]

def notSlash : CharSet := .complement (.union (.single '/') .none)

theorem step_notSlash (pattern : List Char) (s : Reader) (hs : s.flags = {}) (rest : List Char) :
    s.step pattern '[' ('^' :: '/' :: ']' :: rest) = .ok (s.push (.chars notSlash), rest) := by
  simp [step, Bracket.read, Bracket.members, Bracket.member, Bracket.range, Bracket.character,
    hs, Flags.resolve, notSlash, CharSet.ofList, Except.map, bind, Except.bind, pure, Except.pure]

end RequestRouting.Regex.Reader

namespace RequestRouting.Template

open RequestRouting.Regex (CharSet Plain Reader)
open RequestRouting.Regex.Reader (Reaches notSlash)

namespace Token

def arity (t : Token) : Nat := t.name?.isSome.toNat

/-- What the pattern of a token reads as, given the number of its group if it has one. -/
def expr (group : Nat) : Token → Plain
  | literal c => .chars (.single c)
  | segment name => .group group (some name) (.seq (.many true notSlash) .empty)
  | splat name => .group group (some name) (.seq (.many true (.except '\n')) .empty)
  | bareSplat => .many true (.except '\n')

end Token

def exprs : Nat → List Token → List Plain
  | _, [] => []
  | groups, t :: tokens => t.expr (groups + 1) :: exprs (groups + t.arity) tokens

/-- Such a token means the same in a pattern wherever it stands. -/
def Token.IsPlain (t : Token) : Prop :=
  (∀ c, t.literal? = some c → c ∉ metacharacters) ∧ ∀ name, t.name? = some name → IsName name

def patternChars (tokens : List Token) : List Char := tokens.flatMap fun t => t.pattern.toList

theorem length_names_cons (t : Token) (tokens : List Token) :
    (names (t :: tokens)).length = t.arity + (names tokens).length := by
  cases h : t.name? with
  | none => simp [names, h, Token.arity]
  | some name => simp [names, h, Token.arity, Nat.add_comm]

theorem reaches_group {pattern rest : List Char} {s : Reader} (hs : s.flags = {}) {name : String}
    (hname : IsName name) {c : Char} {more : List Char} {set : CharSet}
    (hset : ∀ (s : Reader) rest, s.flags = {} →
      s.step pattern c (more ++ rest) = .ok (s.push (.chars set), rest)) :
    Reaches pattern 4 s
      ('(' :: '?' :: 'P' :: '<' :: (name.toList ++ '>' :: c :: (more ++ '*' :: ')' :: rest)))
      (s.add [(Plain.group (s.groupCount + 1) (some name)
        (.seq (.many true set) .empty)).toRegex] 1 []) rest := by
  let inner := s.openCapture (some name)
  have hinner : inner.flags = {} := hs
  have hstar : (')' :: rest).head? ≠ some '?' := by simp
  have hopen := Reaches.of_step
    (Reader.step_open hname pattern s (c :: (more ++ '*' :: ')' :: rest)))
  have hbody := Reaches.of_step (hset inner ('*' :: ')' :: rest) hinner)
  have hmany := Reaches.of_step (Reader.step_star hstar pattern inner hinner (.chars set))
  refine hopen.trans (hbody.trans (hmany.trans (.of_step ?_)))
  rfl

theorem reaches_token {t : Token} (ht : t.IsPlain) {rest : List Char}
    (hrest : rest.head? ≠ some '?') (pattern : List Char) {s : Reader} (hs : s.flags = {}) :
    ∃ k operator, k ≤ t.pattern.toList.length ∧
      Reaches pattern k s (t.pattern.toList ++ rest)
        (s.add [(t.expr (s.groupCount + 1)).toRegex] t.arity operator) rest := by
  cases t with
  | literal c =>
    refine ⟨1, [], by simp [Token.pattern], ?_⟩
    have hstep := Reader.step_literal (ht.1 c rfl) pattern s rest
    rw [hs] at hstep
    convert Reaches.of_step hstep using 1
    · simp [Token.pattern]
    · rfl
  | segment name =>
    refine ⟨4, [], by simp [Token.pattern], ?_⟩
    have hset : ∀ (s : Reader) rest, s.flags = {} →
        s.step pattern '[' (['^', '/', ']'] ++ rest) = .ok (s.push (.chars notSlash), rest) :=
      fun s rest hs => Reader.step_notSlash pattern s hs rest
    convert reaches_group hs (ht.2 name rfl) hset using 1
    · simp [Token.pattern]
    · rfl
  | splat name =>
    refine ⟨4, [], by simp [Token.pattern], ?_⟩
    have hset : ∀ (s : Reader) rest, s.flags = {} →
        s.step pattern '.' ([] ++ rest) = .ok (s.push (.chars (.except '\n')), rest) := by
      intro s rest hs
      rw [List.nil_append, Reader.step_dot, hs]
      rfl
    convert reaches_group hs (ht.2 name rfl) hset using 1
    · simp [Token.pattern]
    · rfl
  | bareSplat =>
    refine ⟨2, ['*'], by simp [Token.pattern], ?_⟩
    have hdot := Reaches.of_step (Reader.step_dot pattern s ('*' :: rest))
    have hstar := Reaches.of_step (Reader.step_star hrest pattern s hs s.flags.dot)
    rw [hs] at hdot hstar
    convert hdot.trans hstar using 1
    · simp [Token.pattern]
    · rfl

theorem patternChars_cons (t : Token) (tokens : List Token) :
    patternChars (t :: tokens) = t.pattern.toList ++ patternChars tokens := rfl

/-- Nothing in the pattern of a template makes a repetition in front of it lazy. -/
theorem head?_patternChars_ne {tokens : List Token} (h : ∀ t ∈ tokens, t.IsPlain)
    {rest : List Char} (hrest : rest.head? ≠ some '?') :
    (patternChars tokens ++ rest).head? ≠ some '?' := by
  cases tokens with
  | nil => exact hrest
  | cons t tokens =>
    cases t with
    | literal c =>
      have hc : c ∉ metacharacters := (h _ List.mem_cons_self).1 c rfl
      have hne : c ≠ '?' := by rintro rfl; exact hc (by decide)
      simpa [patternChars_cons, Token.pattern] using hne
    | segment | splat | bareSplat => simp [patternChars_cons, Token.pattern]

theorem reaches_tokens {tokens : List Token} (h : ∀ t ∈ tokens, t.IsPlain) {rest : List Char}
    (hrest : rest.head? ≠ some '?') (pattern : List Char) {s : Reader} (hs : s.flags = {}) :
    ∃ k operator, k ≤ (patternChars tokens).length ∧
      Reaches pattern k s (patternChars tokens ++ rest)
        (s.add ((exprs s.groupCount tokens).map Plain.toRegex) (names tokens).length operator)
        rest := by
  induction tokens generalizing s with
  | nil => exact ⟨0, s.repetition, by simp, .refl pattern s rest⟩
  | cons t tokens ih =>
    obtain ⟨ht, htokens⟩ := List.forall_mem_cons.1 h
    obtain ⟨k, operator, hk, hfirst⟩ :=
      reaches_token ht (head?_patternChars_ne htokens hrest) pattern hs
    let s' := s.add [(t.expr (s.groupCount + 1)).toRegex] t.arity operator
    have hs' : s'.flags = {} := hs
    obtain ⟨l, operator', hl, hmore⟩ := ih htokens hs'
    refine ⟨k + l, operator', by simp only [patternChars_cons, List.length_append]; omega, ?_⟩
    have hboth := hfirst.trans hmore
    rw [Reader.add_add, ← length_names_cons] at hboth
    rwa [patternChars_cons, List.append_assoc]

def choice : Nat → List (List Token) → List Plain
  | _, [] => []
  | groups, tokens :: alternatives =>
    .sequence (exprs groups tokens) :: choice (groups + (names tokens).length) alternatives

theorem reaches_joined {alternatives : List (List Token)} (hne : alternatives ≠ [])
    (h : ∀ tokens ∈ alternatives, ∀ t ∈ tokens, t.IsPlain) {rest : List Char}
    (hrest : rest.head? ≠ some '?') (pattern : List Char) {s : Reader} (hs : s.flags = {})
    (hitems : s.branches.items = []) :
    ∃ k s', k ≤ (patternChars (joined alternatives)).length ∧
      Reaches pattern k s (patternChars (joined alternatives) ++ rest) s' rest ∧
      s'.branches.nextAlternative.finished =
        ((choice s.groupCount alternatives).map Plain.toRegex).reverse ++ s.branches.finished ∧
      s'.openGroups = s.openGroups ∧ s'.flags = {} := by
  induction alternatives generalizing s with
  | nil => exact absurd rfl hne
  | cons tokens alternatives ih =>
    obtain ⟨htokens, halternatives⟩ := List.forall_mem_cons.1 h
    by_cases hlast : alternatives = []
    · subst hlast
      obtain ⟨k, operator, hk, hreach⟩ := reaches_tokens htokens hrest pattern hs
      let items := (exprs s.groupCount tokens).map Plain.toRegex
      refine ⟨k, s.add items (names tokens).length operator,
        by simpa [joined] using hk, by simpa [joined] using hreach, ?_, rfl, hs⟩
      simp [items, Reader.add, Regex.Branches.nextAlternative, hitems, choice,
        Plain.toRegex_sequence]
    · have hbar : ('|' :: (patternChars (joined alternatives) ++ rest)).head? ≠ some '?' := by simp
      obtain ⟨k, operator, hk, hreach⟩ := reaches_tokens htokens hbar pattern hs
      let s₁ := s.add ((exprs s.groupCount tokens).map Plain.toRegex) (names tokens).length operator
      have hflags : s₁.nextAlternative.flags = {} := hs
      have hstep : Reaches pattern 1 s₁ ('|' :: (patternChars (joined alternatives) ++ rest))
          s₁.nextAlternative (patternChars (joined alternatives) ++ rest) := .of_step rfl
      obtain ⟨l, s', hl, hreach', hfinished, hopen, hflags'⟩ := ih hlast halternatives hflags rfl
      have htext : patternChars (joined (tokens :: alternatives)) ++ rest =
          patternChars tokens ++ '|' :: (patternChars (joined alternatives) ++ rest) := by
        simp [joined_cons hlast, patternChars, Token.pattern]
      refine ⟨k + 1 + l, s', ?_, ?_, ?_, hopen, hflags'⟩
      · have := congrArg List.length htext
        simp only [List.length_append, List.length_cons] at this
        omega
      · rw [htext]
        exact (hreach.trans hstep).trans hreach'
      · rw [hfinished]
        simp [s₁, Reader.add, Reader.nextAlternative, Regex.Branches.nextAlternative, hitems,
          choice, Plain.toRegex_sequence]

/-- The pattern of a choice reads as its alternatives between the two anchors. -/
theorem read_anchored {alternatives : List (List Token)} (hne : alternatives ≠ [])
    (h : ∀ tokens ∈ alternatives, ∀ t ∈ tokens, t.IsPlain) :
    Regex.read (anchored (patternChars (joined alternatives))) =
      .ok (Plain.anchored (.seq (.alternatives (choice 0 alternatives))
        (.seq (.anchor .endText) .empty))).toRegex := by
  let pattern := anchored (patternChars (joined alternatives))
  let s₁ : Reader := ({} : Reader).push (Regex.anchor .beginText)
  let s₂ : Reader := s₁.openSyntax (.unnumbered {})
  have hbegin : Reaches pattern 1 {} pattern s₁
      ('(' :: '?' :: ':' :: (patternChars (joined alternatives) ++ [')', '$'])) := .of_step rfl
  have hopen : Reaches pattern 1 s₁
      ('(' :: '?' :: ':' :: (patternChars (joined alternatives) ++ [')', '$'])) s₂
      (patternChars (joined alternatives) ++ [')', '$']) := .of_step rfl
  have hclosing : [')', '$'].head? ≠ some '?' := by decide
  have hflags : s₂.flags = {} := rfl
  obtain ⟨k, s₃, hk, hbody, hfinished, hopenGroups, hflags₃⟩ :=
    reaches_joined hne h hclosing pattern hflags rfl
  let s₄ : Reader := { s₃ with
    branches := s₁.branches.push s₃.branches.toRegex
    openGroups := []
    flags := {}
    repetition := [] }
  have hclose : Reaches pattern 1 s₃ [')', '$'] s₄ ['$'] := by
    apply Reaches.of_step
    rw [Reader.step, Reader.closeGroup?, hopenGroups]
    rfl
  have hend : Reaches pattern 1 s₄ ['$'] (s₄.push (Regex.anchor .endText)) [] := .of_step rfl
  have hread := Regex.read_of_reaches
    ((((hbegin.trans hopen).trans hbody).trans hclose).trans hend)
    (by simp only [pattern, anchored, List.length_append, List.length_cons]; omega)
  have hinner : s₃.branches.toRegex = (Plain.alternatives (choice 0 alternatives)).toRegex := by
    rw [Regex.Branches.toRegex, hfinished, Plain.toRegex_alternatives]
    simp [s₂, s₁, Reader.openSyntax, Reader.openGroup, Reader.push]
  have hclosed : (s₄.push (Regex.anchor .endText)).openGroups = [] := rfl
  rw [hread, if_pos hclosed]
  change Except.ok (Regex.seq (.anchor .beginText)
    (.seq s₃.branches.toRegex (.seq (.anchor .endText) .empty))) = _
  rw [hinner]
  rfl

end RequestRouting.Template
