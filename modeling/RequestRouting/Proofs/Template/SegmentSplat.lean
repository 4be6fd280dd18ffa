import RequestRouting.Proofs.Template.Anchors
import RequestRouting.Proofs.Template.LiteralText
import RequestRouting.Proofs.Template.LostNames

/-!
# A segment in front of a variable for the rest

The name of a variable for the rest begins behind the leftmost brace that no slash separates from
its end. A segment with a slash behind it is out of reach. Without one, its brace opens the name,
which then spans both variables and the text between them, and no group can be called that.
-/

namespace RequestRouting.Template

open RequestRouting.Regex (GroupSyntax Plain Reader closing)
open RequestRouting.Regex.Reader (Reaches)
open RequestRouting.Text (upTo)

def segmentSplatSource (literal first between last : String) : String :=
  literal ++ "\x7b" ++ first ++ "\x7d" ++ between ++ "\x7b" ++ last ++ "\x7d**"

def segmentSplatPattern (literal first between last : String) : String :=
  "^(?:" ++ literal ++ "(?P<" ++ first ++ ">[^/]*)" ++ between ++ "(?P<" ++ last ++ ">.*))$"

/-- The name that reaches from the first opening brace to the last closing one. -/
def spanningName (first between last : String) : List Char :=
  first.toList ++ '\x7d' :: (between.toList ++ '\x7b' :: last.toList)

section Slash

variable {literal first between last : String}

def segmentSplatTokens (literal first between last : String) : List Token :=
  literalText literal.toList ++
    .segment first :: (literalText between.toList ++ [.splat last])

theorem source_segmentSplatTokens :
    source (segmentSplatTokens literal first between last) =
      segmentSplatSource literal first between last := by
  have hsplit : segmentSplatTokens literal first between last = literalText literal.toList ++
      ([.segment first] ++ (literalText between.toList ++ [.splat last])) := rfl
  rw [hsplit, source_append, source_append, source_append, source_literalText, source_literalText,
    ← String.toList_inj]
  simp [source_toList, segmentSplatSource, Token.chars, Token.text]

theorem names_segmentSplatTokens :
    names (segmentSplatTokens literal first between last) = [first, last] := by
  rw [segmentSplatTokens, names_literalText_append]
  exact congrArg (first :: ·) (names_literalText_append between.toList [.splat last])

theorem patternChars_literalText_append (text : List Char) (tokens : List Token) :
    patternChars (literalText text ++ tokens) = text ++ patternChars tokens := by
  have hchars : ∀ c, (Token.literal c).pattern.toList = [c] := fun c => String.toList_singleton c
  have hliteral := @flatMap_literalText (fun t => t.pattern.toList) hchars text
  rw [patternChars, List.flatMap_append, hliteral]
  rfl

theorem patternChars_literalText (text : List Char) : patternChars (literalText text) = text := by
  simpa [patternChars] using patternChars_literalText_append text []

theorem IsLiteral.isPlain {text : List Char} (h : IsLiteral text) :
    ∀ t ∈ literalText text, t.IsPlain := by
  have hgrammatical : Grammatical (literalText text ++ []) :=
    Grammatical.literalText_append h (by decide +kernel)
  simpa using hgrammatical.isPlain

theorem exprs_literalText (groups : Nat) (text : List Char) :
    exprs groups (literalText text) = text.map fun c => .chars (.single c) := by
  induction text with
  | nil => rfl
  | cons c text ih => exact congrArg (Plain.chars (.single c) :: ·) ih

theorem anchored_segmentSplatTokens :
    String.ofList (anchored (patternChars (segmentSplatTokens literal first between last))) =
      segmentSplatPattern literal first between last := by
  rw [segmentSplatTokens, patternChars_literalText_append, patternChars_cons,
    patternChars_literalText_append, ← String.toList_inj]
  simp [segmentSplatPattern, anchored, patternChars, Token.pattern]

theorem shielded_of_slash {text : List Char} (h : '/' ∈ text) (tokens : List Token) :
    Shielded (literalText text ++ tokens) := by
  induction text with
  | nil => cases h
  | cons c text ih =>
    rw [literalText_cons, List.cons_append, shielded_cons]
    rcases List.mem_cons.1 h with rfl | h
    · exact .inl rfl
    · exact .inr ⟨by simp [Token.isSplat], ih h⟩

theorem grammatical_segmentSplatTokens (hliteral : IsLiteral literal.toList)
    (hbetween : IsLiteral between.toList) (hfirst : IsName first)
    (hlast : IsName last) (hslash : '/' ∈ between.toList) :
    Grammatical (segmentSplatTokens literal first between last) := by
  have hsplat : Grammatical [.splat last] := Grammatical.cons_splat hlast (by decide +kernel)
  have hrest := hsplat.literalText_append hbetween
  have hstars : (literalText between.toList ++ [Token.splat last]).head? ≠ some .bareSplat := by
    cases between.toList <;> simp
  exact (hrest.cons_segment hfirst hstars (shielded_of_slash hslash _)).literalText_append hliteral

end Slash

section NoSlash

variable {literal first between last : String}

/-- Braces inside a name do not end it; only the first stars do. -/
theorem nameBefore?_stars {name : List Char} (hne : name ≠ []) (hslash : '/' ∉ name)
    (hstar : '*' ∉ name) :
    nameBefore? ['\x7d', '*', '*'] (name ++ ['\x7d', '*', '*']) = some (name, []) := by
  induction name with
  | nil => exact absurd rfl hne
  | cons c name ih =>
    obtain ⟨hc, hslash⟩ := not_or.1 (mt List.mem_cons.2 hslash)
    obtain ⟨-, hstar⟩ := not_or.1 (mt List.mem_cons.2 hstar)
    rw [List.cons_append, nameBefore?, if_neg (Ne.symm hc)]
    cases name with
    | nil => rfl
    | cons d name =>
      have hdrop : ['\x7d', '*', '*'].isPrefixOf? (d :: name ++ ['\x7d', '*', '*']) = none := by
        cases name with
        | nil => simp [List.isPrefixOf?]
        | cons e name =>
          have he : '*' ≠ e := by
            rintro rfl
            exact hstar (by simp)
          simp [List.isPrefixOf?, he]
      rw [hdrop, ih (List.cons_ne_nil d name) hslash hstar]
      rfl

section Expansion

variable (hliteral : IsLiteral literal.toList) (hbetween : IsLiteral between.toList)
  (hfirst : IsName first) (hlast : IsName last)

include hliteral hbetween hfirst hlast

theorem findVariable?_spanningGroup (stars : List Char) :
    findVariable? ('\x7d' :: stars)
      (literal.toList ++ splatGroup (spanningName first between last)) = none := by
  have hsplit : literal.toList ++ splatGroup (spanningName first between last) =
      (literal.toList ++ ['(', '?', 'P', '<'] ++ first.toList ++ '\x7d' :: between.toList) ++
        '\x7b' :: (last.toList ++ ['>', '.', '*', ')']) := by
    simp [splatGroup, groupStart, spanningName]
  have hbraces : '\x7b' ∉ literal.toList ∧ '\x7b' ∉ between.toList :=
    ⟨hliteral.not_mem (by decide), hbetween.not_mem (by decide)⟩
  have hopen : '\x7b' ∉
      literal.toList ++ ['(', '?', 'P', '<'] ++ first.toList ++ '\x7d' :: between.toList := by
    simp [hbraces, hfirst.not_mem (c := '\x7b') rfl]
  have hclose : '\x7d' ∉ last.toList ++ ['>', '.', '*', ')'] := by
    simp [hlast.not_mem (c := '\x7d') rfl]
  have hbehind : '\x7b' ∉ last.toList ++ ['>', '.', '*', ')'] := by
    simp [hlast.not_mem (c := '\x7b') rfl]
  rw [hsplit]
  apply findVariable?_eq_none
  exact .append (.of_not_mem hopen) ⟨fun _ => nameBefore?_eq_none_of_not_mem hclose,
    .of_not_mem hbehind⟩

theorem findSplat?_spanningGroup :
    findSplat? (literal.toList ++ splatGroup (spanningName first between last)) = none := by
  have hstars : '*' ∉ literal.toList ∧ '*' ∉ between.toList :=
    ⟨hliteral.not_mem (by decide), hbetween.not_mem (by decide)⟩
  have hnames : '*' ∉ first.toList ∧ '*' ∉ last.toList := ⟨hfirst.not_mem rfl, hlast.not_mem rfl⟩
  apply findSplat?_eq_none_of_count
  simp [splatGroup, groupStart, spanningName, List.count_append, List.count_eq_zero_of_not_mem,
    hstars, hnames]

theorem splatVariables_spanningName (hslash : '/' ∉ between.toList) :
    splatVariables (segmentSplatSource literal first between last).toList =
      (literal.toList ++ splatGroup (spanningName first between last),
        [spanningName first between last]) := by
  let name := spanningName first between last
  have hsource : (segmentSplatSource literal first between last).toList =
      literal.toList ++ '\x7b' :: (name ++ ['\x7d', '*', '*']) := by
    simp [segmentSplatSource, spanningName, name]
  have hopen : '\x7b' ∉ literal.toList := hliteral.not_mem (by decide)
  have hstar : '*' ∉ between.toList := hbetween.not_mem (by decide)
  have hname : name ≠ [] ∧ '/' ∉ name ∧ '*' ∉ name := by
    simp [name, spanningName, hslash, hstar, hfirst.not_mem (c := '/') rfl,
      hfirst.not_mem (c := '*') rfl, hlast.not_mem (c := '/') rfl, hlast.not_mem (c := '*') rfl]
  have hfind : findVariable? ['\x7d', '*', '*']
      (literal.toList ++ '\x7b' :: (name ++ ['\x7d', '*', '*'])) =
      some ⟨literal.toList, name, []⟩ := by
    rw [findVariable?_append _ _ (.of_not_mem hopen), findVariable?, if_pos rfl,
      nameBefore?_stars hname.1 hname.2.1 hname.2.2]
    simp
  have hnone := findVariable?_spanningGroup hliteral hbetween hfirst hlast ['*', '*']
  rw [hsource, splatVariables, replaceAll_once hfind _ (List.count_pos_iff.2 (by simp))]
  · rw [List.append_nil]
  · rwa [List.append_nil]

theorem expand_spanningName (hslash : '/' ∉ between.toList) :
    expand (segmentSplatSource literal first between last).toList =
      (literal.toList ++ splatGroup (spanningName first between last),
        [spanningName first between last]) := by
  have hsplats := splatVariables_spanningName hliteral hbetween hfirst hlast hslash
  have hsegments : segmentVariables _ = (_, []) :=
    replaceAll_of_none (findVariable?_spanningGroup hliteral hbetween hfirst hlast []) _
  have hbare : bareSplats _ = (_, []) :=
    replaceAll_of_none (findSplat?_spanningGroup hliteral hbetween hfirst hlast) _
  rw [expand, hsplats]
  simp only [hsegments, hbare]
  rfl

end Expansion

/-- The closing brace of the segment stands in front of any bracket that could end the name. -/
theorem isName_upTo_spanningName (hfirst : IsName first) (between last : String) :
    GroupSyntax.isName (upTo '>' (spanningName first between last)) = false := by
  rw [spanningName, Text.upTo_append_of_not_mem (hfirst.not_mem rfl),
    Text.upTo_cons_of_ne (by decide)]
  have hbrace : Character.isNameChar '\x7d' = false := by decide +kernel
  simp [GroupSyntax.isName, hbrace]

theorem reaches_literalText {text rest : List Char} (h : IsLiteral text)
    (hrest : rest.head? ≠ some '?') (pattern : List Char) {s : Reader} (hs : s.flags = {}) :
    ∃ k operator, k ≤ text.length ∧ Reaches pattern k s (text ++ rest)
      (s.add (text.map fun c => .chars (.single c)) 0 operator) rest := by
  obtain ⟨k, operator, hk, hreach⟩ := reaches_tokens h.isPlain hrest pattern hs
  have hnames := names_literalText_append text []
  rw [List.append_nil] at hnames
  rw [patternChars_literalText] at hk hreach
  rw [exprs_literalText, List.map_map, hnames] at hreach
  exact ⟨k, operator, hk, hreach⟩

theorem read_spanningName (hliteral : IsLiteral literal.toList)
    (hfirst : IsName first) (between last : String) :
    Regex.read (anchored (literal.toList ++ splatGroup (spanningName first between last))) =
      .error (.badGroupName (groupStart (upTo '>' (spanningName first between last)))) := by
  let group := splatGroup (spanningName first between last)
  let pattern := anchored (literal.toList ++ group)
  obtain ⟨hclosing, behind, hbehind⟩ := Text.append_cons_eq_upTo '>'
    (spanningName first between last) (['.', '*', ')'] ++ closing)
  have hgroup : group ++ closing =
      '(' :: '?' :: 'P' :: '<' ::
        (upTo '>' (spanningName first between last) ++ '>' :: behind) := by
    simp [group, splatGroup, groupStart, ← hbehind]
  have hhead : (group ++ closing).head? ≠ some '?' := by simp [hgroup]
  have hflags : (({} : Reader).within anchorGroup).flags = {} := rfl
  obtain ⟨k, operator, hk, hreach⟩ := reaches_literalText hliteral hhead pattern hflags
  have hbegin := reaches_anchorGroup pattern (literal.toList ++ group)
  rw [List.append_assoc] at hbegin
  have hopen := hbegin.trans hreach
  rw [hgroup] at hopen
  refine Regex.read_of_reaches_error hopen ?_ ?_
  · exact Reader.step_open_error (isName_upTo_spanningName hfirst between last) hclosing _ _ _
  · simp only [anchored, List.length_append, List.length_cons]
    omega

theorem compile_spanningName (hliteral : IsLiteral literal.toList)
    (hbetween : IsLiteral between.toList) (hfirst : IsName first)
    (hlast : IsName last) (hslash : '/' ∉ between.toList) :
    compile (segmentSplatSource literal first between last) =
      .error (.invalid (segmentSplatSource literal first between last) (.unreadable
        (.badGroupName (groupStart (upTo '>' (spanningName first between last)))))) := by
  have hexpand := expand_spanningName hliteral hbetween hfirst hlast hslash
  have hrepeated : repeatedNames [String.ofList (spanningName first between last)] = [] :=
    repeatedNames_eq_nil.2 (List.nodup_singleton _)
  have hordered : (inTextOrder?
      (anchored (literal.toList ++ splatGroup (spanningName first between last)))
      [String.ofList (spanningName first between last)]).isSome := by
    rw [isSome_inTextOrder?_iff, List.forall_mem_singleton, isSome_groupIndex?_anchored_iff,
      String.toList_ofList]
    exact ⟨literal.toList, ['.', '*', ')'], by simp [splatGroup]⟩
  obtain ⟨ordered, hordered⟩ := Option.isSome_iff_exists.1 hordered
  rw [compile, hexpand]
  simp only [List.map_singleton, hrepeated, hordered, read_spanningName hliteral hfirst]
  exact if_neg (by simp)

end NoSlash

/-- A segment and a variable for the rest can both be read if a slash stands between them. If none
does, they are taken for one name, which no group can have. -/
theorem compile_segment_splat {literal first between last : String}
    (hliteral : IsLiteral literal.toList) (hbetween : IsLiteral between.toList)
    (hfirst : IsName first) (hlast : IsName last) (hne : first ≠ last) :
    ('/' ∈ between.toList →
      ∃ compiled, compile (segmentSplatSource literal first between last) = .ok compiled ∧
        compiled.pattern = segmentSplatPattern literal first between last ∧
        compiled.variables = [first, last]) ∧
    ('/' ∉ between.toList →
      compile (segmentSplatSource literal first between last) =
        .error (.invalid (segmentSplatSource literal first between last) (.unreadable
          (.badGroupName (groupStart (upTo '>' (spanningName first between last))))))) := by
  constructor
  · intro hslash
    have hnames := @names_segmentSplatTokens literal first between last
    have hgrammatical :=
      grammatical_segmentSplatTokens hliteral hbetween hfirst hlast hslash
    have hcompile := compile_grammatical hgrammatical (by simpa [hnames] using hne)
    rw [source_segmentSplatTokens] at hcompile
    refine ⟨_, hcompile, ?_, ?_⟩
    · rw [compiledChoice, joined_singleton, anchored_segmentSplatTokens]
    · rw [compiledChoice, joined_singleton, hnames]
  · exact compile_spanningName hliteral hbetween hfirst hlast

theorem compile_segment_splat_samples :
    (∃ compiled, compile "/\x7bx\x7d-/\x7by\x7d**" = .ok compiled ∧
      compiled.pattern = "^(?:/(?P<x>[^/]*)-/(?P<y>.*))$" ∧ compiled.variables = ["x", "y"]) ∧
    compile "/\x7bx\x7d-\x7by\x7d**" = .error (.invalid "/\x7bx\x7d-\x7by\x7d**"
      (.unreadable (.badGroupName "(?P<x\x7d-\x7by>".toList))) := by
  have hslash := @compile_segment_splat "/" "x" "-/" "y" (by decide +kernel) (by decide +kernel)
    (by decide +kernel) (by decide +kernel) (by decide)
  have hnone := @compile_segment_splat "/" "x" "-" "y" (by decide +kernel) (by decide +kernel)
    (by decide +kernel) (by decide +kernel) (by decide)
  exact ⟨hslash.1 (by decide +kernel), hnone.2 (by decide +kernel)⟩

/-- Two variables that touch are not read as a segment and a variable for the rest. -/
theorem compile_segment_splat_adjacent :
    ¬ ∀ literal first between last : String, IsLiteral literal.toList →
      IsLiteral between.toList → '/' ∉ between.toList → IsName first → IsName last →
      first ≠ last →
      ∃ compiled, compile (segmentSplatSource literal first between last) = .ok compiled ∧
        compiled.variables = [first, last] ∧
        compiled.pattern = segmentSplatPattern literal first between last := by
  intro h
  obtain ⟨compiled, hcompiled, -⟩ := h "/" "x" "" "y" (by decide +kernel) (by decide +kernel)
    (by decide +kernel) (by decide +kernel) (by decide +kernel) (by decide)
  have hinvalid : compile (segmentSplatSource "/" "x" "" "y") =
      .error (.invalid "/\x7bx\x7d\x7by\x7d**"
        (.unreadable (.badGroupName "(?P<x\x7d\x7by>".toList))) := by
    decide +kernel
  rw [hinvalid] at hcompiled
  cases hcompiled

end RequestRouting.Template
