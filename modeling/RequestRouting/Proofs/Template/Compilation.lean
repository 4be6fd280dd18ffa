import Mathlib.Data.List.Nodup
import RequestRouting.Proofs.Template.Expansion
import RequestRouting.Proofs.Template.Reading

/-!
# Compiling grammatical templates

A grammatical template compiles if and only if its names are distinct. The expansion finds the
names pass by pass; sorting them by where their groups open puts them back in the order of the
tokens.
-/

namespace RequestRouting.Template

open RequestRouting.Text (indexOf?)
open RequestRouting.Regex (Plain)

theorem mem_repeatedNames {name : String} {names : List String} :
    name ∈ repeatedNames names ↔ 1 < names.count name := by
  rw [repeatedNames, Text.mem_sortedSet, List.mem_filter]
  constructor
  · rintro ⟨-, h⟩
    simpa using h
  · intro h
    have hm : name ∈ names := List.count_pos_iff.1 (by omega)
    exact ⟨hm, by simpa using h⟩

theorem repeatedNames_eq_nil {names : List String} : repeatedNames names = [] ↔ names.Nodup := by
  rw [List.nodup_iff_count_le_one, List.eq_nil_iff_forall_not_mem]
  simp only [mem_repeatedNames, Nat.not_lt]

/-- What makes a template compile to this form. -/
structure Compiles (source : String) (compiled : Compiled) : Prop where
  distinct : ((expand source.toList).2.map String.ofList).Nodup
  ordered : inTextOrder? (anchored (expand source.toList).1)
    ((expand source.toList).2.map String.ofList) = some compiled.variables
  readable : Regex.read (anchored (expand source.toList).1) = .ok compiled.regex
  noOthers : compiled.groupCount = compiled.variables.length

/-- The three ends of compiling. A template is found invalid for a repeated name, or for its pattern
after every name was found in it. -/
theorem compile_cases (source : String) :
    (∃ compiled, compile source = .ok compiled ∧ Compiles source compiled) ∨
    (compile source = .error .lostName ∧ ((expand source.toList).2.map String.ofList).Nodup ∧
      inTextOrder? (anchored (expand source.toList).1)
        ((expand source.toList).2.map String.ofList) = none) ∨
    ∃ reason, compile source = .error (.invalid source reason) ∧
      (((expand source.toList).2.map String.ofList).Nodup →
        inTextOrder? (anchored (expand source.toList).1)
          ((expand source.toList).2.map String.ofList) ≠ none) := by
  rw [← repeatedNames_eq_nil]
  unfold compile
  dsimp only
  split
  · next hrepeated => exact .inr (.inr ⟨_, rfl, fun hd => absurd hd hrepeated⟩)
  · next hrepeated =>
    have hrepeated := not_not.1 hrepeated
    split
    · next hordered => exact .inr (.inl ⟨rfl, hrepeated, hordered⟩)
    · next ordered hordered =>
      split
      · exact .inr (.inr ⟨_, rfl, by simp [hordered]⟩)
      · next regex hread =>
        split
        · next hgroups =>
          exact .inl ⟨_, rfl, repeatedNames_eq_nil.1 hrepeated, hordered, hread, hgroups⟩
        · exact .inr (.inr ⟨_, rfl, by simp [hordered]⟩)

theorem compiles_of_compile {source : String} {compiled : Compiled}
    (h : compile source = .ok compiled) : Compiles source compiled := by
  rcases compile_cases source with ⟨found, hfound, hcompiles⟩ | ⟨hlost, -⟩ | ⟨reason, hinvalid, -⟩
  · cases h.symm.trans hfound
    exact hcompiles
  · cases h.symm.trans hlost
  · cases h.symm.trans hinvalid

theorem compile_eq {source : String} {text : List Char} {found : List (List Char)} {regex : Regex}
    {ordered : List String} (hexpand : expand source.toList = (text, found))
    (hdistinct : (found.map String.ofList).Nodup)
    (hordered : inTextOrder? (anchored text) (found.map String.ofList) = some ordered)
    (hread : Regex.read (anchored text) = .ok regex)
    (hgroups : regex.groupNames.length = ordered.length) :
    compile source = .ok ⟨String.ofList (anchored text), regex, ordered⟩ := by
  rw [compile, hexpand]
  simp only [repeatedNames_eq_nil.2 hdistinct, hordered, hread]
  rw [if_neg (by simp)]
  exact if_pos hgroups

def foundNames (tokens : List Token) : List String :=
  (tokens.filterMap Token.splatName? ++ tokens.filterMap Token.segmentName?).map String.ofList

theorem foundNames_perm (tokens : List Token) : (foundNames tokens).Perm (names tokens) := by
  induction tokens with
  | nil => exact .nil
  | cons t tokens ih =>
    cases t with
    | literal | bareSplat => exact ih
    | segment name =>
      rw [foundNames, List.map_append] at ih
      have hfound : (tokens.filterMap Token.splatName?).map String.ofList ++
          name :: (tokens.filterMap Token.segmentName?).map String.ofList =
          foundNames (.segment name :: tokens) := by
        rw [foundNames, List.map_append]
        simp [Token.splatName?, Token.segmentName?, List.filterMap_cons]
      rw [← hfound]
      exact List.perm_middle.trans (ih.cons name)
    | splat name =>
      have hfound : name :: foundNames tokens = foundNames (.splat name :: tokens) := by
        simp [foundNames, Token.splatName?, Token.segmentName?, List.filterMap_cons]
      rw [← hfound]
      exact ih.cons name

/-- Where a text first opens a group of that name. -/
def groupIndex? (text : List Char) (name : String) : Option Nat :=
  indexOf? (groupStart name.toList) text

theorem groupIndex?_append_of_not_mem {before : List Char} (h : '(' ∉ before) (rest : List Char)
    (name : String) :
    groupIndex? (before ++ rest) name = (groupIndex? rest name).map (· + before.length) :=
  Text.indexOf?_append_of_not_mem h rest

theorem groupIndex?_group_self (name : String) (rest : List Char) :
    groupIndex? (groupStart name.toList ++ rest) name = some 0 :=
  Text.indexOf?_word_append (by simp [groupStart]) rest

theorem isPrefixOf_group_ne {name other : String} (hname : IsName name) (hother : IsName other)
    (hne : other ≠ name) (rest : List Char) :
    (groupStart name.toList).isPrefixOf (groupStart other.toList ++ rest) = false := by
  rw [Bool.eq_false_iff, Ne, List.isPrefixOf_iff_prefix]
  rintro ⟨after, he⟩
  have he := he.symm
  simp only [groupStart, List.append_assoc, List.cons_append, List.nil_append, List.cons.injEq,
    true_and] at he
  have hcut := Text.cut_append_cons (hother.not_mem (c := '>') rfl) rest
  rw [he, Text.cut_append_cons (hname.not_mem (c := '>') rfl)] at hcut
  simp only [Option.some.injEq, Prod.mk.injEq, String.toList_inj] at hcut
  exact hne hcut.1.symm

theorem groupIndex?_group_ne {name other : String} (hname : IsName name) (hother : IsName other)
    (hne : other ≠ name) {body : List Char} (hbody : '(' ∉ body) (rest : List Char) :
    groupIndex? (groupStart other.toList ++ body ++ rest) name =
      (groupIndex? rest name).map (· + (groupStart other.toList ++ body).length) := by
  have hskipped := isPrefixOf_group_ne hname hother hne (body ++ rest)
  let inside := ['?', 'P', '<'] ++ other.toList ++ ['>'] ++ body
  have hmem : '(' ∉ inside := by simp [inside, hbody, hother.not_mem (c := '(') rfl]
  have hsplit : groupStart other.toList ++ body ++ rest = '(' :: (inside ++ rest) := by
    simp [inside, groupStart]
  have hlength : (groupStart other.toList ++ body).length = inside.length + 1 := by
    simp [inside, groupStart]
  have htail := groupIndex?_append_of_not_mem hmem rest name
  rw [groupIndex?] at htail
  rw [← List.append_assoc, hsplit] at hskipped
  rw [hsplit, groupIndex?, indexOf?, hskipped, hlength]
  simp [htail, Function.comp_def, Nat.add_assoc]

theorem groupIndex?_group {name other : String} (hname : IsName name) (hother : IsName other)
    {body : List Char} (hbody : '(' ∉ body) (rest : List Char) :
    groupIndex? (groupStart other.toList ++ body ++ rest) name =
      if other = name then some 0
      else (groupIndex? rest name).map (· + (groupStart other.toList ++ body).length) := by
  by_cases hne : other = name
  · rw [if_pos hne, hne, List.append_assoc, groupIndex?_group_self]
  · rw [if_neg hne, groupIndex?_group_ne hname hother hne hbody]

theorem groupIndex?_pattern {t : Token} {tokens : List Token} (h : Rewritable (t :: tokens))
    {name : String} (hname : IsName name) (rest : List Char) :
    groupIndex? (t.pattern.toList ++ rest) name =
      if t.name? = some name then some 0
      else (groupIndex? rest name).map (· + t.pattern.toList.length) := by
  cases t with
  | literal c =>
    have hc : c ≠ '(' := h.literal_ne (by decide) (by decide)
    exact groupIndex?_append_of_not_mem (by simpa [Token.pattern] using hc.symm) rest name
  | segment other =>
    have hbody : '(' ∉ ['[', '^', '/', ']', '*', ')'] := by decide
    have hgroup := groupIndex?_group hname (h.isName rfl) hbody rest
    simpa [Token.pattern, groupStart, Token.name?] using hgroup
  | splat other =>
    have hbody : '(' ∉ ['.', '*', ')'] := by decide
    have hgroup := groupIndex?_group hname (h.isName rfl) hbody rest
    simpa [Token.pattern, groupStart, Token.name?] using hgroup
  | bareSplat =>
    exact groupIndex?_append_of_not_mem (by simp [Token.pattern]) rest name

/-- The text opens a group for every name, one behind the other. -/
structure OpensInOrder (text : List Char) (names : List String) (position : String → Nat) :
    Prop where
  opens : ∀ name ∈ names, groupIndex? text name = some (position name)
  increasing : names.Pairwise fun a b => position a < position b

namespace OpensInOrder

variable {text longer : List Char} {names : List String} {position : String → Nat} {n : Nat}

theorem shift (h : OpensInOrder text names position)
    (hlonger : ∀ name ∈ names, groupIndex? longer name = (groupIndex? text name).map (· + n)) :
    OpensInOrder longer names fun name => position name + n := by
  constructor
  · intro name hn
    rw [hlonger name hn, h.opens name hn]
    rfl
  · apply h.increasing.imp
    intro a b hab
    exact Nat.add_lt_add_right hab n

theorem cons (h : OpensInOrder text names position) {first : String} (hfirst : first ∉ names)
    (hzero : groupIndex? longer first = some 0) (hn : 0 < n)
    (hlonger : ∀ name ∈ names, groupIndex? longer name = (groupIndex? text name).map (· + n)) :
    ∃ position', OpensInOrder longer (first :: names) position' := by
  obtain ⟨hopens, hincreasing⟩ := h.shift hlonger
  have hne : ∀ name ∈ names, name ≠ first := by
    rintro name hm rfl
    exact hfirst hm
  refine ⟨Function.update (fun name => position name + n) first 0, ?_, ?_⟩
  · intro name hm
    rcases List.mem_cons.1 hm with rfl | hm
    · rw [hzero, Function.update_self]
    · rw [hopens name hm, Function.update_of_ne (hne name hm)]
  · apply List.pairwise_cons.2
    constructor
    · intro name hm
      rw [Function.update_self, Function.update_of_ne (hne name hm)]
      omega
    · apply hincreasing.imp_of_mem
      intro a b ha hb hab
      rwa [Function.update_of_ne (hne a ha), Function.update_of_ne (hne b hb)]

theorem mergeSort_eq_of_perm {xs ys : List (Nat × String)} (hp : xs.Perm ys)
    (h : ys.Pairwise fun a b => a.1 < b.1) : (xs.mergeSort fun a b => a.1 ≤ b.1) = ys := by
  have hsorted : (xs.mergeSort fun a b => a.1 ≤ b.1).Pairwise
      fun a b => decide (a.1 ≤ b.1) = true := by
    apply List.pairwise_mergeSort
    · intro a b c hab hbc
      simp only [decide_eq_true_eq] at hab hbc ⊢
      exact Nat.le_trans hab hbc
    · intro a b
      simpa using Nat.le_total a.1 b.1
  have hkeys : (ys.map (·.1)).Nodup := List.pairwise_map.2 (h.imp Nat.ne_of_lt)
  have hperm := (List.mergeSort_perm xs fun a b => a.1 ≤ b.1).trans hp
  refine hperm.eq_of_pairwise ?_ (hsorted.imp of_decide_eq_true) (h.imp Nat.le_of_lt)
  intro a b ha hb hab hba
  exact List.inj_on_of_nodup_map hkeys (hperm.mem_iff.1 ha) hb (Nat.le_antisymm hab hba)

theorem inTextOrder?_eq (h : OpensInOrder text names position) {found : List String}
    (hp : found.Perm names) : inTextOrder? text found = some names := by
  have hkeyed : (found.mapM fun name => (indexOf? (groupStart name.toList) text).map fun i =>
      (i, name)) = some (found.map fun name => (position name, name)) := by
    have hfound : ∀ name ∈ found, groupIndex? text name = some (position name) := by
      intro name hm
      exact h.opens name (hp.mem_iff.1 hm)
    clear hp
    induction found with
    | nil => rfl
    | cons name found ih =>
      obtain ⟨hname, hfound⟩ := List.forall_mem_cons.1 hfound
      rw [groupIndex?] at hname
      simp [List.mapM_cons, hname, ih hfound]
  rw [inTextOrder?, hkeyed, Option.map_some,
    mergeSort_eq_of_perm (hp.map _) (List.pairwise_map.2 h.increasing), List.map_map]
  exact congrArg some (List.map_id names)

end OpensInOrder

theorem inTextOrder?_of_increasing {text : List Char} {found names : List String}
    (hp : found.Perm names) (hopens : ∀ name ∈ names, (groupIndex? text name).isSome)
    (h : names.Pairwise fun a b => (groupIndex? text a).getD 0 < (groupIndex? text b).getD 0) :
    inTextOrder? text found = some names := by
  have hposition : OpensInOrder text names fun name => (groupIndex? text name).getD 0 := by
    refine ⟨?_, h⟩
    intro name hname
    obtain ⟨i, hi⟩ := Option.isSome_iff_exists.1 (hopens name hname)
    rw [hi, Option.getD_some]
  exact hposition.inTextOrder?_eq hp

theorem groupIndex?_of_mapM {text : List Char} {found : List String} {keyed : List (Nat × String)}
    (h : (found.mapM fun name => (groupIndex? text name).map fun i => (i, name)) = some keyed) :
    keyed.map (·.2) = found ∧ ∀ name ∈ found, (groupIndex? text name).isSome := by
  induction found generalizing keyed with
  | nil =>
    cases h
    exact ⟨rfl, by simp⟩
  | cons name found ih =>
    rw [List.mapM_cons] at h
    obtain ⟨first, hfirst, h⟩ := Option.bind_eq_some_iff.1 h
    obtain ⟨rest, hrest, h⟩ := Option.bind_eq_some_iff.1 h
    cases h
    obtain ⟨i, hi, rfl⟩ := Option.map_eq_some_iff.1 hfirst
    obtain ⟨hnames, hindices⟩ := ih hrest
    exact ⟨congrArg (name :: ·) hnames, List.forall_mem_cons.2 ⟨by rw [hi]; rfl, hindices⟩⟩

theorem perm_of_inTextOrder? {text : List Char} {found ordered : List String}
    (h : inTextOrder? text found = some ordered) :
    ordered.Perm found ∧ ∀ name ∈ found, (groupIndex? text name).isSome := by
  obtain ⟨keyed, hkeyed, rfl⟩ := Option.map_eq_some_iff.1 h
  obtain ⟨hnames, hindices⟩ := groupIndex?_of_mapM hkeyed
  refine ⟨?_, hindices⟩
  have hsorted := (List.mergeSort_perm keyed fun a b => a.1 ≤ b.1).map (·.2)
  rwa [hnames] at hsorted

theorem isSome_inTextOrder?_iff {text : List Char} {found : List String} :
    (inTextOrder? text found).isSome ↔ ∀ name ∈ found, (groupIndex? text name).isSome := by
  constructor
  · intro h
    obtain ⟨ordered, hordered⟩ := Option.isSome_iff_exists.1 h
    exact (perm_of_inTextOrder? hordered).2
  · intro h
    rw [inTextOrder?, Option.isSome_map]
    induction found with
    | nil => rfl
    | cons name found ih =>
      obtain ⟨hname, hfound⟩ := List.forall_mem_cons.1 h
      obtain ⟨i, hi⟩ := Option.isSome_iff_exists.1 hname
      obtain ⟨keyed, hkeyed⟩ := Option.isSome_iff_exists.1 (ih hfound)
      rw [groupIndex?] at hi
      simp [List.mapM_cons, hi, hkeyed]

theorem Compiles.nodup_variables {source : String} {compiled : Compiled}
    (h : Compiles source compiled) : compiled.variables.Nodup :=
  (perm_of_inTextOrder? h.ordered).1.nodup_iff.2 h.distinct

/-- The groups of a pattern open in the order of the tokens. -/
theorem exists_opensInOrder {tokens : List Token} (h : Rewritable tokens)
    (hd : (names tokens).Nodup) (rest : List Char) :
    ∃ position, OpensInOrder (patternChars tokens ++ rest) (names tokens) position := by
  induction tokens with
  | nil => exact ⟨fun _ => 0, by simp [names], .nil⟩
  | cons t tokens ih =>
    rw [patternChars_cons, List.append_assoc]
    have hskip : ∀ name ∈ names tokens, t.name? ≠ some name →
        groupIndex? (t.pattern.toList ++ (patternChars tokens ++ rest)) name =
          (groupIndex? (patternChars tokens ++ rest) name).map (· + t.pattern.toList.length) := by
      intro name hn hne
      rw [groupIndex?_pattern h (h.tail.names name hn), if_neg hne]
    cases ht : t.name? with
    | none =>
      have hnames : names (t :: tokens) = names tokens := List.filterMap_cons_none ht
      rw [hnames] at hd ⊢
      obtain ⟨position, hposition⟩ := ih h.tail hd
      exact ⟨_, hposition.shift fun name hn => hskip name hn (by simp [ht])⟩
    | some first =>
      have hnames : names (t :: tokens) = first :: names tokens := List.filterMap_cons_some ht
      rw [hnames] at hd ⊢
      obtain ⟨hfirst, hd⟩ := List.nodup_cons.1 hd
      obtain ⟨position, hposition⟩ := ih h.tail hd
      have hlength : 0 < t.pattern.toList.length := by cases t <;> simp [Token.pattern]
      refine hposition.cons hfirst ?_ hlength ?_
      · rw [groupIndex?_pattern h (h.isName ht), if_pos ht]
      · intro name hn
        apply hskip name hn
        rw [ht]
        rintro ⟨⟩
        exact hfirst hn

theorem groupIndex?_anchored (body : List Char) (name : String) :
    groupIndex? (anchored body) name = (groupIndex? (body ++ [')', '$']) name).map (· + 4) := by
  simp [groupIndex?, anchored, groupStart, indexOf?, Function.comp_def]

theorem inTextOrder?_foundNames {tokens : List Token} (h : Rewritable tokens)
    (hd : (names tokens).Nodup) :
    inTextOrder? (anchored (patternChars tokens)) (foundNames tokens) = some (names tokens) := by
  obtain ⟨position, hposition⟩ := exists_opensInOrder h hd [')', '$']
  have hanchored := hposition.shift fun name _ => groupIndex?_anchored (patternChars tokens) name
  exact hanchored.inTextOrder?_eq (foundNames_perm tokens)

def choiceExpr (alternatives : List (List Token)) : Plain :=
  .anchored (.seq (.alternatives (choice 0 alternatives)) (.seq (.anchor .endText) .empty))

theorem groupNames_sequence_exprs (groups : Nat) (tokens : List Token) :
    (Plain.sequence (exprs groups tokens)).toRegex.groupNames = (names tokens).map some := by
  induction tokens generalizing groups with
  | nil => rfl
  | cons t tokens ih =>
    have htail := ih (groups + t.arity)
    cases t with
    | literal | bareSplat => exact htail
    | segment name | splat name => exact congrArg (some name :: ·) htail

theorem groupNames_choice (groups : Nat) (alternatives : List (List Token)) :
    (Plain.alternatives (choice groups alternatives)).toRegex.groupNames =
      (alternatives.flatMap names).map some := by
  induction alternatives generalizing groups with
  | nil => rfl
  | cons tokens alternatives ih =>
    have hhead := groupNames_sequence_exprs groups tokens
    cases alternatives with
    | nil => simpa [choice, Plain.alternatives] using hhead
    | cons more alternatives =>
      have htail := ih (groups + (names tokens).length)
      rw [List.flatMap_cons, List.map_append, ← hhead, ← htail]
      rfl

theorem groupNames_choiceExpr (alternatives : List (List Token)) :
    (choiceExpr alternatives).toRegex.groupNames = (alternatives.flatMap names).map some := by
  rw [← groupNames_choice 0 alternatives]
  simp [choiceExpr, Plain.anchored, Plain.toRegex, Regex.groupNames]

def compiledChoice (alternatives : List (List Token)) : Compiled :=
  ⟨String.ofList (anchored (patternChars (joined alternatives))),
    (choiceExpr alternatives).toRegex, names (joined alternatives)⟩

theorem groupCount_compiledChoice (alternatives : List (List Token)) :
    (compiledChoice alternatives).groupCount = (names (joined alternatives)).length := by
  rw [Compiled.groupCount, compiledChoice, groupNames_choiceExpr, List.length_map, names_joined]

theorem Grammatical.isPlain {tokens : List Token} (h : Grammatical tokens) :
    ∀ t ∈ tokens, t.IsPlain := by
  intro t ht
  constructor
  · intro c hc
    exact h.literals c (List.mem_filterMap.2 ⟨t, ht, hc⟩)
  · intro name hn
    exact h.names name (List.mem_filterMap.2 ⟨t, ht, hn⟩)

theorem GrammaticalChoice.isPlain {alternatives : List (List Token)}
    (h : GrammaticalChoice alternatives) : ∀ tokens ∈ alternatives, ∀ t ∈ tokens, t.IsPlain := by
  induction alternatives with
  | nil => simp
  | cons tokens alternatives ih => exact List.forall_mem_cons.2 ⟨h.head.isPlain, ih h.tail⟩

theorem compile_joined {alternatives : List (List Token)} (hne : alternatives ≠ [])
    (h : GrammaticalChoice alternatives) (hd : (names (joined alternatives)).Nodup) :
    compile (source (joined alternatives)) = .ok (compiledChoice alternatives) := by
  have hfound : (foundNames (joined alternatives)).Nodup := (foundNames_perm _).nodup_iff.2 hd
  exact compile_eq (expand_source h.rewritable) hfound (inTextOrder?_foundNames h.rewritable hd)
    (read_anchored hne h.isPlain) (groupCount_compiledChoice alternatives)

theorem compile_repeated {tokens : List Token} (h : Rewritable tokens)
    (hd : ¬ (names tokens).Nodup) :
    compile (source tokens) = .error (.invalid (source tokens)
      (.repeatedNames (repeatedNames (foundNames tokens)))) := by
  have hrepeated : repeatedNames (foundNames tokens) ≠ [] := by
    rw [ne_eq, repeatedNames_eq_nil, (foundNames_perm tokens).nodup_iff]
    exact hd
  rw [compile, expand_source h]
  exact if_pos hrepeated

theorem joined_singleton (tokens : List Token) : joined [tokens] = tokens := by simp [joined]

theorem compile_grammatical {tokens : List Token} (h : Grammatical tokens)
    (hd : (names tokens).Nodup) : compile (source tokens) = .ok (compiledChoice [tokens]) := by
  have hcompile := compile_joined (List.cons_ne_nil tokens []) h.choice
  rw [joined_singleton] at hcompile
  exact hcompile hd

/-- A grammatical template compiles token by token, unless a name is repeated. -/
theorem compile_tokenwise {tokens : List Token} (h : Grammatical tokens) :
    ((names tokens).Nodup → ∃ compiled, compile (source tokens) = .ok compiled ∧
      compiled.pattern = "^(?:" ++ String.join (tokens.map Token.pattern) ++ ")$" ∧
      compiled.variables = names tokens ∧ compiled.groupCount = (names tokens).length) ∧
    (¬ (names tokens).Nodup → ∃ duplicates,
      compile (source tokens) =
        .error (.invalid (source tokens) (.repeatedNames duplicates)) ∧
      duplicates.Pairwise (· < ·) ∧
      ∀ name, name ∈ duplicates ↔ 1 < (names tokens).count name) := by
  have hpattern : (compiledChoice [tokens]).pattern =
      "^(?:" ++ String.join (tokens.map Token.pattern) ++ ")$" := by
    rw [← String.toList_inj]
    simp [compiledChoice, joined_singleton, anchored, patternChars, List.flatMap_map]
  have hnames : names (joined [tokens]) = names tokens := congrArg names (joined_singleton tokens)
  have hcount := groupCount_compiledChoice [tokens]
  rw [hnames] at hcount
  constructor
  · intro hd
    exact ⟨compiledChoice [tokens], compile_grammatical h hd, hpattern, hnames, hcount⟩
  · intro hd
    have hrewritable := h.choice.rewritable
    rw [joined_singleton] at hrewritable
    refine ⟨_, compile_repeated hrewritable hd, Text.pairwise_sortedSet _, ?_⟩
    intro name
    rw [mem_repeatedNames, (foundNames_perm tokens).count_eq]

theorem compile_tokenwise_samples :
    (∃ compiled, compile "/\x7bb\x7d/\x7ba\x7d**" = .ok compiled ∧
      compiled.pattern = "^(?:/(?P<b>[^/]*)/(?P<a>.*))$" ∧
      compiled.variables = ["b", "a"] ∧ compiled.groupCount = 2) ∧
    ∃ duplicates, compile "\x7bb\x7d\x7ba\x7d\x7bb\x7d" =
        .error (.invalid "\x7bb\x7d\x7ba\x7d\x7bb\x7d" (.repeatedNames duplicates)) ∧
      duplicates.Pairwise (· < ·) ∧
      ∀ name, name ∈ duplicates ↔ 1 < ["b", "a", "b"].count name := by
  have hdistinct : Grammatical [.literal '/', .segment "b", .literal '/', .splat "a"] := by
    decide +kernel
  have hrepeated : Grammatical [.segment "b", .segment "a", .segment "b"] := by decide +kernel
  constructor
  · exact (compile_tokenwise hdistinct).1 (by decide +kernel)
  · exact (compile_tokenwise hrepeated).2 (by decide +kernel)

end RequestRouting.Template
