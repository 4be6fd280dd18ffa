import RequestRouting.Proofs.Template.Compilation
import RequestRouting.Proofs.Template.Passes

/-!
# Names that lose their group

Compiling looks up where the group of every name opens, but a replacement may have broken what an
earlier one wrote. The two passes for variables keep the groups they write, unless a name for the
rest of a path holds an opening brace. The last pass breaks the groups whose names hold two stars
in a row, and no others. A template with such a name is not reported as invalid: the lookup fails.
-/

namespace RequestRouting.Template

section Cut

variable {c : Char} {front rest before behind : List Char}

theorem cons_in_append (h : front ++ rest = before ++ c :: behind) :
    (∃ d, before = front ++ d ∧ rest = d ++ c :: behind) ∨
      ∃ d, front = before ++ c :: d ∧ behind = d ++ rest := by
  rcases List.append_eq_append_iff.1 h with ⟨d, hbefore, hrest⟩ | ⟨d, hfront, hbehind⟩
  · exact .inl ⟨d, hbefore, hrest⟩
  · cases d with
    | nil => exact .inl ⟨[], by simpa using hfront.symm, hbehind.symm⟩
    | cons e d =>
      cases hbehind
      exact .inr ⟨d, hfront, rfl⟩

theorem cons_in_right (hc : c ∉ front) (h : front ++ rest = before ++ c :: behind) :
    ∃ d, before = front ++ d ∧ rest = d ++ c :: behind := by
  rcases cons_in_append h with hright | ⟨d, rfl, -⟩
  · exact hright
  · simp at hc

theorem exists_last {text : List Char} (h : c ∈ text) :
    ∃ front tail, text = front ++ c :: tail ∧ c ∉ tail := by
  obtain ⟨tail, front, heq, htail⟩ := List.eq_append_cons_of_mem (List.mem_reverse.2 h)
  exact ⟨front.reverse, tail.reverse, by simpa using congrArg List.reverse heq,
    mt List.mem_reverse.1 htail⟩

end Cut

def SlashFirst (text : List Char) : Prop := ∃ a b, text = a ++ '/' :: b ∧ '\x7d' ∉ a

/-- No variable that begins in the text is closed, whatever follows. -/
def Inert (text : List Char) : Prop := AfterEach '\x7b' SlashFirst text

/-- The word stands in a part of the text that no variable reaches into: an inert part from the
beginning or from a slash on. -/
inductive Kept (word : List Char) : List Char → Prop
  | first {part : List Char} (behind : List Char) (hpart : Inert part) (hword : word <:+: part) :
      Kept word (part ++ behind)
  | later (front : List Char) {part : List Char} (behind : List Char) (hpart : Inert part)
      (hword : word <:+: part) : Kept word (front ++ '/' :: (part ++ behind))

theorem Kept.occurs {word text : List Char} (h : Kept word text) : word <:+: text := by
  cases h with
  | first behind _ hword => exact List.infix_append_of_infix_left hword
  | later front behind _ hword =>
    apply List.infix_append_of_infix_right
    exact List.infix_cons (List.infix_append_of_infix_left hword)

section Variables

variable {closing word text : List Char} {o : Occurrence (List Char)}

/-- A variable that begins left of the end of an inert part would be closed before the slash. -/
theorem Inert.right_of {part behind before : List Char} (h : Inert part)
    (ho : FindsVariable ('\x7d' :: closing) text o)
    (heq : part ++ behind = before ++ '\x7b' :: (o.item ++ ('\x7d' :: closing ++ o.after))) :
    ∃ d, before = part ++ d := by
  rcases cons_in_append heq with ⟨d, hbefore, -⟩ | ⟨tail, rfl, htail⟩
  · exact ⟨d, hbefore⟩
  · exfalso
    obtain ⟨a, b, rfl, ha⟩ := h.behind
    rw [List.append_assoc, List.cons_append] at htail
    obtain ⟨d, rfl, hd⟩ := cons_in_right (slash_not_mem_of_nameBefore? ho.named) htail
    cases d with
    | nil => simp at hd
    | cons e d =>
      obtain rfl : '\x7d' = e := (List.cons.inj hd).1
      simp at ha

theorem FindsVariable.left_of (ho : FindsVariable closing text o) (hclosing : '/' ∉ closing)
    {left right : List Char} (heq : o.item ++ (closing ++ o.after) = left ++ '/' :: right) :
    ∃ d, o.after = d ++ '/' :: right := by
  obtain ⟨d, -, hd⟩ := cons_in_right (slash_not_mem_of_nameBefore? ho.named) heq
  obtain ⟨d, -, hafter⟩ := cons_in_right hclosing hd
  exact ⟨d, hafter⟩

/-- A variable begins behind the inert part, or in front of the slash and ends there too. -/
theorem Kept.replace (hclosing : '/' ∉ '\x7d' :: closing) (h : Kept word text)
    (ho : FindsVariable ('\x7d' :: closing) text o) (written : List Char) :
    Kept word (o.before ++ written ++ o.after) := by
  cases h with
  | first behind hpart hword =>
    obtain ⟨d, hbefore⟩ := hpart.right_of ho ho.split
    rw [hbefore]
    simpa using Kept.first (d ++ written ++ o.after) hpart hword
  | later front behind hpart hword =>
    rcases cons_in_append ho.split with ⟨d, hbefore, hrest⟩ | ⟨d, rfl, hrest⟩
    · cases d with
      | nil => simp at hrest
      | cons e d =>
        obtain ⟨rfl, hpartRest⟩ := List.cons.inj hrest
        obtain ⟨d, rfl⟩ := hpart.right_of ho hpartRest
        rw [hbefore]
        simpa using Kept.later front (d ++ written ++ o.after) hpart hword
    · obtain ⟨d, hafter⟩ := ho.left_of hclosing hrest
      rw [hafter]
      simpa using Kept.later (o.before ++ written ++ d) behind hpart hword

/-- What takes the place of a variable is kept if it is inert: the last slash in front of the
variable stands behind every opening brace there. -/
theorem FindsVariable.kept (ho : FindsVariable closing text o) {written : List Char}
    (hwritten : Inert written) (hword : word <:+: written) :
    Kept word (o.before ++ written ++ o.after) := by
  have hbefore := ho.slash_ahead
  by_cases hslash : '/' ∈ o.before
  · obtain ⟨front, tail, heq, htail⟩ := exists_last hslash
    rw [heq] at hbefore ⊢
    rw [List.append_cons] at hbefore
    have hopen : '\x7b' ∉ tail := hbefore.right.not_mem htail
    have hpart : Inert (tail ++ written) := .append (.of_not_mem hopen) hwritten
    have hkept := Kept.later front o.after hpart (List.infix_append_of_infix_right hword)
    simpa using hkept
  · have hopen : '\x7b' ∉ o.before := hbefore.not_mem hslash
    have hpart : Inert (o.before ++ written) := .append (.of_not_mem hopen) hwritten
    exact .first o.after hpart (List.infix_append_of_infix_right hword)

end Variables

section Groups

theorem inert_splatGroup {name : List Char} (h : '\x7b' ∉ name) : Inert (splatGroup name) :=
  .of_not_mem (by simp [splatGroup, groupStart, h])

theorem inert_segmentGroup {name : List Char} (h : '\x7d' ∉ name.tail) :
    Inert (segmentGroup name) := by
  have hname : AfterEach '\x7b'
      (fun rest => SlashFirst (rest ++ ['>', '[', '^', '/', ']', '*', ')'])) name := by
    apply AfterEach.of_suffixes
    intro rest hrest
    have hbrace : '\x7d' ∉ rest := mt (hrest.subset ·) h
    exact ⟨rest ++ ['>', '[', '^'], [']', '*', ')'], by simp, by simp [hbrace]⟩
  have hbehind : Inert (name ++ ['>', '[', '^', '/', ']', '*', ')']) :=
    hname.append (.of_not_mem (by decide))
  have hgroup : Inert (['(', '?', 'P', '<'] ++ (name ++ ['>', '[', '^', '/', ']', '*', ')'])) :=
    .append (.of_not_mem (by decide)) hbehind
  simpa [segmentGroup, groupStart] using hgroup

theorem kept_splatVariables (text : List Char) :
    ∀ name ∈ (splatVariables text).2, '\x7b' ∉ name →
      Kept (groupStart name) (splatVariables text).1 := by
  apply replaceAll_items (P := fun name text => '\x7b' ∉ name → Kept (groupStart name) text)
  · intro text o hfind hname
    exact (findsVariable hfind).kept (inert_splatGroup hname) List.infix_append_left
  · intro name text o hfind hkept hname
    exact (hkept hname).replace (by decide) (findsVariable hfind) (splatGroup o.item)

theorem Kept.segmentVariables {word text : List Char} (h : Kept word text) :
    Kept word (segmentVariables text).1 := by
  apply replaceAll_keeps _ _ h
  intro text o hfind hkept
  exact hkept.replace (by decide) (findsVariable hfind) (segmentGroup o.item)

theorem kept_segmentVariables (text : List Char) :
    ∀ name ∈ (segmentVariables text).2, Kept (groupStart name) (segmentVariables text).1 := by
  apply replaceAll_items (P := fun name text => Kept (groupStart name) text)
  · intro text o hfind
    have ho := findsVariable hfind
    exact ho.kept (inert_segmentGroup (not_mem_tail_of_nameBefore? ho.named))
      List.infix_append_left
  · intro name text o hfind hkept
    exact hkept.replace (by decide) (findsVariable hfind) (segmentGroup o.item)

end Groups

section Stars

variable {name word text : List Char}

theorem twoStars_append_cons {c : Char} (hc : c ≠ '*') (front behind : List Char) :
    ['*', '*'] <:+: front ++ c :: behind ↔
      ['*', '*'] <:+: front ∨ ['*', '*'] <:+: behind := by
  induction front with
  | nil => simp [List.infix_cons_iff, Ne.symm hc]
  | cons d front ih =>
    rw [List.cons_append, List.infix_cons_iff, ih, List.infix_cons_iff, or_assoc]
    cases front with
    | nil => simp [Ne.symm hc]
    | cons e front => simp

theorem twoStars_groupStart : ['*', '*'] <:+: groupStart name ↔ ['*', '*'] <:+: name := by
  have hsplit : groupStart name = ['(', '?', 'P'] ++ '<' :: (name ++ '>' :: []) := by
    simp [groupStart]
  rw [hsplit, twoStars_append_cons (by decide), twoStars_append_cons (by decide)]
  have hopening : ¬ ['*', '*'] <:+: ['(', '?', 'P'] := by decide
  simp [hopening]

/-- A word that neither begins nor ends with a star does not overlap with two stars in a row that
it does not hold. -/
theorem infix_around_stars {before after : List Char} (h : word <:+: before ++ '*' :: '*' :: after)
    (hstars : ¬ ['*', '*'] <:+: word) (hfirst : word.head? ≠ some '*')
    (hlast : word.getLast? ≠ some '*') : word <:+: before ∨ word <:+: after := by
  rw [List.append_cons, List.infix_append_iff_ne_nil, List.infix_concat_iff, List.infix_cons_iff,
    List.suffix_concat_iff, List.prefix_cons_iff] at h
  rcases h with ((rfl | ⟨t, rfl, -⟩) | hbefore) | ((rfl | ⟨t, rfl, -⟩) | hafter) | hacross
  · exact .inl List.nil_infix
  · simp at hlast
  · exact .inl hbefore
  · exact .inl List.nil_infix
  · simp at hfirst
  · exact .inr hafter
  · obtain ⟨left, right, hleft, hright, rfl, hbefore, hafter⟩ := hacross
    obtain ⟨t, rfl, -⟩ := (List.suffix_concat_iff.1 hbefore).resolve_left hleft
    obtain ⟨u, rfl, -⟩ := (List.prefix_cons_iff.1 hafter).resolve_left hright
    exact absurd ⟨t, u, by simp⟩ hstars

theorem groupStart_infix_bareSplats (h : groupStart name <:+: text)
    (hstars : ¬ ['*', '*'] <:+: name) : groupStart name <:+: (bareSplats text).1 := by
  apply replaceAll_keeps _ _ h
  intro text o hfind h
  rw [eq_of_findSplat? hfind] at h
  have hstars : ¬ ['*', '*'] <:+: groupStart name := mt twoStars_groupStart.1 hstars
  have hfirst : (groupStart name).head? ≠ some '*' := by simp [groupStart]
  have hlast : (groupStart name).getLast? ≠ some '*' := by
    rw [groupStart, List.getLast?_concat]
    decide
  rcases infix_around_stars h hstars hfirst hlast with h | h
  · exact List.infix_append_of_infix_left (List.infix_append_of_infix_left h)
  · exact List.infix_append_of_infix_right h

end Stars

def PlainSplats (source : String) : Prop :=
  ∀ name ∈ (splatVariables source.toList).2, '\x7b' ∉ name

instance (source : String) : Decidable (PlainSplats source) :=
  inferInstanceAs (Decidable (∀ name ∈ (splatVariables source.toList).2, '\x7b' ∉ name))

/-- Every fault of the template is reported as that of an invalid template, with its source. -/
def Reported (source : String) : Prop :=
  ∀ e, compile source = .error e → ∃ reason, e = .invalid source reason

theorem infix_concat_iff_of_getLast? {word text : List Char} {c : Char} (hword : word ≠ [])
    (hlast : word.getLast? ≠ some c) : word <:+: text ++ [c] ↔ word <:+: text := by
  rw [List.infix_concat_iff, List.suffix_concat_iff]
  constructor
  · rintro ((rfl | ⟨t, rfl, -⟩) | h)
    · exact absurd rfl hword
    · simp at hlast
    · exact h
  · exact .inr

theorem isSome_groupIndex?_anchored_iff {body : List Char} {name : String} :
    (groupIndex? (anchored body) name).isSome ↔ groupStart name.toList <:+: body := by
  have hne : groupStart name.toList ≠ [] := by simp [groupStart]
  have hlast : (groupStart name.toList).getLast? = some '>' := by
    rw [groupStart, List.getLast?_concat]
  rw [groupIndex?_anchored, Option.isSome_map, groupIndex?, Text.isSome_indexOf?_iff,
    List.append_cons, infix_concat_iff_of_getLast? hne (by simp [hlast]),
    infix_concat_iff_of_getLast? hne (by simp [hlast])]

theorem inTextOrder?_anchored_ne_none_iff {body : List Char} {found : List (List Char)} :
    inTextOrder? (anchored body) (found.map String.ofList) ≠ none ↔
      ∀ name ∈ found, groupStart name <:+: body := by
  rw [← Option.isSome_iff_ne_none, isSome_inTextOrder?_iff, List.forall_mem_map]
  apply forall₂_congr
  intro name _
  rw [isSome_groupIndex?_anchored_iff, String.toList_ofList]

section Compile

variable {source : String}

theorem reported_iff_ne_lostName : Reported source ↔ compile source ≠ .error .lostName := by
  constructor
  · intro h hlost
    obtain ⟨reason, hreason⟩ := h .lostName hlost
    cases hreason
  · intro h e he
    rcases compile_cases source with ⟨found, hfound, -⟩ | ⟨hlost, -⟩ | ⟨reason, hinvalid, -⟩
    · cases he.symm.trans hfound
    · exact absurd hlost h
    · cases he.symm.trans hinvalid
      exact ⟨reason, rfl⟩

/-- The fault of a template is reported if a name is repeated or the group of every name is left
whole. -/
theorem reported_iff : Reported source ↔ ((expand source.toList).2.Nodup →
    ∀ name ∈ (expand source.toList).2, groupStart name <:+: (expand source.toList).1) := by
  rw [reported_iff_ne_lostName, ← inTextOrder?_anchored_ne_none_iff,
    ← List.nodup_map_iff (f := String.ofList) fun _ _ => String.ofList_injective]
  rcases compile_cases source with ⟨found, hfound, hcompiles⟩ | ⟨hlost, hnodup, hordered⟩ |
    ⟨reason, hinvalid, hordered⟩
  · simp [hfound, hcompiles.ordered]
  · simp [hlost, hnodup, hordered]
  · simpa [hinvalid] using hordered

theorem kept_names (h : PlainSplats source) : ∀ name ∈ (expand source.toList).2,
    Kept (groupStart name) (segmentVariables (splatVariables source.toList).1).1 := by
  intro name hname
  rcases List.mem_append.1 hname with hsplat | hsegment
  · exact (kept_splatVariables source.toList name hsplat (h name hsplat)).segmentVariables
  · exact kept_segmentVariables (splatVariables source.toList).1 name hsegment

/-- In the end the text opens a group for every name without two stars in a row, and for no other,
as it holds no two stars in a row itself. -/
theorem groupStart_infix_expand_iff (h : PlainSplats source) {name : List Char}
    (hname : name ∈ (expand source.toList).2) :
    groupStart name <:+: (expand source.toList).1 ↔ ¬ ['*', '*'] <:+: name := by
  constructor
  · intro hopened hstars
    exact not_twoStars_bareSplats _ ((twoStars_groupStart.2 hstars).trans hopened)
  · intro hstars
    exact groupStart_infix_bareSplats (kept_names h name hname).occurs hstars

theorem reported_iff_of_plainSplats (h : PlainSplats source) :
    Reported source ↔ ((expand source.toList).2.Nodup →
      ∀ name ∈ (expand source.toList).2, ¬ ['*', '*'] <:+: name) := by
  rw [reported_iff]
  apply imp_congr_right
  intro _
  apply forall₂_congr
  intro name hname
  exact groupStart_infix_expand_iff h hname

end Compile

end RequestRouting.Template
