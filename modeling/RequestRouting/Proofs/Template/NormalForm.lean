import RequestRouting.Proofs.Template.LostNames

/-!
# Nothing is left to expand

Each pass ends because its construct is gone, and no later pass brings it back. What is written in
the place of a segment or of two stars never joins the text around it to a construct of an earlier
pass, so an expanded text is left as it is when it is expanded again.
-/

namespace RequestRouting.Template

section Variables

variable {closing text : List Char}

/-- Somewhere in the text a variable with that end stands. -/
def HoldsVariable (closing text : List Char) : Prop :=
  ∃ name, name ≠ [] ∧ '/' ∉ name ∧ '\x7b' :: (name ++ closing) <:+: text

theorem holdsVariable_iff : HoldsVariable closing text ↔ ∃ left name right,
    name ≠ [] ∧ '/' ∉ name ∧ text = left ++ '\x7b' :: (name ++ (closing ++ right)) := by
  constructor
  · rintro ⟨name, hne, hslash, left, right, rfl⟩
    exact ⟨left, name, right, hne, hslash, by simp⟩
  · rintro ⟨left, name, right, hne, hslash, rfl⟩
    exact ⟨name, hne, hslash, left, right, by simp⟩

theorem HoldsVariable.mono {longer : List Char} (h : HoldsVariable closing text)
    (hfactor : text <:+: longer) : HoldsVariable closing longer := by
  obtain ⟨name, hne, hslash, hname⟩ := h
  exact ⟨name, hne, hslash, hname.trans hfactor⟩

theorem HoldsVariable.of_append {more : List Char} (h : HoldsVariable (closing ++ more) text) :
    HoldsVariable closing text := by
  obtain ⟨name, hne, hslash, hname⟩ := h
  have hprefix : '\x7b' :: (name ++ closing) <+: '\x7b' :: (name ++ (closing ++ more)) :=
    ⟨more, by simp⟩
  exact ⟨name, hne, hslash, hprefix.isInfix.trans hname⟩

theorem isSome_findVariable? {rest : List Char} (h : (nameBefore? closing rest).isSome)
    (before : List Char) : (findVariable? closing (before ++ '\x7b' :: rest)).isSome := by
  induction before with
  | nil =>
    obtain ⟨p, hp⟩ := Option.isSome_iff_exists.1 h
    rw [List.nil_append, findVariable?, if_pos rfl, hp]
    rfl
  | cons c before ih =>
    rw [List.cons_append, findVariable?]
    split
    · rfl
    · rwa [Option.isSome_map]

theorem findVariable?_eq_none_iff :
    findVariable? closing text = none ↔ ¬ HoldsVariable closing text := by
  constructor
  · intro hnone hholds
    obtain ⟨left, name, right, hne, hslash, rfl⟩ := holdsVariable_iff.1 hholds
    have hsome := isSome_findVariable? (isSome_nameBefore? hne hslash closing right) left
    rw [hnone] at hsome
    cases hsome
  · intro h
    rw [Option.eq_none_iff_forall_ne_some]
    intro o hfind
    have ho := findsVariable hfind
    exact h (holdsVariable_iff.2 ⟨o.before, o.item, o.after, ne_nil_of_nameBefore? ho.named,
      slash_not_mem_of_nameBefore? ho.named, ho.split⟩)

/-- A pass for variables ends when none is left: every replacement takes an opening brace away. -/
theorem not_holdsVariable_replaceAll {write : List Char → List Char}
    (htakes : TakesOne (findVariable? closing) write '\x7b') (text : List Char) :
    ¬ HoldsVariable closing
      (replaceAll (findVariable? closing) write (text.count '\x7b') text).1 :=
  findVariable?_eq_none_iff.1 (find?_replaceAll htakes (Nat.le_refl _))

theorem not_holdsVariable_splatVariables (text : List Char) :
    ¬ HoldsVariable ['\x7d', '*', '*'] (splatVariables text).1 :=
  not_holdsVariable_replaceAll (takesOne_splatVariable (.inl rfl)) text

theorem not_holdsVariable_segmentVariables (text : List Char) :
    ¬ HoldsVariable ['\x7d'] (segmentVariables text).1 :=
  not_holdsVariable_replaceAll (takesOne_segmentVariable (.inl rfl)) text

end Variables

section Replacements

variable {text : List Char}

/-- No variable for the rest of a path comes up where a segment is replaced. In front of the segment
and in its group a slash stands behind every opening brace. -/
theorem FindsVariable.not_holdsVariable {o : Occurrence (List Char)}
    (ho : FindsVariable ['\x7d'] text o) (h : ¬ HoldsVariable ['\x7d', '*', '*'] text) :
    ¬ HoldsVariable ['\x7d', '*', '*'] (o.before ++ segmentGroup o.item ++ o.after) := by
  rw [holdsVariable_iff]
  rintro ⟨left, name, right, hne, hslash, heq⟩
  have hword : '/' ∉ name ++ ['\x7d', '*', '*'] := by simp [hslash]
  rw [← List.append_assoc name, List.append_assoc o.before] at heq
  -- the brace that opens it stands behind the new group, in it, or in front of it
  rcases cons_in_append heq with ⟨d, -, hd⟩ | ⟨d, hbefore, hd⟩
  · rcases cons_in_append hd with ⟨e, -, hafter⟩ | ⟨e, hgroup, he⟩
    · have hfactor : o.after <:+: text := by
        rw [ho.split]
        exact ⟨o.before ++ '\x7b' :: (o.item ++ ['\x7d']), [], by simp⟩
      exact h (.mono (holdsVariable_iff.2 ⟨e, name, right, hne, hslash, by simp [hafter]⟩) hfactor)
    · have hinert := inert_segmentGroup (not_mem_tail_of_nameBefore? ho.named)
      rw [hgroup] at hinert
      obtain ⟨a, b, rfl, ha⟩ := hinert.behind
      rw [List.append_assoc a, List.cons_append] at he
      obtain ⟨e, rfl, -⟩ := cons_in_right hword he
      simp at ha
  · have hahead := ho.slash_ahead
    rw [hbefore] at hahead
    obtain ⟨a, b, rfl⟩ := List.append_of_mem hahead.behind
    rw [List.append_assoc a, List.cons_append] at hd
    obtain ⟨e, rfl, -⟩ := cons_in_right hword hd
    have hfactor : o.before <:+: text := by
      rw [ho.split]
      exact List.infix_append_left
    exact h (.mono (holdsVariable_iff.2
      ⟨left, name, e ++ '/' :: b, hne, hslash, by simp [hbefore]⟩) hfactor)

theorem not_holdsVariable_of_findSplat? {o : Occurrence Unit} (ho : findSplat? text = some o)
    (h : ¬ HoldsVariable ['\x7d'] text) :
    ¬ HoldsVariable ['\x7d'] (o.before ++ splatText ++ o.after) := by
  rw [eq_of_findSplat? ho] at h
  rw [holdsVariable_iff]
  rintro ⟨left, name, right, hne, hslash, heq⟩
  have hopen : '\x7b' ∉ splatText := by decide
  have hclose : '\x7d' ∉ splatText := by decide
  rw [List.append_assoc] at heq
  rcases cons_in_append heq with ⟨d, -, hd⟩ | ⟨d, hbefore, hd⟩
  · obtain ⟨e, -, hafter⟩ := cons_in_right hopen hd
    exact h (holdsVariable_iff.2
      ⟨o.before ++ '*' :: '*' :: e, name, right, hne, hslash, by simp [hafter]⟩)
  · rcases cons_in_append hd.symm with ⟨e, hname, hrest⟩ | ⟨e, rfl, -⟩
    · obtain ⟨e, rfl, hafter⟩ := cons_in_right hclose hrest
      rw [hname] at hslash
      refine h (holdsVariable_iff.2 ⟨left, d ++ '*' :: '*' :: e, right, by simp, ?_, ?_⟩)
      · simpa [splatText] using hslash
      · simp [hbefore, hafter]
    · exact h (holdsVariable_iff.2
        ⟨left, name, e ++ '*' :: '*' :: o.after, hne, hslash, by simp [hbefore]⟩)

theorem not_holdsVariable_segments (h : ¬ HoldsVariable ['\x7d', '*', '*'] text) (n : Nat) :
    ¬ HoldsVariable ['\x7d', '*', '*']
      (replaceAll (findVariable? ['\x7d']) segmentGroup n text).1 := by
  apply replaceAll_keeps (P := fun text => ¬ HoldsVariable ['\x7d', '*', '*'] text) _ n h
  intro text o hfind h
  exact (findsVariable hfind).not_holdsVariable h

theorem not_holdsVariable_stars (h : ¬ HoldsVariable ['\x7d'] text) (n : Nat) :
    ¬ HoldsVariable ['\x7d'] (replaceAll findSplat? (fun _ => splatText) n text).1 := by
  apply replaceAll_keeps (P := fun text => ¬ HoldsVariable ['\x7d'] text) _ n h
  intro text o hfind h
  exact not_holdsVariable_of_findSplat? hfind h

end Replacements

/-- The text holds none of the constructs that the passes look for. -/
structure Expanded (text : List Char) : Prop where
  noSplat : ¬ HoldsVariable ['\x7d', '*', '*'] text
  noSegment : ¬ HoldsVariable ['\x7d'] text
  noStars : ¬ ['*', '*'] <:+: text

theorem Expanded.expand_eq {text : List Char} (h : Expanded text) : expand text = (text, []) := by
  have hsplats : splatVariables text = (text, []) :=
    replaceAll_of_none (findVariable?_eq_none_iff.2 h.noSplat) _
  have hsegments : segmentVariables text = (text, []) :=
    replaceAll_of_none (findVariable?_eq_none_iff.2 h.noSegment) _
  have hstars : bareSplats text = (text, []) :=
    replaceAll_of_none (findSplat?_eq_none_iff.2 h.noStars) _
  simp only [expand, hsplats, hsegments, hstars, List.append_nil]

theorem expanded_expand (text : List Char) : Expanded (expand text).1 := by
  have hsegment : ¬ HoldsVariable ['\x7d'] (expand text).1 :=
    not_holdsVariable_stars (not_holdsVariable_segmentVariables (splatVariables text).1) _
  refine ⟨?_, hsegment, not_twoStars_bareSplats _⟩
  intro hsplat
  exact hsegment (HoldsVariable.of_append hsplat)

/-- No replacement brings back a construct of an earlier pass, whatever the text. What is left in
the end holds no construct at all, and expanding it again neither changes it nor finds a name. -/
theorem expand_expand (text : List Char) :
    (∀ n, ¬ HoldsVariable ['\x7d', '*', '*']
      (replaceAll (findVariable? ['\x7d']) segmentGroup n (splatVariables text).1).1) ∧
    (∀ n, ¬ HoldsVariable ['\x7d'] (replaceAll findSplat? (fun _ => splatText) n
      (segmentVariables (splatVariables text).1).1).1) ∧
    Expanded (expand text).1 ∧ expand (expand text).1 = ((expand text).1, []) :=
  ⟨not_holdsVariable_segments (not_holdsVariable_splatVariables text),
    not_holdsVariable_stars (not_holdsVariable_segmentVariables (splatVariables text).1),
    expanded_expand text, (expanded_expand text).expand_eq⟩

end RequestRouting.Template
