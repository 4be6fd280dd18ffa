import RequestRouting.Proofs.Template.Expansion

/-!
# The passes of the expansion

What a pass does to any text. An occurrence says what stands around it and why no earlier one was
found; what every replacement keeps holds when the pass ends; and the pass ends because none is
left, not because it was cut short.
-/

namespace RequestRouting.Template


section Names

variable {closing text name after : List Char}

theorem eq_of_nameBefore? (h : nameBefore? closing text = some (name, after)) :
    text = name ++ (closing ++ after) := by
  induction text generalizing name with
  | nil => cases h
  | cons c rest ih =>
    rw [nameBefore?] at h
    split at h
    · cases h
    · split at h
      · next found hd =>
        cases h
        rw [← List.append_eq_of_isPrefixOf?_eq_some hd]
        rfl
      · obtain ⟨p, hp, he⟩ := Option.map_eq_some_iff.1 h
        cases he
        rw [ih hp]
        rfl

theorem ne_nil_of_nameBefore? (h : nameBefore? closing text = some (name, after)) :
    name ≠ [] := by
  cases text with
  | nil => cases h
  | cons c rest =>
    rw [nameBefore?] at h
    split at h
    · cases h
    · split at h
      · cases h
        exact List.cons_ne_nil c []
      · obtain ⟨p, -, he⟩ := Option.map_eq_some_iff.1 h
        cases he
        exact List.cons_ne_nil c p.1

theorem slash_not_mem_of_nameBefore? (h : nameBefore? closing text = some (name, after)) :
    '/' ∉ name := by
  induction text generalizing name with
  | nil => cases h
  | cons c rest ih =>
    rw [nameBefore?] at h
    split at h
    · cases h
    · next hslash =>
      split at h
      · cases h
        simpa using Ne.symm hslash
      · obtain ⟨p, hp, he⟩ := Option.map_eq_some_iff.1 h
        cases he
        exact List.not_mem_cons_of_ne_of_not_mem (Ne.symm hslash) (ih hp)

theorem not_mem_tail_of_nameBefore? (h : nameBefore? ['\x7d'] text = some (name, after)) :
    '\x7d' ∉ name.tail := by
  induction text generalizing name with
  | nil => cases h
  | cons c rest ih =>
    rw [nameBefore?] at h
    split at h
    · cases h
    · split at h
      · cases h
        exact List.not_mem_nil
      · next hd =>
        obtain ⟨p, hp, he⟩ := Option.map_eq_some_iff.1 h
        cases he
        have hrest := eq_of_nameBefore? hp
        have htail := ih hp
        cases hp1 : p.1 with
        | nil => exact List.not_mem_nil
        | cons d tail =>
          rw [hp1] at hrest htail
          have hd : d ≠ '\x7d' := by
            rintro rfl
            simp [hrest, List.isPrefixOf?] at hd
          exact List.not_mem_cons_of_ne_of_not_mem (Ne.symm hd) htail

theorem nameBefore?_eq_none_of_not_mem {c : Char} (h : c ∉ text) :
    nameBefore? (c :: closing) text = none := by
  rw [Option.eq_none_iff_forall_ne_some]
  rintro ⟨name, after⟩ hname
  rw [eq_of_nameBefore? hname] at h
  simp at h

theorem isSome_nameBefore? (hname : name ≠ []) (hslash : '/' ∉ name) (closing after : List Char) :
    (nameBefore? closing (name ++ (closing ++ after))).isSome := by
  induction name with
  | nil => exact absurd rfl hname
  | cons c name ih =>
    obtain ⟨hc, hslash⟩ := not_or.1 (mt List.mem_cons.2 hslash)
    rw [List.cons_append, nameBefore?, if_neg (Ne.symm hc)]
    split
    · rfl
    · next hd =>
      cases name with
      | nil => simp at hd
      | cons d name => simpa using ih (List.cons_ne_nil d name) hslash

end Names

/-- What was found is a variable, and no brace to the left of it opens one. -/
structure FindsVariable (closing text : List Char) (o : Occurrence (List Char)) : Prop where
  split : text = o.before ++ '\x7b' :: (o.item ++ (closing ++ o.after))
  named : nameBefore? closing (o.item ++ (closing ++ o.after)) = some (o.item, o.after)
  skipped : AfterEach '\x7b' (fun rest => nameBefore? closing
    (rest ++ '\x7b' :: (o.item ++ (closing ++ o.after))) = none) o.before

theorem findsVariable {closing text : List Char} {o : Occurrence (List Char)}
    (h : findVariable? closing text = some o) : FindsVariable closing text o := by
  induction text generalizing o with
  | nil => cases h
  | cons c rest ih =>
    rw [findVariable?] at h
    split at h
    · next name after hname =>
      cases h
      split at hname
      · next hc =>
        subst hc
        have hsplit := eq_of_nameBefore? hname
        rw [hsplit] at hname
        exact ⟨congrArg (_ :: ·) hsplit, hname, trivial⟩
      · cases hname
    · next hname =>
      obtain ⟨inner, hinner, rfl⟩ := Option.map_eq_some_iff.1 h
      obtain ⟨hsplit, hnamed, hskipped⟩ := ih hinner
      refine ⟨congrArg (c :: ·) hsplit, hnamed, ?_, hskipped⟩
      intro hc
      rw [if_pos hc, hsplit] at hname
      exact hname

theorem eq_of_findVariable? {closing text : List Char} {o : Occurrence (List Char)}
    (h : findVariable? closing text = some o) :
    text = o.before ++ '\x7b' :: (o.item ++ (closing ++ o.after)) :=
  (findsVariable h).split

/-- An open brace would take the variable into its name, if no slash came between. -/
theorem FindsVariable.slash_ahead {closing text : List Char} {o : Occurrence (List Char)}
    (h : FindsVariable closing text o) : AfterEach '\x7b' ('/' ∈ ·) o.before := by
  apply h.skipped.imp
  intro rest hnone
  by_contra hslash
  have hname : '/' ∉ rest ++ '\x7b' :: o.item := by
    simp [hslash, slash_not_mem_of_nameBefore? h.named]
  have hsome := isSome_nameBefore? (by simp) hname closing o.after
  rw [List.append_assoc, List.cons_append, hnone] at hsome
  cases hsome

theorem eq_of_findSplat? {text : List Char} {o : Occurrence Unit} (h : findSplat? text = some o) :
    text = o.before ++ '*' :: '*' :: o.after := by
  induction text generalizing o with
  | nil => cases h
  | cons c rest ih =>
    rw [findSplat?] at h
    split at h
    · next after hd =>
      cases h
      rw [← List.append_eq_of_isPrefixOf?_eq_some hd]
      rfl
    · obtain ⟨inner, hinner, rfl⟩ := Option.map_eq_some_iff.1 h
      exact congrArg (c :: ·) (ih hinner)

theorem findSplat?_eq_none_iff {text : List Char} :
    findSplat? text = none ↔ ¬ ['*', '*'] <:+: text := by
  induction text with
  | nil => simp [findSplat?]
  | cons c rest ih =>
    rw [findSplat?, List.infix_cons_iff, ← List.isPrefixOf_iff_prefix,
      ← List.isSome_isPrefixOf?_eq_isPrefixOf]
    cases hd : ['*', '*'].isPrefixOf? (c :: rest) with
    | some after => simp
    | none => simpa using ih

theorem findSplat?_eq_none_of_count {text : List Char} (h : text.count '*' ≤ 1) :
    findSplat? text = none := by
  rw [findSplat?_eq_none_iff]
  intro hstars
  have hle := hstars.sublist.count_le '*'
  exact absurd (Nat.le_trans hle h) (by decide)

section Loop

variable {α : Type} {find? : List Char → Option (Occurrence α)} {write : α → List Char}

theorem replaceAll_once {text : List Char} {o : Occurrence α} (h : find? text = some o)
    (hnone : find? (o.before ++ write o.item ++ o.after) = none) {n : Nat} (hn : 0 < n) :
    replaceAll find? write n text = (o.before ++ write o.item ++ o.after, [o.item]) := by
  obtain ⟨n, rfl⟩ := Nat.exists_eq_add_one.2 hn
  rw [replaceAll, h]
  simp only [replaceAll_of_none hnone]

theorem replaceAll_keeps {P : List Char → Prop}
    (hkeep : ∀ text o, find? text = some o → P text → P (o.before ++ write o.item ++ o.after))
    (n : Nat) {text : List Char} (h : P text) : P (replaceAll find? write n text).1 := by
  induction n generalizing text with
  | zero => exact h
  | succ n ih =>
    rw [replaceAll]
    cases hfind : find? text with
    | none => exact h
    | some o => exact ih (hkeep text o hfind h)

theorem replaceAll_items {P : α → List Char → Prop}
    (hwritten : ∀ text o, find? text = some o → P o.item (o.before ++ write o.item ++ o.after))
    (hkeep : ∀ x text o, find? text = some o → P x text → P x (o.before ++ write o.item ++ o.after))
    (n : Nat) (text : List Char) :
    ∀ x ∈ (replaceAll find? write n text).2, P x (replaceAll find? write n text).1 := by
  induction n generalizing text with
  | zero => simp [replaceAll]
  | succ n ih =>
    rw [replaceAll]
    cases hfind : find? text with
    | none => simp
    | some o =>
      intro x hx
      rcases List.mem_cons.1 hx with rfl | hx
      · exact replaceAll_keeps (hkeep o.item) n (hwritten text o hfind)
      · exact ih _ x hx

def TakesOne (find? : List Char → Option (Occurrence α)) (write : α → List Char) (c : Char) :
    Prop :=
  ∀ text o, find? text = some o →
    (o.before ++ write o.item ++ o.after).count c + 1 = text.count c

/-- With as many steps as there are such characters, nothing is left to replace. -/
theorem find?_replaceAll {c : Char} (htakes : TakesOne find? write c) {n : Nat} {text : List Char}
    (hn : text.count c ≤ n) : find? (replaceAll find? write n text).1 = none := by
  induction n generalizing text with
  | zero =>
    rw [replaceAll, Option.eq_none_iff_forall_ne_some]
    intro o hfind
    have := htakes text o hfind
    omega
  | succ n ih =>
    rw [replaceAll]
    cases hfind : find? text with
    | none => exact hfind
    | some o =>
      apply ih
      have := htakes text o hfind
      omega

end Loop

section Counts

variable {c : Char}

/-- A variable loses the brace in front of its name and the one behind. The name keeps its own. -/
theorem takesOne_variable {closing : List Char} {write : List Char → List Char}
    (hclosing : ('\x7b' :: closing).count c = 1)
    (hwrite : ∀ name, (write name).count c = name.count c) :
    TakesOne (findVariable? closing) write c := by
  intro text o hfind
  rw [List.count_cons] at hclosing
  rw [eq_of_findVariable? hfind]
  simp only [List.count_append, List.count_cons, hwrite]
  omega

theorem takesOne_splatVariable (hc : c = '\x7b' ∨ c = '\x7d') :
    TakesOne (findVariable? ['\x7d', '*', '*']) splatGroup c := by
  rcases hc with rfl | rfl <;> exact takesOne_variable rfl (by simp [splatGroup, groupStart])

theorem takesOne_segmentVariable (hc : c = '\x7b' ∨ c = '\x7d') :
    TakesOne (findVariable? ['\x7d']) segmentGroup c := by
  rcases hc with rfl | rfl <;> exact takesOne_variable rfl (by simp [segmentGroup, groupStart])

theorem takesOne_bareSplat : TakesOne findSplat? (fun _ => splatText) '*' := by
  intro text o hfind
  have hsplat : splatText.count '*' = 1 := rfl
  rw [eq_of_findSplat? hfind]
  simp only [List.count_append, List.count_cons_self, hsplat]
  omega

end Counts

theorem not_twoStars_bareSplats (text : List Char) : ¬ ['*', '*'] <:+: (bareSplats text).1 :=
  findSplat?_eq_none_iff.1 (find?_replaceAll takesOne_bareSplat (Nat.le_refl _))

end RequestRouting.Template
