import RequestRouting.Proofs.Template.Passes

/-!
# How many replacements the passes make

A pass replaces the leftmost occurrence for as long as there is one, in a text that may grow
meanwhile. What falls is a count: every variable takes one opening and one closing brace out of the
text, and every two stars one star. So the passes end, and what is missing in the end tells how
often each of them replaced something.
-/

namespace RequestRouting.Template

section Loop

variable {α : Type} {find? : List Char → Option (Occurrence α)} {write : α → List Char}
  {text final : List Char} {items : List α} {c : Char}

/-- Replacements one after the other, each of the leftmost occurrence, and the items that were
found. -/
inductive Replacements (find? : List Char → Option (Occurrence α)) (write : α → List Char) :
    List Char → List α → List Char → Prop where
  | nil (text : List Char) : Replacements find? write text [] text
  | cons {text final : List Char} {items : List α} {o : Occurrence α} :
      find? text = some o →
      Replacements find? write (o.before ++ write o.item ++ o.after) items final →
      Replacements find? write text (o.item :: items) final

/-- The loop from a text ends: after these replacements there is nothing to replace, and whatever
the number of replacements, they are the first of these. -/
structure Ends (find? : List Char → Option (Occurrence α)) (write : α → List Char)
    (text : List Char) (items : List α) (final : List Char) : Prop where
  made : Replacements find? write text items final
  done : find? final = none
  longest : ∀ first next, Replacements find? write text first next → first <+: items

theorem replacements_replaceAll (n : Nat) (text : List Char) :
    Replacements find? write text (replaceAll find? write n text).2
      (replaceAll find? write n text).1 := by
  induction n generalizing text with
  | zero => exact .nil text
  | succ n ih =>
    rw [replaceAll]
    cases hfind : find? text with
    | none => exact .nil text
    | some o => exact .cons hfind (ih _)

/-- There is only one way to go on, so a run that came to its end holds all others. -/
theorem Replacements.prefix_of_done (h : Replacements find? write text items final)
    (hdone : find? final = none) {first : List α} {next : List Char}
    (hfirst : Replacements find? write text first next) : first <+: items := by
  induction hfirst generalizing items with
  | nil text => exact List.nil_prefix
  | cons hfind _ ih =>
    cases h with
    | nil => rw [hdone] at hfind; cases hfind
    | cons hfind' h =>
      cases hfind.symm.trans hfind'
      exact (List.prefix_cons_inj _).2 (ih h)

theorem ends_replaceAll (htakes : TakesOne find? write c) (text : List Char) :
    Ends find? write text (replaceAll find? write (text.count c) text).2
      (replaceAll find? write (text.count c) text).1 := by
  have hmade : Replacements find? write text _ _ := replacements_replaceAll (text.count c) text
  have hdone := find?_replaceAll htakes (Nat.le_refl (text.count c))
  exact ⟨hmade, hdone, fun _ _ hfirst => hmade.prefix_of_done hdone hfirst⟩

theorem Replacements.length_add_count (h : Replacements find? write text items final)
    (htakes : TakesOne find? write c) : items.length + final.count c = text.count c := by
  induction h with
  | nil text => exact Nat.zero_add _
  | cons hfind _ ih =>
    have hone := htakes _ _ hfind
    rw [List.length_cons]
    omega

end Loop

section Passes

theorem ends_splatVariables (text : List Char) :
    Ends (findVariable? ['\x7d', '*', '*']) splatGroup text (splatVariables text).2
      (splatVariables text).1 :=
  ends_replaceAll (takesOne_splatVariable (.inl rfl)) text

theorem ends_segmentVariables (text : List Char) :
    Ends (findVariable? ['\x7d']) segmentGroup text (segmentVariables text).2
      (segmentVariables text).1 :=
  ends_replaceAll (takesOne_segmentVariable (.inl rfl)) text

theorem ends_bareSplats (text : List Char) :
    Ends findSplat? (fun _ => splatText) text (bareSplats text).2 (bareSplats text).1 :=
  ends_replaceAll takesOne_bareSplat text

end Passes

section Braces

variable {c : Char} (hc : c = '\x7b' ∨ c = '\x7d')

include hc

theorem count_bareSplats (text : List Char) : (bareSplats text).1.count c = text.count c := by
  apply replaceAll_keeps (P := fun next => next.count c = text.count c) _ _ rfl
  intro next o hfind hcount
  rw [← hcount, eq_of_findSplat? hfind]
  rcases hc with rfl | rfl <;> simp [splatText]

theorem count_anchored (body : List Char) : (anchored body).count c = body.count c := by
  rcases hc with rfl | rfl <;> simp [anchored]

/-- There are as many names as the text has lost braces of either kind. -/
theorem length_names_add_count (source : List Char) :
    (expand source).2.length + (anchored (expand source).1).count c = source.count c := by
  have hsplats := (ends_splatVariables source).made.length_add_count (takesOne_splatVariable hc)
  have hsegments := (ends_segmentVariables (splatVariables source).1).made.length_add_count
    (takesOne_segmentVariable hc)
  have hnames : (expand source).2.length = (splatVariables source).2.length +
      (segmentVariables (splatVariables source).1).2.length := List.length_append
  have hcount : (anchored (expand source).1).count c =
      (segmentVariables (splatVariables source).1).1.count c :=
    (count_anchored hc _).trans (count_bareSplats hc _)
  omega

end Braces

theorem length_bareSplats (text : List Char) : (bareSplats text).1.length = text.length := by
  apply replaceAll_keeps (P := fun next => next.length = text.length) _ _ rfl
  intro next o hfind hlength
  rw [← hlength, eq_of_findSplat? hfind]
  simp [splatText]

/-- The three passes end on every text. Each variable that one of the first two replaces takes one
brace of either kind and leaves one name, so there are as many names as braces of either kind are
missing in the pattern. The last pass replaces as often as stars are missing after it, and the text
stays as long as it was. -/
theorem passes_end (source : List Char) :
    let splats := splatVariables source
    let segments := segmentVariables splats.1
    let stars := bareSplats segments.1
    expand source = (stars.1, splats.2 ++ segments.2) ∧
    (Ends (findVariable? ['\x7d', '*', '*']) splatGroup source splats.2 splats.1 ∧
      TakesOne (findVariable? ['\x7d', '*', '*']) splatGroup '\x7b' ∧
      TakesOne (findVariable? ['\x7d', '*', '*']) splatGroup '\x7d') ∧
    (Ends (findVariable? ['\x7d']) segmentGroup splats.1 segments.2 segments.1 ∧
      TakesOne (findVariable? ['\x7d']) segmentGroup '\x7b' ∧
      TakesOne (findVariable? ['\x7d']) segmentGroup '\x7d') ∧
    ((expand source).2.length + (anchored (expand source).1).count '\x7b' = source.count '\x7b' ∧
      (expand source).2.length + (anchored (expand source).1).count '\x7d' =
        source.count '\x7d') ∧
    (Ends findSplat? (fun _ => splatText) segments.1 stars.2 stars.1 ∧
      stars.2.length + stars.1.count '*' = segments.1.count '*' ∧
      stars.1.length = segments.1.length) := by
  intro splats segments stars
  have hopen : '\x7b' = '\x7b' ∨ '\x7b' = '\x7d' := .inl rfl
  have hclose : '\x7d' = '\x7b' ∨ '\x7d' = '\x7d' := .inr rfl
  refine ⟨rfl, ⟨ends_splatVariables source, ?_, ?_⟩, ⟨ends_segmentVariables splats.1, ?_, ?_⟩,
    ⟨length_names_add_count hopen source, length_names_add_count hclose source⟩,
    ends_bareSplats segments.1, ?_, length_bareSplats segments.1⟩
  · exact takesOne_splatVariable hopen
  · exact takesOne_splatVariable hclose
  · exact takesOne_segmentVariable hopen
  · exact takesOne_segmentVariable hclose
  · exact (ends_bareSplats segments.1).made.length_add_count takesOne_bareSplat

end RequestRouting.Template
