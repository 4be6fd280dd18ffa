import RequestRouting.Proofs.Regex.Enclosed
import RequestRouting.Proofs.Template.Compilation
import RequestRouting.Proofs.Template.Memo

/-!
# Templates between their anchors

Compiling puts anchors around the expanded text. Where that text is a pattern of its own, it is read
between the anchors as it is read alone, and a match takes the whole path. A text that closes the
group of the anchors and opens another one is accepted as well, and then each part of it has one
anchor only.
-/

namespace RequestRouting.Template

open RequestRouting.Regex (OpenGroup Reader closing)
open RequestRouting.Regex.Reader (Reaches)

/-- The group between the anchors, which has no number. -/
def anchorGroup : OpenGroup := ⟨none, {}, ⟨[], [.anchor .beginText]⟩⟩

theorem reaches_anchorGroup (pattern body : List Char) :
    Reaches pattern 2 {} (anchored body) (({} : Reader).within anchorGroup) (body ++ closing) := by
  have hbegin : Reaches pattern 1 {} (anchored body) (({} : Reader).push (.anchor .beginText))
      ('(' :: '?' :: ':' :: (body ++ closing)) := .of_step rfl
  have hopen : Reaches pattern 1 (({} : Reader).push (.anchor .beginText))
      ('(' :: '?' :: ':' :: (body ++ closing)) (({} : Reader).within anchorGroup)
      (body ++ closing) := .of_step rfl
  exact hbegin.trans hopen

theorem reaches_closing (pattern : List Char) {t : Reader} (ht : t.openGroups = []) :
    ∃ s : Reader, Reaches pattern 2 (t.within anchorGroup) closing s [] ∧ s.openGroups = [] ∧
      s.branches.toRegex = Regex.enclosed t.branches.toRegex := by
  let closed : Reader := { t with
    branches := anchorGroup.outer.push t.branches.toRegex
    openGroups := []
    flags := {}
    repetition := [] }
  have hclose : Reaches pattern 1 (t.within anchorGroup) closing closed ['$'] := by
    apply Reaches.of_step
    rw [Reader.step, Reader.closeGroup?, Reader.within, ht]
    rfl
  have hend : Reaches pattern 1 closed ['$'] (closed.push (.anchor .endText)) [] := .of_step rfl
  exact ⟨_, hclose.trans hend, rfl, rfl⟩

/-- A body that is a pattern of its own stays in one piece between the anchors. Only a quoted part
that nothing closes keeps the whole from being read. -/
theorem read_anchored_of_read {body : List Char} {inner : Regex}
    (h : Regex.read body = .ok inner) :
    Regex.read (anchored body) = .ok (Regex.enclosed inner) ∨
      Regex.read (anchored body) = .error (.missingParenthesis (anchored body)) := by
  obtain ⟨t, hsteps, ht, rfl⟩ := Regex.exists_steps_of_read h
  have hlength : (anchored body).length = body.length + 6 := by simp [anchored]
  have hbegin := reaches_anchorGroup (anchored body) body
  obtain ⟨k, hk, hbody | ⟨t', hbody⟩⟩ :=
    Reader.reaches_within anchorGroup (anchored body) (Nat.le_refl _) hsteps
  · obtain ⟨s, hclose, hs, hregex⟩ := reaches_closing (anchored body) ht
    refine .inl ?_
    rw [Regex.read_of_reaches ((hbegin.trans hbody).trans hclose) (by omega), if_pos hs, hregex]
  · refine .inr ?_
    rw [Regex.read_of_reaches (hbegin.trans hbody) (by omega), if_neg (by simp [Reader.within])]

/-- A template whose expanded text is a pattern of its own matches whole paths only. -/
theorem search?_spans {source : String} {t : PathTemplate} {inner : Regex}
    (h : PathTemplate.ofSource? source = .ok t)
    (hinner : Regex.read (expand source.toList).1 = .ok inner) {path : String}
    (hpath : t.accepts path = true) :
    ∃ m, t.compiled.search? path = some m ∧ m.start path.toList = 0 ∧
      m.stop path.toList = path.toList.length := by
  have hread := (compiles_of_compile (PathTemplate.compile_of_ofSource? h)).readable
  have hregex : t.compiled.regex = Regex.enclosed inner := by
    rcases read_anchored_of_read hinner with hinner | hinner
    · rw [hread] at hinner
      exact Except.ok.inj hinner
    · rw [hread] at hinner
      cases hinner
  obtain ⟨m, hm⟩ := Option.isSome_iff_exists.1 hpath
  refine ⟨m, hm, ?_⟩
  rw [Compiled.search?, hregex] at hm
  exact Regex.search?_enclosed hm

/-- Switches and alternatives of a template's own do not loosen the anchors. -/
theorem search?_spans_alternatives :
    ∃ t inner, PathTemplate.ofSource? "a|(?i)b" = .ok t ∧
      Regex.read (expand "a|(?i)b".toList).1 = .ok inner ∧ t.accepts "B" = true ∧
      ∃ m, t.compiled.search? "B" = some m ∧ m.start "B".toList = 0 ∧
        m.stop "B".toList = "B".toList.length := by
  let inner : Regex := .alt (.seq (.char 'a') .empty)
    (.seq (.chars (.caseless (.single 'b'))) .empty)
  have hinner : Regex.read (expand "a|(?i)b".toList).1 = .ok inner := by decide +kernel
  have hcompile : compile "a|(?i)b" = .ok ⟨"^(?:a|(?i)b)$", Regex.enclosed inner, []⟩ := by
    decide +kernel
  obtain ⟨t, ht, hc, -⟩ := PathTemplate.exists_ofSource? hcompile
  have hpath : t.accepts "B" = true := by
    rw [PathTemplate.accepts, hc]
    decide +kernel
  exact ⟨t, inner, ht, hinner, hpath, search?_spans ht hinner hpath⟩

/-- Two parts of a path, neither of them whole: the parentheses of the template close the group of
the anchors and open another one. -/
theorem search?_not_spans :
    ∃ t m, PathTemplate.ofSource? "a)|(?:b" = .ok t ∧ t.accepts "xb" = true ∧
      t.compiled.search? "xb" = some m ∧ m.start "xb".toList = 1 := by
  have hcompile : compile "a)|(?:b" = .ok ⟨"^(?:a)|(?:b)$", .alt
      (.seq (.anchor .beginText) (.seq (.seq (.char 'a') .empty) .empty))
      (.seq (.seq (.char 'b') .empty) (.seq (.anchor .endText) .empty)), []⟩ := by
    decide +kernel
  obtain ⟨t, ht, hc, -⟩ := PathTemplate.exists_ofSource? hcompile
  refine ⟨t, ⟨1, ⟨[], 0⟩⟩, ht, ?_, ?_, by decide +kernel⟩
  · rw [PathTemplate.accepts, hc]
    decide +kernel
  · rw [hc]
    decide +kernel

end RequestRouting.Template
