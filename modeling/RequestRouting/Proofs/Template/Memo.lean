import Mathlib.Data.Finset.Card
import RequestRouting.Template.Basic

/-!
# Remembered extractions

A template answers from what it remembers. Whatever it was asked before, the answer is the one it
would compute: the memo holds nothing else, and every extraction keeps it so.
-/

namespace RequestRouting.PathTemplate

def after (t : PathTemplate) (paths : List String) : PathTemplate :=
  paths.foldl (fun t path => (t.extract path).2) t

def Faithful (t : PathTemplate) : Prop :=
  ∀ path vars, List.lookup path t.memo = some vars → vars = t.compiled.extract path

theorem faithful_of_memo_eq_nil {t : PathTemplate} (h : t.memo = []) : t.Faithful := by
  intro path vars hl
  simp [h] at hl

theorem compiled_extract (t : PathTemplate) (path : String) :
    (t.extract path).2.compiled = t.compiled := by
  unfold extract
  split <;> rfl

theorem extract_fst {t : PathTemplate} (h : t.Faithful) (path : String) :
    (t.extract path).1 = t.compiled.extract path := by
  unfold extract
  split
  · next vars hl => exact h path vars hl
  · rfl

theorem Faithful.extract {t : PathTemplate} (h : t.Faithful) (path : String) :
    (t.extract path).2.Faithful := by
  intro other vars hl
  rw [compiled_extract]
  unfold PathTemplate.extract at hl
  split at hl
  · exact h other vars hl
  · simp only [List.lookup_append, Option.or_eq_some_iff] at hl
    rcases hl with hl | ⟨-, hl⟩
    · exact h other vars hl
    · rw [List.lookup_cons] at hl
      split at hl
      · next he =>
        cases hl
        rw [eq_of_beq he]
      · cases hl

theorem faithful_after {t : PathTemplate} (h : t.Faithful) (paths : List String) :
    (t.after paths).Faithful ∧ (t.after paths).compiled = t.compiled := by
  induction paths generalizing t with
  | nil => exact ⟨h, rfl⟩
  | cons path paths ih =>
    obtain ⟨hf, hc⟩ := ih (h.extract path)
    exact ⟨hf, hc.trans (compiled_extract t path)⟩

theorem extract_after {t : PathTemplate} (h : t.Faithful) (paths : List String) (path : String) :
    ((t.after paths).extract path).1 = t.compiled.extract path := by
  obtain ⟨hf, hc⟩ := faithful_after h paths
  rw [extract_fst hf, hc]

theorem exists_ofSource? {source : String} {compiled : Template.Compiled}
    (h : Template.compile source = .ok compiled) :
    ∃ t, ofSource? source = .ok t ∧ t.compiled = compiled ∧ t.memo = [] := by
  unfold ofSource?
  split
  · next found hf =>
    rw [h] at hf
    cases hf
    exact ⟨_, rfl, rfl, rfl⟩
  · next e hf =>
    rw [h] at hf
    cases hf

theorem ofSource?_error {source : String} {e : Template.CompileError}
    (h : Template.compile source = .error e) : ofSource? source = .error e := by
  unfold ofSource?
  split
  · next found hf =>
    rw [h] at hf
    cases hf
  · next found hf =>
    rw [h] at hf
    cases hf
    rfl

theorem compile_of_ofSource? {source : String} {t : PathTemplate} (h : ofSource? source = .ok t) :
    Template.compile source = .ok t.compiled := by
  unfold ofSource? at h
  split at h
  · next compiled hc =>
    cases h
    exact hc
  · cases h

def fresh (t : PathTemplate) : PathTemplate := { t with memo := [] }

theorem fresh_extract (t : PathTemplate) (path : String) : (t.extract path).2.fresh = t.fresh := by
  unfold extract
  split <;> rfl

theorem faithful_fresh (t : PathTemplate) : t.fresh.Faithful := faithful_of_memo_eq_nil rfl

theorem ofSource?_source (t : PathTemplate) : ofSource? t.source = .ok t.fresh := by
  unfold ofSource?
  split
  · next compiled hc =>
    rw [t.compile_source] at hc
    cases hc
    rfl
  · next e he =>
    rw [t.compile_source] at he
    cases he

theorem memo_of_ofSource? {source : String} {t : PathTemplate} (h : ofSource? source = .ok t) :
    t.memo = [] := by
  unfold ofSource? at h
  split at h
  · cases h
    rfl
  · cases h

def Remembers (t : PathTemplate) (path : String) : Prop := path ∈ t.memo.map (·.1)

theorem lookup_memo_eq_none {t : PathTemplate} {path : String} :
    List.lookup path t.memo = none ↔ ¬ t.Remembers path := by
  rw [List.lookup_eq_none_iff, Remembers, List.mem_map]
  constructor
  · rintro h ⟨entry, hentry, rfl⟩
    simpa using h entry hentry
  · intro h entry hentry
    have hne : path ≠ entry.1 := fun he => h ⟨entry, hentry, he.symm⟩
    simpa using hne

theorem extract_of_remembers {t : PathTemplate} {path : String} (h : t.Remembers path) :
    (t.extract path).2 = t := by
  unfold extract
  split
  · rfl
  · next hl => exact absurd h (lookup_memo_eq_none.1 hl)

theorem memo_extract_of_new {t : PathTemplate} {path : String} (h : ¬ t.Remembers path) :
    (t.extract path).2.memo = t.memo ++ [(path, t.compiled.extract path)] := by
  rw [extract, lookup_memo_eq_none.2 h]

theorem remembers_extract {t : PathTemplate} {path other : String} :
    (t.extract path).2.Remembers other ↔ t.Remembers other ∨ other = path := by
  by_cases h : t.Remembers path
  · rw [extract_of_remembers h]
    constructor
    · exact .inl
    · rintro (ho | rfl)
      · exact ho
      · exact h
  · rw [Remembers, memo_extract_of_new h]
    simp [Remembers]

/-- What is remembered was there at the outset or has been asked for since. -/
theorem remembers_after {t : PathTemplate} {paths : List String} {path : String} :
    (t.after paths).Remembers path ↔ t.Remembers path ∨ path ∈ paths := by
  induction paths generalizing t with
  | nil => simp [after]
  | cons first paths ih =>
    rw [after, List.foldl_cons, ← after, ih, remembers_extract, List.mem_cons, or_assoc]

theorem memo_prefix_extract (t : PathTemplate) (path : String) :
    t.memo <+: (t.extract path).2.memo := by
  by_cases h : t.Remembers path
  · rw [extract_of_remembers h]
  · rw [memo_extract_of_new h]
    exact List.prefix_append t.memo _

/-- No entry is ever changed or lost. -/
theorem memo_prefix_after (t : PathTemplate) (paths : List String) :
    t.memo <+: (t.after paths).memo := by
  induction paths generalizing t with
  | nil => exact List.prefix_refl t.memo
  | cons path paths ih => exact (memo_prefix_extract t path).trans (ih _)

theorem nodup_memo_extract {t : PathTemplate} (h : (t.memo.map (·.1)).Nodup) (path : String) :
    ((t.extract path).2.memo.map (·.1)).Nodup := by
  by_cases hpath : t.Remembers path
  · rwa [extract_of_remembers hpath]
  · rw [memo_extract_of_new hpath, List.map_append]
    exact List.nodup_append_comm.1 (List.nodup_cons.2 ⟨hpath, h⟩)

theorem nodup_memo_after {t : PathTemplate} (h : (t.memo.map (·.1)).Nodup) (paths : List String) :
    ((t.after paths).memo.map (·.1)).Nodup := by
  induction paths generalizing t with
  | nil => exact h
  | cons path paths ih => exact ih (nodup_memo_extract h path)

theorem memoSize_after {t : PathTemplate} (h : t.memo = []) (paths : List String) :
    (t.after paths).memoSize = paths.toFinset.card := by
  have hnodup : ((t.after paths).memo.map (·.1)).Nodup := nodup_memo_after (by simp [h]) paths
  have hpaths : ((t.after paths).memo.map (·.1)).toFinset = paths.toFinset := by
    ext path
    have hfresh : ¬ t.Remembers path := by simp [Remembers, h]
    rw [List.mem_toFinset, List.mem_toFinset, ← Remembers, remembers_after, or_iff_right hfresh]
  rw [← hpaths, List.toFinset_card_of_nodup hnodup, List.length_map, memoSize]

end RequestRouting.PathTemplate
