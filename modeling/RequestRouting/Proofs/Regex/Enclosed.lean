import RequestRouting.Regex.Search

/-!
# Searching between the anchors

An expression that begins with the start of the text and ends with its end can only match the whole
text, whatever stands in between: the walk begins at the first place alone, and every way that a
set holds leads to the last one.
-/

namespace RequestRouting.Regex

def Walk.Yields (P : Trace → Prop) (w : Walk) : Prop := ∀ passed t, (w passed).1 = some t → P t

namespace Walk.Yields

variable {P : Trace → Prop} {w v : Walk}

theorem fail (P : Trace → Prop) : Yields P Walk.fail := by
  rintro passed t ⟨⟩

theorem const {held : Option Trace} (h : ∀ t, held = some t → P t) :
    Yields P fun passed => (held, passed) :=
  fun _ => h

theorem orElse (hw : Yields P w) (hv : Yields P v) : Yields P (w.orElse v) := by
  intro passed t ht
  unfold Walk.orElse at ht
  split at ht
  · next u after hu =>
    cases ht
    exact hw passed t (by rw [hu])
  · next after hu => exact hv after t ht

theorem first (greedy : Bool) (hw : Yields P w) (hv : Yields P v) :
    Yields P (.first greedy w v) := by
  cases greedy with
  | true => exact hw.orElse hv
  | false => exact hv.orElse hw

theorem pass (point : Nat) (hw : Yields P w) : Yields P (.pass point w) := by
  intro passed t ht
  unfold Walk.pass at ht
  split at ht
  · cases ht
  · exact hw _ t ht

theorem mark (hmark : ∀ k t, P t → P (t.mark k)) (k : Mark) (hw : Yields P w) :
    Yields P (w.mark k) := by
  intro passed t ht
  obtain ⟨u, hu, rfl⟩ := Option.map_eq_some_iff.1 ht
  exact hmark k u (hw passed u hu)

end Walk.Yields

namespace Plan

def Holds (P : Trace → Prop) : Plan → Prop
  | empty | anchor _ => True
  | chars _ onward | anyByte onward => ∀ t, onward = some t → P t
  | seq p q | alt _ p q => p.Holds P ∧ q.Holds P
  | optional _ _ p | zeroOrMore _ _ p | oneOrMore _ _ p | group _ p => p.Holds P

variable {P : Trace → Prop}

theorem Holds.walk (hmark : ∀ k t, P t → P (t.mark k)) (place : Place) {p : Plan} (hp : p.Holds P)
    {next : Walk} (hnext : next.Yields P) : (p.walk place next).Yields P := by
  induction p generalizing next with
  | empty => exact hnext
  | chars set onward =>
    refine .const ?_
    intro t ht
    split at ht
    · exact hp t ht
    · cases ht
  | anyByte onward =>
    refine .const ?_
    intro t ht
    split at ht
    · exact hp t ht
    · cases ht
  | anchor a =>
    rw [Plan.walk]
    split
    · exact hnext
    · exact .fail P
  | seq p q ihp ihq => exact ihp hp.1 (ihq hp.2 hnext)
  | alt point p q ihp ihq => exact ((ihp hp.1 hnext).orElse (ihq hp.2 hnext)).pass point
  | optional point greedy p ih => exact ((ih hp hnext).first greedy hnext).pass point
  | zeroOrMore point greedy p ih => exact ((ih hp (.fail P)).first greedy hnext).pass point
  | oneOrMore point greedy p ih =>
    exact ih hp (((ih hp (.fail P)).first greedy hnext).pass point)
  | group index p ih => exact (ih hp (hnext.mark hmark _)).mark hmark _

theorem Holds.advance (hmark : ∀ k t, P t → P (t.mark k)) (place : Place) {p : Plan}
    (hp : p.Holds P) {next : Walk} (hnext : next.Yields P) : (p.advance place next).Holds P := by
  induction p generalizing next with
  | empty | anchor => trivial
  | chars set onward =>
    intro t ht
    split at ht
    · exact hp t ht
    · exact hnext [] t ht
  | anyByte onward => exact hnext []
  | seq p q ihp ihq =>
    exact ⟨ihp hp.1 (hp.2.walk hmark place hnext), ihq hp.2 hnext⟩
  | alt point p q ihp ihq => exact ⟨ihp hp.1 hnext, ihq hp.2 hnext⟩
  | optional point greedy p ih => exact ih hp hnext
  | zeroOrMore point greedy p ih | oneOrMore point greedy p ih =>
    have hp : p.Holds P := hp
    exact ih hp (((hp.walk hmark place (.fail P)).first greedy hnext).pass point)
  | group index p ih => exact ih hp (hnext.mark hmark _)

theorem holds_plan (P : Trace → Prop) (r : Regex) (n : Nat) : (plan r n).1.Holds P := by
  induction r generalizing n with
  | empty | anchor => trivial
  | chars | anyByte => rintro t ⟨⟩
  | seq r s ihr ihs => exact ⟨ihr n, ihs _⟩
  | alt r s ihr ihs => exact ⟨ihr (n + 1), ihs _⟩
  | repeated kind greedy r ih =>
    cases kind with
    | optional | oneOrMore => exact ih (n + 1)
    | zeroOrMore =>
      rw [plan]
      dsimp only
      split
      · exact ih (n + 2)
      · exact ih (n + 1)
  | group index name r ih => exact ih n

def enclosed (p : Plan) : Plan :=
  .seq (.anchor .beginText) (.seq p (.seq (.anchor .endText) .empty))

theorem advance_enclosed (p : Plan) (place : Place) (next : Walk) :
    p.enclosed.advance place next =
      (p.advance place (if place.meets .endText then next else Walk.fail)).enclosed := rfl

theorem walk_enclosed (p : Plan) (place : Place) (next : Walk) :
    p.enclosed.walk place next =
      if place.meets .beginText then
        p.walk place (if place.meets .endText then next else Walk.fail)
      else Walk.fail := rfl

end Plan

def enclosed (r : Regex) : Regex :=
  .seq (.anchor .beginText) (.seq r (.seq (.anchor .endText) .empty))

def Trace.AtEnd (t : Trace) : Prop := t.left = 0

theorem Trace.AtEnd.mark (k : Mark) (t : Trace) (h : t.AtEnd) : (t.mark k).AtEnd := h

def Place.EndsAtZero (place : Place) : Prop := place.after = none → place.left = 0

theorem Place.endsAtZero_some (before : Option Char) (c : Char) (isInside : Bool) (left : Nat) :
    Place.EndsAtZero ⟨before, some c, isInside, left⟩ := by
  rintro ⟨⟩

theorem Place.EndsAtZero.yields {place : Place} (h : place.EndsAtZero) :
    Walk.Yields Trace.AtEnd
      (if place.meets .endText then Walk.finish place.left else Walk.fail) := by
  split
  · next hmeets =>
    rintro passed t ⟨⟩
    exact h (Option.isNone_iff_eq_none.1 hmeets)
  · exact .fail _

namespace Progress

/-- Where a search between the anchors stands when so many characters are left: what was found, if
anything, starts at the beginning of the text and ends at its end. -/
structure Encloses (before : Option Char) (remaining : Nat) (s : Progress) : Prop where
  plan : ∃ p : Plan, s.plan = p.enclosed ∧ p.Holds Trace.AtEnd
  left : s.left = remaining
  found : ∀ m, s.found = some m → before = none ∧ m.left = remaining ∧ m.trace.AtEnd

theorem encloses_visit {p : Plan} (hp : p.Holds Trace.AtEnd) {place : Place}
    (hend : place.EndsAtZero) (left : Nat) :
    (visit place ⟨p.enclosed, none, left⟩).Encloses place.before place.left := by
  constructor
  · exact ⟨_, p.advance_enclosed place _, hp.advance Trace.AtEnd.mark place hend.yields⟩
  · rfl
  · intro m hm
    simp only [visit, Plan.walk_enclosed] at hm
    split at hm
    · next t ht =>
      cases hm
      split at ht
      · next hmeets =>
        exact ⟨Option.isNone_iff_eq_none.1 hmeets, rfl,
          hp.walk Trace.AtEnd.mark place hend.yields [] t ht⟩
      · cases ht
    · cases hm

namespace Encloses

variable {before : Option Char} {remaining : Nat} {s : Progress}

theorem visit (h : s.Encloses before remaining) (hbefore : before ≠ none) {place : Place}
    (hend : place.EndsAtZero) : (s.visit place).Encloses place.before place.left := by
  obtain ⟨p, hplan, hp⟩ := h.plan
  have hfound : s.found = none := by
    rw [Option.eq_none_iff_forall_ne_some]
    intro m hm
    exact hbefore (h.found m hm).1
  have hs : s = ⟨p.enclosed, none, s.left⟩ := by rw [← hplan, ← hfound]
  rw [hs]
  exact encloses_visit hp hend s.left

theorem visitChar {c : Char} (h : s.Encloses (some c) remaining) (before : Option Char) :
    (s.visitChar before c).Encloses before (remaining + 1) := by
  have inside : ∀ n, (Nat.repeat (Progress.visit ⟨some c, some c, true, remaining⟩) n s).Encloses
      (some c) remaining := by
    intro n
    induction n with
    | zero => exact h
    | succ n ih => exact ih.visit (by simp) (Place.endsAtZero_some (some c) c true remaining)
  rw [Progress.visitChar, h.left]
  exact (inside _).visit (by simp) (Place.endsAtZero_some before c false (remaining + 1))

end Encloses

theorem encloses_ofText {p : Plan} (hp : p.Holds Trace.AtEnd) (before : Option Char)
    (text : List Char) : (ofText p.enclosed before text).Encloses before text.length := by
  induction text generalizing before with
  | nil =>
    have hend : Place.EndsAtZero ⟨before, none, false, 0⟩ := fun _ => rfl
    exact encloses_visit hp hend 0
  | cons c rest ih => exact (ih (some c)).visitChar before

end Progress

/-- Between the anchors a match takes the whole text. -/
theorem search?_enclosed {r : Regex} {text : List Char} {m : Match}
    (h : search? (enclosed r) text = some m) : m.start text = 0 ∧ m.stop text = text.length := by
  have hs := Progress.encloses_ofText (Plan.holds_plan Trace.AtEnd r 0) none text
  obtain ⟨-, hleft, hend⟩ := hs.found m h
  rw [Match.start, Match.stop, hleft, hend]
  omega

end RequestRouting.Regex
