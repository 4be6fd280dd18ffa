import Mathlib.Logic.Function.Basic
import RequestRouting.Proofs.Regex.Plain

/-!
# Searching plain expressions

A walk gives up a way as soon as it comes to a decision point it has passed before. For plain
expressions nothing is lost: what a walk passes without success leads nowhere from that place.
Hence a search for an anchored plain expression returns the first way that backtracking finds.
-/

namespace RequestRouting.Regex

/-- The walk touches decision points from `n` on only and returns `v`, provided that those already
passed lead nowhere. When it fails, all points it has passed lead nowhere. -/
def Walk.Answers (value : Nat → Option Trace) (n : Nat) (w : Walk) (v : Option Trace) : Prop :=
  ∀ passed : List Nat, (∀ x ∈ passed, n ≤ x → value x = none) →
    (w passed).1 = v ∧ ∀ x ∈ (w passed).2, x ∈ passed ∨ n ≤ x ∧ (v = none → value x = none)

namespace Walk.Answers

variable {value value' : Nat → Option Trace} {n m : Nat} {w w' : Walk} {v v' : Option Trace}

theorem const (value : Nat → Option Trace) (n : Nat) (v : Option Trace) :
    Answers value n (fun passed => (v, passed)) v :=
  fun _ _ => ⟨rfl, fun _ hx => .inl hx⟩

theorem mono (h : Answers value m w v) (hn : n ≤ m) : Answers value n w v := by
  intro passed hp
  obtain ⟨hv, hx⟩ := h passed fun x hx hm => hp x hx (Nat.le_trans hn hm)
  refine ⟨hv, ?_⟩
  intro x hm
  rcases hx x hm with hm | ⟨hle, hd⟩
  · exact .inl hm
  · exact .inr ⟨Nat.le_trans hn hle, hd⟩

theorem congr (h : Answers value n w v) (hv : ∀ x, n ≤ x → value' x = value x) :
    Answers value' n w v := by
  intro passed hp
  obtain ⟨h₁, h₂⟩ := h passed fun x hx hn => (hv x hn).symm.trans (hp x hx hn)
  refine ⟨h₁, ?_⟩
  intro x hx
  rcases h₂ x hx with hx | ⟨hn, hd⟩
  · exact .inl hx
  · refine .inr ⟨hn, ?_⟩
    intro he
    rw [hv x hn]
    exact hd he

theorem orElse (h : Answers value n w v) (h' : Answers value n w' v') :
    Answers value n (w.orElse w') (v.or v') := by
  intro passed hp
  obtain ⟨hv, hx⟩ := h passed hp
  unfold Walk.orElse
  split
  · next t after he =>
    rw [he] at hv hx
    subst hv
    refine ⟨rfl, ?_⟩
    intro x hm
    rcases hx x hm with hm | ⟨hn, -⟩
    · exact .inl hm
    · exact .inr ⟨hn, fun hc => by simp at hc⟩
  · next after he =>
    rw [he] at hv hx
    subst hv
    -- everything passed by now leads nowhere, so the second walk answers as from the start
    have hp' : ∀ x ∈ after, n ≤ x → value x = none := by
      intro x hm hn
      rcases hx x hm with hm | ⟨_, hd⟩
      · exact hp x hm hn
      · exact hd rfl
    obtain ⟨hv', hx'⟩ := h' after hp'
    refine ⟨by simpa using hv', ?_⟩
    intro x hm
    rcases hx' x hm with hm | ⟨hn, hd⟩
    · rcases hx x hm with hm | ⟨hn, hd⟩
      · exact .inl hm
      · exact .inr ⟨hn, fun _ => hd rfl⟩
    · exact .inr ⟨hn, fun hc => hd (by simpa using hc)⟩

theorem first (greedy : Bool) (h : Answers value n w v) (h' : Answers value n w' v') :
    Answers value n (.first greedy w w') (prefer greedy v v') := by
  cases greedy with
  | true => exact h.orElse h'
  | false => exact h'.orElse h

theorem pass (h : Answers value (n + 1) w v) :
    Answers (Function.update value n v) n (.pass n w) v := by
  have h' : Answers (Function.update value n v) (n + 1) w v :=
    h.congr fun x hx => Function.update_of_ne (by omega) _ _
  intro passed hp
  unfold Walk.pass
  split
  · next hc =>
    have hn := hp n (by simpa using hc) (Nat.le_refl n)
    rw [Function.update_self] at hn
    exact ⟨hn.symm, fun x hx => .inl hx⟩
  · obtain ⟨h₁, h₂⟩ := h' (n :: passed) (by
      intro x hx hn
      rcases List.mem_cons.1 hx with rfl | hx
      · omega
      · exact hp x hx (by omega))
    refine ⟨h₁, ?_⟩
    intro x hx
    rcases h₂ x hx with hm | ⟨hn, hd⟩
    · rcases List.mem_cons.1 hm with rfl | hm
      · exact .inr ⟨Nat.le_refl x, fun he => by simpa using he⟩
      · exact .inl hm
    · exact .inr ⟨by omega, hd⟩

theorem mark (h : Answers value n w v) (μ : Mark) :
    Answers value n (w.mark μ) (v.map (Trace.mark μ)) := by
  intro passed hp
  obtain ⟨h₁, h₂⟩ := h passed hp
  refine ⟨by simp [Walk.mark, h₁], ?_⟩
  intro x hx
  rcases h₂ x hx with hx | ⟨hn, hd⟩
  · exact .inl hx
  · exact .inr ⟨hn, fun he => hd (by simpa using he)⟩

end Walk.Answers

namespace Plain

/-- Each set holds the way on from the next place to the right, if there is one. -/
def HoldsNext (value : Onward → Option Trace) (text : List Char) : Prop :=
  ∀ c rest, text = c :: rest → ∀ k : Onward, value k = k (some c) rest

theorem holdsNext_nil (value : Onward → Option Trace) : HoldsNext value [] := by
  rintro c rest ⟨⟩

theorem holdsNext_cons (c : Char) (rest : List Char) :
    HoldsNext (fun k => k (some c) rest) (c :: rest) := by
  rintro _ _ ⟨⟩ k
  rfl

theorem walk_chars {value : Onward → Option Trace} {text : List Char} (h : HoldsNext value text)
    (before : Option Char) (set : CharSet) (k : Onward) :
    (if (Place.at before text).reads set then value k else none) = readOne set k before text := by
  cases text with
  | nil => rfl
  | cons c rest => rw [h c rest rfl]; rfl

theorem readMany_eq_prefer (greedy : Bool) (set : CharSet) (k : Onward) (before : Option Char)
    (text : List Char) :
    readMany greedy set k before text =
      prefer greedy (readOne set (readMany greedy set k) before text) (k before text) := by
  cases text with
  | nil => cases greedy <;> simp [readMany, readOne, prefer]
  | cons c rest => rfl

/-- A walk of a plan that is ready finds what backtracking finds. The values of the points behind
the plan stay as they are, so that all alternatives agree about what they share. -/
theorem answers_walk {value : Onward → Option Trace} {text : List Char}
    (hvalue : HoldsNext value text) (before : Option Char) (p : Plain) (n : Nat) (k : Onward)
    (points : Nat → Option Trace) (next : Walk)
    (h : Walk.Answers points (n + p.points) next (k before text)) :
    ∃ points' : Nat → Option Trace, (∀ x, n + p.points ≤ x → points' x = points x) ∧
      Walk.Answers points' n ((p.ready value n k).walk (.at before text) next)
        (p.way k before text) := by
  induction p generalizing n k points next with
  | empty => exact ⟨points, fun _ _ => rfl, h⟩
  | chars set =>
    refine ⟨points, fun _ _ => rfl, ?_⟩
    rw [ready, Plan.walk, way, ← walk_chars hvalue]
    exact .const points n _
  | many greedy set =>
    refine ⟨Function.update points n (readMany greedy set k before text),
      fun x hx => Function.update_of_ne (Nat.ne_of_gt hx) _ _, ?_⟩
    apply Walk.Answers.pass
    rw [readMany_eq_prefer, ← walk_chars hvalue]
    exact .first greedy (.const _ _ _) h
  | anchor a =>
    refine ⟨points, fun _ _ => rfl, ?_⟩
    rw [ready, Plan.walk, way_anchor]
    split
    · exact h
    · exact .const points n none
  | seq p q ihp ihq =>
    rw [Plain.points, ← Nat.add_assoc] at h ⊢
    obtain ⟨points₁, heq₁, h₁⟩ := ihq (n + p.points) k points next h
    obtain ⟨points₂, heq₂, h₂⟩ := ihp n (q.way k) points₁ _ h₁
    exact ⟨points₂, fun x hx => (heq₂ x (by omega)).trans (heq₁ x hx), h₂⟩
  | alt p q ihp ihq =>
    have hn : n + (alt p q).points = n + 1 + p.points + q.points := by
      simp only [Plain.points]; omega
    rw [hn] at h ⊢
    obtain ⟨points₁, heq₁, h₁⟩ := ihq (n + 1 + p.points) k points next h
    have hnext : Walk.Answers points₁ (n + 1 + p.points) next (k before text) :=
      (h.congr heq₁).mono (by omega)
    obtain ⟨points₂, heq₂, h₂⟩ := ihp (n + 1) k points₁ next hnext
    refine ⟨Function.update points₂ n ((alt p q).way k before text), ?_, ?_⟩
    · intro x hx
      rw [Function.update_of_ne (by omega), heq₂ x (by omega), heq₁ x hx]
    · exact .pass (h₂.orElse ((h₁.congr heq₂).mono (by omega)))
  | group index name p ih =>
    obtain ⟨points', heq, h'⟩ :=
      ih n (k.mark index false) points _ (h.mark ⟨index, false, text.length⟩)
    exact ⟨points', heq, h'.mark ⟨index, true, text.length⟩⟩

/-- Advancing a plan that is ready for a place makes it ready for the place one step to the left. -/
theorem advance_ready {value : Onward → Option Trace} {text : List Char}
    (hvalue : HoldsNext value text) (before : Option Char) (p : Plain) (n : Nat) (k : Onward)
    (points : Nat → Option Trace) (next : Walk)
    (h : Walk.Answers points (n + p.points) next (k before text)) :
    (p.ready value n k).advance (.at before text) next =
      p.ready (fun k => k before text) n k := by
  have onward : ∀ {points n w v}, Walk.Answers points n w v → (w []).1 = v :=
    fun h => (h [] (by simp)).1
  induction p generalizing n k points next with
  | empty | anchor => rfl
  | chars set => exact congrArg (Plan.chars set) (onward h)
  | many greedy set =>
    obtain ⟨_, _, h'⟩ := answers_walk hvalue before (many greedy set) n k points next h
    exact congrArg (fun v => Plan.zeroOrMore n greedy (.chars set v)) (onward h')
  | seq p q ihp ihq =>
    rw [Plain.points, ← Nat.add_assoc] at h
    obtain ⟨points', _, h'⟩ := answers_walk hvalue before q (n + p.points) k points next h
    rw [ready, Plan.advance, ihp n (q.way k) points' _ h', ihq _ k points next h, ready]
  | alt p q ihp ihq =>
    have hn : n + (alt p q).points = n + 1 + p.points + q.points := by
      simp only [Plain.points]; omega
    rw [hn] at h
    obtain ⟨points', heq, _⟩ := answers_walk hvalue before q (n + 1 + p.points) k points next h
    rw [ready, Plan.advance, ihp (n + 1) k points' next ((h.congr heq).mono (by omega)),
      ihq _ k points next h, ready]
  | group index name p ih =>
    exact congrArg (Plan.group index)
      (ih n (k.mark index false) points _ (h.mark ⟨index, false, text.length⟩))

/-- Within the encoding of a character nothing changes. -/
theorem advance_inside (value : Onward → Option Trace) (c : Char) (left : Nat) (p : Plain) (n : Nat)
    (k : Onward) (next : Walk) :
    (p.ready value n k).advance ⟨some c, some c, true, left⟩ next = p.ready value n k := by
  induction p generalizing n k next with
  | empty | chars | anchor | many => rfl
  | seq p q ihp ihq => rw [ready, Plan.advance, ihp, ihq]
  | alt p q ihp ihq => rw [ready, Plan.advance, ihp, ihq]
  | group index name p ih => rw [ready, Plan.advance, ih]

def progress (p : Plain) (before : Option Char) (text : List Char) : Progress where
  plan := p.anchored.ready (fun k => k before text) 0 .finish
  found := (p.anchored.way .finish before text).map fun trace => ⟨text.length, trace⟩
  left := text.length

theorem visit_inside (p : Plain) (c : Char) (rest : List Char) :
    Progress.visit ⟨some c, some c, true, rest.length⟩ (p.progress (some c) rest) =
      p.progress (some c) rest := by
  rw [Progress.visit, Progress.mk.injEq]
  exact ⟨advance_inside _ c rest.length p.anchored 0 _ _, rfl, rfl⟩

theorem visit_at {value : Onward → Option Trace} {text : List Char} (hvalue : HoldsNext value text)
    (p : Plain) (before : Option Char) (left : Nat) :
    Progress.visit (.at before text) ⟨p.anchored.ready value 0 .finish, none, left⟩ =
      p.progress before text := by
  have hfinish : Walk.Answers (fun _ => none) (0 + p.anchored.points)
      (Walk.finish text.length) (Onward.finish before text) := .const _ _ _
  obtain ⟨_, _, hwalk⟩ := answers_walk hvalue before p.anchored 0 .finish _ _ hfinish
  rw [Progress.visit, progress, Progress.mk.injEq]
  refine ⟨advance_ready hvalue before p.anchored 0 .finish _ _ hfinish, ?_, rfl⟩
  rw [← (hwalk [] (by simp)).1]
  dsimp only [Place.at]
  split <;> simp_all

theorem ofText_anchored (p : Plain) (before : Option Char) (text : List Char) :
    Progress.ofText (plan p.anchored.toRegex 0).1 before text = p.progress before text := by
  induction text generalizing before with
  | nil =>
    rw [plan_toRegex p.anchored 0 .finish]
    exact visit_at (holdsNext_nil _) p before 0
  | cons c rest ih =>
    have inside : ∀ n, Nat.repeat (Progress.visit ⟨some c, some c, true, rest.length⟩) n
        (p.progress (some c) rest) = p.progress (some c) rest := by
      intro n
      induction n with
      | zero => rfl
      | succ n ihn => rw [Nat.repeat, ihn, visit_inside]
    rw [Progress.ofText, ih, Progress.visitChar]
    change Progress.visit (.at before (c :: rest)) (Nat.repeat _ _ (p.progress (some c) rest)) = _
    rw [show (p.progress (some c) rest).left = rest.length from rfl, inside]
    exact visit_at (holdsNext_cons c rest) p before _

/-- The search for an anchored plain expression finds the first way from the beginning. -/
theorem search?_anchored (p : Plain) (text : List Char) :
    search? p.anchored.toRegex text =
      (p.way .finish none text).map fun trace => ⟨text.length, trace⟩ := by
  rw [search?, ofText_anchored]
  rfl

end Plain

end RequestRouting.Regex
