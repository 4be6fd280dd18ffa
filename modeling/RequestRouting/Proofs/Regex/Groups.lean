import RequestRouting.Proofs.Regex.Steps

/-!
# The groups of a pattern

The reader numbers groups in the order of their opening parentheses. A group has a name only where
the text opens one for that name, so the names of all groups are found in the text in their order.
-/

namespace RequestRouting.Regex

open RequestRouting.Text (cut upTo)

def groups : Regex → List (Nat × Option String)
  | empty | chars _ | anyByte | anchor _ => []
  | seq r s | alt r s => r.groups ++ s.groups
  | repeated _ _ r => r.groups
  | group index name r => (index, name) :: r.groups

theorem groupNames_eq (r : Regex) : r.groupNames = r.groups.map (·.2) := by
  induction r with
  | empty | chars | anyByte | anchor => rfl
  | seq r s ihr ihs => rw [groupNames, groups, ihr, ihs, List.map_append]
  | alt r s ihr ihs => rw [groupNames, groups, ihr, ihs, List.map_append]
  | repeated kind greedy r ih => exact ih
  | group index name r ih => rw [groupNames, groups, ih, List.map_cons]

theorem groups_sequence (rs : List Regex) : (sequence rs).groups = rs.flatMap groups := by
  induction rs with
  | nil => rfl
  | cons r rs ih => rw [sequence, groups, ih, List.flatMap_cons]

theorem groups_alternatives (rs : List Regex) : (alternatives rs).groups = rs.flatMap groups := by
  induction rs with
  | nil => rfl
  | cons r rs ih =>
    cases rs with
    | nil => simp [alternatives]
    | cons s rs => rw [alternatives.eq_3 r _ (by simp), groups, ih, ← List.flatMap_cons]

namespace Branches

def groups (b : Branches) : List (Nat × Option String) :=
  (b.items ++ b.finished).reverse.flatMap Regex.groups

theorem groups_push (b : Branches) (r : Regex) : (b.push r).groups = b.groups ++ r.groups := by
  simp [groups, push]

theorem groups_nextAlternative (b : Branches) : b.nextAlternative.groups = b.groups := by
  simp [groups, nextAlternative, groups_sequence]

theorem groups_toRegex (b : Branches) : b.toRegex.groups = b.groups := by
  rw [toRegex, groups_alternatives, ← groups_nextAlternative]
  rfl

end Branches

def OpenGroup.groups (g : OpenGroup) : List (Nat × Option String) :=
  g.outer.groups ++ g.capture.toList

def openedName? (text : List Char) : Option String :=
  ((['(', '?', 'P', '<'].isPrefixOf? text).or (['(', '?', '<'].isPrefixOf? text)).map fun rest =>
    String.ofList (upTo '>' rest)

/-- The names that the text opens groups with, wherever it does so. -/
def openedNames : List Char → List String
  | [] => []
  | c :: rest => (openedName? (c :: rest)).toList ++ openedNames rest

theorem openedNames_sublist {rest text : List Char} (h : rest <:+ text) :
    (openedNames rest).Sublist (openedNames text) := by
  obtain ⟨before, rfl⟩ := h
  induction before with
  | nil => exact .refl _
  | cons c before ih => exact ih.trans (List.sublist_append_right _ _)

namespace GroupSyntax

theorem readSwitches_ne_named {start text rest : List Char} {flags : Flags} {on seen : Bool}
    {name : String} : readSwitches start flags on seen text ≠ .ok (.named name, rest) := by
  induction text generalizing flags on seen with
  | nil => simp [readSwitches]
  | cons c text ih =>
    rw [readSwitches]
    split
    · exact ih
    · split
      · exact ih
      · split
        · simp
        · split <;> simp

theorem eq_upTo_of_readName {start text rest : List Char} {name : String}
    (h : readName start text = .ok (.named name, rest)) : name = String.ofList (upTo '>' text) := by
  unfold readName at h
  split at h
  · cases h
  · next found after hcut =>
    split at h
    · cases h
      rw [upTo, hcut]
      rfl
    · cases h

theorem openedName?_of_read {flags : Flags} {start text rest : List Char} {name : String}
    (h : read flags start text = .ok (.named name, rest)) :
    openedName? ('(' :: '?' :: text) = some name := by
  unfold read at h
  split at h
  · cases h
  · cases h
  · cases h
  · cases h
  · rw [eq_upTo_of_readName h]
    rfl
  · rw [eq_upTo_of_readName h]
    rfl
  · exact absurd h readSwitches_ne_named

end GroupSyntax

namespace Reader

def groups (s : Reader) : List (Nat × Option String) :=
  s.openGroups.reverse.flatMap OpenGroup.groups ++ s.branches.groups

/-- No group was opened, and those opened before are still there. -/
structure Keeps (s s' : Reader) : Prop where
  groups : s'.groups = s.groups
  groupCount : s'.groupCount = s.groupCount

theorem Keeps.trans {s s' s'' : Reader} (h : Keeps s s') (h' : Keeps s' s'') : Keeps s s'' :=
  ⟨h'.groups.trans h.groups, h'.groupCount.trans h.groupCount⟩

theorem groups_push (s : Reader) (r : Regex) : (s.push r).groups = s.groups ++ r.groups := by
  rw [groups, push, Branches.groups_push, ← List.append_assoc]
  rfl

theorem keeps_push (s : Reader) {r : Regex} (hr : r.groups = []) : Keeps s (s.push r) :=
  ⟨by rw [groups_push, hr, List.append_nil], rfl⟩

theorem keeps_pushLiterals (s : Reader) (text : List Char) : Keeps s (s.pushLiterals text) := by
  have hfold : ∀ s : Reader, Keeps s (text.foldl (fun s c => s.push (s.flags.literal c)) s) := by
    induction text with
    | nil => exact fun s => ⟨rfl, rfl⟩
    | cons c text ih => exact fun s => (keeps_push s rfl).trans (ih _)
  have hreset : Keeps s { s with repetition := [] } := ⟨rfl, rfl⟩
  exact hreset.trans (hfold _)

theorem keeps_nextAlternative (s : Reader) : Keeps s s.nextAlternative := by
  refine ⟨?_, rfl⟩
  rw [groups, nextAlternative, Branches.groups_nextAlternative]
  rfl

/-- A parenthesis that closes puts the groups inside it behind the one that it opened. -/
theorem keeps_closeGroup? {s s' : Reader} (h : s.closeGroup? = some s') : Keeps s s' := by
  unfold closeGroup? at h
  split at h
  · cases h
  · next g openGroups ho =>
    cases h
    refine ⟨?_, rfl⟩
    cases hc : g.capture <;>
      simp [groups, ho, hc, OpenGroup.groups, Branches.groups_push, Regex.groups,
        Branches.groups_toRegex]

theorem keeps_repeatLast {s s' : Reader} {kind : Repetition} {isMarked : Bool}
    {operator : List Char} (h : s.repeatLast kind isMarked operator = .ok s') : Keeps s s' := by
  unfold repeatLast at h
  split at h
  · cases h
  · split at h
    · cases h
    · next r items hi =>
      cases h
      refine ⟨?_, rfl⟩
      simp [groups, Branches.groups, hi, Regex.groups]

theorem keeps_of_repeatLast {s s' : Reader} {kind : Repetition} {isMarked : Bool}
    {operator rest rest' : List Char}
    (h : (s.repeatLast kind isMarked operator).map (·, rest) = .ok (s', rest')) : Keeps s s' := by
  cases hr : s.repeatLast kind isMarked operator with
  | error e =>
    rw [hr] at h
    cases h
  | ok t =>
    rw [hr] at h
    cases h
    exact keeps_repeatLast hr

theorem keeps_of_map {α : Type} {s s' : Reader} {read : Except ReadError (α × List Char)}
    {f : α → Reader} {rest : List Char} (hf : ∀ a, Keeps s (f a))
    (h : (read.map fun p => (f p.1, p.2)) = .ok (s', rest)) : Keeps s s' := by
  cases read with
  | error e => cases h
  | ok p =>
    cases h
    exact hf p.1

theorem keeps_category {s s' : Reader} {start rest rest' : List Char} {positive : Bool}
    (h : escape.category s start positive rest = .ok (s', rest')) : Keeps s s' :=
  let pushed (g : Character.Category × Bool) : Reader :=
    s.push (.chars (s.flags.resolve (.category g.1) g.2))
  keeps_of_map (f := pushed) (fun _ => keeps_push s rfl) h

theorem keeps_escape {s s' : Reader} {text rest : List Char} (h : s.escape text = .ok (s', rest)) :
    Keeps s s' := by
  unfold escape at h
  dsimp only at h
  split at h
  · cases h
    exact keeps_push s rfl
  · cases h
    exact keeps_push s rfl
  · cases h
    exact keeps_push s rfl
  · cases h
    exact keeps_push s rfl
  · cases h
    exact keeps_push s rfl
  · cases h
    exact keeps_pushLiterals s _
  · exact keeps_category h
  · exact keeps_category h
  · split at h
    · cases h
      exact keeps_push s rfl
    · exact keeps_of_map (fun _ => keeps_push s rfl) h

/-- A step opens at most one group. It takes the next number, and if it has a name, the text opens a
group of that name. -/
inductive Opens (text : List Char) (s s' : Reader) : Prop where
  | nothing (h : Keeps s s')
  | one (name : Option String) (groups : s'.groups = s.groups ++ [(s.groupCount + 1, name)])
      (groupCount : s'.groupCount = s.groupCount + 1)
      (named : ∀ n ∈ name, openedName? text = some n)

theorem groups_openCapture (s : Reader) (name : Option String) :
    (s.openCapture name).groups = s.groups ++ [(s.groupCount + 1, name)] := by
  simp [groups, openCapture, openGroup, OpenGroup.groups, Branches.groups]

theorem opens_openSyntax {start text rest : List Char} {s : Reader} {g : GroupSyntax}
    (h : GroupSyntax.read s.flags start text = .ok (g, rest)) :
    Opens ('(' :: '?' :: text) s (s.openSyntax g) := by
  cases g with
  | named name =>
    refine .one (some name) (groups_openCapture s _) rfl ?_
    rintro n ⟨⟩
    exact GroupSyntax.openedName?_of_read h
  | unnumbered flags =>
    refine .nothing ⟨?_, rfl⟩
    simp [groups, openSyntax, openGroup, OpenGroup.groups, Branches.groups]
  | switches flags => exact .nothing ⟨rfl, rfl⟩

theorem opens_step {pattern rest rest' : List Char} {c : Char} {s s' : Reader}
    (h : s.step pattern c rest = .ok (s', rest')) : Opens (c :: rest) s s' := by
  unfold step at h
  split at h
  · split at h
    · next text hd =>
      rw [← List.append_eq_of_isPrefixOf?_eq_some hd]
      cases hread : GroupSyntax.read s.flags ('(' :: rest) text with
      | error e =>
        rw [hread] at h
        cases h
      | ok p =>
        rw [hread] at h
        cases h
        exact opens_openSyntax hread
    · cases h
      exact .one none (groups_openCapture s none) rfl (by rintro n ⟨⟩)
  · split at h
    · next t ht =>
      cases h
      exact .nothing (keeps_closeGroup? ht)
    · cases h
  · cases h
    exact .nothing (keeps_nextAlternative s)
  · cases h
    exact .nothing (keeps_push s rfl)
  · cases h
    exact .nothing (keeps_push s rfl)
  · cases h
    exact .nothing (keeps_push s rfl)
  · exact .nothing (keeps_of_map (fun _ => keeps_push s rfl) h)
  · exact .nothing (keeps_escape h)
  · split at h
    · cases h
      exact .nothing (keeps_push s rfl)
    · split at h <;> exact .nothing (keeps_of_repeatLast h)

/-- What a run of steps over a text opens: consecutive numbers, and names that the text opens
groups with, in the same order. -/
structure Opened (text : List Char) (s t : Reader) (opened : List (Nat × Option String)) :
    Prop where
  groups : t.groups = s.groups ++ opened
  numbers : opened.map (·.1) = List.range' (s.groupCount + 1) opened.length
  names : (opened.filterMap (·.2)).Sublist (openedNames text)

theorem Opened.cons {c : Char} {rest rest' : List Char} {s s' t : Reader}
    {opened : List (Nat × Option String)} (hstep : Opens (c :: rest) s s') (hrest : rest' <:+ rest)
    (h : Opened rest' s' t opened) : ∃ opened', Opened (c :: rest) s t opened' := by
  have hnames := h.names.trans (openedNames_sublist hrest)
  cases hstep with
  | nothing hkeeps =>
    refine ⟨opened, ?_, ?_, ?_⟩
    · rw [h.groups, hkeeps.groups]
    · rw [h.numbers, hkeeps.groupCount]
    · exact hnames.trans (List.sublist_append_right _ _)
  | one name hgroups hcount hnamed =>
    refine ⟨(s.groupCount + 1, name) :: opened, ?_, ?_, ?_⟩
    · rw [h.groups, hgroups, List.append_assoc, List.singleton_append]
    · rw [List.map_cons, h.numbers, hcount, List.length_cons, List.range'_succ]
    · cases name with
      | none => exact hnames.trans (List.sublist_append_right _ _)
      | some n =>
        rw [openedNames, hnamed n rfl]
        exact hnames.cons_cons n

theorem exists_opened {pattern text : List Char} {n : Nat} {s t : Reader} (hn : text.length ≤ n)
    (h : steps pattern n s text = .ok t) : ∃ opened, Opened text s t opened := by
  refine steps_induction (motive := fun s text => ∃ opened, Opened text s t opened) ?_ ?_ hn h
  · exact ⟨[], by simp, rfl, .refl _⟩
  · intro s s' c rest rest' hstep ih
    obtain ⟨opened, hopened⟩ := ih
    exact hopened.cons (opens_step hstep) (isSuffix_of_step hstep)

end Reader

/-- The groups of a pattern are numbered from one on, and the text opens a group for each name, in
the same order. -/
theorem groups_of_read {pattern : List Char} {r : Regex} (h : read pattern = .ok r) :
    r.groups.map (·.1) = List.range' 1 r.groups.length ∧
      (r.groups.filterMap (·.2)).Sublist (openedNames pattern) := by
  obtain ⟨s, hsteps, hclosed, rfl⟩ := exists_steps_of_read h
  obtain ⟨opened, hgroups, hnumbers, hnames⟩ := Reader.exists_opened (Nat.le_refl _) hsteps
  have hopened : s.branches.toRegex.groups = opened := by
    rw [Branches.groups_toRegex]
    simpa [Reader.groups, hclosed, Branches.groups] using hgroups
  rw [hopened]
  exact ⟨hnumbers, hnames⟩

end RequestRouting.Regex
