import RequestRouting.Proofs.Regex.Reading

/-!
# The steps of a reading

Reading a pattern is a run of steps, each of which takes a part of the text. Within one more pair of
parentheses the same steps read the same text, and the parenthesis that follows it closes the group.
-/

namespace RequestRouting.Regex.Reader


def within (g : OpenGroup) (s : Reader) : Reader := { s with openGroups := s.openGroups ++ [g] }

variable {g : OpenGroup} {text : List Char}

theorem within_pushLiterals (g : OpenGroup) (s : Reader) (text : List Char) :
    (s.within g).pushLiterals text = (s.pushLiterals text).within g := by
  have hfold : ∀ s : Reader, text.foldl (fun s c => s.push (s.flags.literal c)) (s.within g) =
      (text.foldl (fun s c => s.push (s.flags.literal c)) s).within g := by
    induction text with
    | nil => exact fun s => rfl
    | cons c text ih =>
      intro s
      exact ih (s.push (s.flags.literal c))
  exact hfold { s with repetition := [] }

theorem within_openSyntax (g : OpenGroup) (s : Reader) (read : GroupSyntax) :
    (s.within g).openSyntax read = (s.openSyntax read).within g := by
  cases read <;> rfl

theorem within_closeGroup? (g : OpenGroup) {s s' : Reader} (h : s.closeGroup? = some s') :
    (s.within g).closeGroup? = some (s'.within g) := by
  unfold closeGroup? at h
  split at h
  · cases h
  · next inner openGroups ho =>
    cases h
    simp [closeGroup?, within, ho]

theorem within_repeatLast (g : OpenGroup) (s : Reader) (kind : Repetition) (isMarked : Bool)
    (operator : List Char) :
    (s.within g).repeatLast kind isMarked operator =
      (s.repeatLast kind isMarked operator).map (within g) := by
  by_cases hr : s.repetition ≠ []
  · simp [repeatLast, within, hr, Except.map]
  · cases hi : s.branches.items <;> simp [repeatLast, within, hr, hi, Except.map]

theorem isSuffix_quotedPart (text : List Char) : (quotedPart text).2 <:+ text := by
  induction text using quotedPart.induct with
  | case1 => exact List.suffix_refl []
  | case2 rest => exact ⟨['\\', 'E'], rfl⟩
  | case3 c rest hne ih =>
    rw [quotedPart.eq_3 c rest hne]
    exact ih.trans (List.suffix_cons c rest)

theorem quotedPart_append (text : List Char) :
    quotedPart (text ++ closing) = ((quotedPart text).1, (quotedPart text).2 ++ closing) ∨
      (quotedPart (text ++ closing)).2 = [] := by
  induction text using quotedPart.induct with
  | case1 => exact .inr rfl
  | case2 rest => exact .inl rfl
  | case3 c rest hne ih =>
    have happend : quotedPart (c :: rest ++ closing) =
        (c :: (quotedPart (rest ++ closing)).1, (quotedPart (rest ++ closing)).2) := by
      rw [List.cons_append, quotedPart.eq_3]
      rintro more rfl hmore
      cases rest with
      | nil => cases hmore
      | cons d rest =>
        cases hmore
        exact hne _ rfl rfl
    rw [happend, quotedPart.eq_3 c rest hne]
    rcases ih with heq | hnil
    · exact .inl (by rw [heq])
    · exact .inr hnil

/-- A step leaves a tail of the text. Within one more pair of parentheses it leads to the same
reader and leaves as much, unless a quoted part that nothing closes takes all the rest. -/
def CarriesWithin (g : OpenGroup) (alone followed : Except ReadError (Reader × List Char))
    (text : List Char) : Prop :=
  ∀ s rest, alone = .ok (s, rest) → rest <:+ text ∧
    (followed = .ok (s.within g, rest ++ closing) ∨ ∃ t, followed = .ok (within g t, []))

namespace CarriesWithin

theorem error (g : OpenGroup) (e : ReadError) (followed : Except ReadError (Reader × List Char))
    (text : List Char) : CarriesWithin g (.error e) followed text := by
  rintro s rest ⟨⟩

theorem ok (s : Reader) {rest : List Char} (h : rest <:+ text) :
    CarriesWithin g (.ok (s, rest)) (.ok (s.within g, rest ++ closing)) text := by
  rintro _ _ ⟨⟩
  exact ⟨h, .inl rfl⟩

theorem map {α : Type} {alone followed : Except ReadError (α × List Char)}
    (h : Carries alone followed text) (f f' : α → Reader) (hf : ∀ a, f' a = (f a).within g) :
    CarriesWithin g (alone.map fun p => (f p.1, p.2)) (followed.map fun p => (f' p.1, p.2))
      text := by
  intro s rest hs
  cases alone with
  | error e => cases hs
  | ok p =>
    obtain ⟨a, rest⟩ := p
    cases hs
    obtain ⟨hrest, hfollowed⟩ := h a rest rfl
    rw [hfollowed, ← hf a]
    exact ⟨hrest, .inl rfl⟩

end CarriesWithin

theorem carries_category (g : OpenGroup) (s : Reader) (start start' : List Char) (positive : Bool)
    {rest : List Char} (h : rest <:+ text) :
    CarriesWithin g (escape.category s start positive rest)
      (escape.category (s.within g) start' positive (rest ++ closing)) text :=
  .map ((Escape.carries_category start start' positive rest).of_tail h)
    (fun p => s.push (.chars (s.flags.resolve (.category p.1) p.2)))
    (fun p => (s.within g).push (.chars (s.flags.resolve (.category p.1) p.2))) fun _ => rfl

def escapeLetters : List Char := ['b', 'B', 'A', 'z', 'C', 'Q', 'p', 'P']

theorem escape_of_not_letter {text : List Char} (h : ∀ c ∈ text.head?, c ∉ escapeLetters)
    (s : Reader) :
    s.escape text =
      match text.head?.bind CharSet.ofEscape? with
      | some (set, positive) => .ok (s.push (.chars (s.flags.resolve set positive)), text.drop 1)
      | none => (Escape.character ('\\' :: text) text).map fun (c, rest) =>
          (s.push (s.flags.literal c), rest) := by
  unfold escape
  split <;> first | exact absurd (by decide) (h _ rfl) | rfl

theorem carries_escape (g : OpenGroup) (s : Reader) (text : List Char) :
    CarriesWithin g (s.escape text) ((s.within g).escape (text ++ closing)) text := by
  by_cases hletter : ∃ c rest, text = c :: rest ∧ c ∈ escapeLetters
  · obtain ⟨c, rest, rfl, hc⟩ := hletter
    have htail : rest <:+ c :: rest := List.suffix_cons c rest
    simp only [escapeLetters, List.mem_cons, List.not_mem_nil, or_false] at hc
    rcases hc with rfl | rfl | rfl | rfl | rfl | rfl | rfl | rfl
    · exact .ok _ htail
    · exact .ok _ htail
    · exact .ok _ htail
    · exact .ok _ htail
    · exact .ok _ htail
    · -- a quoted part may run on into what follows the text
      rw [List.cons_append, escape, escape, within_pushLiterals]
      rintro _ _ ⟨⟩
      refine ⟨(isSuffix_quotedPart rest).trans htail, ?_⟩
      rcases quotedPart_append rest with heq | hnil
      · rw [heq]
        exact .inl rfl
      · rw [hnil]
        exact .inr ⟨_, rfl⟩
    · exact carries_category g s _ _ true htail
    · exact carries_category g s _ _ false htail
  · cases text with
    | nil => exact .error _ _ _ _
    | cons c rest =>
      have hc : c ∉ escapeLetters := fun hc => hletter ⟨c, rest, rfl, hc⟩
      rw [List.cons_append, escape_of_not_letter (by simpa using hc),
        escape_of_not_letter (by simpa using hc), List.head?_cons, List.head?_cons]
      cases hset : (some c).bind CharSet.ofEscape? with
      | some p => exact .ok _ (List.suffix_cons c rest)
      | none =>
        exact .map (Escape.carries_character _ _ (c :: rest)) (fun d => s.push (s.flags.literal d))
          (fun d => (s.within g).push (s.flags.literal d)) fun _ => rfl

theorem carries_repeatLast (g : OpenGroup) (s : Reader) (kind : Repetition) (isMarked : Bool)
    (operator : List Char) {rest : List Char} (h : rest <:+ text) :
    CarriesWithin g ((s.repeatLast kind isMarked operator).map (·, rest))
      (((s.within g).repeatLast kind isMarked operator).map (·, rest ++ closing)) text := by
  rw [within_repeatLast]
  cases s.repeatLast kind isMarked operator with
  | error e => exact .error g e _ text
  | ok s' => exact .ok s' h

/-- Characters that the reader does not take for an item or a repetition operator. -/
def structural : List Char := ['(', ')', '|', '^', '$', '.', '[', '\\']

theorem step_of_not_structural {c : Char} (hc : c ∉ structural) (pattern : List Char) (s : Reader)
    (rest : List Char) :
    s.step pattern c rest =
      match repetitionOf? c with
      | none => .ok (s.push (s.flags.literal c), rest)
      | some kind =>
        match ['?'].isPrefixOf? rest with
        | some rest => (s.repeatLast kind true [c, '?']).map (·, rest)
        | none => (s.repeatLast kind false [c]).map (·, rest) := by
  unfold step
  split <;> first | exact absurd (by decide) hc | rfl

theorem carries_step (g : OpenGroup) (s : Reader) (pattern pattern' : List Char) (c : Char)
    (rest : List Char) :
    CarriesWithin g (s.step pattern c rest) ((s.within g).step pattern' c (rest ++ closing))
      rest := by
  by_cases hc : c ∈ structural
  · simp only [structural, List.mem_cons, List.not_mem_nil, or_false] at hc
    rcases hc with rfl | rfl | rfl | rfl | rfl | rfl | rfl | rfl
    · rw [step, step, isPrefixOf?_append_closing (by decide)]
      cases hd : ['?'].isPrefixOf? rest with
      | none => exact .ok _ (List.suffix_refl rest)
      | some read =>
        have hread := GroupSyntax.carries_read s.flags ('(' :: rest) ('(' :: (rest ++ closing)) read
        have htail : read <:+ rest :=
          List.append_eq_of_isPrefixOf?_eq_some hd ▸ List.suffix_append ['?'] read
        exact .map (hread.of_tail htail) s.openSyntax (s.within g).openSyntax
          (within_openSyntax g s)
    · rw [step, step]
      cases hclose : s.closeGroup? with
      | none => exact .error _ _ _ _
      | some s' =>
        rw [within_closeGroup? g hclose]
        exact .ok _ (List.suffix_refl rest)
    · exact .ok _ (List.suffix_refl rest)
    · exact .ok _ (List.suffix_refl rest)
    · exact .ok _ (List.suffix_refl rest)
    · exact .ok _ (List.suffix_refl rest)
    · exact .map (Bracket.carries_bracket s.flags ('[' :: rest) ('[' :: (rest ++ closing)) rest)
        (fun set => s.push (.chars set)) (fun set => (s.within g).push (.chars set)) fun _ => rfl
    · exact carries_escape g s rest
  · rw [step_of_not_structural hc, step_of_not_structural hc]
    cases hkind : repetitionOf? c with
    | none => exact .ok _ (List.suffix_refl rest)
    | some kind =>
      dsimp only
      rw [isPrefixOf?_append_closing (by decide)]
      cases hd : ['?'].isPrefixOf? rest with
      | none => exact carries_repeatLast g s kind false [c] (List.suffix_refl rest)
      | some more =>
        have htail : more <:+ rest :=
          List.append_eq_of_isPrefixOf?_eq_some hd ▸ List.suffix_append ['?'] more
        exact carries_repeatLast g s kind true [c, '?'] htail

theorem isSuffix_of_step {pattern rest rest' : List Char} {c : Char} {s s' : Reader}
    (h : s.step pattern c rest = .ok (s', rest')) : rest' <:+ rest :=
  (carries_step ⟨none, {}, {}⟩ s pattern pattern c rest s' rest' h).1

/-- Reading goes from one state and text to another in so many steps, whatever fuel is left. -/
def Reaches (pattern : List Char) (k : Nat) (s : Reader) (text : List Char) (s' : Reader)
    (text' : List Char) : Prop :=
  ∀ n, steps pattern (n + k) s text = steps pattern n s' text'

section

variable {pattern text text' : List Char} {s s' : Reader}

theorem Reaches.refl (pattern : List Char) (s : Reader) (text : List Char) :
    Reaches pattern 0 s text s text := fun _ => rfl

theorem Reaches.trans {k l : Nat} {s'' : Reader} {text'' : List Char}
    (h : Reaches pattern k s text s' text') (h' : Reaches pattern l s' text' s'' text'') :
    Reaches pattern (k + l) s text s'' text'' := by
  intro n
  rw [← h' n, ← h (n + l)]
  congr 1
  omega

theorem Reaches.of_step {c : Char} (h : s.step pattern c text = .ok (s', text')) :
    Reaches pattern 1 s (c :: text) s' text' := by
  intro n
  rw [steps, h]

end

/-- What holds at the end of a text and goes from behind a step to in front of it holds of every
text that is read to its end. -/
theorem steps_induction {pattern : List Char} {t : Reader} {motive : Reader → List Char → Prop}
    (nil : motive t [])
    (step : ∀ {s s' : Reader} {c : Char} {rest rest' : List Char},
      s.step pattern c rest = .ok (s', rest') → motive s' rest' → motive s (c :: rest))
    {n : Nat} {s : Reader} {text : List Char} (hn : text.length ≤ n)
    (h : steps pattern n s text = .ok t) : motive s text := by
  induction n generalizing s text with
  | zero =>
    obtain rfl := List.length_eq_zero_iff.1 (Nat.le_zero.1 hn)
    cases h
    exact nil
  | succ n ih =>
    cases text with
    | nil =>
      cases h
      exact nil
    | cons c rest =>
      cases hstep : s.step pattern c rest with
      | error e => simp [steps, hstep] at h
      | ok p =>
        obtain ⟨s', rest'⟩ := p
        have hmore : steps pattern n s' rest' = .ok t := by simpa [steps, hstep] using h
        have hlength := (isSuffix_of_step hstep).length_le
        rw [List.length_cons] at hn
        exact step hstep (ih (by omega) hmore)

/-- A whole text is read within one more parenthesis up to what follows it. -/
theorem reaches_within (g : OpenGroup) {pattern : List Char} (pattern' : List Char) {n : Nat}
    {s t : Reader} {text : List Char} (hn : text.length ≤ n)
    (h : steps pattern n s text = .ok t) :
    ∃ k ≤ text.length, Reaches pattern' k (s.within g) (text ++ closing) (t.within g) closing ∨
      ∃ t', Reaches pattern' k (s.within g) (text ++ closing) (within g t') [] := by
  refine steps_induction (motive := fun s text => ∃ k ≤ text.length,
    Reaches pattern' k (s.within g) (text ++ closing) (t.within g) closing ∨
      ∃ t', Reaches pattern' k (s.within g) (text ++ closing) (within g t') []) ?_ ?_ hn h
  · exact ⟨0, Nat.le_refl 0, .inl (.refl pattern' _ _)⟩
  · intro s s' c rest rest' hstep ih
    obtain ⟨hrest, hfollowed | ⟨t', ht'⟩⟩ := carries_step g s pattern pattern' c rest _ _ hstep
    · obtain ⟨k, hk, hreach⟩ := ih
      have hlength := hrest.length_le
      refine ⟨1 + k, by rw [List.length_cons]; omega, ?_⟩
      exact hreach.imp (fun hreach => (Reaches.of_step hfollowed).trans hreach)
        fun ⟨t', hreach⟩ => ⟨t', (Reaches.of_step hfollowed).trans hreach⟩
    · exact ⟨1, by simp, .inr ⟨t', .of_step ht'⟩⟩

end RequestRouting.Regex.Reader

namespace RequestRouting.Regex

open Reader (Reaches)

theorem exists_steps_of_read {pattern : List Char} {r : Regex} (h : read pattern = .ok r) :
    ∃ s : Reader, Reader.steps pattern pattern.length {} pattern = .ok s ∧ s.openGroups = [] ∧
      r = s.branches.toRegex := by
  unfold read at h
  split at h
  · cases h
  · next s hs =>
    split at h
    · next ho =>
      cases h
      exact ⟨s, hs, ho, rfl⟩
    · cases h

theorem read_of_reaches {pattern : List Char} {k : Nat} {s : Reader}
    (h : Reaches pattern k {} pattern s []) (hk : k ≤ pattern.length) :
    read pattern =
      if s.openGroups = [] then .ok s.branches.toRegex
      else .error (.missingParenthesis pattern) := by
  have hsteps := h (pattern.length - k)
  rw [Nat.sub_add_cancel hk, Reader.steps] at hsteps
  rw [read, hsteps]

theorem read_of_reaches_error {pattern rest : List Char} {k : Nat} {s : Reader} {c : Char}
    {e : ReadError} (h : Reaches pattern k {} pattern s (c :: rest))
    (he : s.step pattern c rest = .error e) (hk : k < pattern.length) :
    read pattern = .error e := by
  obtain ⟨n, hn⟩ := Nat.exists_eq_add_of_lt hk
  have hsteps := h (n + 1)
  have hfuel : n + 1 + k = pattern.length := by omega
  rw [hfuel, Reader.steps, he] at hsteps
  rw [read, hsteps]

end RequestRouting.Regex
