import RequestRouting.Proofs.Text.Starts
import RequestRouting.Regex.Reader

/-!
# Readings and what follows them

Whatever reads a piece of a pattern leaves a tail of the text. Where the piece is complete, it is
read the same way when a closing parenthesis and the end anchor follow the text.
-/

namespace RequestRouting.Regex

open RequestRouting.Text (cut)

def closing : List Char := [')', '$']

/-- A reading of a text leaves a tail of it, and the reading with `closing` behind the text has the
same value. -/
def Carries {α : Type} (alone followed : Except ReadError (α × List Char)) (text : List Char) :
    Prop :=
  ∀ a rest, alone = .ok (a, rest) → rest <:+ text ∧ followed = .ok (a, rest ++ closing)

namespace Carries

variable {α β : Type} {text : List Char}

theorem error (e : ReadError) (followed : Except ReadError (α × List Char)) :
    Carries (.error e) followed text := by
  intro a rest h
  cases h

theorem ok (a : α) {rest : List Char} (h : rest <:+ text) :
    Carries (.ok (a, rest)) (.ok (a, rest ++ closing)) text := by
  rintro _ _ ⟨⟩
  exact ⟨h, rfl⟩

theorem of_tail {alone followed : Except ReadError (α × List Char)} {tail : List Char}
    (h : Carries alone followed tail) (ht : tail <:+ text) : Carries alone followed text := by
  intro a rest hr
  obtain ⟨hrest, hfollowed⟩ := h a rest hr
  exact ⟨hrest.trans ht, hfollowed⟩

theorem bind {alone followed : Except ReadError (α × List Char)}
    {next next' : α × List Char → Except ReadError (β × List Char)}
    (h : ∀ a rest b, alone = .ok (a, rest) → next (a, rest) = .ok b →
      rest <:+ text ∧ followed = .ok (a, rest ++ closing))
    (hnext : ∀ a rest, Carries (next (a, rest)) (next' (a, rest ++ closing)) rest) :
    Carries (alone >>= next) (followed >>= next') text := by
  intro b rest hb
  cases ha : alone with
  | error e => rw [ha] at hb; cases hb
  | ok p =>
    obtain ⟨a, middle⟩ := p
    rw [ha] at hb
    obtain ⟨hmiddle, hfollowed⟩ := h a middle _ ha hb
    obtain ⟨hrest, hresult⟩ := hnext a middle b rest hb
    rw [hfollowed]
    exact ⟨hrest.trans hmiddle, hresult⟩

theorem map {alone followed : Except ReadError (α × List Char)} (h : Carries alone followed text)
    (f : α → β) :
    Carries (alone.map fun p => (f p.1, p.2)) (followed.map fun p => (f p.1, p.2)) text := by
  intro b rest hb
  cases ha : alone with
  | error e => rw [ha] at hb; cases hb
  | ok p =>
    obtain ⟨a, middle⟩ := p
    rw [ha] at hb
    cases hb
    obtain ⟨hmiddle, hfollowed⟩ := h a middle ha
    rw [hfollowed]
    exact ⟨hmiddle, rfl⟩

end Carries

theorem cut_append {c : Char} {text : List Char} {p : List Char × List Char}
    (h : cut c text = some p) (more : List Char) :
    cut c (text ++ more) = some (p.1, p.2 ++ more) := by
  rw [Text.eq_of_cut h, List.append_assoc, List.cons_append,
    Text.cut_append_cons (Text.not_mem_of_cut h)]

theorem isSuffix_of_cut {c : Char} {text : List Char} {p : List Char × List Char}
    (h : cut c text = some p) : p.2 <:+ text := by
  rw [Text.eq_of_cut h]
  exact (List.suffix_cons c p.2).trans (List.suffix_append p.1 (c :: p.2))

theorem isPrefixOf?_append_closing {start : List Char} (hs : ')' ∉ start) (text : List Char) :
    start.isPrefixOf? (text ++ closing) = (start.isPrefixOf? text).map (· ++ closing) :=
  Text.isPrefixOf?_append_cons hs text ['$']

namespace GroupSyntax

theorem carries_readName (start start' text : List Char) :
    Carries (readName start text) (readName start' (text ++ closing)) text := by
  unfold readName
  cases hcut : cut '>' text with
  | none => exact .error _ _
  | some p =>
    obtain ⟨name, rest⟩ := p
    rw [cut_append hcut]
    dsimp only
    split
    · exact .ok _ (isSuffix_of_cut hcut)
    · exact .error _ _

theorem carries_readSwitches (start start' : List Char) (flags : Flags) (on seen : Bool)
    (text : List Char) :
    Carries (readSwitches start flags on seen text)
      (readSwitches start' flags on seen (text ++ closing)) text := by
  induction text generalizing flags on seen with
  | nil => exact .error _ _
  | cons c rest ih =>
    have htail : rest <:+ c :: rest := List.suffix_cons c rest
    rw [List.cons_append, readSwitches, readSwitches]
    split
    · exact (ih _ _ _).of_tail htail
    · split
      · exact (ih _ _ _).of_tail htail
      · split
        · exact .ok _ htail
        · split
          · exact .ok _ htail
          · exact .error _ _

theorem read_switches {c : Char} (hc : c ∉ ['=', '!', '<', 'P']) (flags : Flags)
    (start rest : List Char) :
    read flags start (c :: rest) = readSwitches start flags true false (c :: rest) := by
  unfold read
  split <;> simp_all

theorem read_angle {d : Char} (hd : d ∉ ['=', '!']) (flags : Flags) (start rest : List Char) :
    read flags start ('<' :: d :: rest) = readName start (d :: rest) := by
  unfold read
  split <;> simp_all

theorem exists_error_read_P {d : Char} (hd : d ≠ '<') (flags : Flags) (start rest : List Char) :
    ∃ e, read flags start ('P' :: d :: rest) = .error e := by
  unfold read
  split <;> simp_all [readSwitches, Flags.set?]

theorem carries_read (flags : Flags) (start start' text : List Char) :
    Carries (read flags start text) (read flags start' (text ++ closing)) text := by
  cases text with
  | nil => exact .error _ _
  | cons c rest =>
    by_cases hc : c ∈ ['=', '!', '<', 'P']
    · simp only [List.mem_cons, List.not_mem_nil, or_false] at hc
      rcases hc with rfl | rfl | rfl | rfl
      · exact .error _ _
      · exact .error _ _
      · cases rest with
        | nil => exact .error _ _
        | cons d rest =>
          by_cases hd : d ∈ ['=', '!']
          · simp only [List.mem_cons, List.not_mem_nil, or_false] at hd
            rcases hd with rfl | rfl <;> exact .error _ _
          · rw [List.cons_append, List.cons_append, read_angle hd, read_angle hd]
            exact (carries_readName start start' (d :: rest)).of_tail (List.suffix_cons '<' _)
      · cases rest with
        | nil => exact .error _ _
        | cons d rest =>
          by_cases hd : d = '<'
          · subst hd
            exact (carries_readName start start' rest).of_tail ⟨['P', '<'], rfl⟩
          · obtain ⟨e, he⟩ := exists_error_read_P hd flags start rest
            rw [he]
            exact .error _ _
    · rw [List.cons_append, read_switches hc, read_switches hc]
      exact carries_readSwitches start start' flags true false (c :: rest)

end GroupSyntax

namespace Escape

theorem octalDigits_append (n value : Nat) (text : List Char) :
    octalDigits n value (text ++ closing) =
        ((octalDigits n value text).1, (octalDigits n value text).2 ++ closing) ∧
      (octalDigits n value text).2 <:+ text := by
  induction n generalizing value text with
  | zero => exact ⟨rfl, List.suffix_refl text⟩
  | succ n ih =>
    cases text with
    | nil => exact ⟨rfl, List.suffix_refl []⟩
    | cons d rest =>
      rw [List.cons_append, octalDigits, octalDigits]
      split
      · obtain ⟨heq, hrest⟩ := ih (8 * value + Character.hexValue d) rest
        exact ⟨heq, hrest.trans (List.suffix_cons d rest)⟩
      · exact ⟨rfl, List.suffix_refl _⟩

theorem carries_bracedDigits (start start' : List Char) (value : Nat) (digitSeen : Bool)
    (text : List Char) :
    Carries (bracedDigits start value digitSeen text)
      (bracedDigits start' value digitSeen (text ++ closing)) text := by
  induction text generalizing value digitSeen with
  | nil => exact .error _ _
  | cons c rest ih =>
    have htail : rest <:+ c :: rest := List.suffix_cons c rest
    rw [List.cons_append, bracedDigits, bracedDigits]
    split
    · dsimp only
      split
      · exact .error _ _
      · exact (ih _ _).of_tail htail
    · split
      · exact .ok _ htail
      · exact .error _ _

theorem carries_hexDigits (start start' text : List Char) :
    Carries (hexDigits start text) (hexDigits start' (text ++ closing)) text := by
  cases text with
  | nil => exact .error _ _
  | cons c rest =>
    by_cases hc : c = '\x7b'
    · subst hc
      rw [List.cons_append, hexDigits, hexDigits]
      exact (carries_bracedDigits start start' 0 false rest).of_tail (List.suffix_cons _ _)
    · cases rest with
      | nil =>
        rw [hexDigits.eq_3 start [c] (by rintro _ ⟨⟩; exact hc rfl) (by rintro _ _ _ ⟨⟩)]
        exact .error _ _
      | cons d rest =>
        rw [List.cons_append, List.cons_append, hexDigits.eq_2 _ _ _ _ hc,
          hexDigits.eq_2 _ _ _ _ hc]
        split
        · exact .ok _ ⟨[c, d], rfl⟩
        · exact .error _ _

theorem carries_octal (start start' : List Char) (d : Char) (rest : List Char) :
    Carries (octal start d rest) (octal start' d (rest ++ closing)) rest := by
  have hhead : (rest ++ closing).head?.any Character.isOctalDigit =
      rest.head?.any Character.isOctalDigit := by
    cases rest <;> rfl
  obtain ⟨heq, hrest⟩ := octalDigits_append 2 (Character.hexValue d) rest
  unfold octal
  rw [hhead, heq]
  split
  · exact .ok _ hrest
  · exact .error _ _

theorem carries_character (start start' text : List Char) :
    Carries (character start text) (character start' (text ++ closing)) text := by
  cases text with
  | nil => exact .error _ _
  | cons c rest =>
    have htail : rest <:+ c :: rest := List.suffix_cons c rest
    rw [List.cons_append, character, character]
    split
    · exact (carries_hexDigits start start' rest).of_tail htail
    · split
      · exact (carries_octal start start' c rest).of_tail htail
      · split
        · exact .ok _ htail
        · split
          · exact .ok _ htail
          · exact .error _ _

theorem carries_named (start start' : List Char) (positive : Bool) (name : List Char)
    {rest text : List Char} (h : rest <:+ text) :
    Carries (category.named start positive name rest)
      (category.named start' positive name (rest ++ closing)) text := by
  unfold category.named
  split
  · exact .ok _ h
  · exact .error _ _

theorem carries_category (start start' : List Char) (positive : Bool) (text : List Char) :
    Carries (category start positive text) (category start' positive (text ++ closing)) text := by
  cases text with
  | nil => exact .error _ _
  | cons c rest =>
    have htail : rest <:+ c :: rest := List.suffix_cons c rest
    rw [List.cons_append]
    by_cases hc : c = '\x7b'
    · subst hc
      rw [category, category]
      cases hcut : cut '\x7d' rest with
      | none => exact .error _ _
      | some p =>
        rw [cut_append hcut]
        exact carries_named start start' positive p.1 ((isSuffix_of_cut hcut).trans htail)
    · rw [category.eq_3 _ _ _ _ hc, category.eq_3 _ _ _ _ hc]
      exact carries_named start start' positive [c] htail

end Escape

namespace Bracket

theorem carries_bracketCharacter (whole whole' text : List Char) :
    Carries (character whole text) (character whole' (text ++ closing)) text := by
  unfold character
  split
  · exact .error _ _
  · next rest =>
    exact (Escape.carries_character _ _ rest).of_tail (List.suffix_cons _ _)
  · next c rest hc =>
    rw [List.cons_append]
    split
    · next h => cases h
    · next h => cases h; exact absurd rfl hc
    · next h => cases h; exact .ok _ (List.suffix_cons c rest)

/-- Behind its first character. No member ends where a hyphen alone is left, since the set would not
be closed behind it. -/
theorem carries_range (flags : Flags) (whole whole' text : List Char) {set : CharSet}
    {rest : List Char} (h : range flags whole text = .ok (set, rest)) (hrest : rest ≠ ['-']) :
    rest <:+ text ∧ range flags whole' (text ++ closing) = .ok (set, rest ++ closing) := by
  cases hfirst : character whole text with
  | error e => simp [range, hfirst, bind, Except.bind] at h
  | ok p =>
    obtain ⟨first, middle⟩ := p
    obtain ⟨hmiddle, hfollowed⟩ := carries_bracketCharacter whole whole' text first middle hfirst
    simp only [range, hfirst, hfollowed, bind, Except.bind, pure, Except.pure] at h ⊢
    split at h
    · next d more =>
      by_cases hd : d = ']'
      · rw [if_pos hd] at h
        cases h
        exact ⟨hmiddle, if_pos hd⟩
      · rw [if_neg hd] at h
        cases hlast : character whole (d :: more) with
        | error e => simp [hlast] at h
        | ok p =>
          obtain ⟨last, after⟩ := p
          obtain ⟨hafter, hfollowed'⟩ :=
            carries_bracketCharacter whole whole' (d :: more) last after hlast
          rw [hlast] at h
          by_cases hlt : last < first
          · simp [hlt] at h
          · simp only [hlt, if_false, Except.ok.injEq, Prod.mk.injEq] at h
            obtain ⟨rfl, rfl⟩ := h
            refine ⟨hafter.trans ((List.suffix_cons '-' _).trans hmiddle), ?_⟩
            rw [List.cons_append] at hfollowed'
            simp [hd, hfollowed', hlt]
    · next hhyphen =>
      cases h
      refine ⟨hmiddle, ?_⟩
      split
      · next d more heq =>
        rcases rest with _ | ⟨c, _ | ⟨e, rest⟩⟩
        · cases heq
        · cases heq
          exact absurd rfl hrest
        · cases heq
          exact absurd rfl (hhyphen _ _)
      · rfl

theorem upToColonBracket?_append {text : List Char} :
    upToColonBracket? (text ++ closing) =
      (upToColonBracket? text).map fun p => (p.1, p.2 ++ closing) := by
  induction text with
  | nil => rfl
  | cons c rest ih =>
    rw [List.cons_append, upToColonBracket?, upToColonBracket?, ← List.cons_append,
      isPrefixOf?_append_closing (by decide)]
    cases [':', ']'].isPrefixOf? (c :: rest) with
    | some after => rfl
    | none =>
      rw [Option.map_none, ih]
      simp [Function.comp_def]

theorem isSuffix_of_upToColonBracket? {text name after : List Char}
    (h : upToColonBracket? text = some (name, after)) : after <:+ text := by
  induction text generalizing name with
  | nil => cases h
  | cons c rest ih =>
    rw [upToColonBracket?] at h
    split at h
    · next found hfound =>
      cases h
      rw [← List.append_eq_of_isPrefixOf?_eq_some hfound]
      exact List.suffix_append _ _
    · obtain ⟨p, hp, he⟩ := Option.map_eq_some_iff.1 h
      cases he
      exact (ih hp).trans (List.suffix_cons c rest)

theorem exists_error_member_category {c : Char} (hc : c = 'p' ∨ c = 'P') (flags : Flags)
    (whole : List Char) : ∃ e, member flags whole ['\\', c] = .error e := by
  rcases hc with rfl | rfl <;> exact ⟨_, rfl⟩

theorem carries_member (flags : Flags) (whole whole' text : List Char) {set : CharSet}
    {rest : List Char} (h : member flags whole text = .ok (set, rest)) (hrest : rest ≠ ['-']) :
    rest <:+ text ∧ member flags whole' (text ++ closing) = .ok (set, rest ++ closing) := by
  have hrange : range flags whole text = .ok (set, rest) → rest <:+ text ∧
      range flags whole' (text ++ closing) = .ok (set, rest ++ closing) :=
    fun h => carries_range flags whole whole' text h hrest
  have hmember := h
  unfold member at h
  split at h
  · next more =>
    rw [List.cons_append, List.cons_append, member, upToColonBracket?_append]
    split at h
    · next hup =>
      rw [hup]
      exact hrange h
    · next name after hup =>
      rw [hup]
      split at h
      · next found hfound =>
        cases h
        have hafter := isSuffix_of_upToColonBracket? hup
        exact ⟨hafter.trans ⟨['[', ':'], rfl⟩, by simp [hfound]⟩
      · cases h
  · next c more =>
    rw [List.cons_append, List.cons_append, member]
    by_cases hletter : c = 'p' ∨ c = 'P'
    · cases more with
      | nil =>
        obtain ⟨e, he⟩ := exists_error_member_category hletter flags whole
        rw [he] at hmember
        cases hmember
      | cons d more =>
        rw [if_pos (by simpa using hletter)] at h ⊢
        have hcategory := (Escape.carries_category ('\\' :: c :: d :: more)
          ('\\' :: c :: (d :: more ++ closing)) (decide (c = 'p')) (d :: more)).map
          fun g => flags.resolve (.category g.1) g.2
        exact hcategory.of_tail ⟨['\\', c], rfl⟩ set rest h
    · have hcond : ∀ more : List Char,
          ¬ ((decide (c = 'p') || decide (c = 'P')) && !more.isEmpty) = true := by
        intro more
        simp [not_or.1 hletter]
      rw [if_neg (hcond _)] at h ⊢
      split at h
      · next found positive hfound =>
        cases h
        exact ⟨⟨['\\', c], rfl⟩, rfl⟩
      · exact hrange h
  · next hclass hescape =>
    have hfollowed : member flags whole' (text ++ closing) =
        range flags whole' (text ++ closing) := by
      apply member.eq_3
      · rintro more hmore
        rcases text with _ | ⟨c, _ | ⟨d, text⟩⟩
        · cases hmore
        · cases hmore
        · cases hmore
          exact hclass _ rfl
      · rintro c more hmore
        rcases text with _ | ⟨c, _ | ⟨d, text⟩⟩
        · cases hmore
        · cases hmore
          cases h
        · cases hmore
          exact hescape _ _ rfl
    rw [hfollowed]
    exact hrange h

theorem exists_error_members_hyphen (flags : Flags) (whole : List Char) (n : Nat) :
    ∃ e, members flags whole n false ['-'] = .error e := by
  have hnil : ∀ n, members flags whole n false [] = .error (.missingBracket whole) := by
    intro n
    cases n <;> rfl
  cases n with
  | zero => exact ⟨_, rfl⟩
  | succ n =>
    refine ⟨.missingBracket whole, ?_⟩
    simp [members, member, range, character, bind, Except.bind, pure, Except.pure, hnil]

theorem carries_members (flags : Flags) (whole whole' : List Char) (n : Nat) (isFirst : Bool)
    (text : List Char) {m : Nat} (hm : n ≤ m) :
    Carries (members flags whole n isFirst text) (members flags whole' m isFirst (text ++ closing))
      text := by
  induction n generalizing isFirst text m with
  | zero => exact .error _ _
  | succ n ih =>
    obtain ⟨m, rfl⟩ : ∃ k, m = k + 1 := ⟨m - 1, by omega⟩
    cases text with
    | nil => exact .error _ _
    | cons c rest =>
      rw [List.cons_append, members, members]
      dsimp only
      split
      · exact .ok _ (List.suffix_cons c rest)
      · refine Carries.bind ?_ ?_
        · intro set middle b hset hb
          have hmiddle : middle ≠ ['-'] := by
            rintro rfl
            obtain ⟨e, he⟩ := exists_error_members_hyphen flags whole n
            rw [he] at hb
            cases hb
          exact carries_member flags whole whole' (c :: rest) hset hmiddle
        · intro set middle
          refine Carries.bind ?_ ?_
          · intro sets after _ h _
            exact ih false middle (by omega) sets after h
          · intro sets after
            exact .ok _ (List.suffix_refl after)

theorem carries_bracket (flags : Flags) (whole whole' text : List Char) :
    Carries (read flags whole text) (read flags whole' (text ++ closing)) text := by
  have hlength : text.length ≤ (text ++ closing).length := by simp
  by_cases hcaret : text.head? = some '^'
  · obtain ⟨rest, rfl⟩ := List.head?_eq_some_iff.1 hcaret
    rw [List.cons_append, read, read]
    refine (Carries.bind (fun sets after _ h _ =>
      carries_members flags whole whole' _ true rest hlength sets after h) ?_).of_tail
      (List.suffix_cons '^' rest)
    intro sets after
    exact .ok _ (List.suffix_refl after)
  · have hread : ∀ (whole text : List Char), text.head? ≠ some '^' → read flags whole text =
        members flags whole text.length true text >>= fun p => pure (.ofList p.1, p.2) := by
      intro whole text h
      exact read.eq_2 _ _ _ (by rintro rest rfl; exact h rfl)
    have hcaret' : (text ++ closing).head? ≠ some '^' := by
      cases text with
      | nil => decide
      | cons c rest => exact hcaret
    rw [hread _ _ hcaret, hread _ _ hcaret']
    refine Carries.bind (fun sets after _ h _ =>
      carries_members flags whole whole' _ true text hlength sets after h) ?_
    intro sets after
    exact .ok _ (List.suffix_refl after)

end Bracket

end RequestRouting.Regex
