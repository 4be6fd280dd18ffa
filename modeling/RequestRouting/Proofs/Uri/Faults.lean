import RequestRouting.Proofs.Uri.Reference

/-!
# Refused URIs

A URI is refused for the first character that may not stand in it, else for an incomplete percent
escape, else for its authority. Erasing the complete escapes leaves a percent sign exactly if one
of them is not followed by two hexadecimal digits, whatever stands around it.
-/

namespace RequestRouting.Uri

open RequestRouting.Character (isHexDigit)
open RequestRouting.Text (quote)

/-- The characters that no URI may hold, the controls and the space by their numbers. -/
def Illegal (c : Char) : Prop :=
  c.toNat ≤ 0x20 ∨ c.toNat = 0x7f ∨
    c ∈ ['<', '>', '\x22', '\x7b', '\x7d', '|', '\\', '^', '\x60']

instance (c : Char) : Decidable (Illegal c) :=
  inferInstanceAs (Decidable (_ ∨ _ ∨ _))

def Legal (text : List Char) : Prop := ∀ c ∈ text, ¬ Illegal c

theorem isIllegal_iff {c : Char} : isIllegal c = true ↔ Illegal c := by
  have hspace : c ≤ ' ' ↔ c.toNat ≤ 0x20 := Iff.rfl
  have hdelete : c = '\x7f' ↔ c.toNat = 0x7f :=
    ⟨fun h => h ▸ rfl, fun h => Char.toNat_inj.1 h⟩
  rw [isIllegal, Illegal, Bool.or_eq_true, Bool.or_eq_true, decide_eq_true_iff, decide_eq_true_iff,
    hspace, hdelete, List.contains_iff_mem, or_assoc]

theorem findIllegal?_eq_none_iff {index : Nat} {text : List Char} :
    findIllegal? index text = none ↔ Legal text := by
  unfold Legal
  induction text generalizing index with
  | nil => simp [findIllegal?]
  | cons c rest ih =>
    rw [findIllegal?, List.forall_mem_cons, ← isIllegal_iff]
    by_cases hc : isIllegal c = true
    · simp [hc]
    · simp [hc, ih]

instance (text : List Char) : Decidable (Legal text) :=
  decidable_of_iff (findIllegal? 0 text = none) findIllegal?_eq_none_iff

theorem eq_of_findIllegal? {index i : Nat} {text : List Char} {c : Char}
    (h : findIllegal? index text = some (c, i)) :
    ∃ before after, text = before ++ c :: after ∧ Illegal c ∧ Legal before ∧
      i = index + before.length := by
  induction text generalizing index with
  | nil => cases h
  | cons d rest ih =>
    rw [findIllegal?] at h
    split at h
    · next hd =>
      cases h
      exact ⟨[], rest, rfl, isIllegal_iff.1 hd, List.forall_mem_nil _, rfl⟩
    · next hd =>
      obtain ⟨before, after, rfl, hc, hbefore, rfl⟩ := ih h
      refine ⟨d :: before, after, rfl, hc, ?_, by simp; omega⟩
      exact List.forall_mem_cons.2 ⟨fun hi => hd (isIllegal_iff.2 hi), hbefore⟩

theorem findIllegal?_append (index : Nat) (text more : List Char) :
    findIllegal? index (text ++ more) =
      (findIllegal? index text).or (findIllegal? (index + text.length) more) := by
  induction text generalizing index with
  | nil => rfl
  | cons c rest ih =>
    rw [List.cons_append, findIllegal?, findIllegal?, ih]
    split
    · rfl
    · rw [List.length_cons, Nat.add_right_comm, Nat.add_assoc]

def StartsWithHexPair (text : List Char) : Prop :=
  ∃ a b rest, text = a :: b :: rest ∧ isHexDigit a = true ∧ isHexDigit b = true

def CompleteEscapes (text : List Char) : Prop :=
  ∀ after, '%' :: after <:+ text → StartsWithHexPair after

theorem completeEscapes_nil : CompleteEscapes [] := by
  intro after h
  cases List.eq_nil_of_suffix_nil h

theorem completeEscapes_cons {c : Char} {text : List Char} :
    CompleteEscapes (c :: text) ↔ (c = '%' → StartsWithHexPair text) ∧ CompleteEscapes text := by
  constructor
  · intro h
    refine ⟨?_, fun after hafter => h after (hafter.trans (List.suffix_cons c text))⟩
    rintro rfl
    exact h text List.suffix_rfl
  · rintro ⟨hfirst, hrest⟩ after hafter
    rcases List.suffix_cons_iff.1 hafter with heq | hafter
    · cases heq
      exact hfirst rfl
    · exact hrest after hafter

theorem completeEscapes_cons_of_ne {c : Char} {text : List Char} (h : c ≠ '%') :
    CompleteEscapes (c :: text) ↔ CompleteEscapes text := by
  simp [completeEscapes_cons, h]

theorem startsWithHexPair_append {text more : List Char}
    (h : ∀ c ∈ more.head?, isHexDigit c = false) :
    StartsWithHexPair (text ++ more) ↔ StartsWithHexPair text := by
  have hmore : ∀ {c rest}, more = c :: rest → isHexDigit c ≠ true := by
    rintro c rest rfl hc
    rw [h c rfl] at hc
    cases hc
  constructor
  · rintro ⟨a, b, rest, heq, ha, hb⟩
    match text with
    | [] => exact absurd ha (hmore heq)
    | [c] => exact absurd hb (hmore (List.cons.inj heq).2)
    | c :: d :: text =>
      cases heq
      exact ⟨a, b, text, rfl, ha, hb⟩
  · rintro ⟨a, b, rest, rfl, ha, hb⟩
    exact ⟨a, b, rest ++ more, rfl, ha, hb⟩

/-- No escape reaches into a text that does not start with a hexadecimal digit. -/
theorem completeEscapes_append {text more : List Char} (hmore : CompleteEscapes more)
    (h : ∀ c ∈ more.head?, isHexDigit c = false) :
    CompleteEscapes (text ++ more) ↔ CompleteEscapes text := by
  induction text with
  | nil => exact iff_of_true hmore completeEscapes_nil
  | cons c text ih =>
    rw [List.cons_append, completeEscapes_cons, completeEscapes_cons, ih,
      startsWithHexPair_append h]

theorem completeEscapes_append_of_not_mem {front : List Char} (h : '%' ∉ front)
    (text : List Char) : CompleteEscapes (front ++ text) ↔ CompleteEscapes text := by
  induction front with
  | nil => rfl
  | cons c front ih =>
    obtain ⟨hc, hfront⟩ := not_or.1 (mt List.mem_cons.2 h)
    rw [List.cons_append, completeEscapes_cons_of_ne (Ne.symm hc), ih hfront]

theorem percent_not_mem_eraseEscapes_iff {text : List Char} :
    '%' ∉ eraseEscapes text ↔ CompleteEscapes text := by
  induction text using eraseEscapes.induct with
  | case1 => simp [eraseEscapes, completeEscapes_nil]
  | case2 a b rest hdigits ih =>
    have hd : isHexDigit a = true ∧ isHexDigit b = true := by simpa using hdigits
    have hne : ∀ {c}, isHexDigit c = true → c ≠ '%' := by
      rintro c hc rfl
      exact absurd hc (by decide)
    have hpair : StartsWithHexPair (a :: b :: rest) := ⟨a, b, rest, rfl, hd⟩
    rw [eraseEscapes, if_pos hdigits, ih, completeEscapes_cons,
      completeEscapes_cons_of_ne (hne hd.1), completeEscapes_cons_of_ne (hne hd.2)]
    simp [hpair]
  | case3 a b rest hdigits ih =>
    have hpair : ¬ StartsWithHexPair (a :: b :: rest) := by
      rintro ⟨_, _, _, heq, ha, hb⟩
      cases heq
      exact hdigits (by rw [ha, hb]; rfl)
    rw [eraseEscapes, if_neg hdigits, completeEscapes_cons]
    simp [hpair]
  | case4 c rest hshort ih =>
    rw [eraseEscapes, List.mem_cons, not_or, ih, completeEscapes_cons]
    · by_cases hc : c = '%'
      · have hpair : ¬ StartsWithHexPair rest := by
          rintro ⟨a, b, more, heq, -⟩
          exact hshort a b more hc heq
        simp [hc, hpair]
      · simp [hc, Ne.symm hc]
    · exact hshort

instance (text : List Char) : Decidable (CompleteEscapes text) :=
  decidable_of_iff _ percent_not_mem_eraseEscapes_iff

theorem fault?_text {r : Reference} (hlegal : Legal r.text)
    (hescapes : CompleteEscapes r.text) :
    fault? r.text = (r.authority.bind Authority.fault?).map .authority := by
  have hpercent : (eraseEscapes r.text).contains '%' = false := by
    simpa using percent_not_mem_eraseEscapes_iff.2 hescapes
  rw [fault?, findIllegal?_eq_none_iff.2 hlegal, r.cutAuthority_dropScheme_text]
  dsimp only
  rw [hpercent]
  cases r.authority <;> rfl

theorem Reference.fault?_text_append {r r' : Reference} {more : List Char}
    (htext : r'.text = r.text ++ more) (hauthority : r'.authority = r.authority)
    (hmore : ∀ c ∈ more.head?, c = '?' ∨ c = '#') (hlegal : Legal more)
    (hescapes : CompleteEscapes more) : fault? r'.text = fault? r.text := by
  have hhead : ∀ c ∈ more.head?, isHexDigit c = false := by
    intro c hc
    rcases hmore c hc with rfl | rfl <;> decide
  have hpercent : (eraseEscapes r'.text).contains '%' = (eraseEscapes r.text).contains '%' := by
    rw [Bool.eq_iff_iff, List.contains_iff_mem, List.contains_iff_mem, ← not_iff_not,
      percent_not_mem_eraseEscapes_iff, percent_not_mem_eraseEscapes_iff, htext,
      completeEscapes_append hescapes hhead]
  have hillegal : findIllegal? 0 r'.text = findIllegal? 0 r.text := by
    rw [htext, findIllegal?_append, findIllegal?_eq_none_iff.2 hlegal, Option.or_none]
  rw [fault?, fault?, hillegal, hpercent, r.cutAuthority_dropScheme_text,
    r'.cutAuthority_dropScheme_text, hauthority]

theorem fault?_of_illegal {text : List Char} (h : ∃ c ∈ text, Illegal c) :
    ∃ before c after, text = before ++ c :: after ∧ Illegal c ∧ Legal before ∧
      fault? text = some (.illegalCharacter c before.length) := by
  cases hfind : findIllegal? 0 text with
  | none =>
    obtain ⟨c, hc, hillegal⟩ := h
    exact absurd hillegal (findIllegal?_eq_none_iff.1 hfind c hc)
  | some found =>
    obtain ⟨c, i⟩ := found
    obtain ⟨before, after, htext, hillegal, hbefore, rfl⟩ := eq_of_findIllegal? hfind
    exact ⟨before, c, after, htext, hillegal, hbefore, by rw [fault?, hfind, Nat.zero_add]⟩

theorem fault?_of_incomplete {text : List Char} (hlegal : Legal text)
    (h : ¬ CompleteEscapes text) : fault? text = some .malformedEscape := by
  have hpercent : (eraseEscapes text).contains '%' = true := by
    rw [List.contains_iff_mem]
    by_contra hnot
    exact h (percent_not_mem_eraseEscapes_iff.1 hnot)
  rw [fault?, findIllegal?_eq_none_iff.2 hlegal]
  exact if_pos hpercent

theorem Reference.fault?_text_eq_none_iff {r : Reference} :
    fault? r.text = none ↔
      Legal r.text ∧ CompleteEscapes r.text ∧ r.authority.bind Authority.fault? = none := by
  by_cases hlegal : Legal r.text
  · by_cases hescapes : CompleteEscapes r.text
    · rw [fault?_text hlegal hescapes, Option.map_eq_none_iff]
      exact ⟨fun h => ⟨hlegal, hescapes, h⟩, fun h => h.2.2⟩
    · simp [fault?_of_incomplete hlegal hescapes, hescapes]
  · have hillegal : ∃ c ∈ r.text, Illegal c := by simpa [Legal] using hlegal
    obtain ⟨before, c, after, -, -, -, hfault⟩ := fault?_of_illegal hillegal
    simp [hfault, hlegal]

theorem AuthorityFault.message_ne (fault : AuthorityFault) :
    fault.message ≠ Fault.message .malformedEscape := by
  intro h
  have hhead : fault.message.toList.head? = some 'm' := by rw [h]; decide
  cases fault with
  | misplacedBracket => exact absurd h (by decide)
  | badFutureAddress => exact absurd h (by decide)
  | bracketedIPv4 => exact absurd h (by decide)
  | hiddenDelimiter authority => simp [message] at hhead
  | notAnAddress host =>
    rw [message, String.toList_append, List.head?_append, Text.head?_quote, Option.some_or,
      Option.some_inj] at hhead
    rcases Text.quoteFor_eq host.toList with hquote | hquote
    · exact absurd (hquote.symm.trans hhead) (by decide)
    · exact absurd (hquote.symm.trans hhead) (by decide)

def refusal? (uri : String) : Option String :=
  match split uri with
  | .ok _ => none
  | .error fault => some (refusal uri fault)

theorem split_eq (uri : String) :
    split uri = (fault? uri.toList).elim (.ok (parts uri.toList)) .error := by
  rw [split]
  cases fault? uri.toList <;> rfl

theorem refusal?_eq (uri : String) : refusal? uri = (fault? uri.toList).map (refusal uri) := by
  rw [refusal?, split_eq]
  cases fault? uri.toList <;> rfl

theorem refusal?_of_incomplete {uri : String} (hlegal : Legal uri.toList) :
    refusal? uri = some (refusal uri .malformedEscape) ↔ ¬ CompleteEscapes uri.toList := by
  rw [refusal?_eq]
  constructor
  · intro h hescapes
    obtain ⟨r, hr⟩ := Reference.exists_text_eq uri.toList
    rw [← hr] at hlegal hescapes h
    rw [fault?_text hlegal hescapes, Option.map_map, Option.map_eq_some_iff] at h
    obtain ⟨fault, -, hrefusal⟩ := h
    exact fault.message_ne ((String.append_right_inj _).1 hrefusal)
  · intro h
    rw [fault?_of_incomplete hlegal h, Option.map_some]

theorem refusal?_of_complete {uri : String} (hlegal : Legal uri.toList)
    (hescapes : CompleteEscapes uri.toList) {message : String} :
    refusal? uri = some message ↔
      ∃ r : Reference, r.text = uri.toList ∧ ∃ authority ∈ r.authority,
        ∃ fault ∈ Authority.fault? authority, message = refusal uri (.authority fault) := by
  have hfault : ∀ r : Reference, r.text = uri.toList →
      fault? uri.toList = (r.authority.bind Authority.fault?).map .authority := by
    intro r hr
    rw [← hr] at hlegal hescapes ⊢
    exact fault?_text hlegal hescapes
  rw [refusal?_eq]
  constructor
  · intro h
    obtain ⟨r, hr⟩ := Reference.exists_text_eq uri.toList
    rw [hfault r hr, Option.map_map, Option.map_eq_some_iff] at h
    obtain ⟨fault, hbind, hmessage⟩ := h
    obtain ⟨authority, ha, hf⟩ := Option.bind_eq_some_iff.1 hbind
    exact ⟨r, hr, authority, ha, fault, hf, hmessage.symm⟩
  · rintro ⟨r, hr, authority, ha, fault, hf, rfl⟩
    rw [hfault r hr, Option.mem_def.1 ha, Option.bind_some, Option.mem_def.1 hf]
    rfl

theorem fault?_of_no_slashes {text : List Char} (hlegal : Legal text)
    (hescapes : CompleteEscapes text) (hslashes : ¬ ['/', '/'] <:+: text) : fault? text = none := by
  obtain ⟨r, rfl⟩ := Reference.exists_text_eq text
  have hauthority : r.authority = none := by
    by_contra h
    exact hslashes (Reference.isInfix_of_authority h)
  rw [fault?_text hlegal hescapes, hauthority]
  rfl

/-- The first illegal character is named with its position, whatever else is wrong. Without one,
an escape is reported exactly if it is incomplete. What then can still be refused is the authority
behind two slashes, for the fault that it has. -/
theorem refusal?_exactly (uri : String) :
    ((∃ c ∈ uri.toList, Illegal c) →
      ∃ before c after, uri.toList = before ++ c :: after ∧ Illegal c ∧ Legal before ∧
        refusal? uri = some ("malformed uri " ++ quote uri ++ ": " ++ ("illegal character " ++
          quote (String.ofList [c]) ++ " at index " ++ toString before.length))) ∧
    (Legal uri.toList →
      (refusal? uri = some ("malformed uri " ++ quote uri ++ ": " ++ "malformed percent-escape") ↔
        ∃ after, '%' :: after <:+ uri.toList ∧ ¬ StartsWithHexPair after) ∧
      (CompleteEscapes uri.toList →
        (¬ ['/', '/'] <:+: uri.toList → ∃ found, split uri = .ok found) ∧
        ∀ message, refusal? uri = some message ↔
          ∃ r : Reference, r.text = uri.toList ∧ ∃ authority ∈ r.authority,
            ∃ fault ∈ Authority.fault? authority,
              message = "malformed uri " ++ quote uri ++ ": " ++ fault.message)) := by
  refine ⟨?_, fun hlegal => ⟨?_, fun hescapes => ⟨?_, ?_⟩⟩⟩
  · intro hillegal
    obtain ⟨before, c, after, htext, hc, hbefore, hfault⟩ := fault?_of_illegal hillegal
    refine ⟨before, c, after, htext, hc, hbefore, ?_⟩
    rw [refusal?_eq, hfault]
    rfl
  · refine (refusal?_of_incomplete hlegal).trans ?_
    simp only [CompleteEscapes, not_forall, exists_prop]
  · intro hslashes
    exact ⟨parts uri.toList, split_eq_ok_iff.2 ⟨fault?_of_no_slashes hlegal hescapes hslashes, rfl⟩⟩
  · intro message
    exact refusal?_of_complete hlegal hescapes

/-- An illegal character behind an incomplete escape, an incomplete escape in front of a complete
one, a bracket outside an authority, and one that is not closed in it. -/
theorem refusal?_exactly_samples :
    (∃ before c after, "/%é<>".toList = before ++ c :: after ∧ Illegal c ∧ Legal before ∧
      refusal? "/%é<>" = some ("malformed uri " ++ quote "/%é<>" ++ ": " ++ ("illegal character " ++
        quote (String.ofList [c]) ++ " at index " ++ toString before.length))) ∧
    refusal? "/%4%41" =
      some ("malformed uri " ++ quote "/%4%41" ++ ": " ++ "malformed percent-escape") ∧
    (∃ found, split "a:/%41[" = .ok found) ∧
    refusal? "//[::1" = some "malformed uri '//[::1': Invalid IPv6 URL" ∧
    ∃ r : Reference, r.text = "//[::1".toList ∧ ∃ authority ∈ r.authority,
      ∃ fault ∈ Authority.fault? authority,
        "malformed uri '//[::1': Invalid IPv6 URL" =
          "malformed uri " ++ quote "//[::1" ++ ": " ++ fault.message := by
  have hpair : ¬ StartsWithHexPair ['4', '%', '4', '1'] := by
    rintro ⟨a, b, rest, heq, -, hb⟩
    cases heq
    exact absurd hb (by decide)
  have hbracket : refusal? "//[::1" = some "malformed uri '//[::1': Invalid IPv6 URL" := by
    decide +kernel
  refine ⟨?_, ?_, ?_, hbracket, ?_⟩
  · exact (refusal?_exactly "/%é<>").1 ⟨'<', by decide +kernel, by decide +kernel⟩
  · have hescape := ((refusal?_exactly "/%4%41").2 (by decide +kernel)).1
    exact hescape.2 ⟨['4', '%', '4', '1'], ⟨['/'], by decide +kernel⟩, hpair⟩
  · have hplain := ((refusal?_exactly "a:/%41[").2 (by decide +kernel)).2
    exact (hplain (by decide +kernel)).1 (by decide +kernel)
  · have hrest := ((refusal?_exactly "//[::1").2 (by decide +kernel)).2
    exact ((hrest (by decide +kernel)).2 _).1 hbracket

end RequestRouting.Uri
