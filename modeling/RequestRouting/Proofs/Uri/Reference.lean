import Mathlib.Data.List.TakeWhile
import RequestRouting.Proofs.Text.Starts
import RequestRouting.Uri.Split

/-!
# URI references

A URI reference is cut into a scheme, an authority, a path, a query and a fragment, of which all
but the path may be missing. Every text is the text of such a reference, and splitting it reports
the path and the query of the reference. So nothing of the text is lost, and a mark inside a later
component moves no earlier cut.
-/

namespace RequestRouting.Uri

open RequestRouting.Text (cut cut_append_cons cut_eq_none_iff eq_of_cut not_mem_of_cut upTo)

def marked (mark : List Char) : Option (List Char) → List Char
  | none => []
  | some text => mark ++ text

section Marked

variable {c : Char} {before : List Char}

theorem cut_append_marked (h : c ∉ before) (after : Option (List Char)) :
    cut c (before ++ marked [c] after) = after.map (before, ·) := by
  cases after with
  | none => simpa [marked] using h
  | some after => exact cut_append_cons h after

theorem upTo_append_marked (h : c ∉ before) (after : Option (List Char)) :
    upTo c (before ++ marked [c] after) = before := by
  rw [upTo, cut_append_marked h]
  cases after with
  | none => simp [marked]
  | some after => rfl

theorem exists_marked (c : Char) (text : List Char) :
    ∃ before after, c ∉ before ∧ text = before ++ marked [c] after := by
  cases h : cut c text with
  | none => exact ⟨text, none, cut_eq_none_iff.1 h, (List.append_nil text).symm⟩
  | some p => exact ⟨p.1, some p.2, not_mem_of_cut h, eq_of_cut h⟩

end Marked

def IsScheme (text : List Char) : Prop :=
  text.head?.any Char.isAlpha = true ∧ ∀ c ∈ text, isSchemeChar c = true

instance (text : List Char) : Decidable (IsScheme text) :=
  have : Decidable (∀ c ∈ text, isSchemeChar c = true) := List.decidableBAll _ _
  inferInstanceAs (Decidable (_ ∧ _))

theorem IsScheme.not_mem {scheme : List Char} {c : Char} (h : IsScheme scheme)
    (hc : isSchemeChar c = false) : c ∉ scheme := by
  intro hm
  rw [h.2 c hm] at hc
  cases hc

theorem dropScheme_append {scheme : List Char} (h : IsScheme scheme) (rest : List Char) :
    dropScheme (scheme ++ ':' :: rest) = rest := by
  have hall : scheme.all isSchemeChar = true := List.all_eq_true.2 h.2
  rw [dropScheme, cut_append_cons (h.not_mem (by decide))]
  simp [h.1, hall]

theorem dropScheme_of_forall_ne {text : List Char}
    (h : ∀ scheme rest, IsScheme scheme → text ≠ scheme ++ ':' :: rest) :
    dropScheme text = text := by
  rw [dropScheme]
  cases hcut : cut ':' text with
  | none => rfl
  | some p =>
    have hnot : ¬ IsScheme p.1 := fun hs => h p.1 p.2 hs (eq_of_cut hcut)
    rw [IsScheme, ← List.all_eq_true, ← Bool.and_eq_true] at hnot
    exact if_neg hnot

theorem cutAuthority_append {authority rest : List Char}
    (h : ∀ c ∈ authority, endsAuthority c = false)
    (hrest : ∀ c ∈ rest.head?, endsAuthority c = true) :
    cutAuthority (['/', '/'] ++ (authority ++ rest)) = (authority, rest) := by
  have hin : ∀ c ∈ authority, (!endsAuthority c) = true := by
    intro c hc
    rw [h c hc]
    rfl
  rw [cutAuthority, Text.isPrefixOf?_append]
  dsimp only
  rw [List.takeWhile_append_of_pos hin, List.dropWhile_append_of_pos hin]
  cases rest with
  | nil => simp
  | cons c rest =>
    have hc : endsAuthority c = true := hrest c rfl
    simp [hc]

/-- The components of a URI reference. They are cut as early as they can be: only a path behind an
authority may start with two slashes, and a path that stands alone starts with no scheme. -/
structure Reference where
  scheme : Option (List Char)
  authority : Option (List Char)
  path : List Char
  query : Option (List Char)
  fragment : Option (List Char)
  isScheme : ∀ text ∈ scheme, IsScheme text
  authority_undelimited : ∀ text ∈ authority, ∀ c ∈ text, endsAuthority c = false
  path_unmarked : '?' ∉ path ∧ '#' ∉ path
  query_unmarked : ∀ text ∈ query, '#' ∉ text
  path_rooted : authority ≠ none → path = [] ∨ path.head? = some '/'
  path_single_slash : authority = none → ¬ ['/', '/'] <+: path
  path_schemeless : scheme = none → authority = none →
    ∀ text rest, IsScheme text → path ≠ text ++ ':' :: rest

namespace Reference

/-- What stands in front of the path: nothing, or a scheme with its colon, or two slashes with an
authority, or all of these. -/
def front (r : Reference) : List Char :=
  (r.scheme.elim [] (· ++ [':'])) ++ marked ['/', '/'] r.authority

def tail (r : Reference) : List Char := marked ['?'] r.query ++ marked ['#'] r.fragment

def text (r : Reference) : List Char := r.front ++ (r.path ++ r.tail)

variable (r : Reference)

theorem not_mem_front {c : Char} (hscheme : isSchemeChar c = false) (hcolon : c ≠ ':')
    (hends : endsAuthority c = true) (hslash : c ≠ '/') : c ∉ r.front := by
  intro hc
  rcases List.mem_append.1 hc with hc | hc
  · cases hs : r.scheme with
    | none => simp [hs] at hc
    | some scheme =>
      have hmem : c ∈ scheme := by simpa [hs, hcolon] using hc
      exact (r.isScheme scheme hs).not_mem hscheme hmem
  · cases ha : r.authority with
    | none => simp [ha, marked] at hc
    | some authority =>
      have hmem : c ∈ authority := by simpa [ha, marked, hslash] using hc
      rw [r.authority_undelimited authority ha c hmem] at hends
      cases hends

theorem question_not_mem_front : '?' ∉ r.front :=
  r.not_mem_front (by decide) (by decide) (by decide) (by decide)

theorem number_not_mem_front : '#' ∉ r.front :=
  r.not_mem_front (by decide) (by decide) (by decide) (by decide)

theorem head?_tail {c : Char} (h : c ∈ r.tail.head?) : c = '?' ∨ c = '#' := by
  rw [tail] at h
  cases hq : r.query with
  | some query => exact .inl (by simpa [hq, marked, eq_comm] using h)
  | none =>
    cases hf : r.fragment with
    | none => simp [hq, hf, marked] at h
    | some fragment => exact .inr (by simpa [hq, hf, marked, eq_comm] using h)

theorem exists_path_eq_append {start rest : List Char} (h : r.path ++ r.tail = start ++ rest)
    (hstart : '?' ∉ start ∧ '#' ∉ start) : ∃ more, r.path = start ++ more := by
  rcases List.append_eq_append_iff.1 h with ⟨more, hmore, htail⟩ | ⟨more, hmore, -⟩
  · cases more with
    | nil => exact ⟨[], by simp [hmore]⟩
    | cons c more =>
      have hc : c ∈ start := by simp [hmore]
      rcases r.head?_tail (c := c) (by simp [htail]) with rfl | rfl
      · exact absurd hc hstart.1
      · exact absurd hc hstart.2
  · exact ⟨more, hmore⟩

theorem text_ne_of_schemeless (h : r.scheme = none) (scheme rest : List Char)
    (hscheme : IsScheme scheme) : r.text ≠ scheme ++ ':' :: rest := by
  intro htext
  cases ha : r.authority with
  | some authority =>
    have hslash : r.text.head? = some '/' := by simp [text, front, h, ha, marked]
    rw [htext] at hslash
    cases scheme with
    | nil => exact absurd hscheme.1 (by decide)
    | cons c scheme =>
      cases hslash
      exact hscheme.not_mem (c := '/') (by decide) List.mem_cons_self
  | none =>
    have hpath : r.path ++ r.tail = (scheme ++ [':']) ++ rest := by
      simpa [text, front, h, ha, marked] using htext
    obtain ⟨more, hmore⟩ := r.exists_path_eq_append hpath
      ⟨by simpa using hscheme.not_mem (by decide), by simpa using hscheme.not_mem (by decide)⟩
    exact r.path_schemeless h ha scheme more hscheme (by simpa using hmore)

theorem dropScheme_text :
    dropScheme r.text = marked ['/', '/'] r.authority ++ (r.path ++ r.tail) := by
  cases h : r.scheme with
  | none =>
    rw [dropScheme_of_forall_ne (r.text_ne_of_schemeless h), text, front, h]
    rfl
  | some scheme =>
    have htext : r.text =
        scheme ++ ':' :: (marked ['/', '/'] r.authority ++ (r.path ++ r.tail)) := by
      simp [text, front, h]
    rw [htext, dropScheme_append (r.isScheme scheme h)]

theorem endsAuthority_of_authority (h : r.authority ≠ none) {c : Char}
    (hc : c ∈ (r.path ++ r.tail).head?) : endsAuthority c = true := by
  rcases r.path_rooted h with hpath | hpath
  · rw [hpath, List.nil_append] at hc
    rcases r.head?_tail hc with rfl | rfl <;> decide
  · rw [List.head?_append, hpath, Option.some_or] at hc
    cases hc
    decide

theorem isPrefixOf?_of_authority (h : r.authority = none) :
    ['/', '/'].isPrefixOf? (r.path ++ r.tail) = none := by
  rw [Option.eq_none_iff_forall_ne_some]
  intro rest hrest
  have hsplit : r.path ++ r.tail = ['/', '/'] ++ rest :=
    (List.append_eq_of_isPrefixOf?_eq_some hrest).symm
  obtain ⟨more, hmore⟩ := r.exists_path_eq_append hsplit (by decide)
  exact r.path_single_slash h ⟨more, hmore.symm⟩

theorem cutAuthority_dropScheme_text :
    cutAuthority (dropScheme r.text) = (r.authority.getD [], r.path ++ r.tail) := by
  rw [dropScheme_text]
  cases h : r.authority with
  | none => rw [marked, List.nil_append, cutAuthority, r.isPrefixOf?_of_authority h]; rfl
  | some authority =>
    rw [marked, List.append_assoc, cutAuthority_append (r.authority_undelimited authority h)]
    · rfl
    · intro c hc
      exact r.endsAuthority_of_authority (by simp [h]) hc

theorem number_not_mem_path_query : '#' ∉ r.path ++ marked ['?'] r.query := by
  have hpath := r.path_unmarked.2
  cases h : r.query with
  | none => simpa [marked] using hpath
  | some query =>
    have hquery := r.query_unmarked query h
    simp [marked, hpath, hquery]

theorem upTo_text : upTo '#' r.text = r.front ++ (r.path ++ marked ['?'] r.query) := by
  have htext : r.text = r.front ++ (r.path ++ marked ['?'] r.query) ++ marked ['#'] r.fragment := by
    simp [text, tail]
  have hbefore : '#' ∉ r.front ++ (r.path ++ marked ['?'] r.query) := by
    rw [List.mem_append, not_or]
    exact ⟨r.number_not_mem_front, r.number_not_mem_path_query⟩
  rw [htext, upTo_append_marked hbefore]

theorem question_mem_upTo_text : '?' ∈ upTo '#' r.text ↔ r.query ≠ none := by
  have hfront := r.question_not_mem_front
  have hpath := r.path_unmarked.1
  rw [upTo_text]
  cases h : r.query <;> simp [marked, hfront, hpath]

/-- Splitting the text of a reference gives its path and its query back. -/
theorem parts_text : parts r.text = ⟨String.ofList r.path, r.query.map String.ofList⟩ := by
  have hbody : upTo '#' (r.path ++ r.tail) = r.path ++ marked ['?'] r.query := by
    rw [tail, ← List.append_assoc, upTo_append_marked r.number_not_mem_path_query]
  -- the query is cut from the body, but whether there is one is asked of the text with its front
  have hasked := r.question_mem_upTo_text
  rw [parts, cutAuthority_dropScheme_text]
  dsimp only
  rw [hbody, cut_append_marked r.path_unmarked.1]
  cases h : r.query with
  | none =>
    have hnot : (upTo '#' r.text).contains '?' = false := by simpa [h] using hasked
    rw [hnot]
    simp [marked]
  | some query =>
    have hthere : (upTo '#' r.text).contains '?' = true := by simpa [h] using hasked
    rw [hthere]
    rfl

variable {r}

theorem scheme_eq_none (h : r.text.head? = some '/') : r.scheme = none := by
  cases hs : r.scheme with
  | none => rfl
  | some scheme =>
    have hscheme := r.isScheme scheme hs
    cases scheme with
    | nil => exact absurd hscheme.1 (by decide)
    | cons c scheme =>
      have hc : c = '/' := by simpa [text, front, hs] using h
      exact absurd (hc ▸ List.mem_cons_self) (hscheme.not_mem (c := '/') (by decide))

theorem isInfix_of_authority (h : r.authority ≠ none) : ['/', '/'] <:+: r.text := by
  obtain ⟨authority, ha⟩ := Option.ne_none_iff_exists'.1 h
  refine ⟨r.scheme.elim [] (· ++ [':']), authority ++ (r.path ++ r.tail), ?_⟩
  simp [text, front, ha, marked]

theorem isPrefix_of_authority (hscheme : r.scheme = none) (h : r.authority ≠ none) :
    ['/', '/'] <+: r.text := by
  obtain ⟨authority, ha⟩ := Option.ne_none_iff_exists'.1 h
  refine ⟨authority ++ (r.path ++ r.tail), ?_⟩
  simp [text, front, hscheme, ha, marked]

theorem authority_eq_none (hslash : r.text.head? = some '/')
    (hsingle : ¬ ['/', '/'] <+: r.text) : r.authority = none := by
  by_contra h
  exact hsingle (isPrefix_of_authority (scheme_eq_none hslash) h)

theorem front_eq_nil (hslash : r.text.head? = some '/') (hsingle : ¬ ['/', '/'] <+: r.text) :
    r.front = [] := by
  rw [front, scheme_eq_none hslash, authority_eq_none hslash hsingle]
  rfl

theorem exists_authority_eq (hscheme : r.scheme = none) (h : ['/', '/'] <+: r.text) :
    ∃ authority, r.authority = some authority := by
  rw [← Option.ne_none_iff_exists']
  intro ha
  have htext : r.text = r.path ++ r.tail := by simp [text, front, hscheme, ha, marked]
  have hnone := r.isPrefixOf?_of_authority ha
  rw [htext, ← List.isPrefixOf_iff_prefix, ← List.isSome_isPrefixOf?_eq_isPrefixOf, hnone] at h
  cases h

end Reference

theorem exists_scheme (text : List Char) :
    ∃ (scheme : Option (List Char)) (rest : List Char),
      text = scheme.elim [] (· ++ [':']) ++ rest ∧ (∀ s ∈ scheme, IsScheme s) ∧
      (scheme = none → ∀ s rest, IsScheme s → text ≠ s ++ ':' :: rest) := by
  by_cases h : ∃ s rest, IsScheme s ∧ text = s ++ ':' :: rest
  · obtain ⟨s, rest, hs, htext⟩ := h
    exact ⟨some s, rest, by simp [htext], by simpa using hs, by simp⟩
  · refine ⟨none, text, rfl, by simp, ?_⟩
    intro _ s rest hs htext
    exact h ⟨s, rest, hs, htext⟩

theorem exists_authority (text : List Char) :
    ∃ (authority : Option (List Char)) (rest : List Char),
      text = marked ['/', '/'] authority ++ rest ∧
      (∀ a ∈ authority, ∀ c ∈ a, endsAuthority c = false) ∧
      (authority ≠ none → ∀ c ∈ rest.head?, endsAuthority c = true) ∧
      (authority = none → ¬ ['/', '/'] <+: rest) := by
  cases h : ['/', '/'].isPrefixOf? text with
  | none =>
    refine ⟨none, text, rfl, by simp, by simp, ?_⟩
    rintro - hstart
    rw [← List.isPrefixOf_iff_prefix, ← List.isSome_isPrefixOf?_eq_isPrefixOf, h] at hstart
    cases hstart
  | some rest =>
    refine ⟨some (rest.takeWhile (!endsAuthority ·)), rest.dropWhile (!endsAuthority ·), ?_, ?_, ?_,
      by simp⟩
    · rw [marked, List.append_assoc, List.takeWhile_append_dropWhile]
      exact (List.append_eq_of_isPrefixOf?_eq_some h).symm
    · rintro _ ⟨⟩ c hc
      simpa using List.mem_takeWhile_imp hc
    · rintro - c hc
      have hhead := List.head?_dropWhile_not (!endsAuthority ·) rest
      rw [Option.mem_def.1 hc] at hhead
      simpa using hhead

theorem exists_tail (text : List Char) :
    ∃ (path : List Char) (query fragment : Option (List Char)),
      text = path ++ (marked ['?'] query ++ marked ['#'] fragment) ∧
      ('?' ∉ path ∧ '#' ∉ path) ∧ ∀ q ∈ query, '#' ∉ q := by
  obtain ⟨body, fragment, hbody, rfl⟩ := exists_marked '#' text
  obtain ⟨path, query, hpath, rfl⟩ := exists_marked '?' body
  simp only [List.mem_append, not_or] at hbody
  refine ⟨path, query, fragment, List.append_assoc .., ⟨hpath, hbody.1⟩, ?_⟩
  rintro q ⟨⟩ hq
  exact hbody.2 (List.mem_append_right _ hq)

namespace Reference

/-- Every text is the text of a reference. -/
theorem exists_text_eq (whole : List Char) : ∃ r : Reference, r.text = whole := by
  obtain ⟨scheme, rest, htext, hscheme, hschemeless⟩ := exists_scheme whole
  obtain ⟨authority, rest', rfl, hauthority, hends, hslashes⟩ := exists_authority rest
  obtain ⟨path, query, fragment, rfl, hpath, hquery⟩ := exists_tail rest'
  have hrooted : authority ≠ none → path = [] ∨ path.head? = some '/' := by
    intro ha
    cases path with
    | nil => exact .inl rfl
    | cons c path =>
      have hc : endsAuthority c = true := hends ha c rfl
      have hmarks : c ≠ '?' ∧ c ≠ '#' := by
        simp only [List.mem_cons, not_or] at hpath
        exact ⟨Ne.symm hpath.1.1, Ne.symm hpath.2.1⟩
      exact .inr (by simpa [endsAuthority, hmarks] using hc)
  have hsingle : authority = none → ¬ ['/', '/'] <+: path := by
    intro ha hstart
    exact hslashes ha (hstart.trans (List.prefix_append _ _))
  -- a scheme in front of such a path would be one in front of the whole text
  have hplain : scheme = none → authority = none →
      ∀ s rest, IsScheme s → path ≠ s ++ ':' :: rest := by
    rintro rfl rfl s rest hs rfl
    refine hschemeless rfl s (rest ++ (marked ['?'] query ++ marked ['#'] fragment)) hs ?_
    rw [htext, marked]
    simp
  refine ⟨⟨scheme, authority, path, query, fragment, hscheme, hauthority, hpath, hquery, hrooted,
    hsingle, hplain⟩, ?_⟩
  rw [htext, text, front, tail, List.append_assoc]

def withTail (r : Reference) (query fragment : Option (List Char))
    (h : ∀ text ∈ query, '#' ∉ text) : Reference :=
  { r with query := query, fragment := fragment, query_unmarked := h }

variable {r : Reference}

theorem tail_eq_nil (h : '?' ∉ r.text ∧ '#' ∉ r.text) : r.tail = [] := by
  cases htail : r.tail with
  | nil => rfl
  | cons c tail =>
    have hc : c ∈ r.text := by simp [text, htail]
    rcases r.head?_tail (c := c) (by rw [htail]; rfl) with rfl | rfl
    · exact absurd hc h.1
    · exact absurd hc h.2

theorem exists_text_append (h : '?' ∉ r.text ∧ '#' ∉ r.text) {more : List Char}
    (hmore : ∀ c ∈ more.head?, c = '?' ∨ c = '#') :
    ∃ r' : Reference, r'.text = r.text ++ more ∧ r'.authority = r.authority ∧ r'.path = r.path := by
  obtain ⟨path, query, fragment, htail, hpath, hquery⟩ := exists_tail more
  have hnil : path = [] := by
    cases path with
    | nil => rfl
    | cons c path =>
      simp only [List.mem_cons, not_or] at hpath
      rcases hmore c (by rw [htail]; rfl) with rfl | rfl
      · exact absurd rfl hpath.1.1
      · exact absurd rfl hpath.2.1
  refine ⟨r.withTail query fragment hquery, ?_, rfl, rfl⟩
  rw [text, text, tail_eq_nil h, htail, hnil]
  simp [withTail, front, tail]

theorem exists_text_fragment (h : '#' ∉ r.text) (fragment : List Char) :
    ∃ r' : Reference, r'.text = r.text ++ '#' :: fragment ∧ r'.authority = r.authority ∧
      r'.path = r.path ∧ r'.query = r.query := by
  have hnone : r.fragment = none := by
    cases hf : r.fragment with
    | none => rfl
    | some old => exact absurd (by simp [text, tail, hf, marked]) h
  refine ⟨r.withTail r.query (some fragment) r.query_unmarked, ?_, rfl, rfl, rfl⟩
  simp [withTail, text, front, tail, hnone, marked]

end Reference

theorem split_eq_ok_iff {uri : String} {found : Parts} :
    split uri = .ok found ↔ fault? uri.toList = none ∧ found = parts uri.toList := by
  rw [split]
  cases fault? uri.toList <;> simp [eq_comm]

theorem exists_split_iff {uri : String} :
    (∃ found, split uri = .ok found) ↔ fault? uri.toList = none := by
  simp [split_eq_ok_iff]

/-- What comes in front of the fragment is put together again from the path, the query and what is
left out: a scheme, an authority, both or nothing. Nothing is left out in front of a path that
starts with a single slash. -/
theorem split_lossless {uri : String} {found : Parts} (h : split uri = .ok found) :
    (found.query = none ↔ '?' ∉ upTo '#' uri.toList) ∧
    ('?' ∉ found.path.toList ∧ '#' ∉ found.path.toList) ∧
    (∀ query ∈ found.query, '#' ∉ query.toList) ∧
    ∃ r : Reference, r.text = uri.toList ∧ found.path.toList = r.path ∧
      ('?' ∉ r.front ∧ '#' ∉ r.front) ∧
      upTo '#' uri.toList =
        r.front ++ (found.path.toList ++ marked ['?'] (found.query.map String.toList)) ∧
      (r.authority ≠ none → found.path.toList = [] ∨ found.path.toList.head? = some '/') ∧
      (uri.toList.head? = some '/' → ¬ ['/', '/'] <+: uri.toList → r.front = []) := by
  obtain ⟨r, hr⟩ := Reference.exists_text_eq uri.toList
  have hfound : found = ⟨String.ofList r.path, r.query.map String.ofList⟩ := by
    rw [(split_eq_ok_iff.1 h).2, ← hr, r.parts_text]
  have hquery : found.query.map String.toList = r.query := by
    rw [hfound]
    cases r.query <;> simp
  have hpath : found.path.toList = r.path := by simp [hfound]
  rw [hpath, hquery, ← hr]
  refine ⟨?_, r.path_unmarked, ?_, r, rfl, rfl,
    ⟨r.question_not_mem_front, r.number_not_mem_front⟩, r.upTo_text, r.path_rooted,
    Reference.front_eq_nil⟩
  · rw [r.question_mem_upTo_text, not_not, hfound, Option.map_eq_none_iff]
  · intro query hmem
    apply r.query_unmarked
    rw [← hquery]
    exact Option.mem_map_of_mem _ hmem

theorem split_lossless_absolute :
    split "http://h/a?b?c#d?" = .ok ⟨"/a", some "b?c"⟩ ∧
      ∃ r : Reference, r.text = "http://h/a?b?c#d?".toList ∧
        upTo '#' "http://h/a?b?c#d?".toList =
          r.front ++ ("/a".toList ++ marked ['?'] (some "b?c".toList)) := by
  have h : split "http://h/a?b?c#d?" = .ok ⟨"/a", some "b?c"⟩ := by decide +kernel
  obtain ⟨-, -, -, r, hr, -, -, htext, -⟩ := split_lossless h
  exact ⟨h, r, hr, htext⟩

end RequestRouting.Uri
