import RequestRouting.Proofs.Routing.Effects
import RequestRouting.Proofs.Uri.Faults

/-!
# What of a URI decides the route

The template of a GET predicate is held against the path of the URI. For a URI that starts with a
single slash this is the text in front of the first mark, as it arrived; behind two slashes an
authority comes first. A query and a fragment are not looked at, so that two URIs which differ in
them alone take the same route, and a fragment changes nothing that is extracted either.
-/

namespace RequestRouting

namespace Uri

def beforeMarks (text : List Char) : List Char := text.takeWhile fun c => c != '?' && c != '#'

theorem beforeMarks_append {path tail : List Char} (hpath : '?' ∉ path ∧ '#' ∉ path)
    (htail : ∀ c ∈ tail.head?, c = '?' ∨ c = '#') : beforeMarks (path ++ tail) = path := by
  have hin : ∀ c ∈ path, (c != '?' && c != '#') = true := by
    intro c hc
    have hquestion : c ≠ '?' := fun h => hpath.1 (h ▸ hc)
    have hnumber : c ≠ '#' := fun h => hpath.2 (h ▸ hc)
    simp [hquestion, hnumber]
  rw [beforeMarks, List.takeWhile_append_of_pos hin]
  cases tail with
  | nil => simp
  | cons c tail => rcases htail c rfl with rfl | rfl <;> simp

namespace Reference

variable {r : Reference}

theorem beforeMarks_path : beforeMarks (r.path ++ r.tail) = r.path :=
  beforeMarks_append r.path_unmarked fun _ => r.head?_tail

theorem head?_path (h : (r.path ++ r.tail).head? = some '/') : r.path.head? = some '/' := by
  rw [List.head?_append, Option.or_eq_some_iff] at h
  rcases h with h | ⟨-, h⟩
  · exact h
  · rcases r.head?_tail h with h | h <;> exact absurd h (by decide)

end Reference

end Uri

open Uri (Legal CompleteEscapes Reference beforeMarks endsAuthority marked)

/-- The URI is split, and this path of it is what the template of a GET predicate is held
against. -/
def RoutedOn (uri : String) (path : List Char) : Prop :=
  ∃ found, Uri.split uri = .ok found ∧ found.path.toList = path ∧
    ∀ (p : PathCriteria) (r : Request), p.isGet = true → r.uri = uri →
      r.read p.testedField = (some found.path, [])

theorem PathCriteria.read_testedField_of_split {p : PathCriteria} (hget : p.isGet = true)
    (r : Request) {found : Uri.Parts} (h : Uri.split r.uri = .ok found) :
    r.read p.testedField = (some found.path, []) := by
  rw [testedField, if_pos hget, Request.read, Request.path, h]

theorem routedOn_of_text {uri : String} {r : Reference} (hr : r.text = uri.toList)
    (h : Uri.fault? uri.toList = none) : RoutedOn uri r.path := by
  have hsplit : Uri.split uri = .ok (Uri.parts uri.toList) := Uri.split_eq_ok_iff.2 ⟨h, rfl⟩
  refine ⟨_, hsplit, by rw [← hr, r.parts_text]; simp, ?_⟩
  rintro p request hget rfl
  exact PathCriteria.read_testedField_of_split hget request hsplit

/-- A URI that starts with a single slash is split, and the path is its text in front of the first
mark. What follows two slashes is an authority; unless it is refused, the path comes behind it. -/
theorem origin_form_path {uri : String} (hrooted : uri.toList.head? = some '/')
    (hlegal : Legal uri.toList) (hescapes : CompleteEscapes uri.toList) :
    (¬ ['/', '/'] <+: uri.toList → RoutedOn uri (beforeMarks uri.toList) ∧
      (beforeMarks uri.toList).head? = some '/') ∧
    (['/', '/'] <+: uri.toList → ∃ authority rest, uri.toList = ['/', '/'] ++ (authority ++ rest) ∧
      (∀ c ∈ authority, endsAuthority c = false) ∧ (∀ c ∈ rest.head?, endsAuthority c = true) ∧
      (∀ fault, Uri.Authority.fault? authority = some fault →
        Uri.split uri = .error (.authority fault)) ∧
      (Uri.Authority.fault? authority = none → RoutedOn uri (beforeMarks rest) ∧
        (beforeMarks rest = [] ∨ (beforeMarks rest).head? = some '/'))) := by
  obtain ⟨r, hr⟩ := Reference.exists_text_eq uri.toList
  have hfault : Uri.fault? uri.toList = (r.authority.bind Uri.Authority.fault?).map .authority := by
    rw [← hr] at hlegal hescapes ⊢
    exact Uri.fault?_text hlegal hescapes
  constructor
  · intro hsingle
    rw [← hr] at hrooted hsingle
    have htext : uri.toList = r.path ++ r.tail := by
      rw [← hr, Reference.text, Reference.front_eq_nil hrooted hsingle, List.nil_append]
    have hnone : Uri.fault? uri.toList = none := by
      rw [hfault, Reference.authority_eq_none hrooted hsingle]
      rfl
    rw [hr, htext] at hrooted
    rw [htext, Reference.beforeMarks_path]
    exact ⟨routedOn_of_text hr hnone, Reference.head?_path hrooted⟩
  · intro hdouble
    rw [← hr] at hrooted hdouble
    have hscheme := Reference.scheme_eq_none hrooted
    obtain ⟨authority, ha⟩ := Reference.exists_authority_eq hscheme hdouble
    have hsome : r.authority ≠ none := by simp [ha]
    rw [ha, Option.bind_some] at hfault
    refine ⟨authority, r.path ++ r.tail, ?_, r.authority_undelimited authority ha,
      fun c => r.endsAuthority_of_authority hsome, ?_, ?_⟩
    · rw [← hr, Reference.text, Reference.front, hscheme, ha]
      simp [marked]
    · intro fault hauthority
      rw [hauthority] at hfault
      rw [Uri.split, hfault]
      rfl
    · intro hauthority
      rw [hauthority] at hfault
      rw [Reference.beforeMarks_path]
      exact ⟨routedOn_of_text hr hfault, r.path_rooted hsome⟩

theorem origin_form_path_samples :
    RoutedOn "/a:b//c?d#e" (beforeMarks "/a:b//c?d#e".toList) ∧
    ∃ authority rest, "//h/a?b".toList = ['/', '/'] ++ (authority ++ rest) ∧
      RoutedOn "//h/a?b" (beforeMarks rest) := by
  have hsplit : Uri.split "//h/a?b" = .ok ⟨"/a", some "b"⟩ := by decide +kernel
  constructor
  · have hsingle := (@origin_form_path "/a:b//c?d#e" (by decide +kernel)
      (by decide +kernel) (by decide +kernel)).1
    exact (hsingle (by decide +kernel)).1
  · obtain ⟨authority, rest, htext, -, -, hrefused, hrouted⟩ := (@origin_form_path "//h/a?b"
      (by decide +kernel) (by decide +kernel) (by decide +kernel)).2 (by decide +kernel)
    refine ⟨authority, rest, htext, ?_⟩
    cases hfault : Uri.Authority.fault? authority with
    | none => exact (hrouted hfault).1
    | some fault => cases hsplit.symm.trans (hrefused fault hfault)

/-- Two slashes at the start are not kept: here the first segment is taken for an authority. -/
theorem origin_form_two_slashes :
    Uri.split "//a/b" = .ok ⟨"/b", none⟩ ∧
    ¬ ∀ uri : String, uri.toList.head? = some '/' → Legal uri.toList →
      CompleteEscapes uri.toList →
      ∃ found, Uri.split uri = .ok found ∧ found.path.toList = beforeMarks uri.toList := by
  have hsplit : Uri.split "//a/b" = .ok ⟨"/b", none⟩ := by decide +kernel
  refine ⟨hsplit, fun h => ?_⟩
  obtain ⟨found, hfound, hpath⟩ := h "//a/b" (by decide +kernel)
    (by decide +kernel) (by decide +kernel)
  cases hsplit.symm.trans hfound
  exact absurd hpath (by decide +kernel)

theorem PathCriteria.extract_congr {p : PathCriteria} {r r' : Request} (hget : p.isGet = true)
    (h : ∀ found, Uri.split r.uri = .ok found ↔ Uri.split r'.uri = .ok found) :
    (p.extract r).variables = (p.extract r').variables ∧
      (p.extract r).predicate = (p.extract r').predicate := by
  rw [extract, extract, if_pos hget, if_pos hget]
  cases hsplit : Uri.split r.uri with
  | ok found =>
    rw [(h found).1 hsplit]
    exact ⟨rfl, rfl⟩
  | error fault =>
    cases hsplit' : Uri.split r'.uri with
    | ok found => exact absurd ((h found).2 hsplit') (by simp [hsplit])
    | error fault' => exact ⟨rfl, rfl⟩

/-- A query and a fragment add no fault and leave the path alone. -/
theorem Uri.fault?_parts_append_suffix {uri suffix : String}
    (huri : '?' ∉ uri.toList ∧ '#' ∉ uri.toList)
    (hsuffix : ∀ c ∈ suffix.toList.head?, c = '?' ∨ c = '#')
    (hlegal : Legal suffix.toList) (hescapes : CompleteEscapes suffix.toList) :
    fault? (uri ++ suffix).toList = fault? uri.toList ∧
      (parts (uri ++ suffix).toList).path = (parts uri.toList).path := by
  obtain ⟨r, hr⟩ := Reference.exists_text_eq uri.toList
  rw [← hr] at huri
  obtain ⟨r', hr', hauthority, hpath⟩ := Reference.exists_text_append huri hsuffix
  rw [String.toList_append, ← hr, ← hr', r.parts_text, r'.parts_text, hpath]
  exact ⟨Reference.fault?_text_append hr' hauthority hsuffix hlegal hescapes, rfl⟩

theorem Uri.fault?_parts_append_fragment {uri fragment : String} (huri : '#' ∉ uri.toList)
    (hlegal : Legal fragment.toList) (hescapes : CompleteEscapes fragment.toList) :
    fault? (uri ++ "#" ++ fragment).toList = fault? uri.toList ∧
      parts (uri ++ "#" ++ fragment).toList = parts uri.toList := by
  obtain ⟨r, hr⟩ := Reference.exists_text_eq uri.toList
  rw [← hr] at huri
  obtain ⟨r', hr', hauthority, hpath, hquery⟩ :=
    Reference.exists_text_fragment huri fragment.toList
  have hlegal' : Legal ('#' :: fragment.toList) := List.forall_mem_cons.2 ⟨by decide, hlegal⟩
  have hescapes' : CompleteEscapes ('#' :: fragment.toList) :=
    (completeEscapes_cons_of_ne (by decide)).2 hescapes
  have htext : (uri ++ "#" ++ fragment).toList = r'.text := by
    simp [hr, hr']
  rw [htext, ← hr, r.parts_text, r'.parts_text, hpath, hquery]
  exact ⟨Reference.fault?_text_append hr' hauthority (by simp) hlegal' hescapes', rfl⟩

/-- What follows the path of a URI does not decide the route of a GET request: a suffix without
faults is accepted exactly if the URI is, the path stays, and the test of a GET predicate reads and
finds the same and reports nothing. A fragment does not change the query either, nor what is
extracted and remembered. -/
theorem suffix_unseen :
    (∀ uri suffix : String, '?' ∉ uri.toList ∧ '#' ∉ uri.toList →
      (∀ c ∈ suffix.toList.head?, c = '?' ∨ c = '#') → Legal suffix.toList →
      CompleteEscapes suffix.toList →
      ((∃ found, Uri.split uri = .ok found) ↔ ∃ found, Uri.split (uri ++ suffix) = .ok found) ∧
      ∀ found found', Uri.split uri = .ok found → Uri.split (uri ++ suffix) = .ok found' →
        found'.path = found.path ∧
        ∀ (p : PathCriteria) (method protocol : Option String), p.isGet = true →
          (Predicate.path p).test ⟨uri ++ suffix, method, protocol⟩ =
            (Predicate.path p).test ⟨uri, method, protocol⟩ ∧
          ((Predicate.path p).test ⟨uri, method, protocol⟩).events = []) ∧
    (∀ uri fragment : String, '#' ∉ uri.toList → Legal fragment.toList →
      CompleteEscapes fragment.toList →
      (∀ found, Uri.split uri = .ok found ↔ Uri.split (uri ++ "#" ++ fragment) = .ok found) ∧
      ∀ (p : PathCriteria) (method protocol : Option String), p.isGet = true →
        ((Predicate.path p).extract ⟨uri ++ "#" ++ fragment, method, protocol⟩).variables =
          ((Predicate.path p).extract ⟨uri, method, protocol⟩).variables ∧
        ((Predicate.path p).extract ⟨uri ++ "#" ++ fragment, method, protocol⟩).predicate =
          ((Predicate.path p).extract ⟨uri, method, protocol⟩).predicate) := by
  constructor
  · intro uri suffix huri hsuffix hlegal hescapes
    obtain ⟨hfault, hpath⟩ := Uri.fault?_parts_append_suffix huri hsuffix hlegal hescapes
    refine ⟨by rw [Uri.exists_split_iff, Uri.exists_split_iff, hfault], ?_⟩
    intro found found' hfound hfound'
    have hsame : found'.path = found.path := by
      rw [(Uri.split_eq_ok_iff.1 hfound').2, (Uri.split_eq_ok_iff.1 hfound).2, hpath]
    refine ⟨hsame, fun p method protocol hget => ⟨PathCriteria.test_congr rfl rfl ?_, ?_⟩⟩
    · rw [PathCriteria.read_testedField_of_split hget ⟨uri, method, protocol⟩ hfound,
        PathCriteria.read_testedField_of_split hget ⟨uri ++ suffix, method, protocol⟩ hfound',
        hsame]
    · rw [Predicate.events_test, hfound]
  · intro uri fragment huri hlegal hescapes
    obtain ⟨hfault, hparts⟩ := Uri.fault?_parts_append_fragment huri hlegal hescapes
    have hsplit : ∀ found,
        Uri.split uri = .ok found ↔ Uri.split (uri ++ "#" ++ fragment) = .ok found := by
      intro found
      rw [Uri.split_eq_ok_iff, Uri.split_eq_ok_iff, hfault, hparts]
    refine ⟨hsplit, fun p method protocol hget => ?_⟩
    exact PathCriteria.extract_congr hget fun found => (hsplit found).symm

/-- A colon, slashes and a bracket behind the path, and a question mark in the fragment. -/
theorem suffix_unseen_marks :
    ∃ p : PathCriteria, p.isGet = true ∧
      ((Predicate.path p).test ⟨"/a/b" ++ "?c:d//[#?", some "GET", none⟩).result = true ∧
      ((Predicate.path p).extract ⟨"/a/b" ++ "#" ++ "?c=d", some "GET", none⟩).variables =
        some [("id", some "b")] := by
  let tokens : List Template.Token := [.literal '/', .literal 'a', .literal '/', .segment "id"]
  let p : PathCriteria :=
    ⟨some (@PathTemplate.ofTokens tokens (by decide +kernel) (by decide +kernel)), none, some "GET"⟩
  have hget : p.isGet = true := rfl
  have hbare : Uri.split "/a/b" = .ok ⟨"/a/b", none⟩ := by decide +kernel
  have hmarked : Uri.split ("/a/b" ++ "?c:d//[#?") = .ok ⟨"/a/b", some "c:d//["⟩ := by
    decide +kernel
  obtain ⟨-, htest⟩ := suffix_unseen.1 "/a/b" "?c:d//[#?" (by decide +kernel)
    (by rintro c ⟨⟩; exact .inl rfl) (by decide +kernel) (by decide +kernel)
  obtain ⟨-, hextract⟩ := suffix_unseen.2 "/a/b" "?c=d" (by decide +kernel) (by decide +kernel)
    (by decide +kernel)
  refine ⟨p, hget, ?_, ?_⟩
  · rw [((htest _ _ hbare hmarked).2 p (some "GET") none hget).1]
    decide +kernel
  · rw [(hextract p (some "GET") none hget).1]
    decide +kernel

end RequestRouting
