import RequestRouting.Proofs.Routing.RequestTarget

/-!
# Absolute targets

A target that starts with a single slash may arrive with a scheme and an authority in front of it.
If nothing in them can be refused, the URI is split exactly if the target alone is, and into the
same path and query. So a GET predicate extracts the same from both, and its test finds the same
unless the URI is refused: then the template is held against the URI as it arrived.
-/

namespace RequestRouting

namespace Uri

def isHostChar (c : Char) : Bool := c.isAlphanum || c = '-' || c = '.' || c = ':'

def IsPlainAuthority (text : List Char) : Prop := ∀ c ∈ text, isHostChar c = true

instance (text : List Char) : Decidable (IsPlainAuthority text) := List.decidableBAll _ _

def IsOriginForm (text : List Char) : Prop :=
  text = [] ∨ text.head? = some '/' ∧ ¬ ['/', '/'] <+: text

instance (text : List Char) : Decidable (IsOriginForm text) :=
  inferInstanceAs (Decidable (_ ∨ _))

def absoluteForm (scheme authority target : String) : String :=
  scheme ++ "://" ++ authority ++ target

theorem toList_absoluteForm (scheme authority target : String) :
    (absoluteForm scheme authority target).toList =
      scheme.toList ++ [':', '/', '/'] ++ authority.toList ++ target.toList := by
  simp [absoluteForm]

section Characters

variable {c : Char}

theorem toNat_of_isAlphanum (h : c.isAlphanum = true) : 0x30 ≤ c.toNat ∧ c.toNat ≤ 0x7a := by
  have hclass : ((decide ('A'.val ≤ c.val ∧ c.val ≤ 'Z'.val) ||
      ('a'.val ≤ c.val && c.val ≤ 'z'.val)) || ('0'.val ≤ c.val && c.val ≤ '9'.val)) = true := h
  simp only [Bool.or_eq_true, Bool.and_eq_true, decide_eq_true_eq,
    UInt32.le_iff_toNat_le] at hclass
  have hdigit : '0'.val.toNat = 0x30 ∧ '9'.val.toNat = 0x39 := by decide
  have hupper : 'A'.val.toNat = 0x41 ∧ 'Z'.val.toNat = 0x5a := by decide
  have hlower : 'a'.val.toNat = 0x61 ∧ 'z'.val.toNat = 0x7a := by decide
  have hc : c.toNat = c.val.toNat := rfl
  omega

theorem not_illegal_of_isAlphanum (h : c.isAlphanum = true) : ¬ Illegal c := by
  have hrange := toNat_of_isAlphanum h
  rintro (hcontrol | hdelete | hmark)
  · omega
  · omega
  · have hmarks : ['<', '>', '\x22', '\x7b', '\x7d', '|', '\\', '^', '\x60'].all
        (!·.isAlphanum) = true := by decide
    have hnot := List.all_eq_true.1 hmarks c hmark
    rw [h] at hnot
    cases hnot

/-- What stands in front of a target is refused nowhere, and no escape starts in it. -/
theorem harmless_of_frontChar (h : isSchemeChar c = true ∨ isHostChar c = true ∨ c ∈ [':', '/']) :
    ¬ Illegal c ∧ c ≠ '%' := by
  have hcases : c.isAlphanum = true ∨ c ∈ ['+', '-', '.', ':', '/'] := by
    simp only [isSchemeChar, isHostChar, Bool.or_eq_true, decide_eq_true_eq, List.mem_cons,
      List.not_mem_nil, or_false] at h ⊢
    tauto
  rcases hcases with h | h
  · refine ⟨not_illegal_of_isAlphanum h, ?_⟩
    rintro rfl
    exact absurd h (by decide)
  · have hmarks : ['+', '-', '.', ':', '/'].all (fun c => ¬ Illegal c ∧ c ≠ '%') = true := by
      decide +kernel
    simpa using List.all_eq_true.1 hmarks c h

theorem endsAuthority_of_isHostChar (h : isHostChar c = true) : endsAuthority c = false := by
  rw [← Bool.not_eq_true, endsAuthority]
  simp only [Bool.or_eq_true, decide_eq_true_eq]
  rintro ((rfl | rfl) | rfl) <;> exact absurd h (by decide)

end Characters

theorem Authority.fault?_plain {authority : List Char} (h : IsPlainAuthority authority) :
    Authority.fault? authority = none := by
  have hnot : ∀ c, isHostChar c = false → authority.contains c = false := by
    intro c hc
    rw [← Bool.not_eq_true, List.contains_iff_mem]
    intro hm
    rw [h c hm] at hc
    cases hc
  have hdelimiters : disguisedDelimiters.all (!isHostChar ·) = true := by decide +kernel
  have hany : authority.any disguisedDelimiters.contains = false := by
    rw [← Bool.not_eq_true, List.any_eq_true]
    rintro ⟨c, hm, hc⟩
    have hnone := List.all_eq_true.1 hdelimiters c (List.contains_iff_mem.1 hc)
    rw [h c hm] at hnone
    cases hnone
  rw [Authority.fault?, hnot '[' (by decide), hnot ']' (by decide), hany]
  rfl

namespace Reference

variable {r : Reference}

theorem front_eq_nil_of_originForm (h : IsOriginForm r.text) : r.front = [] := by
  rcases h with hnil | ⟨hslash, hsingle⟩
  · rw [text, List.append_eq_nil_iff] at hnil
    exact hnil.1
  · exact front_eq_nil hslash hsingle

theorem authority_eq_none_of_front (h : r.front = []) : r.authority = none := by
  cases ha : r.authority with
  | none => rfl
  | some authority => simp [front, ha, marked] at h

theorem path_rooted_of_originForm (h : IsOriginForm r.text) :
    r.path = [] ∨ r.path.head? = some '/' := by
  have htext : r.text = r.path ++ r.tail := by
    rw [text, front_eq_nil_of_originForm h, List.nil_append]
  rw [htext] at h
  rcases h with hnil | ⟨hslash, -⟩
  · exact .inl (List.append_eq_nil_iff.1 hnil).1
  · exact .inr (head?_path hslash)

def absolute (r : Reference) {scheme authority : List Char} (hscheme : IsScheme scheme)
    (hauthority : IsPlainAuthority authority) (hpath : r.path = [] ∨ r.path.head? = some '/') :
    Reference :=
  { r with
    scheme := some scheme
    authority := some authority
    isScheme := by
      rintro _ ⟨⟩
      exact hscheme
    authority_undelimited := by
      rintro _ ⟨⟩ c hc
      exact endsAuthority_of_isHostChar (hauthority c hc)
    path_rooted := fun _ => hpath
    path_single_slash := nofun
    path_schemeless := nofun }

/-- Every target in origin form has an absolute form, with the same path and query. -/
theorem exists_absolute {scheme authority : List Char} (h : IsOriginForm r.text)
    (hscheme : IsScheme scheme) (hauthority : IsPlainAuthority authority) :
    ∃ r' : Reference, r'.text = scheme ++ [':', '/', '/'] ++ authority ++ r.text ∧
      r'.authority = some authority ∧ r'.path = r.path ∧ r'.query = r.query := by
  refine ⟨r.absolute hscheme hauthority (path_rooted_of_originForm h), ?_, rfl, rfl, rfl⟩
  have htext : r.text = r.path ++ r.tail := by
    rw [text, front_eq_nil_of_originForm h, List.nil_append]
  rw [htext]
  simp [text, front, tail, absolute, marked]

end Reference

section Front

variable {scheme authority : List Char}

theorem harmless_front (hscheme : IsScheme scheme) (hauthority : IsPlainAuthority authority) :
    ∀ c ∈ scheme ++ [':', '/', '/'] ++ authority, ¬ Illegal c ∧ c ≠ '%' := by
  intro c hc
  rw [List.mem_append, List.mem_append] at hc
  rcases hc with (hc | hc) | hc
  · exact harmless_of_frontChar (.inl (hscheme.2 c hc))
  · exact harmless_of_frontChar (.inr (.inr (by simpa using hc)))
  · exact harmless_of_frontChar (.inr (.inl (hauthority c hc)))

/-- A scheme and a plain authority in front of a target in origin form are left out again, and
nothing is refused that would not be refused in the target. -/
theorem fault?_parts_absolute {target : List Char} (hscheme : IsScheme scheme)
    (hauthority : IsPlainAuthority authority) (htarget : IsOriginForm target) :
    (fault? (scheme ++ [':', '/', '/'] ++ authority ++ target) = none ↔ fault? target = none) ∧
      parts (scheme ++ [':', '/', '/'] ++ authority ++ target) = parts target := by
  obtain ⟨r, rfl⟩ := Reference.exists_text_eq target
  obtain ⟨r', hr', hr'authority, hpath, hquery⟩ :=
    Reference.exists_absolute htarget hscheme hauthority
  have hfront := harmless_front hscheme hauthority
  have hlegal : Legal r'.text ↔ Legal r.text := by
    rw [hr', Legal, List.forall_mem_append]
    exact and_iff_right fun c hc => (hfront c hc).1
  have hescapes : CompleteEscapes r'.text ↔ CompleteEscapes r.text := by
    rw [hr']
    exact completeEscapes_append_of_not_mem (fun hm => (hfront _ hm).2 rfl) r.text
  have hnone : r.authority = none :=
    Reference.authority_eq_none_of_front (Reference.front_eq_nil_of_originForm htarget)
  have hplain : r'.authority.bind Authority.fault? = none := by
    rw [hr'authority]
    exact Authority.fault?_plain hauthority
  rw [← hr', Reference.fault?_text_eq_none_iff, Reference.fault?_text_eq_none_iff, hlegal,
    hescapes, hplain, hnone, r'.parts_text, r.parts_text, hpath, hquery]
  exact ⟨Iff.rfl, rfl⟩

end Front

end Uri

open Uri (IsScheme IsPlainAuthority IsOriginForm absoluteForm)

theorem PathCriteria.target_of_refused {p : PathCriteria} {r : Request}
    (h : ¬ ∃ found, Uri.split r.uri = .ok found) : p.target r = r.uri := by
  have hpath : r.path.1 = r.uri := by
    rw [Request.path]
    cases hsplit : Uri.split r.uri with
    | ok found => exact absurd ⟨found, hsplit⟩ h
    | error fault => rfl
  rw [target, hpath, ite_self]

/-- A target in origin form and the same target behind a scheme and an authority are split alike,
and a GET predicate extracts the same from both and remembers the same. Its test finds the same
where the target is split. Where it is refused, each of the two URIs is tested as it stands. -/
theorem absolute_form_alike {scheme authority target : String} (hscheme : IsScheme scheme.toList)
    (hauthority : IsPlainAuthority authority.toList) (htarget : IsOriginForm target.toList) :
    (∀ found, Uri.split (absoluteForm scheme authority target) = .ok found ↔
      Uri.split target = .ok found) ∧
    ∀ (p : PathCriteria) (method protocol : Option String), p.isGet = true →
      ((Predicate.path p).extract
          ⟨absoluteForm scheme authority target, method, protocol⟩).variables =
        ((Predicate.path p).extract ⟨target, method, protocol⟩).variables ∧
      ((Predicate.path p).extract
          ⟨absoluteForm scheme authority target, method, protocol⟩).predicate =
        ((Predicate.path p).extract ⟨target, method, protocol⟩).predicate ∧
      ((∃ found, Uri.split target = .ok found) →
        (Predicate.path p).test ⟨absoluteForm scheme authority target, method, protocol⟩ =
          (Predicate.path p).test ⟨target, method, protocol⟩) ∧
      ((¬ ∃ found, Uri.split target = .ok found) →
        ∀ uri ∈ [absoluteForm scheme authority target, target],
          ((Predicate.path p).test ⟨uri, method, protocol⟩).result =
            ((p.protocol.all fun text => protocol == some text) &&
              (p.method.all fun text => method == some text) &&
              p.template.all fun t => t.accepts uri)) := by
  obtain ⟨hfault, hparts⟩ := Uri.fault?_parts_absolute hscheme hauthority htarget
  rw [← Uri.toList_absoluteForm] at hfault hparts
  have hsplit : ∀ found, Uri.split (absoluteForm scheme authority target) = .ok found ↔
      Uri.split target = .ok found := by
    intro found
    rw [Uri.split_eq_ok_iff, Uri.split_eq_ok_iff, hfault, hparts]
  refine ⟨hsplit, fun p method protocol hget => ?_⟩
  obtain ⟨hvariables, hpredicate⟩ := @PathCriteria.extract_congr p
    ⟨absoluteForm scheme authority target, method, protocol⟩ ⟨target, method, protocol⟩ hget hsplit
  refine ⟨hvariables, hpredicate, ?_, ?_⟩
  · rintro ⟨found, hfound⟩
    refine PathCriteria.test_congr rfl rfl ?_
    have hwhole := (hsplit found).2 hfound
    rw [PathCriteria.read_testedField_of_split hget
        ⟨absoluteForm scheme authority target, method, protocol⟩ hwhole,
      PathCriteria.read_testedField_of_split hget ⟨target, method, protocol⟩ hfound]
  · intro hrefused uri huri
    have hrefused' : ¬ ∃ found, Uri.split uri = .ok found := by
      simp only [List.mem_cons, List.not_mem_nil, or_false] at huri
      rcases huri with rfl | rfl
      · simpa only [hsplit] using hrefused
      · exact hrefused
    have htarget : p.target ⟨uri, method, protocol⟩ = uri :=
      p.target_of_refused (r := ⟨uri, method, protocol⟩) hrefused'
    rw [PathCriteria.result_test, htarget]

/-- A port and a colon in the path, and a target that is refused. -/
theorem absolute_form_alike_samples :
    ∃ p : PathCriteria, p.isGet = true ∧
      ((Predicate.path p).test ⟨absoluteForm "http" "h:80" "/a:b?c", some "GET", none⟩).result =
        true ∧
      ((Predicate.path p).extract
          ⟨absoluteForm "http" "h:80" "/a:b?", some "GET", none⟩).variables =
        some [("id", some "a:b")] ∧
      ((Predicate.path p).test ⟨absoluteForm "http" "" "/%", some "GET", none⟩).result = false := by
  let tokens : List Template.Token := [.literal '/', .segment "id"]
  let p : PathCriteria :=
    ⟨some (@PathTemplate.ofTokens tokens (by decide +kernel) (by decide +kernel)), none, some "GET"⟩
  have hget : p.isGet = true := rfl
  have hsplit : Uri.split "/a:b?c" = .ok ⟨"/a:b", some "c"⟩ := by decide +kernel
  have hrefused : Uri.split "/%" = .error .malformedEscape := by decide +kernel
  obtain ⟨-, hquery⟩ := @absolute_form_alike "http" "h:80" "/a:b?c" (by decide +kernel)
    (by decide +kernel) (by decide +kernel)
  obtain ⟨-, hempty⟩ := @absolute_form_alike "http" "h:80" "/a:b?" (by decide +kernel)
    (by decide +kernel) (by decide +kernel)
  obtain ⟨-, hraw⟩ := @absolute_form_alike "http" "" "/%" (by decide +kernel)
    (by decide +kernel) (by decide +kernel)
  refine ⟨p, hget, ?_, ?_, ?_⟩
  · rw [(hquery p (some "GET") none hget).2.2.1 ⟨_, hsplit⟩]
    decide +kernel
  · rw [(hempty p (some "GET") none hget).1]
    decide +kernel
  · rw [(hraw p (some "GET") none hget).2.2.2 (by simp [hrefused]) _ List.mem_cons_self]
    decide +kernel

/-- A refused URI is tested as a whole, so that a template for paths takes the target alone and not
the absolute form of it. -/
theorem absolute_form_refused :
    ¬ ∀ scheme authority target : String, IsScheme scheme.toList →
      IsPlainAuthority authority.toList → IsOriginForm target.toList →
      ∀ (p : PathCriteria) (method protocol : Option String), p.isGet = true →
        ((Predicate.path p).test
            ⟨absoluteForm scheme authority target, method, protocol⟩).result =
          ((Predicate.path p).test ⟨target, method, protocol⟩).result := by
  intro h
  let tokens : List Template.Token := [.literal '/', .bareSplat]
  let p : PathCriteria :=
    ⟨some (@PathTemplate.ofTokens tokens (by decide +kernel) (by decide +kernel)), none, some "GET"⟩
  have hsame := h "http" "h" "/%zz" (by decide +kernel) (by decide +kernel) (by decide +kernel)
    p (some "GET") none rfl
  have htarget : ((Predicate.path p).test ⟨"/%zz", some "GET", none⟩).result = true := by
    decide +kernel
  have hwhole : ((Predicate.path p).test
      ⟨absoluteForm "http" "h" "/%zz", some "GET", none⟩).result = false := by
    decide +kernel
  rw [htarget, hwhole] at hsame
  cases hsame

end RequestRouting
