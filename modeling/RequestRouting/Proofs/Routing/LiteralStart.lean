import RequestRouting.Proofs.Routing.AbsoluteForm
import RequestRouting.Proofs.Template.Alternation
import RequestRouting.Proofs.Template.LiteralText

/-!
# Literal starts

A predicate for the start of the URI and one for a template of that start and a bare splat take the
same requests. The one looks at the URI as it arrived, the other at the path of it if the method is
GET. For a target in origin form the path is a part of the URI that a start without marks does not
reach over, and a URI that is refused stands for its path.
-/

namespace RequestRouting

open Template (Grammatical IsLiteral greedy literalText names)
open Uri (IsOriginForm Reference)

/-- The text stands for itself in a template, and no query or fragment begins in it. -/
def IsLiteralStart (start : String) : Prop :=
  IsLiteral start.toList ∧ '#' ∉ start.toList

instance (start : String) : Decidable (IsLiteralStart start) :=
  inferInstanceAs (Decidable (_ ∧ _))

theorem IsLiteralStart.marks_not_mem {start : String} (h : IsLiteralStart start) :
    '?' ∉ start.toList ∧ '#' ∉ start.toList :=
  ⟨h.1.not_mem (by decide), h.2⟩

def startTokens (start : String) : List Template.Token :=
  literalText start.toList ++ [.bareSplat]

theorem source_startTokens (start : String) :
    Template.source (startTokens start) = start ++ "**" := by
  rw [startTokens, Template.source_append, Template.source_literalText]
  rfl

theorem names_startTokens (start : String) : names (startTokens start) = [] :=
  Template.names_literalText_append start.toList [.bareSplat]

theorem grammatical_startTokens {start : String} (h : IsLiteralStart start) :
    Grammatical (startTokens start) := by
  have hsplat : Grammatical [.bareSplat] := by decide +kernel
  exact hsplat.literalText_append h.1

theorem greedy_startTokens {start : String} {path : List Char} (hpath : '\n' ∉ path) :
    (greedy (startTokens start) path).isSome = start.toList.isPrefixOf path := by
  rw [Bool.eq_iff_iff, List.isPrefixOf_iff_prefix, startTokens, Template.greedy_literalText_append]
  constructor
  · rintro ⟨rest, rfl, -⟩
    exact List.prefix_append _ _
  · rintro ⟨rest, rfl⟩
    exact ⟨rest, rfl, Template.greedy_bareSplat.2 (mt (List.mem_append_right _) hpath)⟩

/-- The path is a part of the URI, and what holds no mark starts the one if it starts the other. -/
theorem Uri.prefix_path_iff {uri : String} {found : Parts} (huri : IsOriginForm uri.toList)
    (h : split uri = .ok found) {start : List Char} (hstart : '?' ∉ start ∧ '#' ∉ start) :
    found.path.toList <+: uri.toList ∧ (start <+: found.path.toList ↔ start <+: uri.toList) := by
  obtain ⟨r, hr⟩ := Reference.exists_text_eq uri.toList
  have hpath : found.path.toList = r.path := by
    rw [(split_eq_ok_iff.1 h).2, ← hr, r.parts_text, String.toList_ofList]
  have htext : uri.toList = r.path ++ r.tail := by
    rw [← hr] at huri ⊢
    rw [Reference.text, Reference.front_eq_nil_of_originForm huri, List.nil_append]
  rw [hpath, htext]
  refine ⟨List.prefix_append _ _, fun hprefix => hprefix.trans (List.prefix_append _ _), ?_⟩
  rintro ⟨rest, hrest⟩
  obtain ⟨more, hmore⟩ := r.exists_path_eq_append hrest.symm hstart
  exact ⟨more, hmore.symm⟩

theorem PathCriteria.prefix_target_iff {p : PathCriteria} {r : Request}
    (horigin : p.isGet = true → IsOriginForm r.uri.toList) {start : List Char}
    (hstart : '?' ∉ start ∧ '#' ∉ start) :
    (p.target r).toList <+: r.uri.toList ∧
      (start <+: (p.target r).toList ↔ start <+: r.uri.toList) := by
  by_cases hget : p.isGet = true
  · by_cases hsplit : ∃ found, Uri.split r.uri = .ok found
    · obtain ⟨found, hfound⟩ := hsplit
      have htarget : p.target r = found.path := by rw [target, if_pos hget, Request.path, hfound]
      rw [htarget]
      exact Uri.prefix_path_iff (horigin hget) hfound hstart
    · rw [target_of_refused hsplit]
      exact ⟨List.prefix_rfl, Iff.rfl⟩
  · rw [target, if_neg hget]
    exact ⟨List.prefix_rfl, Iff.rfl⟩

theorem PathTemplate.accepts_ofTokens {tokens : List Template.Token} (h : Grammatical tokens)
    (hd : (names tokens).Nodup) (path : String) :
    (PathTemplate.ofTokens h hd).accepts path = (greedy tokens path.toList).isSome := by
  have hstands : Template.StandsAlone tokens (.ofTokens h hd) :=
    ⟨PathTemplate.ofSource?_source (.ofTokens h hd), rfl, rfl⟩
  exact hstands.accepts_eq path

/-- The predicate for a literal start takes a request if and only if the one for the template does,
for any URI without a line break, which has to be in origin form if the method is GET. -/
theorem start_iff_template {start : String} (hstart : IsLiteralStart start)
    (method : Option String) :
    ∃ p, Predicate.ofTemplate? (some (start ++ "**")) none method = .ok p ∧
      ∀ r : Request, '\n' ∉ r.uri.toList →
        (method = some getMethod → IsOriginForm r.uri.toList) →
        ((Predicate.start ⟨start, method⟩).test r).result = (p.test r).result := by
  have hgrammatical := grammatical_startTokens hstart
  have hnodup : (names (startTokens start)).Nodup := by simp [names_startTokens]
  have hbuild := Predicate.ofTemplate?_source hgrammatical hnodup none method
  rw [source_startTokens] at hbuild
  refine ⟨_, hbuild, ?_⟩
  intro r hbreak horigin
  let t := PathTemplate.ofTokens hgrammatical hnodup
  let p : PathCriteria := ⟨some t, none, method⟩
  obtain ⟨htarget, hprefix⟩ := p.prefix_target_iff (r := r)
    (fun hget => horigin (eq_of_beq hget)) hstart.marks_not_mem
  have haccepts : t.accepts (p.target r) = start.toList.isPrefixOf r.uri.toList := by
    rw [PathTemplate.accepts_ofTokens, greedy_startTokens fun hm => hbreak (htarget.subset hm),
      Bool.eq_iff_iff, List.isPrefixOf_iff_prefix, List.isPrefixOf_iff_prefix, hprefix]
  rw [StartCriteria.result_test, Predicate.ofTokens, PathCriteria.result_test, Option.all_some,
    haccepts]
  rfl

/-- A query, a refused URI, and a predicate for any method that sees the authority. -/
theorem start_iff_template_samples :
    (∃ p, Predicate.ofTemplate? (some "/api**") none (some "GET") = .ok p ∧
      (p.test ⟨"/apix?a#b", some "GET", none⟩).result = true ∧
      (p.test ⟨"/api%", some "GET", none⟩).result = true) ∧
    ∃ p, Predicate.ofTemplate? (some "//h/**") none none = .ok p ∧
      (p.test ⟨"//h/a", some "PUT", none⟩).result = true := by
  obtain ⟨p, hp, hget⟩ := @start_iff_template "/api" (by decide +kernel) (some "GET")
  obtain ⟨q, hq, hany⟩ := @start_iff_template "//h/" (by decide +kernel) none
  refine ⟨⟨p, hp, ?_, ?_⟩, q, hq, ?_⟩
  · rw [← hget ⟨"/apix?a#b", some "GET", none⟩ (by decide +kernel) fun _ => by decide +kernel]
    decide +kernel
  · rw [← hget ⟨"/api%", some "GET", none⟩ (by decide +kernel) fun _ => by decide +kernel]
    decide +kernel
  · rw [← hany ⟨"//h/a", some "PUT", none⟩ (by decide +kernel) nofun]
    decide +kernel

end RequestRouting
