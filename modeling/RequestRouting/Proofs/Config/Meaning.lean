import RequestRouting.Proofs.Config.Entries
import RequestRouting.Proofs.Routing.Conditions
import RequestRouting.Proofs.Routing.Effects

/-!
# What a configuration means

A router that was loaded answers a request with the name of the first route of the configuration
that takes it, where the fields of its record say which requests a route takes. If a template does
not compile, loading ends there and reports what compiled before.
-/

namespace RequestRouting.Config

open Template (CompileError)

namespace Value

/-- What the template of a route is held against: the path of the URI if the method is GET and the
URI can be split, else all of it. -/
def subject (r : Request) (item : Value) : String :=
  if item.textOf "method" = some "GET" then
    match Uri.split r.uri with
    | .ok parts => parts.path
    | .error _ => r.uri
  else r.uri

/-- The requests that a route of a configuration takes. -/
def takes (r : Request) (item : Value) : Bool :=
  match item.field? "prefix" with
  | some value =>
    (match item.field? "method" with
      | none => r.method == some "GET"
      | some value => value.text?.all fun text => r.method == some text) &&
    value.text?.any fun text =>
      (if text.toList.head? = some '/' then text else "/" ++ text).toList.isPrefixOf r.uri.toList
  | none =>
    ((item.textOf "protocol").all fun text => r.protocol == some text) &&
    ((item.textOf "method").all fun text => r.method == some text) &&
    (item.textOf "template").all fun source =>
      match Template.compile source with
      | .ok compiled => compiled.accepts (item.subject r)
      | .error _ => false

def fault? (item : Value) : Option CompileError :=
  match (item.textOf "template").map Template.compile with
  | some (.error e) => some e
  | _ => none

def announcement (item : Value) : List Event :=
  (item.textOf "template").toList.flatMap fun source =>
    match Template.compile source with
    | .ok compiled => [.templateCompiled source compiled.pattern]
    | .error _ => []

theorem subject_eq_target (item : Value) (template : Option PathTemplate)
    (protocol : Option String) (r : Request) :
    PathCriteria.target ⟨template, protocol, item.textOf "method"⟩ r = item.subject r := by
  rw [PathCriteria.target, PathCriteria.isGet, subject, Request.path]
  by_cases hget : item.textOf "method" = some "GET"
  · rw [if_pos hget, if_pos (by simpa [getMethod] using hget)]
    cases Uri.split r.uri <;> rfl
  · rw [if_neg hget, if_neg (by simpa [getMethod] using hget)]

end Value

/-- The predicate comes with the name of the item, takes the requests that the item takes, and
reports what the item announces. -/
structure Becomes (item : Value) (pair : Predicate × String) : Prop where
  named : item.textOf "name" = some pair.2
  takes : ∀ r, pair.1.takes r = item.takes r
  announces : pair.1.announcement = item.announcement

section Build

variable {item : Value} {entry : Entry} {name source : String}

theorem ofTemplate?_error {e : CompileError} (h : Template.compile source = .error e)
    (protocol method : Option String) :
    Predicate.ofTemplate? (some source) protocol method = .error (.template e) := by
  rw [Predicate.ofTemplate?, PathCriteria.ofUri?, PathTemplate.ofSource?_error h]
  rfl

theorem ofTemplate?_ok {compiled : Template.Compiled} (h : Template.compile source = .ok compiled)
    (protocol method : Option String) :
    Predicate.ofTemplate? (some source) protocol method =
      .ok (.path ⟨some ⟨source, compiled, h, []⟩, protocol, method⟩) :=
  Predicate.rebuild?_eq_fresh (.path ⟨some ⟨source, compiled, h, []⟩, protocol, method⟩)

theorem buildPair?_error (h : Reads item entry) {e : CompileError} (he : item.fault? = some e) :
    RouterConfig.buildPair? entry = .error (.template e) := by
  cases h with
  | start _ htemplate _ => simp [Value.fault?, Value.textOf, htemplate] at he
  | template hstart hname =>
    cases hsource : item.textOf "template" with
    | none => simp [Value.fault?, hsource] at he
    | some source =>
      cases hcompile : Template.compile source with
      | ok compiled => simp [Value.fault?, hsource, hcompile] at he
      | error found =>
        have hfound : found = e := by simpa [Value.fault?, hsource, hcompile] using he
        rw [RouterConfig.buildPair?, ofTemplate?_error hcompile, hfound]
        rfl

theorem becomes_start {start : String} (hstart : item.field? "prefix" = some (.text start))
    (htemplate : item.field? "template" = none) (hname : item.textOf "name" = some name) :
    Becomes item (.start (.rooted start item.methodOfStart), name) := by
  refine ⟨hname, ?_, ?_⟩
  · intro r
    rw [Predicate.takes, StartCriteria.result_test, StartCriteria.rooted, Value.takes, hstart,
      Value.methodOfStart]
    cases item.field? "method" <;> rfl
  · rw [Value.announcement, Value.textOf, htemplate]
    rfl

theorem becomes_path (template : Option PathTemplate) (hstart : item.field? "prefix" = none)
    (hname : item.textOf "name" = some name)
    (htemplate : item.textOf "template" = template.map (·.source)) :
    Becomes item (.path ⟨template, item.textOf "protocol", item.textOf "method"⟩, name) := by
  refine ⟨hname, ?_, ?_⟩
  · intro r
    rw [Predicate.takes, PathCriteria.result_test, Value.takes, hstart, htemplate]
    cases template with
    | none => rfl
    | some t =>
      rw [Option.map_some, Option.all_some, Option.all_some, Value.subject_eq_target,
        t.compile_source]
      rfl
  · rw [Value.announcement, htemplate]
    cases template with
    | none => rfl
    | some t =>
      rw [Option.map_some, Option.toList_some, List.flatMap_singleton, t.compile_source]
      rfl

theorem buildPair?_ok (h : Reads item entry) (hok : item.fault? = none) :
    ∃ pair, RouterConfig.buildPair? entry = .ok pair ∧ Becomes item pair := by
  cases h with
  | start hstart htemplate hname => exact ⟨_, rfl, becomes_start hstart htemplate hname⟩
  | template hstart hname =>
    cases hsource : item.textOf "template" with
    | none => exact ⟨_, rfl, becomes_path none hstart hname hsource⟩
    | some source =>
      cases hcompile : Template.compile source with
      | error e => simp [Value.fault?, hsource, hcompile] at hok
      | ok compiled =>
        let t : PathTemplate := ⟨source, compiled, hcompile, []⟩
        refine ⟨_, ?_, becomes_path (some t) hstart hname hsource⟩
        rw [RouterConfig.buildPair?, ofTemplate?_ok hcompile]
        rfl

variable {items : List Value} {entries : List Entry}

theorem buildPairs_ok (h : List.Forall₂ Reads items entries)
    (hok : ∀ item ∈ items, item.fault? = none) :
    ∃ pairs, RouterConfig.buildPairs entries = (items.flatMap Value.announcement, .ok pairs) ∧
      List.Forall₂ Becomes items pairs := by
  induction h with
  | nil => exact ⟨[], rfl, .nil⟩
  | cons hitem _ ih =>
    obtain ⟨hfirst, hrest⟩ := List.forall_mem_cons.1 hok
    obtain ⟨pair, hpair, hbecomes⟩ := buildPair?_ok hitem hfirst
    obtain ⟨pairs, hpairs, hothers⟩ := ih hrest
    refine ⟨pair :: pairs, ?_, .cons hbecomes hothers⟩
    rw [RouterConfig.buildPairs, hpair, hpairs, List.flatMap_cons, ← hbecomes.announces]
    rfl

theorem buildPairs_error (h : List.Forall₂ Reads items entries) {e : CompileError}
    (he : items.findSome? Value.fault? = some e) :
    RouterConfig.buildPairs entries =
      ((items.takeWhile (·.fault?.isNone)).flatMap Value.announcement, .error (.template e)) := by
  induction h with
  | nil => cases he
  | @cons item entry items entries hitem _ ih =>
    cases hfault : item.fault? with
    | some found =>
      have hfound : found = e := by simpa [hfault] using he
      rw [RouterConfig.buildPairs, buildPair?_error hitem hfault, List.takeWhile_cons, hfault,
        hfound]
      rfl
    | none =>
      obtain ⟨pair, hpair, hbecomes⟩ := buildPair?_ok hitem hfault
      rw [List.findSome?_cons, hfault] at he
      rw [RouterConfig.buildPairs, hpair, ih he, List.takeWhile_cons_of_pos (by simp [hfault]),
        List.flatMap_cons, ← hbecomes.announces]
      rfl

end Build

theorem name_find?_takes {items : List Value} {pairs : List (Predicate × String)}
    (h : List.Forall₂ Becomes items pairs) (r : Request) :
    (items.find? (·.takes r)).bind (·.textOf "name") =
      (pairs.find? (·.1.takes r)).map (·.2) := by
  induction h with
  | nil => rfl
  | @cons item pair items pairs hitem _ ih =>
    rw [List.find?_cons, List.find?_cons, hitem.takes r]
    cases item.takes r with
    | false => exact ih
    | true => exact hitem.named

end RequestRouting.Config

namespace RequestRouting

open Config

theorem Router.action_handle {α : Type} (router : Router α) (r : Request) :
    (router.handle r).answer.map (·.action) =
      ((router.pairs.find? (·.1.takes r)).map (·.2)).or router.fallback := by
  rcases exists_answers_or_noneAnswers router r with ⟨before, route, h⟩ | h
  · rw [h.handle, h.find?]
    rfl
  · rw [h.handle, h.find?]
    cases router.fallback <;> rfl

/-- A configuration that was read is loaded into a router with one route for each item of its list,
and a request is answered with the name of the first item that takes it, else with the fallback. An
item whose template does not compile ends the loading. -/
theorem RouterConfig.load_means {value : Value} {config : RouterConfig}
    (h : RouterConfig.ofValue? value = .ok config) :
    ∃ items, value.field? "routes" = some (.list items) ∧
      ((∀ item ∈ items, item.fault? = none) → ∃ router,
        config.load = (items.flatMap Value.announcement, .ok router) ∧
        List.Forall₂ Becomes items router.pairs ∧
        ∀ r, (router.handle r).answer.map (·.action) =
          ((items.find? (·.takes r)).bind (·.textOf "name")).or (value.textOf "on_no_match")) ∧
      ∀ e, items.findSome? Value.fault? = some e →
        config.load = ((items.takeWhile (·.fault?.isNone)).flatMap Value.announcement,
          .error (.template e)) := by
  obtain ⟨items, hitems, hreads, hfallback⟩ := reads_of_ofValue? h
  refine ⟨items, hitems, ?_, ?_⟩
  · intro hok
    obtain ⟨pairs, hpairs, hbecomes⟩ := buildPairs_ok hreads hok
    have hrouter : (Router.ofPairs pairs config.fallback).pairs = pairs := Router.pairs_ofPairs _ _
    refine ⟨.ofPairs pairs config.fallback, ?_, hrouter.symm ▸ hbecomes, ?_⟩
    · rw [load, hpairs]
      rfl
    · intro r
      rw [Router.action_handle, name_find?_takes hbecomes, hrouter, hfallback]
      rfl
  · intro e he
    rw [load, buildPairs_error hreads he]
    rfl

/-- Two routes, the second without a slash in front and for any method. -/
theorem RouterConfig.load_means_routes :
    ∃ config router, RouterConfig.ofValue? (.record
        [("routes", .list [.record [("name", .text "user"), ("method", .text "GET"),
          ("template", .text "/users/\x7bid\x7d")], .record [("name", .text "static"),
          ("prefix", .text "static"), ("method", .null)]]), ("on_no_match", .text "none")]) =
        .ok config ∧
      config.load =
        ([.templateCompiled "/users/\x7bid\x7d" "^(?:/users/(?P<id>[^/]*))$"], .ok router) ∧
      (router.handle ⟨"/users/1?q", some "GET", none⟩).answer.map (·.action) = some "user" ∧
      (router.handle ⟨"/static/users", some "PUT", none⟩).answer.map (·.action) = some "static" ∧
      (router.handle ⟨"/users/1", some "PUT", none⟩).answer.map (·.action) = some "none" := by
  let user : Value := .record [("name", .text "user"), ("method", .text "GET"),
    ("template", .text "/users/\x7bid\x7d")]
  let start : Value := .record [("name", .text "static"), ("prefix", .text "static"),
    ("method", .null)]
  let value : Value := .record [("routes", .list [user, start]), ("on_no_match", .text "none")]
  let config : RouterConfig := ⟨[.template "user" (some "/users/\x7bid\x7d") (some "GET") none,
    .start "static" "static" none], some "none"⟩
  have hconfig : RouterConfig.ofValue? value = .ok config := by decide +kernel
  have hroutes : value.field? "routes" = some (.list [user, start]) := rfl
  obtain ⟨items, hitems, hloads, -⟩ := load_means hconfig
  cases hroutes.symm.trans hitems
  have hcompile : ∀ item ∈ [user, start], item.fault? = none := by decide +kernel
  obtain ⟨router, hload, -, hanswer⟩ := hloads hcompile
  have hevents : [user, start].flatMap Value.announcement =
      [.templateCompiled "/users/\x7bid\x7d" "^(?:/users/(?P<id>[^/]*))$"] := by decide +kernel
  rw [hevents] at hload
  refine ⟨config, router, hconfig, hload, (hanswer _).trans ?_, (hanswer _).trans ?_,
    (hanswer _).trans ?_⟩
  · decide +kernel
  · decide +kernel
  · decide +kernel

end RequestRouting
