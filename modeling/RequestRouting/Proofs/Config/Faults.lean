import RequestRouting.Proofs.Config.Meaning
import RequestRouting.Proofs.Template.LostNames

/-!
# Faults of templates

What building a predicate or loading a configuration reports about a bad template. Every fault is
that of one of the templates, and it names the template unless a replacement broke the group of a
name.
-/

namespace RequestRouting

open Template (PlainSplats Reported compile expand groupStart)

def ComesFrom {α : Type} (sources : List String) (outcome : Except BuildError α) : Prop :=
  ∀ e, outcome = .error e → ∃ source ∈ sources, ∃ fault,
    compile source = .error fault ∧ e = .template fault

/-- The fault, if there is one, names an invalid template among the sources. -/
def NamesSource {α : Type} (sources : List String) (outcome : Except BuildError α) : Prop :=
  ∀ e, outcome = .error e → ∃ source ∈ sources, ∃ reason, e = .template (.invalid source reason)

section Outcome

variable {α β : Type} {sources more : List String} {outcome : Except BuildError α}

theorem ComesFrom.map (h : ComesFrom sources outcome) (f : α → β) :
    ComesFrom sources (outcome.map f) := by
  intro e he
  cases outcome with
  | error found =>
    cases he
    exact h e rfl
  | ok a => cases he

theorem ComesFrom.mono (h : ComesFrom sources outcome) (hmore : sources ⊆ more) :
    ComesFrom more outcome := by
  intro e he
  obtain ⟨source, hsource, hfault⟩ := h e he
  exact ⟨source, hmore hsource, hfault⟩

theorem ComesFrom.namesSource (h : ComesFrom sources outcome)
    (hreported : ∀ source ∈ sources, Reported source) : NamesSource sources outcome := by
  intro e he
  obtain ⟨source, hsource, fault, hcompile, rfl⟩ := h e he
  obtain ⟨reason, rfl⟩ := hreported source hsource fault hcompile
  exact ⟨source, hsource, reason, rfl⟩

end Outcome

theorem Predicate.comesFrom_ofTemplate? (uri protocol method : Option String) :
    ComesFrom uri.toList (ofTemplate? uri protocol method) := by
  intro e he
  cases uri with
  | none => cases he
  | some source =>
    cases hcompile : compile source with
    | ok compiled =>
      rw [Config.ofTemplate?_ok hcompile] at he
      cases he
    | error fault =>
      rw [Config.ofTemplate?_error hcompile] at he
      cases he
      exact ⟨source, List.mem_singleton_self source, fault, hcompile, rfl⟩

theorem Predicate.comesFrom_listen? (uri protocol method : Option String) :
    ComesFrom uri.toList (listen? uri protocol method) := by
  cases uri with
  | none =>
    intro e he
    cases he
  | some source => exact (comesFrom_ofTemplate? (some source) protocol method).map some

def Config.Entry.source? : Config.Entry → Option String
  | .template _ source _ _ => source
  | .start _ _ _ => none

namespace RouterConfig

def sources (config : RouterConfig) : List String :=
  config.entries.flatMap fun entry => entry.source?.toList

theorem comesFrom_buildPair? (entry : Config.Entry) :
    ComesFrom entry.source?.toList (buildPair? entry) := by
  cases entry with
  | template name source method protocol =>
    exact (Predicate.comesFrom_ofTemplate? source protocol method).map _
  | start name start method =>
    intro e he
    cases he

theorem comesFrom_buildPairs (entries : List Config.Entry) :
    ComesFrom (entries.flatMap fun entry => entry.source?.toList) (buildPairs entries).2 := by
  induction entries with
  | nil =>
    intro e he
    cases he
  | cons entry entries ih =>
    have hpair := comesFrom_buildPair? entry
    rw [List.flatMap_cons, buildPairs]
    cases hbuild : buildPair? entry with
    | error e =>
      rw [hbuild] at hpair
      intro e he
      cases he
      exact (hpair.mono (List.subset_append_left _ _)) e rfl
    | ok pair => exact (ih.map (pair :: ·)).mono (List.subset_append_right _ _)

theorem comesFrom_load (config : RouterConfig) : ComesFrom config.sources config.load.2 :=
  (comesFrom_buildPairs config.entries).map (Router.ofPairs · config.fallback)

/-- The fault of a template is reported with its source, unless the names are distinct and the
opening of the group of one of them is broken. Without an opening brace in a name for the rest of a
path, the broken groups are those whose names hold two stars in a row. Building predicates and
loading configurations report invalid templates with their sources as compiling does. -/
theorem faults_name_source (source : String) (config : RouterConfig) :
    (Reported source ↔ compile source ≠ .error .lostName) ∧
    (Reported source ↔ ((expand source.toList).2.Nodup →
      ∀ name ∈ (expand source.toList).2, groupStart name <:+: (expand source.toList).1)) ∧
    (PlainSplats source → (Reported source ↔ ((expand source.toList).2.Nodup →
      ∀ name ∈ (expand source.toList).2, ¬ ['*', '*'] <:+: name))) ∧
    (Reported source → ∀ protocol method,
      NamesSource [source] (Predicate.ofTemplate? (some source) protocol method) ∧
        NamesSource [source] (Predicate.listen? (some source) protocol method)) ∧
    ((∀ other ∈ config.sources, Reported other) → NamesSource config.sources config.load.2) := by
  refine ⟨Template.reported_iff_ne_lostName, Template.reported_iff, ?_, ?_, ?_⟩
  · intro hplain
    exact Template.reported_iff_of_plainSplats hplain
  · intro hreported protocol method
    have hsources : ∀ other ∈ [source], Reported other := List.forall_mem_singleton.2 hreported
    constructor
    · exact (Predicate.comesFrom_ofTemplate? (some source) protocol method).namesSource hsources
    · exact (Predicate.comesFrom_listen? (some source) protocol method).namesSource hsources
  · intro hreported
    exact config.comesFrom_load.namesSource hreported

/-- A bracket stays open in the template of the only entry. -/
theorem faults_name_source_bracket :
    ∃ reason, (RouterConfig.mk [.template "item" (some "/\x7ba\x7d/[") none none] none).load.2 =
      .error (.template (.invalid "/\x7ba\x7d/[" reason)) := by
  let config : RouterConfig := ⟨[.template "item" (some "/\x7ba\x7d/[") none none], none⟩
  have hfails : config.load.2.isOk = false := by decide +kernel
  obtain ⟨-, -, hplain, -, hload⟩ := faults_name_source "/\x7ba\x7d/[" config
  have hreported : Reported "/\x7ba\x7d/[" := by
    apply (hplain (by decide +kernel)).2
    intro _
    decide +kernel
  cases hresult : config.load.2 with
  | ok router => simp [hresult, Except.isOk, Except.toBool] at hfails
  | error e =>
    obtain ⟨source, hsource, reason, rfl⟩ :=
      hload (List.forall_mem_singleton.2 hreported) e hresult
    obtain rfl := List.mem_singleton.1 hsource
    exact ⟨reason, rfl⟩

/-- Two stars inside a name are taken for a bare splat, which breaks the group of the name: the
fault that compiling, building and loading report does not say which template it is of. -/
theorem fault_lostName :
    ¬ Reported "/files/\x7bpath**\x7d" ∧
    compile "/files/\x7bpath**\x7d" = .error .lostName ∧
    (∀ protocol method, Predicate.ofTemplate? (some "/files/\x7bpath**\x7d") protocol method =
      .error (.template .lostName)) ∧
    (RouterConfig.mk [.template "files" (some "/files/\x7bpath**\x7d") none none] none).load =
      ([], .error (.template .lostName)) := by
  have hcompile : compile "/files/\x7bpath**\x7d" = .error .lostName := by decide +kernel
  refine ⟨?_, hcompile, Config.ofTemplate?_error hcompile, ?_⟩
  · intro hreported
    exact Template.reported_iff_ne_lostName.1 hreported hcompile
  · rw [load, buildPairs, buildPair?, Config.ofTemplate?_error hcompile]
    rfl

end RouterConfig

end RequestRouting
