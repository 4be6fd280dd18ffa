import RequestRouting.Proofs.Config.WellFormed

/-!
# Writing configurations

A configuration can be written as a record in several ways: fields stand in any order, and a field
whose value is what its absence means may be left out. All of them are read as the configuration
that was written.
-/

namespace RequestRouting

namespace Config

def Value.ofText? : Option String → Value
  | some s => .text s
  | none => .null

/-- A field that shows an optional text. It may be left out where the text is the default. -/
inductive Shows (name : String) (default : Option String) : Option String → Fields → Prop where
  | given (text : Option String) : Shows name default text [(name, .ofText? text)]
  | omitted : Shows name default default []

/-- The records of an entry. Without a method an entry with the start of a URI means GET. -/
inductive Renders : Entry → Value → Prop where
  | template {name : String} {template method protocol : Option String}
      {fields shownTemplate shownMethod shownProtocol : Fields} :
      Shows "template" none template shownTemplate → Shows "method" none method shownMethod →
      Shows "protocol" none protocol shownProtocol →
      fields.Perm (("name", .text name) :: (shownTemplate ++ shownMethod ++ shownProtocol)) →
      Renders (.template name template method protocol) (.record fields)
  | start {name start : String} {method : Option String} {fields shownMethod : Fields} :
      Shows "method" (some "GET") method shownMethod →
      fields.Perm (("name", .text name) :: ("prefix", .text start) :: shownMethod) →
      Renders (.start name start method) (.record fields)

theorem Value.text?_ofText? (text : Option String) : (Value.ofText? text).text? = text := by
  cases text <;> rfl

theorem lookup_eq_some_iff_mem {fields : Fields} {name : String} {value : Value}
    (h : (fields.map (·.1)).Nodup) :
    List.lookup name fields = some value ↔ (name, value) ∈ fields := by
  induction fields with
  | nil => simp
  | cons p fields ih =>
    obtain ⟨n, v⟩ := p
    obtain ⟨hn, hfields⟩ := List.nodup_cons.1 h
    by_cases hname : name = n
    · subst hname
      have hlater : (name, value) ∉ fields := fun hmem => hn (List.mem_map.2 ⟨_, hmem, rfl⟩)
      simp [hlater, eq_comm]
    · have hne : (name == n) = false := by simpa using hname
      rw [List.lookup_cons, hne, List.mem_cons]
      simp [ih hfields, hname]

theorem field?_of_perm {fields shown : Fields} (h : fields.Perm shown)
    (hnodup : (shown.map (·.1)).Nodup) (name : String) :
    (Value.record fields).field? name = List.lookup name shown := by
  have hfields : (fields.map (·.1)).Nodup := (h.map _).nodup_iff.2 hnodup
  apply Option.ext
  intro value
  rw [Value.field?, lookup_eq_some_iff_mem hfields, lookup_eq_some_iff_mem hnodup, h.mem_iff]

theorem known_of_perm {fields shown : Fields} {names known : List String}
    (h : fields.Perm shown) (hnames : (shown.map (·.1)).Sublist names) (hknown : names ⊆ known) :
    ∀ name ∈ (Value.record fields).fieldNames, name ∈ known := by
  intro name hname
  have hshown : name ∈ shown.map (·.1) := (h.map _).mem_iff.1 hname
  exact hknown (hnames.subset hshown)

namespace Shows

variable {name other : String} {default text method : Option String} {shown : Fields} {item : Value}

theorem names_sublist (h : Shows name default text shown) : (shown.map (·.1)).Sublist [name] := by
  cases h with
  | given => exact .refl _
  | omitted => exact List.nil_sublist _

theorem lookup_of_ne (h : Shows name default text shown) (hne : other ≠ name) :
    List.lookup other shown = none := by
  cases h with
  | given => simp [hne]
  | omitted => rfl

theorem isTextOrNull (h : Shows name default text shown)
    (hfield : item.field? name = List.lookup name shown) : IsTextOrNull (item.field? name) := by
  rw [hfield]
  cases h with
  | given =>
    rw [List.lookup_cons_self]
    cases text <;> trivial
  | omitted => trivial

theorem textOf (h : Shows name none text shown)
    (hfield : item.field? name = List.lookup name shown) : item.textOf name = text := by
  rw [Value.textOf, hfield]
  cases h with
  | given => rw [List.lookup_cons_self, Option.bind_some, Value.text?_ofText?]
  | omitted => rfl

theorem methodOfStart (h : Shows "method" (some "GET") method shown)
    (hfield : item.field? "method" = List.lookup "method" shown) :
    item.methodOfStart = method := by
  rw [Value.methodOfStart, hfield]
  cases h with
  | given =>
    rw [List.lookup_cons_self]
    exact Value.text?_ofText? method
  | omitted => rfl

end Shows

section Renders

variable {name start : String} {template method protocol : Option String}
  {fields t m p : Fields}

theorem reads_template (ht : Shows "template" none template t) (hm : Shows "method" none method m)
    (hp : Shows "protocol" none protocol p)
    (hperm : fields.Perm (("name", .text name) :: (t ++ m ++ p))) :
    WellFormedEntry (.record fields) ∧
      Reads (.record fields) (.template name template method protocol) := by
  have hnames : ("name" :: (t ++ m ++ p).map (·.1)).Sublist
      ["name", "template", "method", "protocol"] := by
    rw [List.map_append, List.map_append]
    exact ((ht.names_sublist.append hm.names_sublist).append hp.names_sublist).cons_cons _
  have hfield := field?_of_perm hperm (hnames.nodup (by decide))
  have hname : (Value.record fields).field? "name" = some (.text name) := by
    rw [hfield, List.lookup_cons_self]
  have hstart : (Value.record fields).field? "prefix" = none := by
    simp [hfield, List.lookup_cons, List.lookup_append, ht.lookup_of_ne, hm.lookup_of_ne,
      hp.lookup_of_ne]
  have htemplate : (Value.record fields).field? "template" = List.lookup "template" t := by
    simp [hfield, List.lookup_cons, List.lookup_append, hm.lookup_of_ne, hp.lookup_of_ne]
  have hmethod : (Value.record fields).field? "method" = List.lookup "method" m := by
    simp [hfield, List.lookup_cons, List.lookup_append, ht.lookup_of_ne, hp.lookup_of_ne]
  have hprotocol : (Value.record fields).field? "protocol" = List.lookup "protocol" p := by
    simp [hfield, List.lookup_cons, List.lookup_append, ht.lookup_of_ne, hm.lookup_of_ne]
  constructor
  · exact ⟨known_of_perm hperm hnames (by decide), hname ▸ trivial, .inr hstart,
      .inr ⟨hstart, ht.isTextOrNull htemplate, hm.isTextOrNull hmethod,
        hp.isTextOrNull hprotocol⟩⟩
  · have hreads := Reads.template hstart (textOf_of_field? hname)
    rwa [ht.textOf htemplate, hm.textOf hmethod, hp.textOf hprotocol] at hreads

theorem reads_start (hm : Shows "method" (some "GET") method m)
    (hperm : fields.Perm (("name", .text name) :: ("prefix", .text start) :: m)) :
    WellFormedEntry (.record fields) ∧ Reads (.record fields) (.start name start method) := by
  have hnames : ("name" :: "prefix" :: m.map (·.1)).Sublist ["name", "prefix", "method"] :=
    (hm.names_sublist.cons_cons _).cons_cons _
  have hfield := field?_of_perm hperm (hnames.nodup (by decide))
  have hname : (Value.record fields).field? "name" = some (.text name) := by
    rw [hfield, List.lookup_cons_self]
  have hstart : (Value.record fields).field? "prefix" = some (.text start) := by
    simp [hfield, List.lookup_cons]
  have htemplate : (Value.record fields).field? "template" = none := by
    simp [hfield, List.lookup_cons, hm.lookup_of_ne]
  have hprotocol : (Value.record fields).field? "protocol" = none := by
    simp [hfield, List.lookup_cons, hm.lookup_of_ne]
  have hmethod : (Value.record fields).field? "method" = List.lookup "method" m := by
    simp [hfield, List.lookup_cons]
  constructor
  · exact ⟨known_of_perm hperm hnames (by decide), hname ▸ trivial, .inl htemplate,
      .inl ⟨hstart ▸ trivial, hprotocol, hm.isTextOrNull hmethod⟩⟩
  · have hreads := Reads.start hstart htemplate (textOf_of_field? hname)
    rwa [hm.methodOfStart hmethod] at hreads

theorem Renders.reads {entry : Entry} {item : Value} (h : Renders entry item) :
    WellFormedEntry item ∧ Reads item entry := by
  cases h with
  | template ht hm hp hperm => exact reads_template ht hm hp hperm
  | start hm hperm => exact reads_start hm hperm

theorem Renders.reads_all {entries : List Entry} {items : List Value}
    (h : List.Forall₂ Renders entries items) :
    (∀ item ∈ items, WellFormedEntry item) ∧ List.Forall₂ Reads items entries := by
  induction h with
  | nil => exact ⟨by simp, .nil⟩
  | cons hitem _ ih =>
    obtain ⟨hwell, hreads⟩ := hitem.reads
    exact ⟨List.forall_mem_cons.2 ⟨hwell, ih.1⟩, .cons hreads ih.2⟩

theorem exists_renders (entry : Entry) : ∃ item, Renders entry item := by
  cases entry with
  | template => exact ⟨_, .template (.given _) (.given _) (.given _) (.refl _)⟩
  | start => exact ⟨_, .start (.given _) (.refl _)⟩

theorem exists_renders_all (entries : List Entry) :
    ∃ items, List.Forall₂ Renders entries items := by
  induction entries with
  | nil => exact ⟨[], .nil⟩
  | cons entry entries ih =>
    obtain ⟨item, hitem⟩ := exists_renders entry
    obtain ⟨items, hitems⟩ := ih
    exact ⟨item :: items, .cons hitem hitems⟩

end Renders

end Config

namespace RouterConfig

open Config

inductive RenderedAs (config : RouterConfig) : Value → Prop where
  | record {items : List Value} {fields shownFallback : Fields} :
      List.Forall₂ Renders config.entries items →
      Shows "on_no_match" none config.fallback shownFallback →
      fields.Perm (("routes", .list items) :: shownFallback) → RenderedAs config (.record fields)

theorem RenderedAs.ofValue? {config : RouterConfig} {value : Value} (h : RenderedAs config value) :
    ofValue? value = .ok config := by
  obtain @⟨items, fields, shown, hitems, hfallback, hperm⟩ := h
  obtain ⟨hwell, hreads⟩ := Renders.reads_all hitems
  have hnames : ("routes" :: shown.map (·.1)).Sublist ["routes", "on_no_match"] :=
    hfallback.names_sublist.cons_cons _
  have hfield := field?_of_perm hperm (hnames.nodup (by decide))
  have hroutes : (Value.record fields).field? "routes" = some (.list items) := by
    rw [hfield, List.lookup_cons_self]
  have hlast : (Value.record fields).field? "on_no_match" = List.lookup "on_no_match" shown := by
    simp [hfield, List.lookup_cons]
  exact ofValue?_eq_ok_iff.2 ⟨⟨⟨items, hroutes, hwell⟩, hfallback.isTextOrNull hlast⟩, items,
    hroutes, hreads, (hfallback.textOf hlast).symm⟩

/-- Every configuration can be written as a record, and however it is written, it is read back. -/
theorem ofValue?_rendered : (∀ config, ∃ value, RenderedAs config value) ∧
    ∀ config value, RenderedAs config value → ofValue? value = .ok config := by
  refine ⟨?_, fun config value h => h.ofValue?⟩
  intro config
  obtain ⟨items, hitems⟩ := exists_renders_all config.entries
  exact ⟨_, .record hitems (.given _) (.refl _)⟩

/-- A method left out and one given as null for starts of URIs, and for a template a null in front
and two fields left out. -/
theorem ofValue?_rendered_mixed :
    ofValue? (.record [("routes", .list
      [.record [("prefix", .text "/a"), ("name", .text "a")],
        .record [("method", .null), ("prefix", .text "b"), ("name", .text "b")],
        .record [("protocol", .null), ("name", .text "c"), ("template", .text "/{id}")]])]) =
      .ok ⟨[.start "a" "/a" (some "GET"), .start "b" "b" none,
        .template "c" (some "/{id}") none none], none⟩ := by
  have hfirst : Renders (.start "a" "/a" (some "GET"))
      (.record [("prefix", .text "/a"), ("name", .text "a")]) := .start .omitted (.swap _ _ _)
  have hsecond : Renders (.start "b" "b" none)
      (.record [("method", .null), ("prefix", .text "b"), ("name", .text "b")]) :=
    .start (.given none) (List.reverse_perm
      ([("name", .text "b"), ("prefix", .text "b"), ("method", .null)] : Fields))
  have hthird : Renders (.template "c" (some "/{id}") none none)
      (.record [("protocol", .null), ("name", .text "c"), ("template", .text "/{id}")]) :=
    .template (.given (some "/{id}")) .omitted (.given none)
      (@List.perm_append_comm _ [_] [_, _])
  exact ofValue?_rendered.2 _ _
    (.record (.cons hfirst (.cons hsecond (.cons hthird .nil))) .omitted (.refl _))

end RouterConfig

end RequestRouting
