import RequestRouting.Proofs.Config.Entries

/-!
# Well-formed configurations

Which values are read as configurations, without regard to the order in which reading looks at
them. Of several faulty entries the first one is reported, and neither what follows it nor the
fallback has any part in that.
-/

namespace RequestRouting

namespace Config

def IsText : Option Value → Prop
  | some (.text _) => True
  | _ => False

instance : DecidablePred IsText
  | some (.text _) => isTrue trivial
  | none | some .null | some (.bool _) | some (.integer _) | some (.decimal _ _)
  | some (.list _) | some (.record _) => isFalse id

theorem isText_iff {value : Option Value} : IsText value ↔ ∃ text, value = some (.text text) := by
  constructor
  · intro h
    match value, h with
    | some (.text text), _ => exact ⟨text, rfl⟩
  · rintro ⟨text, rfl⟩
    trivial

theorem IsText.isTextOrNull {value : Option Value} (h : IsText value) : IsTextOrNull value := by
  obtain ⟨text, rfl⟩ := isText_iff.1 h
  trivial

namespace Value

def fieldNames : Value → List String
  | record fields => fields.map (·.1)
  | _ => []

end Value

/-- What an entry may hold: a name and either the start of a URI, for some method or for GET if
there is none, or a template, a method and a protocol, each of them optional. A field with null is
there. -/
structure WellFormedEntry (item : Value) : Prop where
  known : ∀ name ∈ item.fieldNames, name ∈ ["name", "template", "prefix", "method", "protocol"]
  named : IsText (item.field? "name")
  single : item.field? "template" = none ∨ item.field? "prefix" = none
  texts : IsText (item.field? "prefix") ∧ item.field? "protocol" = none ∧
      IsTextOrNull (item.field? "method") ∨
    item.field? "prefix" = none ∧ IsTextOrNull (item.field? "template") ∧
      IsTextOrNull (item.field? "method") ∧ IsTextOrNull (item.field? "protocol")

instance (item : Value) : Decidable (WellFormedEntry item) :=
  decidable_of_iff (_ ∧ _ ∧ _ ∧ _)
    ⟨fun ⟨known, named, single, texts⟩ => ⟨known, named, single, texts⟩,
      fun h => ⟨h.known, h.named, h.single, h.texts⟩⟩

/-- Fields other than these two do not matter. -/
structure WellFormed (value : Value) : Prop where
  routes : ∃ items, value.field? "routes" = some (.list items) ∧
    ∀ item ∈ items, WellFormedEntry item
  fallback : IsTextOrNull (value.field? "on_no_match")

theorem unknownFields_eq_nil_iff {fields : Fields} : unknownFields fields = [] ↔
    ∀ name ∈ (Value.record fields).fieldNames, name ∈ entryFields := by
  simp [unknownFields, List.eq_nil_iff_forall_not_mem, Value.fieldNames]

section Entries

variable {item : Value} {entry : Entry}

theorem isText_of_textOf {name text : String} (h : item.textOf name = some text) :
    IsText (item.field? name) := by
  rw [field?_of_textOf h]
  trivial

theorem wellFormedEntry_of_readEntry (h : readEntry item = .ok entry) : WellFormedEntry item := by
  cases item with
  | record fields =>
    obtain ⟨hknown, name, hname, hkind⟩ := readEntry_record_eq_ok_iff.1 h
    have hnamed := isText_of_textOf (readText_eq_ok hname).symm
    rcases hkind with ⟨hstart, h⟩ | ⟨-, htemplate, h⟩
    · obtain ⟨template, method, protocol, ht, hm, hp, -⟩ := readTemplate_eq_ok_iff.1 h
      have hstart := hasField_eq_false_iff.1 hstart
      exact ⟨unknownFields_eq_nil_iff.1 hknown, hnamed, .inr hstart,
        .inr ⟨hstart, (readText_eq_ok_iff.1 ht).1, (readText_eq_ok_iff.1 hm).1,
          (readText_eq_ok_iff.1 hp).1⟩⟩
    · obtain ⟨start, method, hs, hprotocol, hm, -⟩ := readStart_eq_ok_iff.1 h
      have hmethod : IsTextOrNull ((Value.record fields).field? "method") := by
        split at hm
        · exact (readText_eq_ok_iff.1 hm).1
        · next hhas =>
          rw [Bool.not_eq_true, hasField_eq_false_iff] at hhas
          rw [hhas]
          trivial
      exact ⟨unknownFields_eq_nil_iff.1 hknown, hnamed, .inl (hasField_eq_false_iff.1 htemplate),
        .inl ⟨isText_of_textOf (readText_eq_ok hs).symm, hasField_eq_false_iff.1 hprotocol,
          hmethod⟩⟩
  | _ => cases h

theorem readEntry_eq_ok_iff :
    readEntry item = .ok entry ↔ WellFormedEntry item ∧ Reads item entry := by
  refine ⟨fun h => ⟨wellFormedEntry_of_readEntry h, reads_of_readEntry h⟩, ?_⟩
  rintro ⟨h, hreads⟩
  cases item with
  | record fields =>
    refine readEntry_record_eq_ok_iff.2 ⟨unknownFields_eq_nil_iff.2 h.known, ?_⟩
    cases hreads with
    | template hstart hname =>
      refine ⟨_, readText_eq_ok_iff.2 ⟨h.named.isTextOrNull, hname.symm⟩,
        .inl ⟨hasField_eq_false_iff.2 hstart, ?_⟩⟩
      obtain ⟨-, ht, hm, hp⟩ := h.texts.resolve_left (by simp [hstart, IsText])
      exact readTemplate_eq_ok_iff.2 ⟨_, _, _, readText_eq_ok_iff.2 ⟨ht, rfl⟩,
        readText_eq_ok_iff.2 ⟨hm, rfl⟩, readText_eq_ok_iff.2 ⟨hp, rfl⟩, rfl⟩
    | start hstart htemplate hname =>
      obtain ⟨hs, hprotocol, hm⟩ := h.texts.resolve_right (by simp [hstart])
      refine ⟨_, readText_eq_ok_iff.2 ⟨h.named.isTextOrNull, hname.symm⟩,
        .inr ⟨?_, hasField_eq_false_iff.2 htemplate, ?_⟩⟩
      · rw [hasField_eq_isSome, hstart, Option.isSome_some]
      · have hread := readText_eq_ok_iff.2 ⟨hs.isTextOrNull, (textOf_of_field? hstart).symm⟩
        refine readStart_eq_ok_iff.2
          ⟨_, _, hread, hasField_eq_false_iff.2 hprotocol, ?_, rfl⟩
        split
        · next hhas => exact readText_eq_ok_iff.2 ⟨hm, methodOfStart_of_hasField hhas⟩
        · next hhas => exact methodOfStart_of_not_hasField hhas
  | _ => exact h.named.elim

theorem WellFormedEntry.exists_reads (h : WellFormedEntry item) : ∃ entry, Reads item entry := by
  obtain ⟨name, hfield⟩ := isText_iff.1 h.named
  have hname := textOf_of_field? hfield
  rcases h.texts with ⟨hs, -, -⟩ | ⟨hstart, -⟩
  · obtain ⟨start, hstart⟩ := isText_iff.1 hs
    have htemplate := h.single.resolve_right (by simp [hstart])
    exact ⟨_, .start hstart htemplate hname⟩
  · exact ⟨_, .template hstart hname⟩

theorem WellFormedEntry.exists_readEntry (h : WellFormedEntry item) :
    ∃ entry, readEntry item = .ok entry := by
  obtain ⟨entry, hreads⟩ := h.exists_reads
  exact ⟨entry, readEntry_eq_ok_iff.2 ⟨h, hreads⟩⟩

theorem exists_fault_of_not_wellFormedEntry (h : ¬ WellFormedEntry item) :
    ∃ fault, readEntry item = .error fault := by
  cases hread : readEntry item with
  | error fault => exact ⟨fault, rfl⟩
  | ok entry => exact absurd (wellFormedEntry_of_readEntry hread) h

variable {items before : List Value} {entries : List Entry} {index : Nat}

theorem readEntries_eq_ok_iff : readEntries index items = .ok entries ↔
    (∀ item ∈ items, WellFormedEntry item) ∧ List.Forall₂ Reads items entries := by
  induction items generalizing index entries with
  | nil => simp [readEntries, eq_comm]
  | cons item items ih =>
    rw [readEntries, List.forall_mem_cons]
    cases hread : readEntry item with
    | error fault =>
      have hnot : ¬ WellFormedEntry item := by
        intro hitem
        obtain ⟨entry, hentry⟩ := hitem.exists_readEntry
        cases hread.symm.trans hentry
      simp [hnot]
    | ok entry =>
      obtain ⟨hitem, hreads⟩ := readEntry_eq_ok_iff.1 hread
      constructor
      · intro h
        obtain ⟨rest, hrest, rfl⟩ := map_eq_ok h
        obtain ⟨hitems, hrest⟩ := ih.1 hrest
        exact ⟨⟨hitem, hitems⟩, .cons hreads hrest⟩
      · rintro ⟨⟨-, hitems⟩, h⟩
        cases h with
        | @cons _ other _ rest hother hrest =>
          have hsame := readEntry_eq_ok_iff.2 ⟨hitem, hother⟩
          cases hread.symm.trans hsame
          rw [ih.2 ⟨hitems, hrest⟩]
          rfl

theorem exists_reads_entries (h : ∀ item ∈ items, WellFormedEntry item) :
    ∃ entries, List.Forall₂ Reads items entries := by
  induction items with
  | nil => exact ⟨[], .nil⟩
  | cons item items ih =>
    obtain ⟨hitem, hitems⟩ := List.forall_mem_cons.1 h
    obtain ⟨entry, hentry⟩ := hitem.exists_reads
    obtain ⟨entries, hentries⟩ := ih hitems
    exact ⟨entry :: entries, .cons hentry hentries⟩

theorem readEntries_of_fault {fault : EntryFault} (index : Nat) (after : List Value)
    (hbefore : ∀ item ∈ before, WellFormedEntry item) (hitem : readEntry item = .error fault) :
    readEntries index (before ++ item :: after) =
      .error (.entry (index + before.length) fault) := by
  induction before generalizing index with
  | nil =>
    rw [List.nil_append, readEntries, hitem]
    rfl
  | cons first before ih =>
    obtain ⟨hfirst, hbefore⟩ := List.forall_mem_cons.1 hbefore
    obtain ⟨entry, hentry⟩ := hfirst.exists_readEntry
    rw [List.cons_append, readEntries, hentry, ih (index + 1) hbefore, List.length_cons,
      Nat.add_right_comm]
    rfl

end Entries

end Config

namespace RouterConfig

open Config

variable {value : Value} {config : RouterConfig}

/-- A well-formed configuration is read, and what is read is what it says. -/
theorem ofValue?_eq_ok_iff : ofValue? value = .ok config ↔ WellFormed value ∧
    ∃ items, value.field? "routes" = some (.list items) ∧
      List.Forall₂ Reads items config.entries ∧ config.fallback = value.textOf "on_no_match" := by
  cases value with
  | record fields =>
    simp only [ofValue?_record_eq_ok_iff, readEntries_eq_ok_iff, textField?_eq_ok_iff]
    constructor
    · rintro ⟨items, hroutes, ⟨hitems, hreads⟩, hfallback, htext⟩
      exact ⟨⟨⟨items, hroutes, hitems⟩, hfallback⟩, items, hroutes, hreads, htext⟩
    · rintro ⟨⟨⟨items, hroutes, hitems⟩, hfallback⟩, others, hothers, hreads, htext⟩
      cases hroutes.symm.trans hothers
      exact ⟨items, hroutes, ⟨hitems, hreads⟩, hfallback, htext⟩
  | _ => simp [ofValue?, Value.field?]

theorem exists_ofValue?_iff : (∃ config, ofValue? value = .ok config) ↔ WellFormed value := by
  constructor
  · rintro ⟨config, h⟩
    exact (ofValue?_eq_ok_iff.1 h).1
  · intro h
    obtain ⟨items, hroutes, hitems⟩ := h.routes
    obtain ⟨entries, hentries⟩ := exists_reads_entries hitems
    exact ⟨⟨entries, value.textOf "on_no_match"⟩,
      ofValue?_eq_ok_iff.2 ⟨h, items, hroutes, hentries, rfl⟩⟩

theorem ofValue?_of_fault {before after : List Value} {item : Value} {fault : EntryFault}
    (hroutes : value.field? "routes" = some (.list (before ++ item :: after)))
    (hbefore : ∀ earlier ∈ before, WellFormedEntry earlier)
    (hitem : readEntry item = .error fault) :
    ofValue? value = .error (.entry before.length fault) := by
  cases value with
  | record fields =>
    have hentries := readEntries_of_fault 0 after hbefore hitem
    rw [Nat.zero_add] at hentries
    exact ofValue?_of_error hroutes hentries
  | _ => cases hroutes

theorem ofValue?_congr {fields more : Fields}
    (h : ∀ name ∈ ["routes", "on_no_match"],
      (Value.record more).field? name = (Value.record fields).field? name) :
    ofValue? (.record more) = ofValue? (.record fields) := by
  have hroutes : fieldOf more "routes" = fieldOf fields "routes" := by
    rw [fieldOf_eq, fieldOf_eq, h "routes" (by simp)]
  have hfallback : textField? more "on_no_match" = textField? fields "on_no_match" := by
    rw [textField?, textField?, fieldOf_eq, fieldOf_eq, h "on_no_match" (by simp)]
  rw [ofValue?, ofValue?, hroutes, hfallback]

/-- The well-formed values are the configurations, with an entry for each route in order. Where
some route is faulty, the first such route decides the fault that is reported with its index,
whatever follows it and whatever the fallback is. No other field of a configuration matters. -/
theorem ofValue?_exactly :
    (∀ value, (∃ config, ofValue? value = .ok config) ↔ WellFormed value) ∧
    (∀ value config, ofValue? value = .ok config →
      ∃ items, value.field? "routes" = some (.list items) ∧
        List.Forall₂ Reads items config.entries) ∧
    (∀ item, ¬ WellFormedEntry item → ∃ fault, readEntry item = .error fault ∧
      ∀ value before after, value.field? "routes" = some (.list (before ++ item :: after)) →
        (∀ earlier ∈ before, WellFormedEntry earlier) →
        ofValue? value = .error (.entry before.length fault)) ∧
    ∀ fields more, (∀ name ∈ ["routes", "on_no_match"],
        (Value.record more).field? name = (Value.record fields).field? name) →
      ofValue? (.record more) = ofValue? (.record fields) := by
  refine ⟨fun value => exists_ofValue?_iff, ?_, ?_, fun fields more => ofValue?_congr⟩
  · intro value config h
    obtain ⟨items, hroutes, hreads, -⟩ := reads_of_ofValue? h
    exact ⟨items, hroutes, hreads⟩
  · intro item hitem
    obtain ⟨fault, hfault⟩ := exists_fault_of_not_wellFormedEntry hitem
    refine ⟨fault, hfault, ?_⟩
    intro value before after hroutes hbefore
    exact ofValue?_of_fault hroutes hbefore hfault

/-- A configuration with another field, and one whose second entry and fallback are faulty. -/
theorem ofValue?_exactly_samples :
    (∃ config, ofValue? (.record [("version", .integer 2), ("routes", .list
      [.record [("prefix", .text "/a"), ("name", .text "a")],
        .record [("name", .text "b"), ("template", .null)]])]) = .ok config) ∧
    ¬ WellFormedEntry (.record [("name", .text "b"), ("method", .integer 7)]) ∧
    ofValue? (.record [("on_no_match", .integer 404), ("routes", .list
      [.record [("prefix", .text "/a"), ("name", .text "a")],
        .record [("name", .text "b"), ("method", .integer 7)], .null])]) =
      .error (.entry 1 (.notAText "method" "int")) := by
  have hfirst : WellFormedEntry (.record [("prefix", .text "/a"), ("name", .text "a")]) := by
    decide
  have hthird : WellFormedEntry (.record [("name", .text "b"), ("template", .null)]) := by decide
  have hfaulty : ¬ WellFormedEntry (.record [("name", .text "b"), ("method", .integer 7)]) := by
    decide
  refine ⟨(ofValue?_exactly.1 _).2 ⟨⟨_, rfl, by simp [hfirst, hthird]⟩, trivial⟩, hfaulty, ?_⟩
  obtain ⟨fault, hfault, h⟩ := ofValue?_exactly.2.2.1 _ hfaulty
  have hkind : readEntry (.record [("name", .text "b"), ("method", .integer 7)]) =
      .error (.notAText "method" "int") := by decide +kernel
  cases hkind.symm.trans hfault
  exact h _ [_] [.null] rfl (by simp [hfirst])

end RouterConfig

end RequestRouting
