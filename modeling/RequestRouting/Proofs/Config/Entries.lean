import Mathlib.Data.List.Forall2
import RequestRouting.Config.Router

/-!
# Entries and their records

An entry that was read says what the fields of its record say. A missing field and null are the same
but for the method of an entry with the start of a URI: without a method it listens for GET, with
null it takes any.
-/

namespace RequestRouting.Config

section Except

variable {ε α β : Type} {x : Except ε α} {b : β}

theorem bind_eq_ok_iff {f : α → Except ε β} :
    (x >>= f) = .ok b ↔ ∃ a, x = .ok a ∧ f a = .ok b := by
  cases x <;> simp [bind, Except.bind]

theorem map_eq_ok {f : α → β} (h : x.map f = .ok b) : ∃ a, x = .ok a ∧ f a = b := by
  cases x with
  | error e => cases h
  | ok a =>
    cases h
    exact ⟨a, rfl, rfl⟩

end Except

namespace Value

def text? : Value → Option String
  | text s => some s
  | _ => none

def field? (name : String) : Value → Option Value
  | record fields => List.lookup name fields
  | _ => none

def textOf (name : String) (value : Value) : Option String := (value.field? name).bind text?

/-- The method of an entry with the start of a URI: GET without the field, any if it is null. -/
def methodOfStart (item : Value) : Option String :=
  match item.field? "method" with
  | none => some getMethod
  | some value => value.text?

end Value

def IsTextOrNull : Option Value → Prop
  | none | some .null | some (.text _) => True
  | some _ => False

instance : DecidablePred IsTextOrNull
  | none | some .null | some (.text _) => isTrue trivial
  | some (.bool _) | some (.integer _) | some (.decimal _ _) | some (.list _)
  | some (.record _) => isFalse id

variable {fields : Fields} {name : String} {text : Option String}

theorem fieldOf_eq (fields : Fields) (name : String) :
    fieldOf fields name = ((Value.record fields).field? name).getD .null := rfl

theorem textField?_eq_ok_iff : textField? fields name = .ok text ↔
    IsTextOrNull ((Value.record fields).field? name) ∧
      text = (Value.record fields).textOf name := by
  rw [textField?, fieldOf_eq, Value.textOf]
  cases (Value.record fields).field? name with
  | none => simp [IsTextOrNull, eq_comm]
  | some value => cases value <;> simp [IsTextOrNull, Value.text?, eq_comm]

theorem readText_eq_ok_iff : readText fields name = .ok text ↔
    IsTextOrNull ((Value.record fields).field? name) ∧
      text = (Value.record fields).textOf name := by
  rw [← textField?_eq_ok_iff, readText]
  cases textField? fields name <;> simp

theorem readText_eq_ok (h : readText fields name = .ok text) :
    text = (Value.record fields).textOf name := (readText_eq_ok_iff.1 h).2

theorem hasField_eq_isSome (fields : Fields) (name : String) :
    hasField fields name = ((Value.record fields).field? name).isSome := by
  rw [Value.field?]
  induction fields with
  | nil => rfl
  | cons p fields ih =>
    rw [hasField, List.any_cons, ← hasField, ih, List.lookup_cons]
    by_cases h : name = p.1
    · simp [h]
    · have hp : (p.1 == name) = false := by simpa using Ne.symm h
      have hn : (name == p.1) = false := by simpa using h
      rw [hp, hn, Bool.false_or]

theorem hasField_eq_false_iff :
    hasField fields name = false ↔ (Value.record fields).field? name = none := by
  rw [hasField_eq_isSome, Option.isSome_eq_false_iff, Option.isNone_iff_eq_none]

section Reading

variable {entry : Entry}

theorem readTemplate_eq_ok_iff : readTemplate name fields = .ok entry ↔
    ∃ template method protocol, readText fields "template" = .ok template ∧
      readText fields "method" = .ok method ∧ readText fields "protocol" = .ok protocol ∧
      entry = .template name template method protocol := by
  simp only [readTemplate, bind_eq_ok_iff, pure, Except.pure, Except.ok.injEq, exists_and_left,
    @eq_comm _ entry]

theorem readStart_eq_ok_iff : readStart name fields = .ok entry ↔
    ∃ start method, readText fields "prefix" = .ok (some start) ∧
      hasField fields "protocol" = false ∧
      (if hasField fields "method" then readText fields "method" = .ok method
        else method = some getMethod) ∧
      entry = .start name start method := by
  rw [readStart, bind_eq_ok_iff]
  constructor
  · rintro ⟨found, hfound, h⟩
    split at h
    · cases h
    · next start =>
      split at h
      · cases h
      · next hprotocol =>
        have hprotocol : hasField fields "protocol" = false := by simpa using hprotocol
        split at h
        · next hmethod =>
          obtain ⟨method, hread, h⟩ := bind_eq_ok_iff.1 h
          cases h
          exact ⟨start, method, hfound, hprotocol, by rwa [if_pos hmethod], rfl⟩
        · next hmethod =>
          cases h
          exact ⟨start, some getMethod, hfound, hprotocol, by rw [if_neg hmethod], rfl⟩
  · rintro ⟨start, method, hstart, hprotocol, hmethod, rfl⟩
    refine ⟨some start, hstart, ?_⟩
    dsimp only
    rw [hprotocol, if_neg Bool.false_ne_true]
    split at hmethod
    · next hhas =>
      rw [if_pos hhas, hmethod]
      rfl
    · next hhas =>
      rw [if_neg hhas, hmethod]
      rfl

theorem readEntry_record_eq_ok_iff : readEntry (.record fields) = .ok entry ↔
    unknownFields fields = [] ∧ ∃ name, readText fields "name" = .ok (some name) ∧
      (hasField fields "prefix" = false ∧ readTemplate name fields = .ok entry ∨
        hasField fields "prefix" = true ∧ hasField fields "template" = false ∧
          readStart name fields = .ok entry) := by
  rw [readEntry]
  by_cases hknown : unknownFields fields = []
  · rw [if_neg (not_not.2 hknown), bind_eq_ok_iff, and_iff_right hknown]
    constructor
    · rintro ⟨found, hfound, h⟩
      cases found with
      | none => cases h
      | some name =>
        refine ⟨name, hfound, ?_⟩
        cases hstart : hasField fields "prefix" <;>
          cases htemplate : hasField fields "template" <;> simp_all
    · rintro ⟨name, hname, h⟩
      refine ⟨some name, hname, ?_⟩
      rcases h with ⟨hstart, h⟩ | ⟨hstart, htemplate, h⟩
      · simpa [hstart] using h
      · simpa [hstart, htemplate] using h
  · simp [hknown]

end Reading

/-- What an entry says, in terms of the record it was read from. -/
inductive Reads (item : Value) : Entry → Prop where
  | template {name : String} : item.field? "prefix" = none → item.textOf "name" = some name →
      Reads item (.template name (item.textOf "template") (item.textOf "method")
        (item.textOf "protocol"))
  | start {name start : String} : item.field? "prefix" = some (.text start) →
      item.field? "template" = none → item.textOf "name" = some name →
      Reads item (.start name start item.methodOfStart)

theorem reads_of_readTemplate {entry : Entry}
    (hname : (Value.record fields).textOf "name" = some name)
    (hstart : hasField fields "prefix" = false) (h : readTemplate name fields = .ok entry) :
    Reads (.record fields) entry := by
  obtain ⟨template, method, protocol, htemplate, hmethod, hprotocol, rfl⟩ :=
    readTemplate_eq_ok_iff.1 h
  rw [readText_eq_ok htemplate, readText_eq_ok hmethod, readText_eq_ok hprotocol]
  exact .template (hasField_eq_false_iff.1 hstart) hname

theorem field?_of_textOf {item : Value} {text : String} (h : item.textOf name = some text) :
    item.field? name = some (.text text) := by
  obtain ⟨value, hvalue, htext⟩ := Option.bind_eq_some_iff.1 h
  cases value <;> cases htext
  exact hvalue

theorem textOf_of_field? {item : Value} {text : String} (h : item.field? name = some (.text text)) :
    item.textOf name = some text := by
  rw [Value.textOf, h]
  rfl

theorem methodOfStart_of_hasField (h : hasField fields "method" = true) :
    (Value.record fields).methodOfStart = (Value.record fields).textOf "method" := by
  rw [hasField_eq_isSome] at h
  obtain ⟨value, hvalue⟩ := Option.isSome_iff_exists.1 h
  rw [Value.methodOfStart, Value.textOf, hvalue, Option.bind_some]

theorem methodOfStart_of_not_hasField (h : ¬ hasField fields "method" = true) :
    (Value.record fields).methodOfStart = some getMethod := by
  rw [Bool.not_eq_true, hasField_eq_false_iff] at h
  rw [Value.methodOfStart, h]

theorem reads_of_readStart {entry : Entry}
    (hname : (Value.record fields).textOf "name" = some name)
    (htemplate : hasField fields "template" = false) (h : readStart name fields = .ok entry) :
    Reads (.record fields) entry := by
  obtain ⟨start, method, hstart, -, hmethod, rfl⟩ := readStart_eq_ok_iff.1 h
  have hreads := Reads.start (field?_of_textOf (readText_eq_ok hstart).symm)
    (hasField_eq_false_iff.1 htemplate) hname
  split at hmethod
  · next hhas => rwa [readText_eq_ok hmethod, ← methodOfStart_of_hasField hhas]
  · next hhas => rwa [hmethod, ← methodOfStart_of_not_hasField hhas]

theorem reads_of_readEntry {item : Value} {entry : Entry} (h : readEntry item = .ok entry) :
    Reads item entry := by
  cases item with
  | record fields =>
    obtain ⟨-, name, hname, ⟨hstart, h⟩ | ⟨-, htemplate, h⟩⟩ := readEntry_record_eq_ok_iff.1 h
    · exact reads_of_readTemplate (readText_eq_ok hname).symm hstart h
    · exact reads_of_readStart (readText_eq_ok hname).symm htemplate h
  | _ => cases h

theorem reads_of_readEntries {index : Nat} {items : List Value} {entries : List Entry}
    (h : readEntries index items = .ok entries) : List.Forall₂ Reads items entries := by
  induction items generalizing index entries with
  | nil =>
    cases h
    exact .nil
  | cons item items ih =>
    rw [readEntries] at h
    split at h
    · cases h
    · next entry hentry =>
      obtain ⟨rest, hrest, rfl⟩ := map_eq_ok h
      exact .cons (reads_of_readEntry hentry) (ih hrest)

theorem field?_of_fieldOf {value : Value} (h : fieldOf fields name = value)
    (hvalue : value ≠ .null) : (Value.record fields).field? name = some value := by
  rw [fieldOf_eq] at h
  cases hfield : (Value.record fields).field? name with
  | none =>
    rw [hfield] at h
    exact absurd h.symm hvalue
  | some found => rw [← h, hfield, Option.getD_some]

theorem fieldOf_of_field? {value : Value} (h : (Value.record fields).field? name = some value) :
    fieldOf fields name = value := by
  rw [fieldOf_eq, h, Option.getD_some]

theorem ofValue?_of_error {items : List Value} {e : ConfigError}
    (hroutes : (Value.record fields).field? "routes" = some (.list items))
    (hitems : readEntries 0 items = .error e) :
    RouterConfig.ofValue? (.record fields) = .error e := by
  simp only [RouterConfig.ofValue?, fieldOf_of_field? hroutes, hitems]

theorem ofValue?_record_eq_ok_iff {config : RouterConfig} :
    RouterConfig.ofValue? (.record fields) = .ok config ↔
      ∃ items, (Value.record fields).field? "routes" = some (.list items) ∧
        readEntries 0 items = .ok config.entries ∧
        textField? fields "on_no_match" = .ok config.fallback := by
  constructor
  · intro h
    rw [RouterConfig.ofValue?] at h
    split at h
    · cases h
    · next items hroutes =>
      split at h
      · cases h
      · next entries hentries =>
        split at h
        · cases h
        · next fallback hfallback =>
          cases h
          exact ⟨items, field?_of_fieldOf hroutes (by simp), hentries, hfallback⟩
    · cases h
  · rintro ⟨items, hroutes, hentries, hfallback⟩
    simp only [RouterConfig.ofValue?, fieldOf_of_field? hroutes, hentries, hfallback]

theorem reads_of_ofValue? {value : Value} {config : RouterConfig}
    (h : RouterConfig.ofValue? value = .ok config) :
    ∃ items, value.field? "routes" = some (.list items) ∧
      List.Forall₂ Reads items config.entries ∧ config.fallback = value.textOf "on_no_match" := by
  cases value with
  | record fields =>
    obtain ⟨items, hroutes, hentries, hfallback⟩ := ofValue?_record_eq_ok_iff.1 h
    exact ⟨items, hroutes, reads_of_readEntries hentries, (textField?_eq_ok_iff.1 hfallback).2⟩
  | _ => cases h

end RequestRouting.Config
