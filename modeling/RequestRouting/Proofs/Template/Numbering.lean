import Mathlib.Data.List.Perm.Subperm
import RequestRouting.Proofs.Regex.Enclosed
import RequestRouting.Proofs.Regex.Groups
import RequestRouting.Proofs.Template.Compilation
import RequestRouting.Proofs.Template.Passes
import RequestRouting.Template.Basic

/-!
# Variables and group numbers

A variable goes by the number of its place among the variables. That is the number of its own group
as long as the template opens no group besides: the expansion writes one opening for each variable,
a pattern has as many groups as there are variables, so every opening is a group, and the order of
the openings is the order of the variables.
-/

namespace RequestRouting.Template

open RequestRouting.Regex (openedName? openedNames)
open RequestRouting.Text (upTo)

def openingSigns : List Char := ['?', 'P', '<']

/-- Whether a group opens is decided in front of any other sign. -/
theorem isSome_openedName?_append {c : Char} (hc : c ∉ openingSigns) (d : Char)
    (text rest : List Char) :
    (openedName? (d :: (text ++ c :: rest))).isSome = (openedName? (d :: text)).isSome := by
  have hlong : c ∉ ['?', 'P', '<'] := hc
  have hshort : c ∉ ['?', '<'] := fun h => hc (by simp at h; rcases h with rfl | rfl <;> decide)
  by_cases hd : '(' = d
  · have hopen : ∀ start, (('(' :: start).isPrefixOf? (d :: (text ++ c :: rest))).isSome =
        (start.isPrefixOf? (text ++ c :: rest)).isSome := by
      intro start
      rw [List.isPrefixOf?, if_pos (beq_iff_eq.2 hd)]
    have hopen' : ∀ start, (('(' :: start).isPrefixOf? (d :: text)).isSome =
        (start.isPrefixOf? text).isSome := by
      intro start
      rw [List.isPrefixOf?, if_pos (beq_iff_eq.2 hd)]
    rw [openedName?, openedName?, Option.isSome_map, Option.isSome_map, Option.isSome_or,
      Option.isSome_or, hopen, hopen, hopen', hopen', Text.isPrefixOf?_append_cons hlong,
      Text.isPrefixOf?_append_cons hshort, Option.isSome_map, Option.isSome_map]
  · simp [openedName?, List.isPrefixOf?, hd]

def openings (text : List Char) : Nat := (openedNames text).length

theorem openings_cons (c : Char) (rest : List Char) :
    openings (c :: rest) = (openedName? (c :: rest)).isSome.toNat + openings rest := by
  rw [openings, openedNames, List.length_append, openings]
  cases openedName? (c :: rest) <;> rfl

theorem openings_cons_of_ne {c : Char} (hc : c ≠ '(') (rest : List Char) :
    openings (c :: rest) = openings rest := by
  simp [openings_cons, openedName?, List.isPrefixOf?, Ne.symm hc]

theorem openings_append_cons {c : Char} (hc : c ∉ openingSigns) (before rest : List Char) :
    openings (before ++ c :: rest) = openings before + openings (c :: rest) := by
  induction before with
  | nil => exact (Nat.zero_add _).symm
  | cons d before ih =>
    rw [List.cons_append, openings_cons, openings_cons, isSome_openedName?_append hc, ih,
      Nat.add_assoc]

theorem openings_groupStart (name rest : List Char) :
    openings (groupStart name ++ rest) = openings name + openings rest + 1 := by
  have hsplit : groupStart name ++ rest = '(' :: '?' :: 'P' :: '<' :: (name ++ '>' :: rest) := by
    simp [groupStart]
  have hopen : (openedName? ('(' :: '?' :: 'P' :: '<' :: (name ++ '>' :: rest))).isSome = true :=
    rfl
  rw [hsplit, openings_cons, hopen, openings_cons_of_ne (by decide),
    openings_cons_of_ne (by decide), openings_cons_of_ne (by decide),
    openings_append_cons (by decide), openings_cons_of_ne (by decide), Bool.toNat_true,
    Nat.add_comm]

theorem openings_replaceAll {α : Type} {find? : List Char → Option (Occurrence α)}
    {write : α → List Char} {k : Nat}
    (hk : ∀ text o, find? text = some o →
      openings (o.before ++ write o.item ++ o.after) = openings text + k) (n : Nat)
    (text : List Char) :
    openings (replaceAll find? write n text).1 =
      openings text + k * (replaceAll find? write n text).2.length := by
  induction n generalizing text with
  | zero => rfl
  | succ n ih =>
    rw [replaceAll]
    cases hfind : find? text with
    | none => rfl
    | some o =>
      dsimp only
      rw [ih, hk text o hfind, List.length_cons, Nat.mul_succ]
      omega

theorem openings_writeVariable {closing body : List Char} {text : List Char}
    {o : Occurrence (List Char)} (h : findVariable? ('\x7d' :: closing) text = some o)
    (hclosing : ∀ rest, openings (closing ++ rest) = openings rest)
    (hbody : ∀ rest, openings (body ++ rest) = openings rest) :
    openings (o.before ++ (groupStart o.item ++ body) ++ o.after) = openings text + 1 := by
  have hwritten : openings (o.before ++ (groupStart o.item ++ body) ++ o.after) =
      openings o.before + openings (groupStart o.item ++ (body ++ o.after)) := by
    have := openings_append_cons (c := '(') (by decide) o.before
      (['?', 'P', '<'] ++ o.item ++ ['>'] ++ body ++ o.after)
    simpa [groupStart] using this
  have hread : openings text = openings o.before + (openings o.item + openings o.after) := by
    rw [eq_of_findVariable? h, openings_append_cons (by decide), openings_cons_of_ne (by decide),
      List.cons_append, openings_append_cons (by decide), openings_cons_of_ne (by decide), hclosing]
  rw [hwritten, hread, openings_groupStart, hbody]
  omega

theorem openings_splatVariables (text : List Char) :
    openings (splatVariables text).1 = openings text + (splatVariables text).2.length := by
  have hclosing : ∀ rest, openings (['*', '*'] ++ rest) = openings rest := by
    intro rest
    exact (openings_cons_of_ne (by decide) _).trans (openings_cons_of_ne (by decide) _)
  have hbody : ∀ rest, openings (['.', '*', ')'] ++ rest) = openings rest := by
    intro rest
    simp [openings_cons_of_ne]
  rw [splatVariables, openings_replaceAll (fun text o h => openings_writeVariable h hclosing hbody),
    Nat.one_mul]

theorem openings_segmentVariables (text : List Char) :
    openings (segmentVariables text).1 = openings text + (segmentVariables text).2.length := by
  have hclosing : ∀ rest, openings ([] ++ rest) = openings rest := fun rest => rfl
  have hbody : ∀ rest, openings (['[', '^', '/', ']', '*', ')'] ++ rest) = openings rest := by
    intro rest
    simp [openings_cons_of_ne]
  rw [segmentVariables, openings_replaceAll
    (fun text o h => openings_writeVariable h hclosing hbody), Nat.one_mul]

theorem openings_bareSplats (text : List Char) : openings (bareSplats text).1 = openings text := by
  rw [bareSplats, openings_replaceAll (k := 0), Nat.zero_mul, Nat.add_zero]
  intro text o h
  rw [eq_of_findSplat? h, List.append_assoc, splatText, List.cons_append,
    openings_append_cons (by decide), openings_append_cons (by decide)]
  simp [openings_cons_of_ne]

/-- The expansion writes one opening for each variable. -/
theorem openings_expand (text : List Char) :
    openings (expand text).1 = openings text + (expand text).2.length := by
  rw [expand]
  dsimp only
  rw [openings_bareSplats, openings_segmentVariables, openings_splatVariables, List.length_append,
    Nat.add_assoc]

theorem openings_anchored (body : List Char) : openings (anchored body) = openings body := by
  have hgroup : (openedName? ('(' :: '?' :: ':' :: (body ++ [')', '$']))).isSome = false := rfl
  have hsplit : anchored body = '^' :: '(' :: '?' :: ':' :: (body ++ ')' :: ['$']) := by
    simp [anchored]
  have hclosing : openings (')' :: ['$']) = 0 := rfl
  rw [hsplit, openings_cons_of_ne (by decide), openings_cons, hgroup,
    openings_cons_of_ne (by decide), openings_cons_of_ne (by decide),
    openings_append_cons (by decide), hclosing, Bool.toNat_false, Nat.zero_add, Nat.add_zero]

theorem openedName?_of_isPrefixOf {text : List Char} {name : String} (hname : '>' ∉ name.toList)
    (h : (groupStart name.toList).isPrefixOf text) : openedName? text = some name := by
  obtain ⟨rest, hrest⟩ := List.isPrefixOf_iff_prefix.1 h
  have hsplit : text = ['(', '?', 'P', '<'] ++ (name.toList ++ '>' :: rest) := by
    simpa [groupStart] using hrest.symm
  rw [hsplit, openedName?, Text.isPrefixOf?_append, Option.some_or, Option.map_some, upTo,
    Text.cut_append_cons hname]
  simp

theorem groupIndex?_cons (c : Char) (rest : List Char) (name : String) :
    groupIndex? (c :: rest) name =
      if (groupStart name.toList).isPrefixOf (c :: rest) then some 0
      else (groupIndex? rest name).map (· + 1) := rfl

theorem mem_openedNames {text : List Char} {name : String} (hname : '>' ∉ name.toList)
    (h : (groupIndex? text name).isSome) : name ∈ openedNames text := by
  induction text with
  | nil => simp [groupIndex?, Text.indexOf?, groupStart] at h
  | cons c rest ih =>
    rw [groupIndex?_cons] at h
    split at h
    · next hstart =>
      rw [openedNames, openedName?_of_isPrefixOf hname hstart]
      exact List.mem_cons_self
    · rw [Option.isSome_map] at h
      exact List.mem_append_right _ (ih h)

/-- A text that opens no two groups of one name opens them in the order in which it names them. -/
theorem exists_opensInOrder_openedNames {text : List Char} (hd : (openedNames text).Nodup)
    (h : ∀ name ∈ openedNames text, '>' ∉ name.toList ∧ (groupIndex? text name).isSome) :
    ∃ position, OpensInOrder text (openedNames text) position := by
  induction text with
  | nil => exact ⟨fun _ => 0, by simp [openedNames], .nil⟩
  | cons c rest ih =>
    have hskip : ∀ name ∈ openedNames rest, openedName? (c :: rest) ≠ some name →
        groupIndex? (c :: rest) name = (groupIndex? rest name).map (· + 1) := by
      intro name hm hne
      have hangle := (h name (List.mem_append_right _ hm)).1
      rw [groupIndex?_cons, if_neg (mt (openedName?_of_isPrefixOf hangle) hne)]
    have hrest : ∀ name ∈ openedNames rest, openedName? (c :: rest) ≠ some name →
        '>' ∉ name.toList ∧ (groupIndex? rest name).isSome := by
      intro name hm hne
      obtain ⟨hangle, hindex⟩ := h name (List.mem_append_right _ hm)
      rw [hskip name hm hne, Option.isSome_map] at hindex
      exact ⟨hangle, hindex⟩
    cases hfirst : openedName? (c :: rest) with
    | none =>
      have hnames : openedNames (c :: rest) = openedNames rest := by simp [openedNames, hfirst]
      rw [hnames] at hd ⊢
      have hother : ∀ name, openedName? (c :: rest) ≠ some name := by simp [hfirst]
      obtain ⟨position, hposition⟩ := ih hd fun name hm => hrest name hm (hother name)
      exact ⟨_, hposition.shift fun name hm => hskip name hm (hother name)⟩
    | some first =>
      have hnames : openedNames (c :: rest) = first :: openedNames rest := by
        simp [openedNames, hfirst]
      rw [hnames] at hd
      obtain ⟨hnotin, hd⟩ := List.nodup_cons.1 hd
      have hother : ∀ name ∈ openedNames rest, openedName? (c :: rest) ≠ some name := by
        rintro name hm he
        rw [hfirst] at he
        cases he
        exact hnotin hm
      obtain ⟨position, hposition⟩ := ih hd fun name hm => hrest name hm (hother name hm)
      have hzero : groupIndex? (c :: rest) first = some 0 := by
        obtain ⟨hangle, hindex⟩ := h first (by simp [hnames])
        rw [groupIndex?_cons] at hindex ⊢
        split
        · rfl
        · next hstart =>
          rw [if_neg hstart, Option.isSome_map] at hindex
          exact absurd (mem_openedNames hangle hindex) hnotin
      rw [hnames]
      exact hposition.cons hnotin hzero Nat.one_pos fun name hm => hskip name hm (hother name hm)

section

variable {source : String} {compiled : Compiled}

theorem Compiles.variables_eq (h : Compiles source compiled)
    (hsource : openedNames source.toList = [])
    (hangle : ∀ name ∈ compiled.variables, '>' ∉ name.toList) :
    compiled.variables = openedNames (anchored (expand source.toList).1) := by
  let text := anchored (expand source.toList).1
  let found := (expand source.toList).2.map String.ofList
  obtain ⟨hperm, hindices⟩ := perm_of_inTextOrder? h.ordered
  have hangle : ∀ name ∈ found, '>' ∉ name.toList := fun name hm =>
    hangle name (hperm.mem_iff.2 hm)
  have hlength : (openedNames text).length = found.length := by
    have hcount : openings text = openings source.toList + (expand source.toList).2.length :=
      (openings_anchored _).trans (openings_expand _)
    have hzero : openings source.toList = 0 := by rw [openings, hsource, List.length_nil]
    rw [hzero, Nat.zero_add] at hcount
    rw [← openings, hcount, List.length_map]
  have hsubset : found ⊆ openedNames text := fun name hm =>
    mem_openedNames (hangle name hm) (hindices name hm)
  have hopened : found.Perm (openedNames text) :=
    (List.subperm_of_subset h.distinct hsubset).perm_of_length_le (Nat.le_of_eq hlength)
  obtain ⟨position, hposition⟩ := exists_opensInOrder_openedNames
    (hopened.nodup_iff.1 h.distinct) fun name hm =>
      ⟨hangle name (hopened.mem_iff.2 hm), hindices name (hopened.mem_iff.2 hm)⟩
  have hordered := hposition.inTextOrder?_eq hopened
  rw [h.ordered] at hordered
  exact Option.some.inj hordered

theorem Compiles.groups_eq (h : Compiles source compiled) (hsource : openedNames source.toList = [])
    (hnamed : ∀ name ∈ compiled.regex.groupNames, name.isSome)
    (hangle : ∀ name ∈ compiled.variables, '>' ∉ name.toList) :
    compiled.regex.groups = (compiled.variables.zipIdx 1).map fun p => (p.2, some p.1) := by
  have hcount := h.noOthers
  rw [Compiled.groupCount, Regex.groupNames_eq, List.length_map] at hcount
  obtain ⟨hnumbers, hsublist⟩ := Regex.groups_of_read h.readable
  rw [← h.variables_eq hsource hangle] at hsublist
  have hall : (compiled.regex.groups.filterMap (·.2)).map some =
      compiled.regex.groups.map (·.2) := by
    rw [List.map_filterMap_some_eq_filter_map_isSome, List.filter_eq_self, ← Regex.groupNames_eq]
    exact hnamed
  have hnames : compiled.regex.groups.filterMap (·.2) = compiled.variables := by
    have hlength := congrArg List.length hall
    simp only [List.length_map] at hlength
    exact hsublist.eq_of_length (hlength.trans hcount)
  rw [hnames] at hall
  rw [hcount] at hnumbers
  rw [List.zip_of_prod hnumbers hall.symm]
  symm
  apply List.zip_of_prod
  · rw [List.map_map]
    exact List.zipIdx_map_snd 1 compiled.variables
  · have hfst := congrArg (List.map some) (List.zipIdx_map_fst 1 compiled.variables)
    rw [List.map_map] at hfst ⊢
    exact hfst

/-- Where a template opens no group of its own, the groups are the variables in their order, and a
path binds a variable to what its own group took part with. -/
theorem extract_own_group (h : compile source = .ok compiled)
    (hsource : openedNames source.toList = [])
    (hnamed : ∀ name ∈ compiled.regex.groupNames, name.isSome)
    (hangle : ∀ name ∈ compiled.variables, '>' ∉ name.toList) :
    compiled.regex.groups = (compiled.variables.zipIdx 1).map (fun p => (p.2, some p.1)) ∧
      ∀ path m, compiled.search? path = some m → ∀ name value,
        (name, value) ∈ compiled.extract path ↔
          ∃ index, (index, some name) ∈ compiled.regex.groups ∧
            value = (m.group? path.toList index).map String.ofList := by
  have hgroups := (compiles_of_compile h).groups_eq hsource hnamed hangle
  refine ⟨hgroups, ?_⟩
  intro path m hm name value
  have hnumber : ∀ index, (index, some name) ∈ compiled.regex.groups ↔
      (name, index) ∈ compiled.variables.zipIdx 1 := by
    intro index
    rw [hgroups, List.mem_map]
    constructor
    · rintro ⟨⟨name, index⟩, hmem, ⟨⟩⟩
      exact hmem
    · exact fun hmem => ⟨_, hmem, rfl⟩
  have hextract : compiled.extract path = (compiled.variables.zipIdx 1).map fun p =>
      (p.1, (m.group? path.toList p.2).map String.ofList) := by
    rw [Compiled.extract, hm, List.zipIdx_succ, List.map_map]
    rfl
  simp only [hnumber, hextract, List.mem_map, Prod.mk.injEq, Prod.exists]
  constructor
  · rintro ⟨_, index, hmem, rfl, rfl⟩
    exact ⟨index, hmem, rfl⟩
  · rintro ⟨index, hmem, rfl⟩
    exact ⟨name, index, hmem, rfl, rfl⟩

end

/-- The names are found from the last to the first here, and an escaped parenthesis is no group. -/
theorem extract_own_group_escaped :
    ∃ compiled m, compile "\x7bb\x7d/\\(\x7ba\x7d**" = .ok compiled ∧
      openedNames "\x7bb\x7d/\\(\x7ba\x7d**".toList = [] ∧
      (∀ name ∈ compiled.regex.groupNames, name.isSome) ∧
      (∀ name ∈ compiled.variables, '>' ∉ name.toList) ∧
      compiled.regex.groups = [(1, some "b"), (2, some "a")] ∧
      compiled.search? "x/(y/z" = some m ∧
      ∀ name value, (name, value) ∈ compiled.extract "x/(y/z" ↔
        ∃ index, (index, some name) ∈ compiled.regex.groups ∧
          value = (m.group? "x/(y/z".toList index).map String.ofList := by
  let segment : Regex := .seq (.repeated .zeroOrMore true (.chars Regex.Reader.notSlash)) .empty
  let rest : Regex := .seq (.repeated .zeroOrMore true (.chars (.except '\n'))) .empty
  let regex : Regex := Regex.enclosed (Regex.sequence
    [.group 1 (some "b") segment, .char '/', .char '(', .group 2 (some "a") rest])
  let compiled : Compiled :=
    ⟨String.ofList (anchored "(?P<b>[^/]*)/\\((?P<a>.*)".toList), regex, ["b", "a"]⟩
  have hexpand : expand "\x7bb\x7d/\\(\x7ba\x7d**".toList =
      ("(?P<b>[^/]*)/\\((?P<a>.*)".toList, [['a'], ['b']]) := by decide +kernel
  have hread : Regex.read (anchored "(?P<b>[^/]*)/\\((?P<a>.*)".toList) = .ok regex := by
    decide +kernel
  have hordered : inTextOrder? (anchored "(?P<b>[^/]*)/\\((?P<a>.*)".toList) ["a", "b"] =
      some ["b", "a"] :=
    inTextOrder?_of_increasing (.swap "b" "a" []) (by decide +kernel) (by decide +kernel)
  have hcompile : compile "\x7bb\x7d/\\(\x7ba\x7d**" = .ok compiled :=
    compile_eq hexpand (by decide +kernel) hordered hread rfl
  have hsource : openedNames "\x7bb\x7d/\\(\x7ba\x7d**".toList = [] := by decide +kernel
  have hnamed : ∀ name ∈ compiled.regex.groupNames, name.isSome := by decide +kernel
  have hangle : ∀ name ∈ compiled.variables, '>' ∉ name.toList := by decide +kernel
  obtain ⟨hgroups, hextract⟩ := extract_own_group hcompile hsource hnamed hangle
  obtain ⟨m, hm⟩ := Option.isSome_iff_exists.1
    (show (compiled.search? "x/(y/z").isSome = true by decide +kernel)
  exact ⟨compiled, m, hcompile, hsource, hnamed, hangle, hgroups, hm, hextract _ m hm⟩

/-- A literal that only looks like the opening of a group is taken for the group of a variable, and
two variables exchange what they captured. -/
theorem extract_other_group :
    ∃ compiled, compile "\\(?P<b>/\x7ba\x7d/\x7bb\x7d" = .ok compiled ∧
      compiled.regex.groups = [(1, some "a"), (2, some "b")] ∧
      compiled.variables = ["b", "a"] ∧
      compiled.extract "P<b>/1/2" = [("b", some "1"), ("a", some "2")] := by
  let segment : Regex := .seq (.repeated .zeroOrMore true (.chars Regex.Reader.notSlash)) .empty
  let regex : Regex := Regex.enclosed (Regex.sequence
    [.repeated .optional true (.char '('), .char 'P', .char '<', .char 'b', .char '>', .char '/',
      .group 1 (some "a") segment, .char '/', .group 2 (some "b") segment])
  let compiled : Compiled :=
    ⟨String.ofList (anchored "\\(?P<b>/(?P<a>[^/]*)/(?P<b>[^/]*)".toList), regex, ["b", "a"]⟩
  have hexpand : expand "\\(?P<b>/\x7ba\x7d/\x7bb\x7d".toList =
      ("\\(?P<b>/(?P<a>[^/]*)/(?P<b>[^/]*)".toList, [['a'], ['b']]) := by decide +kernel
  have hread : Regex.read (anchored "\\(?P<b>/(?P<a>[^/]*)/(?P<b>[^/]*)".toList) = .ok regex := by
    decide +kernel
  have hordered : inTextOrder? (anchored "\\(?P<b>/(?P<a>[^/]*)/(?P<b>[^/]*)".toList)
      ["a", "b"] = some ["b", "a"] :=
    inTextOrder?_of_increasing (.swap "b" "a" []) (by decide +kernel) (by decide +kernel)
  have hcompile : compile "\\(?P<b>/\x7ba\x7d/\x7bb\x7d" = .ok compiled :=
    compile_eq hexpand (by decide +kernel) hordered hread rfl
  exact ⟨compiled, hcompile, by decide +kernel, rfl, by decide +kernel⟩

end RequestRouting.Template
