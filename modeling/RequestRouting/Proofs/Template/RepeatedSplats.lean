import RequestRouting.Proofs.Template.SegmentSplat
import RequestRouting.Proofs.Template.Matching

/-!
# Bare splats in a row

The star of a replacement is read again, together with the star behind it. Of a run of stars only
the last one is left, with a dot in front of it for every star before that. So a run of splats asks
for two characters more with every splat behind the first.
-/

namespace RequestRouting.Template

open RequestRouting.Regex (CharSet Onward Plain Reader closing)
open RequestRouting.Regex.Reader (Reaches)

def splatsSource (front behind : String) (count : Nat) : String :=
  front ++ String.join (List.replicate count "**") ++ behind

theorem splatsSource_toList (front behind : String) (count : Nat) :
    (splatsSource front behind count).toList =
      front.toList ++ (List.replicate (2 * count) '*' ++ behind.toList) := by
  have hstars : (String.join (List.replicate count "**")).toList =
      List.replicate (2 * count) '*' := by
    induction count with
    | zero => simp
    | succ count ih =>
      rw [List.replicate_succ, String.join_cons, String.toList_append, ih, Nat.mul_succ,
        Nat.add_comm, List.replicate_add]
      rfl
  rw [splatsSource, String.toList_append, String.toList_append, hstars, List.append_assoc]

section Expansion

/-- A run of stars gets one star shorter with every replacement, and a dot comes in front of it. -/
theorem replaceAll_stars {front behind : List Char} (hfront : '*' ∉ front) (hbehind : '*' ∉ behind)
    {stars n : Nat} (hn : stars ≤ n) :
    (replaceAll findSplat? (fun _ => splatText) n
      (front ++ (List.replicate (stars + 1) '*' ++ behind))).1 =
      front ++ (List.replicate stars '.' ++ '*' :: behind) := by
  induction stars generalizing front n with
  | zero =>
    have hcount : (front ++ '*' :: behind).count '*' ≤ 1 := by
      simp [List.count_append, List.count_eq_zero_of_not_mem, hfront, hbehind]
    have hdone : replaceAll findSplat? (fun _ => splatText) n _ = (_, []) :=
      replaceAll_of_none (findSplat?_eq_none_of_count hcount) n
    exact congrArg Prod.fst hdone
  | succ stars ih =>
    obtain ⟨n, rfl⟩ := Nat.exists_eq_add_one.2 (Nat.lt_of_lt_of_le (Nat.succ_pos stars) hn)
    have hfind : findSplat? (front ++ (List.replicate (stars + 2) '*' ++ behind)) =
        some ⟨front, (), List.replicate stars '*' ++ behind⟩ := by
      rw [findSplat?_append _ (.of_not_mem hfront)]
      simp [List.replicate_succ, findSplat?, List.isPrefixOf?]
    -- the dot goes to the text in front, and the star with it is the first of a shorter run
    have hdot : '*' ∉ front ++ ['.'] := by simp [hfront]
    have hmore := ih hdot (Nat.le_of_succ_le_succ hn)
    rw [replaceAll, hfind]
    simpa [splatText, List.replicate_succ] using hmore

/-- The text that is left of a run of so many splats and one more. -/
theorem expand_splats {front behind : String} (hfront : IsLiteral front.toList)
    (hbehind : IsLiteral behind.toList) (more : Nat) :
    expand (splatsSource front behind (more + 1)).toList =
      (front.toList ++ (List.replicate (2 * more) '.' ++ (splatText ++ behind.toList)), []) := by
  have hstars : '*' ∉ front.toList ∧ '*' ∉ behind.toList :=
    ⟨hfront.not_mem (by decide), hbehind.not_mem (by decide)⟩
  have hopen : '\x7b' ∉ (splatsSource front behind (more + 1)).toList := by
    have hbraces : '\x7b' ∉ front.toList ∧ '\x7b' ∉ behind.toList :=
      ⟨hfront.not_mem (by decide), hbehind.not_mem (by decide)⟩
    simp [splatsSource_toList, hbraces]
  have hsplats : splatVariables _ = (_, []) :=
    replaceAll_of_none (findVariable?_eq_none (.of_not_mem hopen)) _
  have hsegments : segmentVariables _ = (_, []) :=
    replaceAll_of_none (findVariable?_eq_none (.of_not_mem hopen)) _
  have hbare : (bareSplats (splatsSource front behind (more + 1)).toList).1 =
      front.toList ++ (List.replicate (2 * more + 1) '.' ++ '*' :: behind.toList) := by
    rw [bareSplats, splatsSource_toList]
    have hfuel : 2 * more + 1 ≤ (front.toList ++
        (List.replicate (2 * (more + 1)) '*' ++ behind.toList)).count '*' := by
      simp only [List.count_append, List.count_replicate_self]
      omega
    exact replaceAll_stars hstars.1 hstars.2 hfuel
  rw [expand, hsplats]
  simp only [hsegments, hbare, List.replicate_add, List.append_assoc]
  rfl

end Expansion

section Reading

def notNewline : CharSet := .except '\n'

/-- Wherever the text stands in a pattern, it is read as these items and opens no group. -/
structure ReadsAs (text : List Char) (items : List Regex) : Prop where
  head : text.head? ≠ some '?'
  reach : ∀ {rest : List Char}, rest.head? ≠ some '?' → ∀ (pattern : List Char) {s : Reader},
    s.flags = {} → ∃ k operator, k ≤ text.length ∧
      Reaches pattern k s (text ++ rest) (s.add items 0 operator) rest

namespace ReadsAs

variable {text more : List Char} {items moreItems : List Regex}

theorem nil : ReadsAs [] [] where
  head := by simp
  reach := fun _ pattern s _ => ⟨0, s.repetition, Nat.le_refl 0, .refl pattern s _⟩

theorem append (h : ReadsAs text items) (h' : ReadsAs more moreItems) :
    ReadsAs (text ++ more) (items ++ moreItems) where
  head := by
    cases text with
    | nil => exact h'.head
    | cons c text => exact h.head
  reach := by
    intro rest hrest pattern s hs
    have hmore : (more ++ rest).head? ≠ some '?' := by
      cases more with
      | nil => exact hrest
      | cons c more => exact h'.head
    obtain ⟨k, operator, hk, hfirst⟩ := h.reach hmore pattern hs
    let s' := s.add items 0 operator
    have hs' : s'.flags = {} := hs
    obtain ⟨l, operator', hl, hsecond⟩ := h'.reach hrest pattern hs'
    have hboth := hfirst.trans hsecond
    rw [Reader.add_add, ← List.append_assoc] at hboth
    exact ⟨k + l, operator', by rw [List.length_append]; omega, hboth⟩

theorem literal (h : IsLiteral text) : ReadsAs text (text.map fun c => .chars (.single c)) where
  head := by
    cases text with
    | nil => simp
    | cons c text =>
      have hc := (List.forall_mem_cons.1 h).1
      rw [List.head?_cons, ne_eq, Option.some.injEq]
      rintro rfl
      exact hc (by decide)
  reach := fun hrest pattern _ hs => reaches_literalText h hrest pattern hs

theorem dot : ReadsAs ['.'] [.chars notNewline] where
  head := by decide
  reach := by
    intro rest _ pattern s hs
    have hstep := Reader.step_dot pattern s rest
    rw [hs] at hstep
    exact ⟨1, [], Nat.le_refl 1, .of_step hstep⟩

theorem dots (n : Nat) : ReadsAs (List.replicate n '.') (List.replicate n (.chars notNewline)) := by
  induction n with
  | zero => exact nil
  | succ n ih => exact dot.append ih

theorem bareSplat : ReadsAs splatText [(Plain.many true notNewline).toRegex] where
  head := by decide
  reach := by
    intro rest hrest pattern s hs
    have hplain : Token.bareSplat.IsPlain := ⟨by simp [Token.literal?], by simp [Token.name?]⟩
    exact reaches_token hplain hrest pattern hs

/-- Between the anchors the items stand in a row. -/
theorem read_anchored {body : List Char} {items : List Regex} (h : ReadsAs body items) :
    Regex.read (anchored body) = .ok (Regex.enclosed (Regex.sequence items)) := by
  have hclosing : closing.head? ≠ some '?' := by decide
  have hflags : (({} : Reader).within anchorGroup).flags = {} := rfl
  obtain ⟨k, operator, hk, hbody⟩ := h.reach hclosing (anchored body) hflags
  let t := ({} : Reader).add items 0 operator
  have ht : t.openGroups = [] := rfl
  obtain ⟨s, hclose, hs, hregex⟩ := reaches_closing (anchored body) ht
  have hbegin := reaches_anchorGroup (anchored body) body
  have hlength : 2 + k + 2 ≤ (anchored body).length := by
    simp only [anchored, List.length_append, List.length_cons]
    omega
  have hitems : t.branches.toRegex = Regex.sequence items := by
    simp [t, Reader.add, Regex.Branches.toRegex, Regex.Branches.nextAlternative, Regex.alternatives]
  rw [Regex.read_of_reaches ((hbegin.trans hbody).trans hclose) hlength, if_pos hs, hregex, hitems]

end ReadsAs

/-- What so many dots in front of a bare splat read as, with literal text around them. -/
def splatsExprs (front behind : List Char) (dots : Nat) : List Plain :=
  (front.map fun c => .chars (.single c)) ++
    (List.replicate dots (.chars notNewline) ++ exprs 0 (.bareSplat :: literalText behind))

def splatsExpr (front behind : List Char) (dots : Nat) : Plain :=
  .anchored (.seq (.sequence (splatsExprs front behind dots)) (.seq (.anchor .endText) .empty))

theorem exprs_bareSplat_literalText (behind : List Char) :
    exprs 0 (.bareSplat :: literalText behind) =
      .many true notNewline :: behind.map fun c => .chars (.single c) :=
  congrArg (Plain.many true notNewline :: ·) (exprs_literalText 0 behind)

theorem read_splats {front behind : List Char} (hfront : IsLiteral front)
    (hbehind : IsLiteral behind) (dots : Nat) :
    Regex.read (anchored (front ++ (List.replicate dots '.' ++ (splatText ++ behind)))) =
      .ok (splatsExpr front behind dots).toRegex := by
  have hregex : (splatsExpr front behind dots).toRegex =
      Regex.enclosed (Plain.sequence (splatsExprs front behind dots)).toRegex := rfl
  have hbody := (ReadsAs.literal hfront).append
    ((ReadsAs.dots dots).append (ReadsAs.bareSplat.append (.literal hbehind)))
  rw [hbody.read_anchored, hregex, Plain.toRegex_sequence, splatsExprs,
    exprs_bareSplat_literalText]
  simp [Plain.toRegex, Function.comp_def]

theorem groupNames_splatsExpr (front behind : List Char) (dots : Nat) :
    (splatsExpr front behind dots).toRegex.groupNames = [] := by
  have hexprs : (Plain.sequence (splatsExprs front behind dots)).toRegex.groupNames = [] := by
    rw [Plain.groupNames_sequence, splatsExprs, exprs_bareSplat_literalText]
    simp [Plain.toRegex, Regex.groupNames]
  simp [splatsExpr, Plain.anchored, Plain.toRegex, Regex.groupNames, hexprs]

end Reading

section Matching

variable {k : Onward} {ps : List Plain} {P : List Char → Prop}

theorem isSome_way_chars_cons
    (h : ∀ before text, ((Plain.sequence ps).way k before text).isSome ↔ P text) (set : CharSet)
    (before : Option Char) (text : List Char) :
    ((Plain.sequence (.chars set :: ps)).way k before text).isSome ↔
      ∃ c rest, text = c :: rest ∧ set.has c ∧ P rest := by
  change (Plain.readOne set ((Plain.sequence ps).way k) before text).isSome ↔ _
  cases text with
  | nil => simp [Plain.readOne]
  | cons c rest =>
    rw [Plain.readOne]
    split
    · next hc => simp [h, hc]
    · next hc => simp [hc]

theorem isSome_way_literal_append
    (h : ∀ before text, ((Plain.sequence ps).way k before text).isSome ↔ P text)
    (front : List Char) (before : Option Char) (text : List Char) :
    ((Plain.sequence ((front.map fun c => .chars (.single c)) ++ ps)).way k before text).isSome ↔
      ∃ rest, text = front ++ rest ∧ P rest := by
  induction front generalizing before text with
  | nil => simp [h]
  | cons c front ih =>
    rw [List.map_cons, List.cons_append, isSome_way_chars_cons ih]
    constructor
    · rintro ⟨d, _, rfl, hd, rest, rfl, hrest⟩
      obtain rfl : d = c := by simpa using hd
      exact ⟨rest, rfl, hrest⟩
    · rintro ⟨rest, rfl, hrest⟩
      exact ⟨c, front ++ rest, rfl, by simp, rest, rfl, hrest⟩

theorem isSome_way_dots_append
    (h : ∀ before text, ((Plain.sequence ps).way k before text).isSome ↔ P text)
    (dots : Nat) (before : Option Char) (text : List Char) :
    ((Plain.sequence (List.replicate dots (.chars notNewline) ++ ps)).way k before text).isSome ↔
      ∃ piece rest, text = piece ++ rest ∧ piece.length = dots ∧ '\n' ∉ piece ∧ P rest := by
  induction dots generalizing before text with
  | zero => simp [h]
  | succ dots ih =>
    rw [List.replicate_succ, List.cons_append, isSome_way_chars_cons ih]
    constructor
    · rintro ⟨c, _, rfl, hc, piece, rest, rfl, hlength, hpiece, hrest⟩
      have hline : '\n' ≠ c := by
        rintro rfl
        cases hc
      exact ⟨c :: piece, rest, rfl, by rw [List.length_cons, hlength],
        List.not_mem_cons_of_ne_of_not_mem hline hpiece, hrest⟩
    · rintro ⟨piece, rest, rfl, hlength, hpiece, hrest⟩
      obtain ⟨c, piece, rfl⟩ := List.exists_cons_of_length_eq_add_one hlength
      obtain ⟨hc, hpiece⟩ := not_or.1 (mt List.mem_cons.2 hpiece)
      exact ⟨c, piece ++ rest, rfl, by simpa [notNewline] using Ne.symm hc, piece, rest, rfl,
        Nat.succ.inj hlength, hpiece, hrest⟩

theorem isSome_search?_splats {front behind : List Char} {dots : Nat} {path : List Char} :
    (Regex.search? (splatsExpr front behind dots).toRegex path).isSome ↔
      ∃ rest, path = front ++ (rest ++ behind) ∧ '\n' ∉ rest ∧ dots ≤ rest.length := by
  let splat := Plain.sequence (exprs 0 (.bareSplat :: literalText behind))
  have hsplat : ∀ before text, (splat.way .ended before text).isSome ↔
      ∃ piece, text = piece ++ behind ∧ '\n' ∉ piece := by
    intro before text
    rw [way_exprs, Option.isSome_map, greedy_bareSplat_literalText]
  have hway := isSome_way_literal_append (isSome_way_dots_append hsplat dots) front none path
  rw [← Onward.way_endText] at hway
  rw [splatsExpr, Plain.search?_anchored, Option.isSome_map]
  refine hway.trans ?_
  constructor
  · rintro ⟨_, rfl, piece, _, rfl, rfl, hpiece, more, rfl, hmore⟩
    exact ⟨piece ++ more, by simp, by simp [hpiece, hmore], by simp⟩
  · rintro ⟨rest, rfl, hrest, hlength⟩
    refine ⟨_, rfl, rest.take dots, rest.drop dots ++ behind, ?_, by simpa, ?_, _, rfl, ?_⟩
    · rw [← List.append_assoc, List.take_append_drop]
    · exact fun hline => hrest (List.mem_of_mem_take hline)
    · exact fun hline => hrest (List.mem_of_mem_drop hline)

end Matching

section Splats

variable {front behind : String}

def compiledSplats (front behind : String) (more : Nat) : Compiled :=
  ⟨String.ofList (anchored (front.toList ++
      (List.replicate (2 * more) '.' ++ (splatText ++ behind.toList)))),
    (splatsExpr front.toList behind.toList (2 * more)).toRegex, []⟩

theorem compile_splats (hfront : IsLiteral front.toList) (hbehind : IsLiteral behind.toList)
    (more : Nat) :
    compile (splatsSource front behind (more + 1)) = .ok (compiledSplats front behind more) := by
  have hordered : ∀ text, inTextOrder? text [] = some [] := by simp [inTextOrder?]
  have hgroups := groupNames_splatsExpr front.toList behind.toList (2 * more)
  exact compile_eq (expand_splats hfront hbehind more) List.nodup_nil (hordered _)
    (read_splats hfront hbehind _) (congrArg List.length hgroups)

theorem accepts_compiledSplats (more : Nat) (path : String) :
    (compiledSplats front behind more).accepts path = true ↔
      ∃ rest, path = front ++ rest ++ behind ∧ '\n' ∉ rest.toList ∧ 2 * more ≤ rest.length := by
  change (Regex.search? (splatsExpr front.toList behind.toList (2 * more)).toRegex
    path.toList).isSome ↔ _
  rw [isSome_search?_splats]
  constructor
  · rintro ⟨rest, hpath, hrest, hlength⟩
    refine ⟨String.ofList rest, ?_, by simpa, by simpa⟩
    rw [← String.toList_inj]
    simpa using hpath
  · rintro ⟨rest, rfl, hrest, hlength⟩
    exact ⟨rest.toList, by simp, hrest, by simpa⟩

/-- A run of splats stands for the rest of a path with as many characters at least as it has stars
behind the first two. -/
theorem exists_splats (hfront : IsLiteral front.toList) (hbehind : IsLiteral behind.toList)
    (more : Nat) :
    ∃ t, PathTemplate.ofSource? (splatsSource front behind (more + 1)) = .ok t ∧
      t.variables = [] ∧ ∀ path, t.accepts path = true ↔
        ∃ rest, path = front ++ rest ++ behind ∧ '\n' ∉ rest.toList ∧ 2 * more ≤ rest.length := by
  obtain ⟨t, ht, hcompiled, -⟩ := PathTemplate.exists_ofSource? (compile_splats hfront hbehind more)
  refine ⟨t, ht, by rw [PathTemplate.variables, hcompiled]; rfl, ?_⟩
  intro path
  rw [PathTemplate.accepts, hcompiled]
  exact accepts_compiledSplats more path

theorem splatsSource_one (front behind : String) :
    splatsSource front behind 1 = front ++ "**" ++ behind := by
  simp [splatsSource]

end Splats

/-- Repeated splats match what one splat matches, if the path is long enough: each one behind the
first asks for two characters of the rest. -/
theorem accepts_repeated_splats {front behind : String} (hfront : IsLiteral front.toList)
    (hbehind : IsLiteral behind.toList) {count : Nat} (hcount : 0 < count) :
    ∃ once repeated, PathTemplate.ofSource? (front ++ "**" ++ behind) = .ok once ∧
      PathTemplate.ofSource? (splatsSource front behind count) = .ok repeated ∧
      once.variables = [] ∧ repeated.variables = [] ∧
      (∀ path, once.accepts path = true ↔
        ∃ rest, path = front ++ rest ++ behind ∧ '\n' ∉ rest.toList) ∧
      ∀ path, repeated.accepts path = true ↔ once.accepts path = true ∧
        front.length + 2 * (count - 1) + behind.length ≤ path.length := by
  obtain ⟨more, rfl⟩ := Nat.exists_eq_add_one.2 hcount
  obtain ⟨once, honce, hnames, haccepts⟩ := exists_splats hfront hbehind 0
  obtain ⟨repeated, hrepeated, hnames', haccepts'⟩ := exists_splats hfront hbehind more
  rw [Nat.zero_add, splatsSource_one] at honce
  refine ⟨once, repeated, honce, hrepeated, hnames, hnames', by simpa using haccepts, ?_⟩
  intro path
  rw [haccepts, haccepts', Nat.add_sub_cancel]
  constructor
  · rintro ⟨rest, rfl, hrest, hlength⟩
    refine ⟨⟨rest, rfl, hrest, Nat.zero_le _⟩, ?_⟩
    simp only [String.length_append]
    omega
  · rintro ⟨⟨rest, rfl, hrest, -⟩, hlength⟩
    refine ⟨rest, rfl, hrest, ?_⟩
    simp only [String.length_append] at hlength
    omega

theorem accepts_repeated_splats_twice :
    ∃ once repeated, PathTemplate.ofSource? "/**" = .ok once ∧
      PathTemplate.ofSource? "/****" = .ok repeated ∧ once.accepts "/" = true ∧
      repeated.accepts "/" = false ∧ repeated.accepts "/ab" = true := by
  obtain ⟨once, repeated, honce, hrepeated, -, -, haccepts, hlonger⟩ :=
    @accepts_repeated_splats "/" "" (by decide +kernel) (by decide +kernel) 2 (by decide)
  have hshort : once.accepts "/" = true := (haccepts "/").2 ⟨"", by decide +kernel, by decide⟩
  have hlong : once.accepts "/ab" = true :=
    (haccepts "/ab").2 ⟨"ab", by decide +kernel, by decide⟩
  refine ⟨once, repeated, honce, hrepeated, hshort, ?_, (hlonger "/ab").2 ⟨hlong, by decide⟩⟩
  rw [← Bool.not_eq_true, hlonger]
  rintro ⟨-, hlength⟩
  exact absurd hlength (by decide)

/-- A second splat is not harmless: it takes the shortest paths away. -/
theorem repeated_splats_not_harmless :
    ¬ ∀ (front behind : String) (count : Nat), IsLiteral front.toList → IsLiteral behind.toList →
      0 < count →
      ∃ once repeated, PathTemplate.ofSource? (front ++ "**" ++ behind) = .ok once ∧
        PathTemplate.ofSource? (splatsSource front behind count) = .ok repeated ∧
        ∀ path, repeated.accepts path = once.accepts path := by
  intro h
  have hfront : IsLiteral "/".toList := by decide +kernel
  have hbehind : IsLiteral "".toList := by decide +kernel
  obtain ⟨once, repeated, honce, hrepeated, hsame⟩ := h "/" "" 2 hfront hbehind (by decide)
  obtain ⟨once', honce', -, haccepts⟩ := exists_splats hfront hbehind 0
  obtain ⟨repeated', hrepeated', -, haccepts'⟩ := exists_splats hfront hbehind 1
  rw [Nat.zero_add, splatsSource_one, honce] at honce'
  cases honce'
  cases hrepeated.symm.trans hrepeated'
  have hslash : once.accepts "/" = true :=
    (haccepts "/").2 ⟨"", by decide +kernel, by decide, Nat.zero_le _⟩
  rw [← hsame, haccepts'] at hslash
  obtain ⟨rest, hpath, -, hlength⟩ := hslash
  have hshort := congrArg String.length hpath
  simp only [String.length_append] at hshort
  have : "/".length = 1 := by decide +kernel
  omega

end RequestRouting.Template
