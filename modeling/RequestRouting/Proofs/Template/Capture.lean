import RequestRouting.Proofs.Regex.Search
import RequestRouting.Proofs.Template.Compilation
import RequestRouting.Proofs.Template.Decomposition

/-!
# What templates capture

The first way through the expressions of tokens is the greedy decomposition of the text, and its
groups open and close around the pieces of their tokens. In a choice the first alternative that
has a decomposition takes part, and only its groups do.
-/

namespace RequestRouting

namespace Regex.Onward

def ended : Onward := fun _ text => if text = [] then some ⟨[], 0⟩ else none

theorem way_endText : (Plain.seq (.anchor .endText) .empty).way finish = ended := by
  funext before text
  cases text with
  | nil => rfl
  | cons c text => rfl

end Regex.Onward

namespace Template

open RequestRouting.Regex (CharSet Mark Match Onward Plain Trace)
open RequestRouting.Regex.Reader (notSlash)

/-- Where the group of a token opens and closes around a piece, with so much text behind it. -/
def Token.marks (group : Nat) (t : Token) (piece rest : List Char) : List Mark :=
  if t.name?.isSome then [⟨group, true, (piece ++ rest).length⟩, ⟨group, false, rest.length⟩]
  else []

def marks : Nat → List Token → List (List Char) → List Mark
  | groups, t :: tokens, piece :: pieces =>
    t.marks (groups + 1) piece pieces.flatten ++ marks (groups + t.arity) tokens pieces
  | _, _, _ => []

section Ways

variable {k : Onward}

theorem readMany_eq {α : Type} {next : List Char → Option α} {f : α → Trace}
    (hk : ∀ before text, k before text = (next text).map f) (set : CharSet)
    (before : Option Char) (text : List Char) :
    Plain.readMany true set k before text = (longest set.has next text).map fun p => f p.2 := by
  induction text generalizing before with
  | nil => simp [Plain.readMany, longest, hk, Function.comp_def]
  | cons c text ih =>
    rw [Plain.readMany, longest, Regex.prefer, if_pos rfl, hk, ih]
    split
    · cases longest set.has next text <;> simp [Function.comp_def]
    · simp [Function.comp_def]

variable {tokens : List Token} {f : List (List Char) → Trace}

theorem way_group (hk : ∀ before text, k before text = (greedy tokens text).map f) (set : CharSet)
    (group : Nat) (name : Option String) (before : Option Char) (text : List Char) :
    (Plain.group group name (.seq (.many true set) .empty)).way k before text =
      (longest set.has (greedy tokens) text).map fun p =>
        ⟨⟨group, true, (p.1 ++ p.2.flatten).length⟩ :: ⟨group, false, p.2.flatten.length⟩ ::
          (f p.2).marks, (f p.2).left⟩ := by
  have hclose : ∀ before text, Onward.mark group false k before text =
      (greedy tokens text).map fun pieces =>
        (f pieces).mark ⟨group, false, pieces.flatten.length⟩ := by
    intro before text
    rw [Onward.mark, hk]
    cases h : greedy tokens text with
    | none => rfl
    | some pieces => simp only [Option.map_some, (decomposes_greedy h).joins]
  change (Plain.readMany true set (Onward.mark group false k) before text).map
    (Trace.mark ⟨group, true, text.length⟩) = _
  rw [readMany_eq hclose, Option.map_map]
  cases h : longest set.has (greedy tokens) text with
  | none => rfl
  | some p =>
    obtain ⟨rest, rfl, -, hrest, -⟩ := longest_eq_some h
    simp only [Option.map_some, Function.comp_apply, (decomposes_greedy hrest).joins]
    rfl

theorem has_notSlash : notSlash.has = (· != '/') := by
  funext c
  rw [Bool.eq_iff_iff]
  simp [notSlash, CharSet.has]

theorem has_except (d : Char) : (CharSet.except d).has = (· != d) := by
  funext c
  rw [Bool.eq_iff_iff]
  simp

/-- One token reads what it cuts off for the tokens behind it. -/
theorem way_expr (hk : ∀ before text, k before text = (greedy tokens text).map f) (t : Token)
    (group : Nat) (before : Option Char) (text : List Char) :
    (t.expr group).way k before text = (t.cut (greedy tokens) text).map fun p =>
      ⟨t.marks group p.1 p.2.flatten ++ (f p.2).marks, (f p.2).left⟩ := by
  cases t with
  | literal c =>
    cases text with
    | nil => rfl
    | cons d text =>
      change (if (CharSet.single c).has d then k (some d) text else none) = _
      rw [CharSet.has_single, hk, Token.cut]
      by_cases hd : d = c
      · simp [hd, Token.marks, Token.name?, Function.comp_def]
      · simp [hd]
  | segment name =>
    rw [Token.expr, way_group hk, has_notSlash]
    rfl
  | splat name =>
    rw [Token.expr, way_group hk, has_except]
    rfl
  | bareSplat =>
    rw [Token.expr, Plain.way_many, readMany_eq hk, has_except]
    rfl

end Ways

theorem way_exprs (groups : Nat) (tokens : List Token) (before : Option Char) (text : List Char) :
    (Plain.sequence (exprs groups tokens)).way .ended before text =
      (greedy tokens text).map fun pieces => ⟨marks groups tokens pieces, 0⟩ := by
  induction tokens generalizing groups before text with
  | nil =>
    change (if text = [] then some (⟨[], 0⟩ : Trace) else none) = _
    rw [greedy]
    split <;> rfl
  | cons t tokens ih =>
    change (t.expr (groups + 1)).way ((Plain.sequence (exprs (groups + t.arity) tokens)).way .ended)
      before text = _
    rw [way_expr (ih (groups + t.arity)), greedy, Option.map_map]
    rfl

theorem findSome?_choice_eq_none {alternatives : List (List Token)} {text : List Char}
    (h : ∀ tokens ∈ alternatives, greedy tokens text = none) (groups : Nat) :
    ((choice groups alternatives).findSome? fun p => p.way .ended none text) = none := by
  induction alternatives generalizing groups with
  | nil => rfl
  | cons tokens alternatives ih =>
    obtain ⟨htokens, halternatives⟩ := List.forall_mem_cons.1 h
    rw [choice, List.findSome?_cons, way_exprs, htokens]
    exact ih halternatives _

theorem findSome?_choice_eq_some {skipped : List (List Token)} {tokens : List Token}
    {text : List Char} {pieces : List (List Char)}
    (hskipped : ∀ other ∈ skipped, greedy other text = none)
    (hgreedy : greedy tokens text = some pieces) (groups : Nat) (others : List (List Token)) :
    ((choice groups (skipped ++ tokens :: others)).findSome? fun p => p.way .ended none text) =
      some ⟨marks (groups + (skipped.flatMap names).length) tokens pieces, 0⟩ := by
  induction skipped generalizing groups with
  | nil =>
    rw [List.nil_append, choice, List.findSome?_cons, way_exprs, hgreedy]
    rfl
  | cons other skipped ih =>
    obtain ⟨hother, hskipped⟩ := List.forall_mem_cons.1 hskipped
    rw [List.cons_append, choice, List.findSome?_cons, way_exprs, hother]
    simpa [Nat.add_assoc] using ih hskipped (groups + (names other).length)

theorem search?_choiceExpr {alternatives : List (List Token)} (hne : alternatives ≠ [])
    (text : List Char) :
    Regex.search? (choiceExpr alternatives).toRegex text =
      ((choice 0 alternatives).findSome? fun p => p.way .ended none text).map
        fun trace => ⟨text.length, trace⟩ := by
  have hchoice : choice 0 alternatives ≠ [] := by
    cases alternatives with
    | nil => exact absurd rfl hne
    | cons tokens alternatives => simp [choice]
  rw [choiceExpr, Plain.search?_anchored, ← Plain.way_alternatives hchoice, ← Onward.way_endText]
  rfl

section Groups

variable {m : Match} {index : Nat}

theorem group?_eq_none (h : ∀ k ∈ m.trace.marks, k.group ≠ index) (path : List Char) :
    m.group? path index = none := by
  have hmark : m.lastMark? index true = none := by
    rw [Match.lastMark?, Option.map_eq_none_iff, List.find?_eq_none]
    intro k hk
    simp [h k (by simpa using hk)]
  rw [Match.group?, hmark]

/-- The last opening and closing of a group decide what text it took part with. -/
theorem group?_eq_some {front behind : List Mark} {read piece rest : List Char}
    (hm : m.trace.marks = front ++ (⟨index, true, (piece ++ rest).length⟩ ::
      ⟨index, false, rest.length⟩ :: behind))
    (hbehind : ∀ k ∈ behind, k.group ≠ index) :
    m.group? (read ++ (piece ++ rest)) index = some piece := by
  have hnone : ∀ isOpening, behind.reverse.find?
      (fun k => k.group == index && k.isOpening == isOpening) = none := by
    intro isOpening
    rw [List.find?_eq_none]
    intro k hk
    simp [hbehind k (by simpa using hk)]
  have hopen : m.lastMark? index true = some (piece ++ rest).length := by
    simp only [Match.lastMark?, hm, List.reverse_append, List.reverse_cons, List.append_assoc,
      List.find?_append, hnone]
    simp
  have hclose : m.lastMark? index false = some rest.length := by
    simp only [Match.lastMark?, hm, List.reverse_append, List.reverse_cons, List.append_assoc,
      List.find?_append, hnone]
    simp
  rw [Match.group?, hopen, hclose]
  simp

end Groups

theorem group_of_mem_marks {groups : Nat} {tokens : List Token} {pieces : List (List Char)}
    {k : Mark} (hk : k ∈ marks groups tokens pieces) :
    groups < k.group ∧ k.group ≤ groups + (names tokens).length := by
  induction tokens generalizing groups pieces with
  | nil => cases hk
  | cons t tokens ih =>
    cases pieces with
    | nil => cases hk
    | cons piece pieces =>
      rw [length_names_cons]
      rcases List.mem_append.1 hk with hk | hk
      · cases hname : t.name? with
        | none => simp [Token.marks, hname] at hk
        | some name =>
          simp only [Token.marks, hname, Option.isSome_some, if_true, List.mem_cons,
            List.not_mem_nil, or_false] at hk
          rcases hk with rfl | rfl <;> simp [Token.arity, hname]
      · have := ih hk
        omega

def values (m : Match) (path : List Char) (names : List String) (groups : Nat) : Variables :=
  (names.zipIdx groups).map fun (name, i) => (name, (m.group? path (i + 1)).map String.ofList)

def unbound (names : List String) : Variables := names.map fun name => (name, none)

theorem values_append (m : Match) (path : List Char) (xs ys : List String) (groups : Nat) :
    values m path (xs ++ ys) groups =
      values m path xs groups ++ values m path ys (groups + xs.length) := by
  simp [values, List.zipIdx_append]

theorem values_eq_unbound {m : Match} {names : List String} {groups : Nat}
    (h : ∀ k ∈ m.trace.marks, k.group ≤ groups ∨ groups + names.length < k.group)
    (path : List Char) : values m path names groups = unbound names := by
  induction names generalizing groups with
  | nil => rfl
  | cons name names ih =>
    have hnone : m.group? path (groups + 1) = none := by
      refine group?_eq_none ?_ path
      intro k hk
      have := h k hk
      simp only [List.length_cons] at this
      omega
    have htail : values m path names (groups + 1) = unbound names := by
      refine ih ?_
      intro k hk
      have := h k hk
      simp only [List.length_cons] at this
      omega
    change (name, (m.group? path (groups + 1)).map String.ofList) ::
      values m path names (groups + 1) = _
    rw [hnone, htail]
    rfl

/-- The groups of a decomposition bind the names of its tokens to their pieces. -/
theorem values_eq_bindings {m : Match} {tokens : List Token} {pieces : List (List Char)}
    (hf : List.Forall₂ Token.Fits tokens pieces) {groups : Nat} {front : List Mark}
    (hm : m.trace.marks = front ++ marks groups tokens pieces) (read : List Char) :
    values m (read ++ pieces.flatten) (names tokens) groups = bindings tokens pieces := by
  induction hf generalizing groups front read with
  | nil => rfl
  | @cons t piece tokens pieces _ _ ih =>
    rw [marks, ← List.append_assoc] at hm
    have htail := ih hm (read ++ piece)
    rw [List.append_assoc, ← List.flatten_cons] at htail
    cases hname : t.name? with
    | none =>
      have harity : t.arity = 0 := by simp [Token.arity, hname]
      rw [harity, Nat.add_zero] at htail
      simpa [names, bindings, hname] using htail
    | some name =>
      have harity : t.arity = 1 := by simp [Token.arity, hname]
      have hgroup : m.group? (read ++ (piece ++ pieces.flatten)) (groups + 1) = some piece := by
        rw [Token.marks, hname, harity, List.append_assoc] at hm
        refine group?_eq_some hm ?_
        intro k hk
        have := group_of_mem_marks hk
        omega
      have hnames : names (t :: tokens) = name :: names tokens := List.filterMap_cons_some hname
      rw [harity] at htail
      rw [hnames]
      change (name,
          (m.group? (read ++ (piece ++ pieces.flatten)) (groups + 1)).map String.ofList) ::
        values m (read ++ (piece :: pieces).flatten) (names tokens) (groups + 1) = _
      rw [hgroup, htail]
      simp [bindings, hname]

end Template

end RequestRouting
