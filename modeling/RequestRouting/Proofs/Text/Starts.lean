import Mathlib.Data.List.Infix

/-!
# Starts of texts

A start that a text may have is dropped from it. Whether the text has it is decided in front of any
character that the start has not.
-/

namespace RequestRouting.Text

@[simp] theorem isPrefixOf?_append (start text : List Char) :
    start.isPrefixOf? (start ++ text) = some text :=
  List.isPrefixOf?_eq_some_iff_append_eq.2 rfl

theorem isPrefixOf?_eq_none_of_head {c : Char} {start text : List Char} (h : text.head? ≠ some c) :
    (c :: start).isPrefixOf? text = none := by
  cases text with
  | nil => rfl
  | cons d text =>
    have hd : c ≠ d := fun he => h (by simp [he])
    rw [List.isPrefixOf?, beq_false_of_ne hd]
    rfl

theorem isPrefixOf?_append_cons {c : Char} {start : List Char} (hc : c ∉ start)
    (text rest : List Char) :
    start.isPrefixOf? (text ++ c :: rest) = (start.isPrefixOf? text).map (· ++ c :: rest) := by
  induction start generalizing text with
  | nil => rfl
  | cons d start ih =>
    obtain ⟨hd, hc⟩ := not_or.1 (mt List.mem_cons.2 hc)
    cases text with
    | nil => simp [List.isPrefixOf?, Ne.symm hd]
    | cons e text =>
      rw [List.cons_append, List.isPrefixOf?, List.isPrefixOf?]
      split
      · exact ih hc text
      · rfl

end RequestRouting.Text
