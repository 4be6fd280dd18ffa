/-!
# Cutting texts

Cutting a text at a character, and finding a word in it. A cut returns the parts it found, so that
joining them with what was cut out gives the text back.
-/

namespace RequestRouting.Text

def cut (c : Char) : List Char → Option (List Char × List Char)
  | [] => none
  | d :: rest => if d = c then some ([], rest) else (cut c rest).map fun p => (d :: p.1, p.2)

theorem eq_of_cut {c : Char} {text : List Char} {p : List Char × List Char}
    (h : cut c text = some p) : text = p.1 ++ c :: p.2 := by
  induction text generalizing p with
  | nil => simp [cut] at h
  | cons d rest ih =>
    rw [cut] at h
    split at h
    · next hd => cases h; simp [hd]
    · obtain ⟨q, hq, rfl⟩ := Option.map_eq_some_iff.1 h
      simp [ih hq]

theorem not_mem_of_cut {c : Char} {text : List Char} {p : List Char × List Char}
    (h : cut c text = some p) : c ∉ p.1 := by
  induction text generalizing p with
  | nil => simp [cut] at h
  | cons d rest ih =>
    rw [cut] at h
    split at h
    · cases h; simp
    · next hd =>
      obtain ⟨q, hq, rfl⟩ := Option.map_eq_some_iff.1 h
      simp [ih hq, Ne.symm hd]

@[simp] theorem cut_eq_none_iff {c : Char} {text : List Char} :
    cut c text = none ↔ c ∉ text := by
  induction text with
  | nil => simp [cut]
  | cons d rest ih =>
    by_cases hd : d = c
    · simp [cut, hd]
    · simp [cut, hd, ih, Ne.symm hd]

theorem cut_append_cons {c : Char} {before : List Char} (h : c ∉ before) (after : List Char) :
    cut c (before ++ c :: after) = some (before, after) := by
  induction before with
  | nil => simp [cut]
  | cons d rest ih =>
    simp only [List.mem_cons, not_or] at h
    simp [cut, Ne.symm h.1, ih h.2]

def upTo (c : Char) (text : List Char) : List Char := ((cut c text).map (·.1)).getD text

theorem upTo_cons_of_ne {c d : Char} (h : d ≠ c) (text : List Char) :
    upTo c (d :: text) = d :: upTo c text := by
  rw [upTo, cut, if_neg h, upTo]
  cases cut c text <;> rfl

theorem upTo_append_of_not_mem {c : Char} {before : List Char} (h : c ∉ before)
    (text : List Char) : upTo c (before ++ text) = before ++ upTo c text := by
  induction before with
  | nil => rfl
  | cons d before ih =>
    simp only [List.mem_cons, not_or] at h
    rw [List.cons_append, upTo_cons_of_ne (Ne.symm h.1), ih h.2, List.cons_append]

theorem append_cons_eq_upTo (c : Char) (text rest : List Char) :
    c ∉ upTo c text ∧ ∃ behind, text ++ c :: rest = upTo c text ++ c :: behind := by
  rw [upTo]
  cases hcut : cut c text with
  | none => exact ⟨cut_eq_none_iff.1 hcut, rest, rfl⟩
  | some p => exact ⟨not_mem_of_cut hcut, p.2 ++ c :: rest, by simp [eq_of_cut hcut]⟩

def afterLast (c : Char) (text : List Char) : List Char :=
  (text.reverse.takeWhile (· != c)).reverse

def indexOf? (word : List Char) : List Char → Option Nat
  | [] => if word = [] then some 0 else none
  | c :: rest => if word.isPrefixOf (c :: rest) then some 0 else (indexOf? word rest).map (· + 1)

theorem isSome_indexOf?_iff {word text : List Char} :
    (indexOf? word text).isSome ↔ word <:+: text := by
  induction text with
  | nil =>
    rw [indexOf?, List.infix_nil]
    split
    · next h => simp [h]
    · next h => simp [h]
  | cons c rest ih =>
    rw [indexOf?, List.infix_cons_iff, ← List.isPrefixOf_iff_prefix, ← ih]
    split
    · next h => simp [h]
    · next h => simp [h]

theorem indexOf?_append_of_not_mem {c : Char} {word before : List Char} (h : c ∉ before)
    (rest : List Char) :
    indexOf? (c :: word) (before ++ rest) =
      (indexOf? (c :: word) rest).map (· + before.length) := by
  induction before with
  | nil => simp
  | cons d before ih =>
    have hd : c ≠ d := fun he => h (by simp [he])
    have hb : c ∉ before := fun hm => h (by simp [hm])
    rw [List.cons_append, indexOf?, List.isPrefixOf, beq_false_of_ne hd, ih hb]
    simp [Function.comp_def, Nat.add_assoc]

theorem indexOf?_word_append {word : List Char} (h : word ≠ []) (rest : List Char) :
    indexOf? word (word ++ rest) = some 0 := by
  cases word with
  | nil => exact absurd rfl h
  | cons c word => simp [indexOf?, List.isPrefixOf_iff_prefix]

/-- What was read between two points of a text, the second being a tail of the first. -/
def between (start rest : List Char) : List Char := start.take (start.length - rest.length)

@[simp] theorem between_append (read rest : List Char) : between (read ++ rest) rest = read := by
  simp [between]

end RequestRouting.Text
