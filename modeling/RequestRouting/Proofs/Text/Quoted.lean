import Mathlib.Algebra.Group.Nat.Defs
import RequestRouting.Character.Category
import RequestRouting.Text.Quoted

/-!
# Reading quoted texts

The front of a quoted text tells which character it stands for, written out or escaped, and no
escape begins with the quote. So a quoted text tells where it ends, and what was quoted can be told
from it whatever follows.
-/

namespace RequestRouting.Text

open RequestRouting.Character (hexValue)

section Digits

def hexNumber (digits : List Char) : Nat := digits.foldl (fun n d => 16 * n + hexValue d) 0

theorem hexNumber_concat (digits : List Char) (d : Char) :
    hexNumber (digits ++ [d]) = 16 * hexNumber digits + hexValue d := by
  simp [hexNumber]

theorem hexValue_digitChar : ∀ n < 16, hexValue (Nat.digitChar n) = n := by decide

theorem length_hexDigits (width n : Nat) : (hexDigits width n).length = width := by
  induction width generalizing n with
  | zero => rfl
  | succ width ih => rw [hexDigits, List.length_append, ih, List.length_singleton]

theorem hexNumber_hexDigits (width n : Nat) : hexNumber (hexDigits width n) = n % 16 ^ width := by
  induction width generalizing n with
  | zero => exact (Nat.mod_one n).symm
  | succ width ih =>
    have hdigit := hexValue_digitChar (n % 16) (Nat.mod_lt n (by decide))
    rw [hexDigits, hexNumber_concat, ih, hdigit, Nat.pow_succ', Nat.mod_mul]
    omega

end Digits

def readNumber (width : Nat) (text : List Char) : Char × List Char :=
  (Char.ofNat (hexNumber (text.take width)), text.drop width)

def readMarked (mark : Char) (rest : List Char) : Char × List Char :=
  match mark with
  | 'n' => ('\n', rest)
  | 'r' => ('\r', rest)
  | 't' => ('\t', rest)
  | 'x' => readNumber 2 rest
  | 'u' => readNumber 4 rest
  | 'U' => readNumber 8 rest
  | _ => (mark, rest)

/-- The character at the front of what stands between quotes, and what follows it. -/
def readQuotedChar? : List Char → Option (Char × List Char)
  | [] => none
  | c :: rest =>
    if c = '\\' then rest.head?.map fun mark => readMarked mark rest.tail else some (c, rest)

/-- A backslash, a mark and what belongs to it are read as the character, whatever follows. -/
def Escapes (escape : List Char) (c : Char) : Prop :=
  ∃ mark tail, escape = '\\' :: mark :: tail ∧ ∀ rest, readMarked mark (tail ++ rest) = (c, rest)

theorem readNumber_hexDigits {width n : Nat} (h : n < 16 ^ width) (rest : List Char) :
    readNumber width (hexDigits width n ++ rest) = (Char.ofNat n, rest) := by
  rw [readNumber, List.take_left' (length_hexDigits width n),
    List.drop_left' (length_hexDigits width n), hexNumber_hexDigits, Nat.mod_eq_of_lt h]

theorem escapes_numericEscape {n : Nat} (h : n < 0x110000) :
    Escapes (numericEscape n) (Char.ofNat n) := by
  rw [numericEscape]
  split
  · next hn => exact ⟨'x', hexDigits 2 n, rfl, readNumber_hexDigits hn⟩
  · split
    · next hn => exact ⟨'u', hexDigits 4 n, rfl, readNumber_hexDigits hn⟩
    · exact ⟨'U', hexDigits 8 n, rfl, readNumber_hexDigits (Nat.lt_trans h (by decide))⟩

theorem toNat_lt (c : Char) : c.toNat < 0x110000 := by
  rcases c.valid with h | ⟨-, h⟩
  · exact Nat.lt_trans h (by decide)
  · exact h

section Characters

variable {quote : Char} (hquote : quote = '\x22' ∨ quote = '\x27') (c : Char)

include hquote

theorem escapes_commonEscape {escape : List Char} (h : commonEscape? quote c = some escape) :
    Escapes escape c := by
  unfold commonEscape? at h
  split at h
  · next hc =>
    cases h
    refine ⟨c, [], rfl, ?_⟩
    intro rest
    rcases hc with rfl | rfl
    · rfl
    · rcases hquote with rfl | rfl <;> rfl
  · split at h
    · cases h
      exact ⟨'n', [], rfl, fun _ => rfl⟩
    · cases h
      exact ⟨'r', [], rfl, fun _ => rfl⟩
    · cases h
      exact ⟨'t', [], rfl, fun _ => rfl⟩
    · cases h

theorem escapeChar_cases :
    (escapeChar quote c = [c] ∧ c ≠ '\\' ∧ c ≠ quote) ∨ Escapes (escapeChar quote c) c := by
  rw [escapeChar]
  split
  · next escape hescape => exact .inr (escapes_commonEscape hquote c hescape)
  · next hnone =>
    have hc : ¬ (c = '\\' ∨ c = quote) := by
      intro hc
      unfold commonEscape? at hnone
      cases (if_pos hc).symm.trans hnone
    have hself : [c] = [c] ∧ c ≠ '\\' ∧ c ≠ quote := ⟨rfl, not_or.1 hc⟩
    split
    · exact .inl hself
    · split
      · exact .inl hself
      · have hnumber := escapes_numericEscape (toNat_lt c)
        rw [Char.ofNat_toNat] at hnumber
        exact .inr hnumber

theorem readQuotedChar?_escapeChar (rest : List Char) :
    readQuotedChar? (escapeChar quote c ++ rest) = some (c, rest) := by
  rcases escapeChar_cases hquote c with ⟨hself, hc, -⟩ | ⟨mark, tail, hescape, hread⟩
  · rw [hself]
    exact if_neg hc
  · rw [hescape]
    exact congrArg some (hread rest)

theorem escapeChar_append_ne (rest after : List Char) :
    escapeChar quote c ++ rest ≠ quote :: after := by
  intro h
  rcases escapeChar_cases hquote c with ⟨hself, -, hc⟩ | ⟨mark, tail, hescape, -⟩
  · rw [hself] at h
    exact hc (List.cons_eq_cons.1 h).1
  · rw [hescape] at h
    have hslash := (List.cons_eq_cons.1 h).1
    rcases hquote with rfl | rfl <;> cases hslash

/-- The quote ends what was quoted, and each character is told from the front. -/
theorem eq_of_escaped {s t rest after : List Char}
    (h : s.flatMap (escapeChar quote) ++ quote :: rest =
      t.flatMap (escapeChar quote) ++ quote :: after) : s = t ∧ rest = after := by
  induction s generalizing t with
  | nil =>
    cases t with
    | nil => exact ⟨rfl, List.tail_eq_of_cons_eq h⟩
    | cons d t =>
      rw [List.flatMap_cons, List.append_assoc] at h
      exact absurd h.symm (escapeChar_append_ne hquote _ _ _)
  | cons c s ih =>
    rw [List.flatMap_cons, List.append_assoc] at h
    cases t with
    | nil => exact absurd h (escapeChar_append_ne hquote _ _ _)
    | cons d t =>
      rw [List.flatMap_cons, List.append_assoc] at h
      have hread := congrArg readQuotedChar? h
      rw [readQuotedChar?_escapeChar hquote, readQuotedChar?_escapeChar hquote] at hread
      obtain ⟨rfl, hrest⟩ := Prod.mk.inj (Option.some.inj hread)
      obtain ⟨rfl, hafter⟩ := ih hrest
      exact ⟨rfl, hafter⟩

end Characters

section Quoted

variable {rest after : List Char}

theorem quoted_append_inj {s t : List Char} :
    quoted s ++ rest = quoted t ++ after ↔ s = t ∧ rest = after := by
  constructor
  · intro h
    simp only [quoted, List.cons_append, List.append_assoc, List.nil_append] at h
    obtain ⟨hquote, hbody⟩ := List.cons_eq_cons.1 h
    rw [← hquote] at hbody
    exact eq_of_escaped (quoteFor_eq s) hbody
  · rintro ⟨rfl, rfl⟩
    rfl

theorem quote_append_inj {s t : String} :
    (quote s).toList ++ rest = (quote t).toList ++ after ↔ s = t ∧ rest = after := by
  rw [quote, quote, String.toList_ofList, String.toList_ofList, quoted_append_inj,
    String.toList_inj]

theorem quote_append_ne_none (s : String) :
    (quote s).toList ++ rest ≠ "None".toList ++ after := by
  intro h
  have hhead := congrArg List.head? h
  rw [List.head?_append, head?_quote] at hhead
  rcases quoteFor_eq s.toList with hquote | hquote <;> simp [hquote] at hhead

theorem quote?_append_inj {s t : Option String} :
    (quote? s).toList ++ rest = (quote? t).toList ++ after ↔ s = t ∧ rest = after := by
  cases s with
  | none =>
    cases t with
    | none => rw [List.append_cancel_left_eq, eq_self, true_and]
    | some t => exact iff_of_false (quote_append_ne_none t).symm (by simp)
  | some s =>
    cases t with
    | none => exact iff_of_false (quote_append_ne_none s) (by simp)
    | some t => rw [quote?, quote?, quote_append_inj, Option.some.injEq]

end Quoted

end RequestRouting.Text
