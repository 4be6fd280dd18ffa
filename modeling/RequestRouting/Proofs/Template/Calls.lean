import RequestRouting.Proofs.Regex.Enclosed
import RequestRouting.Proofs.Template.Compilation
import RequestRouting.Proofs.Template.Memo

/-!
# Calls of a template

A template is asked time and again whether it matches a path, or what variables a path binds. Only
the second kind of question leaves something behind, one entry for each path, so a run of calls
leaves what its extractions leave. No reply shows it.
-/

namespace RequestRouting

inductive Call where
  | accepts (path : String)
  | extract (path : String)
  deriving DecidableEq, Repr

inductive Reply where
  | verdict (accepted : Bool)
  | bound (vars : Variables)
  deriving DecidableEq, Repr

def Call.extracted? : Call → Option String
  | accepts _ => none
  | extract path => some path

def extractedPaths (calls : List Call) : List String := calls.filterMap Call.extracted?

/-- The reply that a search for this call alone gives. -/
def Template.Compiled.reply (c : Template.Compiled) : Call → Reply
  | .accepts path => .verdict (c.accepts path)
  | .extract path => .bound (c.extract path)

namespace PathTemplate

def reply (t : PathTemplate) : Call → Reply × PathTemplate
  | .accepts path => (.verdict (t.accepts path), t)
  | .extract path => (.bound (t.extract path).1, (t.extract path).2)

def replies (t : PathTemplate) : List Call → List Reply
  | [] => []
  | call :: calls => (t.reply call).1 :: (t.reply call).2.replies calls

def afterCalls (t : PathTemplate) (calls : List Call) : PathTemplate :=
  calls.foldl (fun t call => (t.reply call).2) t

theorem afterCalls_append (t : PathTemplate) (calls more : List Call) :
    t.afterCalls (calls ++ more) = (t.afterCalls calls).afterCalls more := List.foldl_append

theorem afterCalls_eq_after (t : PathTemplate) (calls : List Call) :
    t.afterCalls calls = t.after (extractedPaths calls) := by
  induction calls generalizing t with
  | nil => rfl
  | cons call calls ih => cases call <;> exact ih _

theorem Faithful.reply {t : PathTemplate} (h : t.Faithful) (call : Call) :
    (t.reply call).1 = t.compiled.reply call ∧ (t.reply call).2.Faithful ∧
      (t.reply call).2.compiled = t.compiled := by
  cases call with
  | accepts path => exact ⟨rfl, h, rfl⟩
  | extract path => exact ⟨congrArg Reply.bound (extract_fst h path), h.extract path,
      compiled_extract t path⟩

theorem replies_eq_map {t : PathTemplate} (h : t.Faithful) (calls : List Call) :
    t.replies calls = calls.map t.compiled.reply := by
  induction calls generalizing t with
  | nil => rfl
  | cons call calls ih =>
    obtain ⟨hreply, hfaithful, hcompiled⟩ := h.reply call
    rw [replies, List.map_cons, hreply, ih hfaithful, hcompiled]

/-- Whatever a template was asked before, it replies as a search for this call alone does. It
remembers each path whose variables it was asked for once, and no entry changes afterwards. -/
theorem replies_transparent {source : String} {compiled : Template.Compiled}
    (h : Template.compile source = .ok compiled) :
    ∃ t, ofSource? source = .ok t ∧ ∀ calls,
      t.replies calls = calls.map compiled.reply ∧
      (∀ path, (t.afterCalls calls).reply (.accepts path) =
        (.verdict (compiled.accepts path), t.afterCalls calls)) ∧
      (t.afterCalls calls).memoSize = (extractedPaths calls).toFinset.card ∧
      (∀ more, (t.afterCalls calls).memo <+: (t.afterCalls (calls ++ more)).memo) ∧
      ∀ path,
        (((t.afterCalls calls).extract path).1 ≠ [] ↔
          compiled.accepts path = true ∧ compiled.variables ≠ []) ∧
        (((t.afterCalls calls).extract path).1 ≠ [] →
          ((t.afterCalls calls).extract path).1.names = compiled.variables ∧
            compiled.variables.Nodup) := by
  obtain ⟨t, ht, hcompiled, hmemo⟩ := exists_ofSource? h
  have hfaithful := faithful_of_memo_eq_nil hmemo
  refine ⟨t, ht, ?_⟩
  intro calls
  have hextract : ∀ path, ((t.afterCalls calls).extract path).1 = compiled.extract path := by
    intro path
    rw [afterCalls_eq_after, extract_after hfaithful, hcompiled]
  refine ⟨?_, ?_, ?_, ?_, ?_⟩
  · rw [replies_eq_map hfaithful, hcompiled]
  · intro path
    rw [reply, accepts, afterCalls_eq_after, (faithful_after hfaithful _).2, hcompiled]
  · rw [afterCalls_eq_after, memoSize_after hmemo]
  · intro more
    rw [afterCalls_append, afterCalls_eq_after (t.afterCalls calls)]
    exact memo_prefix_after _ _
  · intro path
    rw [hextract]
    refine ⟨Template.Compiled.extract_ne_nil_iff, ?_⟩
    intro hne
    have haccepts := (Template.Compiled.extract_ne_nil_iff.1 hne).1
    exact ⟨Template.Compiled.names_extract haccepts,
      (Template.compiles_of_compile h).nodup_variables⟩

/-- Alternatives of the template's own, hits and misses, and a path that is asked for twice. -/
theorem replies_transparent_mixed :
    ∃ t, ofSource? "/(?:a|b)\x7bid\x7d" = .ok t ∧
      t.replies [.extract "/bx", .accepts "/ay", .extract "x", .extract "/bx"] =
        [.bound [("id", some "x")], .verdict true, .bound [], .bound [("id", some "x")]] ∧
      (t.afterCalls [.extract "/bx", .accepts "/ay", .extract "x", .extract "/bx"]).memoSize =
        2 := by
  let segment : Regex := .seq (.repeated .zeroOrMore true (.chars Regex.Reader.notSlash)) .empty
  let regex : Regex := Regex.enclosed (Regex.sequence
    [.char '/', .alt (.seq (.char 'a') .empty) (.seq (.char 'b') .empty),
      .group 1 (some "id") segment])
  have hcompile : Template.compile "/(?:a|b)\x7bid\x7d" =
      .ok ⟨"^(?:/(?:a|b)(?P<id>[^/]*))$", regex, ["id"]⟩ := by decide +kernel
  obtain ⟨t, ht, h⟩ := replies_transparent hcompile
  obtain ⟨hreplies, -, hsize, -⟩ :=
    h [.extract "/bx", .accepts "/ay", .extract "x", .extract "/bx"]
  exact ⟨t, ht, hreplies.trans (by decide +kernel), hsize.trans (by decide +kernel)⟩

end PathTemplate

end RequestRouting
