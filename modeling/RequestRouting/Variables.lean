/-!
# Variables

Names with values in a fixed order, as a path template or a query string yields them. A value may
be missing. Setting a name that is there keeps its place and replaces its value.
-/

namespace RequestRouting

abbrev Variables := List (String × Option String)

namespace Variables

def set (vars : Variables) (name : String) (value : Option String) : Variables :=
  match vars with
  | [] => [(name, value)]
  | (n, v) :: rest => if n = name then (n, value) :: rest else (n, v) :: set rest name value

def get? (vars : Variables) (name : String) : Option (Option String) := List.lookup name vars

def names (vars : Variables) : List String := vars.map (·.1)

def update (vars more : Variables) : Variables :=
  more.foldl (fun vars p => vars.set p.1 p.2) vars

theorem names_set (vars : Variables) (name : String) (value : Option String) :
    (vars.set name value).names =
      if name ∈ vars.names then vars.names else vars.names ++ [name] := by
  induction vars with
  | nil => simp [set, names]
  | cons p rest ih =>
    obtain ⟨n, v⟩ := p
    rw [set]
    simp only [names, List.map_cons, List.mem_cons] at ih ⊢
    by_cases h : n = name
    · simp [h]
    · rw [if_neg h, List.map_cons, ih]
      by_cases h' : name ∈ List.map (·.1) rest <;> simp [h', Ne.symm h]

theorem get?_cons (n key : String) (v : Option String) (rest : Variables) :
    get? ((n, v) :: rest) key = if key = n then some v else rest.get? key := by
  by_cases h : key = n
  · simp [get?, h]
  · have : (key == n) = false := by simpa using h
    simp [get?, List.lookup_cons, this, h]

theorem get?_set (vars : Variables) (name key : String) (value : Option String) :
    (vars.set name value).get? key = if key = name then some value else vars.get? key := by
  induction vars with
  | nil => rw [set, get?_cons]
  | cons p rest ih =>
    obtain ⟨n, v⟩ := p
    rw [set]
    split
    · next h => subst h; rw [get?_cons, get?_cons]; split <;> rfl
    · next h =>
      rw [get?_cons, get?_cons, ih]
      by_cases hk : key = n
      · simp [hk, h]
      · simp [hk]

end Variables

end RequestRouting
