import SqlIdentifier.FileTree

namespace SqlIdentifier.FileTree

/-- A name that a path can only mean as such: it is not empty, it leads neither to its own directory
nor out of it, and it holds no slash. -/
def IsPlainName (name : String) : Prop :=
  name ∉ ["", ".", ".."] ∧ '/' ∉ name.toList

instance (name : String) : Decidable (IsPlainName name) :=
  inferInstanceAs (Decidable (_ ∧ _))

theorem names_append_slash (front : String) {name : String} (noSlash : '/' ∉ name.toList) :
    names (front ++ "/" ++ name) = names front ++ [name] := by
  have last := List.splitOn_eq_singleton noSlash
  have slash : "/".toList = ['/'] := rfl
  simp [names, slash, List.splitOn_append_cons_self, last]

theorem names_absolute {way : List String} (nonempty : way ≠ [])
    (noSlash : ∀ name ∈ way, '/' ∉ name.toList) :
    names ("/" ++ "/".intercalate way) = "" :: way := by
  have slash : "/".toList = ['/'] := rfl
  have parts : (['/'].intercalate (way.map String.toList)).splitOn '/' = way.map String.toList :=
    List.splitOn_intercalate '/' (by simpa using noSlash) (by simpa using nonempty)
  simp [names, slash, String.toList_intercalate, List.splitOn_cons_eq_if_modifyHead, parts,
    Function.comp_def]

section Way

variable {tree : FileTree} {way later : List String} {name : String}

theorem step?_of_plain (plain : IsPlainName name) (enters : tree.find way = .directory) :
    tree.step? way name = some (way ++ [name]) := by
  obtain ⟨proper, _⟩ := plain
  simp only [List.mem_cons, List.not_mem_nil, or_false, not_or] at proper
  simp [step?, enters, proper]

/-- Plain names are followed as long as there are directories before them. -/
theorem foldlM_step?_of_plain (plain : ∀ name ∈ later, IsPlainName name)
    (enters : ∀ n < later.length, tree.find (way ++ later.take n) = .directory) :
    later.foldlM tree.step? way = some (way ++ later) := by
  induction later generalizing way with
  | nil => simp
  | cons name later ih =>
    obtain ⟨isPlain, others⟩ := List.forall_mem_cons.mp plain
    have here : tree.find way = .directory := by simpa using enters 0 (Nat.zero_lt_succ _)
    have rest : later.foldlM tree.step? (way ++ [name]) = some (way ++ [name] ++ later) := by
      refine ih others fun n inside => ?_
      simpa using enters (n + 1) (Nat.succ_lt_succ inside)
    rw [List.foldlM_cons, step?_of_plain isPlain here]
    simpa using rest

/-- What stands at the end of a way is found at its absolute path, from any working directory. -/
theorem findAt_absolute (working : List String) (nonempty : way ≠ [])
    (plain : ∀ name ∈ way, IsPlainName name)
    (enters : ∀ n < way.length, tree.find (way.take n) = .directory) :
    tree.findAt working ("/" ++ "/".intercalate way) = tree.find way := by
  have root : tree.find [] = .directory := enters 0 (List.length_pos_iff.mpr nonempty)
  have start : tree.step? [] "" = some [] := by simp [step?, root]
  have followed : way.foldlM tree.step? [] = some way := foldlM_step?_of_plain plain enters
  have absolute : ("/" ++ "/".intercalate way).toList = '/' :: ("/".intercalate way).toList := by
    simp
  unfold findAt
  rw [absolute, names_absolute nonempty fun name member => (plain name member).2]
  simp [List.foldlM_cons, start, followed]

end Way

/-- A tree with nothing in its root. -/
def emptyTree : FileTree :=
  ⟨[]⟩

theorem find_emptyTree {way : List String} (nonempty : way ≠ []) : emptyTree.find way = .missing := by
  simp [find, emptyTree, nonempty]

theorem findAt_emptyTree (working : List String) {path name : String} {front : List String}
    (plain : IsPlainName name) (ends : names path = front ++ [name]) :
    emptyTree.findAt working path = .missing := by
  unfold findAt
  split
  · rfl
  · rw [ends, List.foldlM_append]
    cases front.foldlM emptyTree.step? _ with
    | none => rfl
    | some way =>
      by_cases enters : emptyTree.find way = .directory
      · simp [step?_of_plain plain enters, find_emptyTree]
      · simp [step?, enters]

end SqlIdentifier.FileTree
