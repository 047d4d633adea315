import Mathlib.Data.List.DropRight
import AgentTrial.Path

/-!
# Paths and their names

* **Joining** — the names of two paths with a slash between them are those of the one and then those
  of the other (`steps_append`), slashes at the end bring none (`steps_trimSlashes`), and a name that
  is joined to a path is one more component (`components_join`).
* **Names** — names with slashes between them are read back (`steps_intercalate`), a name that is
  joined to a directory is the last name (`fileName?_join`), and every step of a path that does not
  lead up is a name (`isName_of_mem_steps`).
-/

namespace AgentTrial.Path

/-- What a directory can have an entry under. -/
structure IsName (name : String) : Prop where
  nonempty : name ≠ ""
  notHere : name ≠ "."
  notUp : name ≠ ".."
  noSlash : '/' ∉ name.toList

instance (name : String) : Decidable (IsName name) :=
  decidable_of_iff (name ≠ "" ∧ name ≠ "." ∧ name ≠ ".." ∧ '/' ∉ name.toList)
    ⟨fun ⟨h, h', h'', h'''⟩ => ⟨h, h', h'', h'''⟩, fun h => ⟨h.1, h.2, h.3, h.4⟩⟩

theorem trimSlashes_trimSlashes (s : String) : trimSlashes (trimSlashes s) = trimSlashes s := by
  simp only [trimSlashes, String.toList_ofList, List.reverse_reverse, List.dropWhile_idempotent]

theorem parts_append (first second : String) :
    parts (first ++ "/" ++ second) = parts first ++ parts second := by
  have chars : (first ++ "/" ++ second).toList = first.toList ++ '/' :: second.toList := by
    simp [String.toList_append]
  simp only [parts, chars, List.splitOn_append_cons_self, List.map_append]

theorem parts_ne_nil (path : String) : parts path ≠ [] := by
  simp [parts]

theorem steps_append (first second : String) :
    steps (first ++ "/" ++ second) = steps first ++ steps second := by
  rw [steps, parts_append, List.filter_append]
  rfl

theorem steps_append_slash (path : String) : steps (path ++ "/") = steps path := by
  have joined := steps_append path ""
  rw [String.append_empty] at joined
  rw [joined]
  exact List.append_nil _

/-- Slashes at the end bring no names. -/
theorem steps_trimSlashes (path : String) : steps (trimSlashes path) = steps path := by
  have dropped (cs : List Char) :
      steps (String.ofList (cs.dropWhile (· == '/')).reverse) = steps (String.ofList cs.reverse) := by
    induction cs with
    | nil => rfl
    | cons c cs ih =>
        by_cases slash : c = '/'
        · subst slash
          have last : String.ofList ('/' :: cs).reverse = String.ofList cs.reverse ++ "/" :=
            String.toList_inj.mp (by simp)
          rw [last, steps_append_slash, ← ih]
          rfl
        · rw [List.dropWhile_cons_of_neg (by simpa using slash)]
  have all := dropped path.toList.reverse
  rwa [List.reverse_reverse, String.ofList_toList] at all

/-- A path that starts at the root has an empty part before its first slash. -/
theorem empty_mem_parts {path : String} (absolute : isAbsolute path = true) : "" ∈ parts path := by
  obtain ⟨rest, chars⟩ : ∃ rest, path.toList = '/' :: rest :=
    List.head?_eq_some_iff.mp (beq_iff_eq.mp absolute)
  have split : path = "" ++ "/" ++ String.ofList rest := String.toList_inj.mp (by simp [chars])
  rw [split, parts_append]
  exact List.mem_append_left _ List.mem_cons_self

theorem parts_intercalate {names : List String} (filled : names ≠ [])
    (all : ∀ name ∈ names, IsName name) : parts ("/".intercalate names) = names := by
  have slashless : ∀ cs ∈ names.map String.toList, '/' ∉ cs := by
    intro cs mem
    obtain ⟨name, here, rfl⟩ := List.mem_map.mp mem
    exact (all name here).noSlash
  have chars : String.ofList ∘ String.toList = id := funext fun _ => String.ofList_toList
  rw [parts, String.toList_intercalate]
  show (List.splitOn '/' (['/'].intercalate _)).map _ = _
  rw [List.splitOn_intercalate '/' slashless (by simpa using filled), List.map_map, chars,
    List.map_id]

/-- Names with slashes between them are read back. -/
theorem steps_intercalate {names : List String} (all : ∀ name ∈ names, IsName name) :
    steps ("/".intercalate names) = names := by
  by_cases none : names = []
  · subst none
    rfl
  rw [steps, parts_intercalate none all, List.filter_eq_self]
  intro name mem
  simp [(all name mem).nonempty, (all name mem).notHere]

theorem steps_of_isName {name : String} (h : IsName name) : steps name = [name] := by
  have alone := @steps_intercalate [name] (by simpa using h)
  rwa [String.intercalate_singleton] at alone

theorem IsName.not_isAbsolute {name : String} (h : IsName name) : isAbsolute name = false := by
  rw [isAbsolute, beq_eq_false_iff_ne]
  intro slash
  exact h.noSlash (List.mem_of_mem_head? slash)

theorem components_of_isName {name : String} (h : IsName name) : components name = [name] := by
  have alone : parts name = [name] := by
    rw [parts, List.splitOn_eq_singleton h.noSlash, List.map_singleton, String.ofList_toList]
  rw [components, h.not_isAbsolute, alone, steps_of_isName h]
  simp [h.notHere]

/-- What a path starts with is seen before its first slash. -/
theorem isAbsolute_append (front rest : String) :
    isAbsolute (front ++ "/" ++ rest) = isAbsolute (front ++ "/") := by
  simp only [isAbsolute, String.toList_append]
  cases front.toList <;> rfl

theorem head?_parts_append (front rest : String) :
    (parts (front ++ "/" ++ rest)).head? = (parts front).head? := by
  rw [parts_append, List.head?_append_of_ne_nil _ (parts_ne_nil front)]

theorem head?_parts_append_slash (front : String) :
    (parts (front ++ "/")).head? = (parts front).head? := by
  have first := head?_parts_append front ""
  rwa [String.append_empty] at first

theorem components_append (front rest : String) :
    components (front ++ "/" ++ rest) = components (front ++ "/") ++ steps rest := by
  rw [components, components, isAbsolute_append, head?_parts_append, head?_parts_append_slash,
    steps_append, steps_append_slash, List.append_assoc]

theorem components_append_slash {front : String} (filled : front ≠ "") :
    components (front ++ "/") = components front := by
  have root : isAbsolute (front ++ "/") = isAbsolute front := by
    simp only [isAbsolute, String.toList_append]
    cases chars : front.toList with
    | nil => exact absurd (String.toList_eq_nil_iff.mp chars) filled
    | cons c cs => rfl
  rw [components, components, root, head?_parts_append_slash, steps_append_slash]

/-- A name is joined to a path with one slash between them, which the path may have brought. -/
theorem join_cases {base name : String} (filled : base ≠ "") (h : IsName name) :
    ∃ front, join base name = front ++ "/" ++ name ∧ (base = front ∨ base = front ++ "/") := by
  have nonempty : base.isEmpty = false := by simpa using filled
  rw [join, h.not_isAbsolute, nonempty, Bool.false_or, if_neg Bool.false_ne_true]
  split
  · -- the slash at the end of the directory is the one between the two
    rename_i slash
    obtain ⟨front, last⟩ := List.getLast?_eq_some_iff.mp (beq_iff_eq.mp slash)
    have again : base = String.ofList front ++ "/" := String.toList_inj.mp (by simp [last])
    exact ⟨String.ofList front, by rw [← again], .inr again⟩
  · exact ⟨base, rfl, .inl rfl⟩

/-- A name that is joined to a path is one more component of it. -/
theorem components_join (base : String) {name : String} (h : IsName name) :
    components (join base name) = components base ++ [name] := by
  by_cases none : base = ""
  · subst none
    have alone : join "" name = name := by simp [join]
    rw [alone, components_of_isName h]
    rfl
  · obtain ⟨front, joined, same⟩ := join_cases none h
    rw [joined, components_append, steps_of_isName h]
    rcases same with rfl | rfl
    · rw [components_append_slash none]
    · rfl

/-- A name at the end of a path is the last name of it. -/
theorem fileName?_join (base : String) {name : String} (h : IsName name) :
    fileName? (join base name) = some name := by
  have ends : ∃ names, steps (join base name) = names ++ [name] := by
    by_cases none : base = ""
    · subst none
      have alone : join "" name = name := by simp [join]
      exact ⟨[], by rw [alone, steps_of_isName h, List.nil_append]⟩
    · obtain ⟨front, joined, -⟩ := join_cases none h
      exact ⟨steps front, by rw [joined, steps_append, steps_of_isName h]⟩
  obtain ⟨names, ends⟩ := ends
  simp [fileName?, ends, h.notUp]

theorem notMem_of_mem_splitOn {c : Char} {cs part : List Char} (mem : part ∈ cs.splitOn c) :
    c ∉ part := by
  induction cs generalizing part with
  | nil => simp_all
  | cons d cs ih =>
      obtain ⟨first, rest, parts⟩ := List.exists_cons_of_ne_nil (List.splitOn_ne_nil c cs)
      rw [parts] at ih
      rw [List.splitOn_cons_eq_if_modifyHead, parts] at mem
      split at mem
      · rcases List.mem_cons.mp mem with rfl | mem
        · exact List.not_mem_nil
        · exact ih mem
      · rename_i other
        rcases List.mem_cons.mp mem with rfl | mem
        · rw [List.mem_cons, not_or]
          exact ⟨fun same => other (by simp [same]), ih List.mem_cons_self⟩
        · exact ih (List.mem_cons_of_mem _ mem)

/-- Each step of a path that does not lead up is a name. -/
theorem isName_of_mem_steps {path name : String} (mem : name ∈ steps path) (notUp : name ≠ "..") :
    IsName name := by
  obtain ⟨part, kept⟩ := List.mem_filter.mp mem
  obtain ⟨cs, found, rfl⟩ := List.mem_map.mp part
  simp only [bne_iff_ne, ne_eq, Bool.and_eq_true] at kept
  refine ⟨kept.1, kept.2, notUp, ?_⟩
  rw [String.toList_ofList]
  exact notMem_of_mem_splitOn found

end AgentTrial.Path
