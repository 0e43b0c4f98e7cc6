import ByteWaterlevel.Support.JsonMerge

/-!
# Paths into JSON documents

Reading and assigning a member at the end of a path of keys, by the library,
where an absent member is null, and by a script, where an absent member is
undefined and a member of null or of undefined cannot be taken: the script
throws.

Whatever a script assigns is seen at its own path or nowhere, and it is not
seen at a path that leads elsewhere (`Apart`).  At a path that leads to a value
nothing throws, and the assignment is read back.  All of this carries over to a
list of assignments to paths that are pairwise apart.
-/

namespace Json

/-- The value at the end of a path. -/
def getPath : List String → Json → Json
  | [], j => j
  | key :: rest, j => getPath rest (j.get key)

/-- The value at the end of a path as a script reads it: `none` if the script
throws, `some none` if the value is undefined. -/
def readPath : List String → Json → Option (Option Json)
  | [], j => some (some j)
  | [key], j => if j.isNull then none else some (j.find key)
  | key :: rest, j => if j.isNull then none else readPath rest (j.get key)

/-- Assignment by a script to the member at the end of a path: `none` if it
throws.  A member of a value that is no object is assigned without effect. -/
def assign : List String → Json → Json → Option Json
  | [], value, _ => some value
  | key :: rest, value, j =>
      if j.isNull then none
      else (assign rest value (j.get key)).map fun member => j.set key member

/-- The assignments in their order, up to the first one that throws, and
whether all of them were made. -/
def assignAll : List (List String × Json) → Json → Json × Bool
  | [], j => (j, true)
  | entry :: rest, j =>
      match assign entry.1 entry.2 j with
      | some j' => assignAll rest j'
      | none => (j, false)

/-- Neither path leads on from the end of the other. -/
def Apart (p q : List String) : Prop := ¬ p <+: q ∧ ¬ q <+: p

instance (p q : List String) : Decidable (Apart p q) :=
  inferInstanceAs (Decidable (_ ∧ _))

theorem getPath_null (path : List String) : getPath path null = null := by
  induction path with
  | nil => rfl
  | cons key rest ih => exact ih

/-- A path with a value begins in an object. -/
theorem isObject_of_getPath
    {key : String} {rest : List String} {j : Json}
    (h : getPath (key :: rest) j ≠ null) : j.isObject = true := by
  cases j with
  | obj members => rfl
  | _ => exact absurd (getPath_null rest) h

theorem not_isNull_of_isObject {j : Json} (h : j.isObject = true) :
    ¬ j.isNull = true := by
  cases j with
  | null => exact absurd h Bool.false_ne_true
  | _ => exact Bool.false_ne_true

/-- At a path with a value the script reads what the library reads. -/
theorem readPath_of_ne_null
    {path : List String} {j : Json} (h : getPath path j ≠ null) :
    readPath path j = some (some (getPath path j)) := by
  induction path generalizing j with
  | nil => rfl
  | cons key rest ih =>
      have hnull := not_isNull_of_isObject (isObject_of_getPath h)
      cases rest with
      | nil =>
          have hget : j.get key ≠ null := h
          rw [readPath, if_neg hnull, getPath, getPath, get_eq]
          rw [get_eq] at hget
          cases hfind : j.find key with
          | none => exact absurd (by rw [hfind]; rfl) hget
          | some value => rfl
      | cons key' rest' =>
          rw [readPath, if_neg hnull]
          · exact ih h
          · exact nofun

theorem get_set
    {j : Json} (h : j.isObject = true) (key : String) (value : Json)
    (key' : String) :
    (j.set key value).get key' = if key' = key then value else j.get key' := by
  rw [get_eq, find_set h, get_eq]
  split_ifs <;> rfl

/-- A value that is neither null nor an object is not changed. -/
theorem set_of_not_isObject
    {j : Json} (h : ¬ j.isObject = true) (hnull : ¬ j.isNull = true)
    (key : String) (value : Json) : j.set key value = j := by
  cases j with
  | null => exact absurd rfl hnull
  | obj members => exact absurd rfl h
  | _ => rfl

/-- The first step of an assignment that does not throw. -/
theorem assign_cons
    {key : String} {rest : List String} {value j j' : Json}
    (h : assign (key :: rest) value j = some j') :
    ¬ j.isNull = true ∧
      ∃ member, assign rest value (j.get key) = some member ∧
        j' = j.set key member := by
  rw [assign] at h
  split_ifs at h with hnull
  obtain ⟨member, hmember, heq⟩ := Option.map_eq_some_iff.mp h
  exact ⟨hnull, member, hmember, heq.symm⟩

/-- What was assigned is read back, or the assignment had no effect. -/
theorem getPath_assign_self
    {path : List String} {value j j' : Json}
    (h : assign path value j = some j') :
    getPath path j' = value ∨ getPath path j' = getPath path j := by
  induction path generalizing j j' with
  | nil => exact Or.inl (Option.some.inj h).symm
  | cons key rest ih =>
      obtain ⟨hnull, member, hmember, rfl⟩ := assign_cons h
      by_cases hobject : j.isObject = true
      · rw [getPath, get_set hobject, if_pos rfl]
        exact ih hmember
      · rw [set_of_not_isObject hobject hnull]
        exact Or.inr rfl

/-- An assignment is not seen at a path that leads elsewhere. -/
theorem getPath_assign_of_apart
    {p q : List String} {value j j' : Json}
    (h : assign p value j = some j') (hapart : Apart p q) :
    getPath q j' = getPath q j := by
  induction p generalizing q j j' with
  | nil => exact absurd List.nil_prefix hapart.1
  | cons key rest ih =>
      obtain ⟨hnull, member, hmember, rfl⟩ := assign_cons h
      cases q with
      | nil => exact absurd List.nil_prefix hapart.2
      | cons key' rest' =>
          by_cases hobject : j.isObject = true
          · rw [getPath, get_set hobject, getPath]
            by_cases hkey : key' = key
            · subst hkey
              rw [if_pos rfl]
              refine ih hmember ?_
              simpa only [Apart, List.cons_prefix_cons, true_and] using hapart
            · rw [if_neg hkey]
          · rw [set_of_not_isObject hobject hnull]

/-- At a path with a value an assignment does not throw, and it is read
back. -/
theorem exists_assign
    {path : List String} (value : Json) {j : Json}
    (h : getPath path j ≠ null) :
    ∃ j', assign path value j = some j' ∧ getPath path j' = value := by
  induction path generalizing j with
  | nil => exact ⟨value, rfl, rfl⟩
  | cons key rest ih =>
      have hobject := isObject_of_getPath h
      have hnull := not_isNull_of_isObject hobject
      obtain ⟨member, hmember, hvalue⟩ := ih h
      refine ⟨j.set key member, ?_, ?_⟩
      · rw [assign, if_neg hnull, hmember]
        rfl
      · rw [getPath, get_set hobject, if_pos rfl]
        exact hvalue

/-! ## Lists of assignments -/

section

variable {entries : List (List String × Json)} {j : Json}

/-- A path that is apart from all assignments keeps its value. -/
theorem getPath_assignAll_of_apart
    {q : List String} (hapart : ∀ entry ∈ entries, Apart entry.1 q) :
    getPath q (assignAll entries j).1 = getPath q j := by
  induction entries generalizing j with
  | nil => rfl
  | cons entry rest ih =>
      have hrest : ∀ other ∈ rest, Apart other.1 q :=
        fun other hother => hapart other (List.mem_cons_of_mem _ hother)
      rw [assignAll]
      cases hassign : assign entry.1 entry.2 j with
      | none => rfl
      | some j' =>
          exact (ih hrest).trans (getPath_assign_of_apart hassign
            (hapart entry List.mem_cons_self))

/-- Each of the assignments is read back, or the path keeps its value. -/
theorem getPath_assignAll_of_mem
    (hpairwise : entries.Pairwise fun a b => Apart a.1 b.1)
    {entry : List String × Json} (hmem : entry ∈ entries) :
    getPath entry.1 (assignAll entries j).1 = entry.2 ∨
      getPath entry.1 (assignAll entries j).1 = getPath entry.1 j := by
  induction entries generalizing j with
  | nil => exact absurd hmem List.not_mem_nil
  | cons first rest ih =>
      obtain ⟨hfirst, hrest⟩ := List.pairwise_cons.mp hpairwise
      rw [assignAll]
      cases hassign : assign first.1 first.2 j with
      | none => exact Or.inr rfl
      | some j' =>
          dsimp only
          rcases List.mem_cons.mp hmem with rfl | hmem
          · rw [getPath_assignAll_of_apart fun other hother =>
              (hfirst other hother).symm]
            exact getPath_assign_self hassign
          · rw [← getPath_assign_of_apart hassign (hfirst entry hmem)]
            exact ih hrest hmem

/-- If all paths have values, all assignments are made. -/
theorem assignAll_completes
    (hpairwise : entries.Pairwise fun a b => Apart a.1 b.1)
    (hreach : ∀ entry ∈ entries, getPath entry.1 j ≠ null) :
    (assignAll entries j).2 = true ∧
      ∀ entry ∈ entries,
        getPath entry.1 (assignAll entries j).1 = entry.2 := by
  induction entries generalizing j with
  | nil => exact ⟨rfl, by simp⟩
  | cons first rest ih =>
      obtain ⟨hfirst, hrest⟩ := List.pairwise_cons.mp hpairwise
      obtain ⟨j', hassign, hvalue⟩ := exists_assign first.2
        (hreach first List.mem_cons_self)
      have hkeep : ∀ other ∈ rest, getPath other.1 j' ≠ null := by
        intro other hother
        rw [getPath_assign_of_apart hassign (hfirst other hother)]
        exact hreach other (List.mem_cons_of_mem _ hother)
      obtain ⟨hcompleted, hvalues⟩ := ih hrest hkeep
      rw [assignAll, hassign]
      refine ⟨hcompleted, ?_⟩
      intro entry hmem
      rcases List.mem_cons.mp hmem with rfl | hmem
      · rw [← hvalue]
        exact getPath_assignAll_of_apart fun other hother =>
          (hfirst other hother).symm
      · exact hvalues entry hmem

end

end Json
