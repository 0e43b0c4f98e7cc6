import ByteWaterlevel.Support.Json

/-!
# Left-biased deep merge of JSON objects

The laws of reading and writing members, and the relation `IsMerge`: an object
is the deep merge of a source into a target if every key of the target keeps
its value, every missing key of the source is added, and nested objects are
merged in the same way.  The order of the members is left open.

Objects are compared by their members, so the keys of an object have to be
distinct at every depth; `UniqueKeys` says that they are.
-/

namespace Json

/-! ## Reading and writing members -/

theorem get_eq (j : Json) (key : String) :
    j.get key = (j.find key).getD null := by
  cases j <;> rfl

theorem lookup_cons_of_ne
    {key k : String} (h : key ≠ k) (v : Json)
    (rest : List (String × Json)) :
    ((k, v) :: rest).lookup key = rest.lookup key := by
  have hbeq : (key == k) = false := by simpa using h
  rw [List.lookup_cons, hbeq]

theorem containsKey_eq (j : Json) (key : String) :
    j.containsKey key = (j.find key).isSome := by
  cases j with
  | obj members =>
      simp only [containsKey, find]
      induction members with
      | nil => rfl
      | cons member rest ih =>
          obtain ⟨k, v⟩ := member
          by_cases h : key = k
          · subst h
            simp
          · have hne : (k == key) = false := by simpa using Ne.symm h
            rw [List.any_cons, lookup_cons_of_ne h, ih, hne, Bool.false_or]
  | _ => rfl

theorem lookup_setMember
    (key : String) (value : Json) (members : List (String × Json))
    (key' : String) :
    (setMember key value members).lookup key' =
      if key' = key then some value else members.lookup key' := by
  induction members with
  | nil =>
      by_cases h : key' = key
      · subst h
        simp [setMember]
      · rw [if_neg h, setMember, lookup_cons_of_ne h]
  | cons member rest ih =>
      obtain ⟨k, v⟩ := member
      rw [setMember]
      by_cases hk : k = key
      · subst hk
        rw [if_pos rfl]
        by_cases h : key' = k
        · subst h
          simp
        · rw [if_neg h, lookup_cons_of_ne h, lookup_cons_of_ne h]
      · rw [if_neg hk]
        by_cases h : key' = k
        · subst h
          simp [hk]
        · rw [lookup_cons_of_ne h, lookup_cons_of_ne h, ih]

/-- An object after an assignment. -/
theorem find_set
    {j : Json} (h : j.isObject = true) (key : String) (value : Json)
    (key' : String) :
    (j.set key value).find key' =
      if key' = key then some value else j.find key' := by
  cases j with
  | obj members => exact lookup_setMember key value members key'
  | _ => exact absurd h Bool.false_ne_true

theorem isObject_set
    {j : Json} (h : j.isObject = true) (key : String) (value : Json) :
    (j.set key value).isObject = true := by
  cases j with
  | obj members => rfl
  | _ => exact absurd h Bool.false_ne_true

/-- A missing key is added at the end. -/
theorem setMember_of_not_mem
    {key : String} (value : Json) {members : List (String × Json)}
    (h : key ∉ members.map Prod.fst) :
    setMember key value members = members ++ [(key, value)] := by
  induction members with
  | nil => rfl
  | cons member rest ih =>
      obtain ⟨k, v⟩ := member
      simp only [List.map_cons, List.mem_cons, not_or] at h
      rw [setMember, if_neg (Ne.symm h.1), ih h.2, List.cons_append]

theorem lookup_eq_none_of_not_mem
    {key : String} {members : List (String × Json)}
    (h : key ∉ members.map Prod.fst) : members.lookup key = none := by
  rw [List.lookup_eq_none_iff]
  intro member hmember
  have hne : member.1 ≠ key := fun heq =>
    h (List.mem_map.mpr ⟨member, hmember, heq⟩)
  simpa using Ne.symm hne

/-- With distinct keys, the value of a member is found under its key. -/
theorem lookup_of_mem
    {members : List (String × Json)} (h : (members.map Prod.fst).Nodup)
    {member : String × Json} (hmem : member ∈ members) :
    members.lookup member.1 = some member.2 := by
  induction members with
  | nil => exact absurd hmem List.not_mem_nil
  | cons first rest ih =>
      obtain ⟨hfirst, hrest⟩ := List.nodup_cons.mp h
      rcases List.mem_cons.mp hmem with rfl | hmem
      · exact List.lookup_cons_self
      · have hne : member.1 ≠ first.1 := by
          intro heq
          exact hfirst (List.mem_map.mpr ⟨member, hmem, heq⟩)
        rw [lookup_cons_of_ne hne]
        exact ih hrest hmem

/-! ## Objects as trees -/

/-- Induction over nested objects. -/
theorem object_induction
    {P : Json → Prop} (other : ∀ j : Json, j.isObject = false → P j)
    (object : ∀ members : List (String × Json),
      (∀ member ∈ members, P member.2) → P (obj members)) :
    ∀ j : Json, P j
  | obj members => object members fun member hmem => by
      have hmember := List.sizeOf_lt_of_mem hmem
      have hvalue : sizeOf member.2 < sizeOf member := by
        obtain ⟨key, value⟩ := member
        simp only [Prod.mk.sizeOf_spec]
        omega
      have hlt : sizeOf member.2 < 1 + sizeOf members := by omega
      exact object_induction other object member.2
  | null => other null rfl
  | bool b => other (bool b) rfl
  | int n => other (int n) rfl
  | real x => other (real x) rfl
  | str s => other (str s) rfl
  | arr elements => other (arr elements) rfl
termination_by j => sizeOf j

mutual

/-- The keys of every object in the tree are distinct. -/
def UniqueKeys : Json → Prop
  | obj members => (members.map Prod.fst).Nodup ∧ AllUniqueKeys members
  | _ => True

def AllUniqueKeys : List (String × Json) → Prop
  | [] => True
  | (_, value) :: rest => UniqueKeys value ∧ AllUniqueKeys rest

end

theorem AllUniqueKeys.of_mem
    {members : List (String × Json)} (h : AllUniqueKeys members)
    {member : String × Json} (hmem : member ∈ members) :
    member.2.UniqueKeys := by
  induction members with
  | nil => exact absurd hmem List.not_mem_nil
  | cons first rest ih =>
      rcases List.mem_cons.mp hmem with rfl | hmem
      · exact h.1
      · exact ih h.2 hmem

/-! ## The merge -/

mutual

/-- The result is the left-biased deep merge of an object into the target. -/
def IsMerge (target result : Json) : Json → Prop
  | obj members =>
      result.isObject = true ∧
        (∀ key, key ∉ members.map Prod.fst →
          result.find key = target.find key) ∧
        MembersMerged target result members
  | _ => result = target

/-- Each member of the source has gone into the result. -/
def MembersMerged (target result : Json) : List (String × Json) → Prop
  | [] => True
  | (key, value) :: rest =>
      (match target.find key with
        | none => result.find key = some value
        | some old =>
            if value.isObject then
              ∃ new, result.find key = some new ∧
                IsMerge (if old.isObject then old else obj []) new value
            else result.find key = some old) ∧
        MembersMerged target result rest

end

/-- What the merge makes of one member of the source. -/
def ValueMerged (target result : Json) (member : String × Json) : Prop :=
  match target.find member.1 with
  | none => result.find member.1 = some member.2
  | some old =>
      if member.2.isObject then
        ∃ new, result.find member.1 = some new ∧
          IsMerge (if old.isObject then old else obj []) new member.2
      else result.find member.1 = some old

theorem membersMerged_iff
    {target result : Json} {members : List (String × Json)} :
    MembersMerged target result members ↔
      ∀ member ∈ members, ValueMerged target result member := by
  induction members with
  | nil => simp [MembersMerged]
  | cons member rest ih =>
      obtain ⟨key, value⟩ := member
      rw [List.forall_mem_cons, ← ih]
      exact Iff.rfl

/-- A value that is not lost has a place in the result. -/
theorem ValueMerged.exists_find
    {target result : Json} {member : String × Json}
    (h : ValueMerged target result member) :
    ∃ value, result.find member.1 = some value := by
  unfold ValueMerged at h
  cases hold : target.find member.1 with
  | none =>
      rw [hold] at h
      exact ⟨member.2, h⟩
  | some old =>
      rw [hold] at h
      dsimp only at h
      by_cases hobject : member.2.isObject = true
      · rw [if_pos hobject] at h
        obtain ⟨new, hnew, -⟩ := h
        exact ⟨new, hnew⟩
      · rw [if_neg hobject] at h
        exact ⟨old, h⟩

/-- A scalar of the source is added where the target has nothing. -/
theorem valueMerged_scalar_iff
    {target result : Json} {member : String × Json}
    (hscalar : member.2.isObject = false) :
    ValueMerged target result member ↔
      result.find member.1 =
        some ((target.find member.1).getD member.2) := by
  unfold ValueMerged
  cases hold : target.find member.1 with
  | none => exact Iff.rfl
  | some old =>
      dsimp only
      rw [hscalar, if_neg Bool.false_ne_true]
      exact Iff.rfl

/-- An object of the source is merged with the one of the target. -/
theorem valueMerged_nested_iff
    {target result : Json} {member : String × Json}
    (hobject : member.2.isObject = true)
    (hold : (target.get member.1).isObject = true) :
    ValueMerged target result member ↔
      ∃ new, result.find member.1 = some new ∧
        IsMerge (target.get member.1) new member.2 := by
  rw [get_eq] at hold ⊢
  unfold ValueMerged
  cases hfind : target.find member.1 with
  | none =>
      rw [hfind] at hold
      exact absurd hold Bool.false_ne_true
  | some old =>
      rw [hfind] at hold
      dsimp only [Option.getD_some] at hold ⊢
      rw [if_pos hobject, if_pos hold]

/-- Merging an object into the empty object gives the object itself. -/
theorem isMerge_empty_self
    {j : Json} (hobject : j.isObject = true) (hunique : j.UniqueKeys) :
    IsMerge (obj []) j j := by
  cases j with
  | obj members =>
      refine ⟨rfl, ?_, membersMerged_iff.mpr ?_⟩
      · intro key hkey
        exact lookup_eq_none_of_not_mem hkey
      · intro member hmem
        exact lookup_of_mem hunique.1 hmem
  | _ => exact absurd hobject Bool.false_ne_true

section

variable {target result : Json} {member : String × Json}
variable (hobject : member.2.isObject = true)
variable (hmissing : (target.get member.1).isObject = false)
variable (hunique : member.2.UniqueKeys)

include hobject hmissing hunique

/-- An object of the source for which the target has none is merged into the
empty object. -/
theorem ValueMerged.isMerge_empty (h : ValueMerged target result member) :
    ∃ new, result.find member.1 = some new ∧
      IsMerge (obj []) new member.2 := by
  rw [get_eq] at hmissing
  unfold ValueMerged at h
  cases hfind : target.find member.1 with
  | none =>
      rw [hfind] at h
      exact ⟨member.2, h, isMerge_empty_self hobject hunique⟩
  | some old =>
      rw [hfind] at h hmissing
      dsimp only [Option.getD_some] at h hmissing
      rwa [if_pos hobject, hmissing, if_neg Bool.false_ne_true] at h

theorem valueMerged_of_arrived (h : result.find member.1 = some member.2) :
    ValueMerged target result member := by
  rw [get_eq] at hmissing
  unfold ValueMerged
  cases hfind : target.find member.1 with
  | none => exact h
  | some old =>
      rw [hfind] at hmissing
      dsimp only [Option.getD_some] at hmissing ⊢
      rw [if_pos hobject, hmissing, if_neg Bool.false_ne_true]
      exact ⟨member.2, h, isMerge_empty_self hobject hunique⟩

end

end Json
