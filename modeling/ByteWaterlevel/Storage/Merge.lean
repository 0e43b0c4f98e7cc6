import ByteWaterlevel.FileHandler
import ByteWaterlevel.Support.JsonMerge

/-!
# Merging two configurations

`mergeJsonObjects` adds the missing keys of the source to the target.  Before
it merges a nested object that the target lacks, it converts the target itself
to an empty object, so that everything the target held at this depth is gone,
keys that were merged before included.  From then on every nested object of the
source is missing again.

The merge is the left-biased deep merge as long as the target has an object
wherever the source has one.  If it does not, `mergeMembers_of_not_covered`
says what is left, and the result is right only by accident: the nested object
is the first key of the source and its only one, and the target has nothing to
lose.
-/

namespace ByteWaterlevel
namespace FileHandler

open Json

/-- One iteration of the loop over the source. -/
def mergeMember (target : Json) (key : String) (value : Json) : Json :=
  if value.isObject then
    let target :=
      if !(target.get key).isObject then
        let target := target.toJsonObject.createNestedObject key
        target.set key (target.get key)
      else target
    target.set key (mergeJsonObjects (target.get key) value)
  else if !target.containsKey key then target.set key value
  else target

theorem mergeMembers_cons
    (target : Json) (key : String) (value : Json)
    (rest : List (String × Json)) :
    mergeMembers target ((key, value) :: rest) =
      mergeMembers (mergeMember target key value) rest := by
  rw [mergeMembers]
  rfl

/-! ## One iteration -/

theorem find_mergeMember_of_scalar
    {target : Json} (htarget : target.isObject = true) (key : String)
    {value : Json} (hvalue : value.isObject = false) (key' : String) :
    (mergeMember target key value).isObject = true ∧
      (mergeMember target key value).find key' =
        if key' = key then some ((target.find key).getD value)
        else target.find key' := by
  simp only [mergeMember, hvalue, Bool.false_eq_true, if_false,
    containsKey_eq]
  cases hold : target.find key with
  | none =>
      refine ⟨isObject_set htarget key value, ?_⟩
      exact find_set htarget key value key'
  | some old =>
      refine ⟨htarget, ?_⟩
      by_cases h : key' = key
      · subst h
        simp [hold]
      · simp [h]

/-- A nested object that the target has too is merged in its place. -/
theorem find_mergeMember_of_covered
    {target : Json} (htarget : target.isObject = true) {key : String}
    {value : Json} (hvalue : value.isObject = true)
    (hcovered : (target.get key).isObject = true) (key' : String) :
    (mergeMember target key value).isObject = true ∧
      (mergeMember target key value).find key' =
        if key' = key then some (mergeJsonObjects (target.get key) value)
        else target.find key' := by
  have heq : mergeMember target key value =
      target.set key (mergeJsonObjects (target.get key) value) := by
    simp [mergeMember, hvalue, hcovered]
  rw [heq]
  exact ⟨isObject_set htarget key _, find_set htarget key _ key'⟩

/-- A nested object that the target lacks takes the place of the whole
target. -/
theorem mergeMember_of_not_covered
    {target : Json} {key : String} {value : Json}
    (hvalue : value.isObject = true)
    (hcovered : (target.get key).isObject = false) :
    mergeMember target key value =
      obj [(key, mergeJsonObjects (obj []) value)] := by
  simp only [mergeMember, hvalue, hcovered, Bool.not_false, if_true]
  simp [toJsonObject, createNestedObject, Json.set, setMember, Json.get]

/-! ## The loop -/

/-- Wherever the source has an object, the target has one. -/
def Covered (target : Json) (members : List (String × Json)) : Prop :=
  ∀ member ∈ members, member.2.isObject = true →
    (target.get member.1).isObject = true

/-- An iteration leaves the other keys alone, unless it destroys the target. -/
theorem find_mergeMember_of_ne
    {target : Json} (htarget : target.isObject = true) {key : String}
    {value : Json}
    (hcovered : value.isObject = true →
      (target.get key).isObject = true)
    {key' : String} (hne : key' ≠ key) :
    (mergeMember target key value).find key' = target.find key' := by
  by_cases hvalue : value.isObject = true
  · have h := find_mergeMember_of_covered htarget hvalue (hcovered hvalue) key'
    rw [h.2, if_neg hne]
  · have h := find_mergeMember_of_scalar htarget key
      (Bool.eq_false_of_not_eq_true hvalue) key'
    rw [h.2, if_neg hne]

theorem isObject_mergeMember
    {target : Json} (htarget : target.isObject = true) (key : String)
    (value : Json) : (mergeMember target key value).isObject = true := by
  by_cases hvalue : value.isObject = true
  · by_cases hcovered : (target.get key).isObject = true
    · exact (find_mergeMember_of_covered htarget hvalue hcovered key).1
    · rw [mergeMember_of_not_covered hvalue
        (Bool.eq_false_of_not_eq_true hcovered)]
      rfl
  · exact (find_mergeMember_of_scalar htarget key
      (Bool.eq_false_of_not_eq_true hvalue) key).1

theorem isObject_mergeMembers
    {target : Json} (htarget : target.isObject = true)
    (members : List (String × Json)) :
    (mergeMembers target members).isObject = true := by
  induction members generalizing target with
  | nil => exact htarget
  | cons member rest ih =>
      obtain ⟨key, value⟩ := member
      rw [mergeMembers_cons]
      exact ih (isObject_mergeMember htarget key value)

/-- The rest of the source is covered after an iteration exactly if it was
before. -/
theorem covered_mergeMember_iff
    {target : Json} (htarget : target.isObject = true) {key : String}
    {value : Json}
    (hcovered : value.isObject = true →
      (target.get key).isObject = true)
    {rest : List (String × Json)} (hkey : key ∉ rest.map Prod.fst) :
    Covered (mergeMember target key value) rest ↔ Covered target rest := by
  refine forall₂_congr fun member hmember => ?_
  have hne : member.1 ≠ key := by
    intro heq
    exact hkey (List.mem_map.mpr ⟨member, hmember, heq⟩)
  rw [get_eq, find_mergeMember_of_ne htarget hcovered hne, ← get_eq]

/-- The result of a loop over a source that is covered. -/
theorem find_mergeMembers_of_covered
    {target : Json} (htarget : target.isObject = true)
    {members : List (String × Json)}
    (hkeys : (members.map Prod.fst).Nodup)
    (hcovered : Covered target members) (key : String) :
    (mergeMembers target members).find key =
      match members.lookup key with
      | none => target.find key
      | some value =>
          if value.isObject then
            some (mergeJsonObjects (target.get key) value)
          else some ((target.find key).getD value) := by
  induction members generalizing target with
  | nil => rfl
  | cons member rest ih =>
      obtain ⟨k, v⟩ := member
      obtain ⟨hk, hrest⟩ := List.nodup_cons.mp hkeys
      have hhead : v.isObject = true → (target.get k).isObject = true :=
        hcovered (k, v) List.mem_cons_self
      have htail : Covered (mergeMember target k v) rest := by
        rw [covered_mergeMember_iff htarget hhead hk]
        exact fun member hmember => hcovered member
          (List.mem_cons_of_mem _ hmember)
      rw [mergeMembers_cons,
        ih (isObject_mergeMember htarget k v) hrest htail]
      by_cases h : key = k
      · subst h
        rw [lookup_eq_none_of_not_mem hk, List.lookup_cons_self]
        dsimp only
        by_cases hv : v.isObject = true
        · rw [(find_mergeMember_of_covered htarget hv (hhead hv) key).2,
            if_pos rfl, if_pos hv]
        · rw [(find_mergeMember_of_scalar htarget key
              (Bool.eq_false_of_not_eq_true hv) key).2,
            if_pos rfl, if_neg hv]
      · rw [lookup_cons_of_ne h, get_eq,
          find_mergeMember_of_ne htarget hhead h, ← get_eq]

/-- Keys without objects are added behind the members of the target. -/
theorem mergeMembers_of_scalars
    (members : List (String × Json)) {rest : List (String × Json)}
    (hscalar : ∀ member ∈ rest, member.2.isObject = false)
    (hkeys : ((members ++ rest).map Prod.fst).Nodup) :
    mergeMembers (obj members) rest = obj (members ++ rest) := by
  induction rest generalizing members with
  | nil => rw [List.append_nil, mergeMembers]
  | cons member rest ih =>
      obtain ⟨key, value⟩ := member
      have hnew : key ∉ members.map Prod.fst := by
        rw [List.map_append, List.map_cons, List.nodup_append] at hkeys
        intro hmem
        exact hkeys.2.2 key hmem key List.mem_cons_self rfl
      have hstep : mergeMember (obj members) key value =
          obj (members ++ [(key, value)]) := by
        have hvalue : value.isObject = false :=
          hscalar (key, value) List.mem_cons_self
        have hmissing : (obj members).find key = none :=
          lookup_eq_none_of_not_mem hnew
        simp only [mergeMember, hvalue, Bool.false_eq_true, if_false,
          containsKey_eq, hmissing, Option.isSome_none, Bool.not_false,
          if_true, Json.set, setMember_of_not_mem value hnew]
      rw [mergeMembers_cons, hstep, ih]
      · rw [List.append_assoc, List.singleton_append]
      · intro member hmember
        exact hscalar member (List.mem_cons_of_mem _ hmember)
      · rw [List.append_assoc, List.singleton_append]
        exact hkeys

/-- What is left if the source is not covered: its last nested object, merged
into nothing, and the keys behind it. -/
theorem mergeMembers_of_not_covered
    {target : Json} (htarget : target.isObject = true)
    {members : List (String × Json)}
    (hkeys : (members.map Prod.fst).Nodup)
    (h : ¬ Covered target members) :
    ∃ before key value later, members = before ++ (key, value) :: later ∧
      value.isObject = true ∧
      (∀ member ∈ later, member.2.isObject = false) ∧
      mergeMembers target members =
        obj ((key, mergeJsonObjects (obj []) value) :: later) := by
  induction members generalizing target with
  | nil => exact absurd (fun member hmem => absurd hmem List.not_mem_nil) h
  | cons member rest ih =>
      obtain ⟨k, v⟩ := member
      obtain ⟨hk, hrest⟩ := List.nodup_cons.mp hkeys
      by_cases hnext : Covered (mergeMember target k v) rest
      · have hdestroys : ¬ (v.isObject = true →
            (target.get k).isObject = true) := by
          intro hhead
          rw [covered_mergeMember_iff htarget hhead hk] at hnext
          apply h
          intro member hmem hobject
          rcases List.mem_cons.mp hmem with rfl | hmem
          · exact hhead hobject
          · exact hnext member hmem hobject
        obtain ⟨hv, hmissing⟩ := Classical.not_imp.mp hdestroys
        have hstep := mergeMember_of_not_covered hv
          (Bool.eq_false_of_not_eq_true hmissing)
        have hscalar : ∀ member ∈ rest, member.2.isObject = false := by
          intro member hmem
          by_contra hobject
          have hne : member.1 ≠ k := by
            intro heq
            exact hk (List.mem_map.mpr ⟨member, hmem, heq⟩)
          have hfound := hnext member hmem (by simpa using hobject)
          rw [hstep, get_eq, find, lookup_cons_of_ne hne] at hfound
          exact absurd hfound Bool.false_ne_true
        refine ⟨[], k, v, rest, rfl, hv, hscalar, ?_⟩
        rw [mergeMembers_cons, hstep]
        exact mergeMembers_of_scalars _ hscalar hkeys
      · obtain ⟨before, key, value, later, rfl, hvalue, hlater, heq⟩ :=
          ih (isObject_mergeMember htarget k v) hrest hnext
        refine ⟨(k, v) :: before, key, value, later, rfl, hvalue, hlater, ?_⟩
        rw [mergeMembers_cons, heq]

/-! ## When the merge is right -/

mutual

/-- The condition under which merging the source into the target is right. -/
def MergesRightly (target : Json) : Json → Prop
  | .obj members => Matches target members ∨ NothingToLose target members
  | _ => True

/-- The target has an object wherever the source has one, and merging these is
right. -/
def Matches (target : Json) : List (String × Json) → Prop
  | [] => True
  | (key, value) :: rest =>
      (value.isObject = true →
        (target.get key).isObject = true ∧
          MergesRightly (target.get key) value) ∧
        Matches target rest

/-- The first key of the source holds its only object and the target has none
there.  All other keys of the target are in the source with the same value. -/
def NothingToLose (target : Json) : List (String × Json) → Prop
  | [] => False
  | (key, value) :: later =>
      value.isObject = true ∧ (target.get key).isObject = false ∧
        MergesRightly (.obj []) value ∧
        (∀ member ∈ later, member.2.isObject = false) ∧
        ∀ key' old, target.find key' = some old →
          key' = key ∨ (key', old) ∈ later

end

theorem matches_iff
    {target : Json} {members : List (String × Json)} :
    Matches target members ↔
      ∀ member ∈ members, member.2.isObject = true →
        (target.get member.1).isObject = true ∧
          MergesRightly (target.get member.1) member.2 := by
  induction members with
  | nil => simp [Matches]
  | cons member rest ih =>
      obtain ⟨key, value⟩ := member
      rw [List.forall_mem_cons, ← ih]
      exact Iff.rfl

theorem Matches.covered
    {target : Json} {members : List (String × Json)}
    (h : Matches target members) : Covered target members :=
  fun member hmem hobject => (matches_iff.mp h member hmem hobject).1

theorem NothingToLose.not_covered
    {target : Json} {members : List (String × Json)}
    (h : NothingToLose target members) : ¬ Covered target members := by
  intro hcovered
  cases members with
  | nil => exact h
  | cons member later =>
      have hobject := hcovered member List.mem_cons_self h.1
      rw [h.2.1] at hobject
      exact absurd hobject Bool.false_ne_true

/-- An object that is merged rightly into nothing arrives as it is. -/
theorem mergeJsonObjects_empty
    (source : Json) (hobject : source.isObject = true)
    (hunique : source.UniqueKeys) (h : MergesRightly (obj []) source) :
    mergeJsonObjects (obj []) source = source := by
  induction source using object_induction with
  | other j hj =>
      rw [hobject] at hj
      exact absurd hj (by decide)
  | object members ih =>
      rw [mergeJsonObjects]
      rcases h with hmatches | hfresh
      · have hscalar : ∀ member ∈ members, member.2.isObject = false := by
          intro member hmem
          by_contra hmember
          have hfound := hmatches.covered member hmem (by simpa using hmember)
          exact absurd hfound (by simp [get_eq, find, isObject])
        have hmerged := mergeMembers_of_scalars [] hscalar
          (by simpa using hunique.1)
        rwa [List.nil_append] at hmerged
      · cases members with
        | nil => exact hfresh.elim
        | cons member later =>
            obtain ⟨key, value⟩ := member
            obtain ⟨hvalue, hmissing, hright, hlater, -⟩ := hfresh
            rw [mergeMembers_cons,
              mergeMember_of_not_covered hvalue hmissing,
              ih (key, value) List.mem_cons_self hvalue hunique.2.1 hright]
            exact mergeMembers_of_scalars _ hlater hunique.1

/-- A covered source is merged rightly if all its nested objects are. -/
theorem isMerge_iff_of_covered
    {target : Json} (htarget : target.isObject = true)
    {members : List (String × Json)} (hunique : (obj members).UniqueKeys)
    (hcovered : Covered target members)
    (ih : ∀ member ∈ members, ∀ target : Json, target.isObject = true →
      member.2.UniqueKeys →
      (IsMerge target (mergeJsonObjects target member.2) member.2 ↔
        MergesRightly target member.2)) :
    IsMerge target (mergeMembers target members) (obj members) ↔
      Matches target members := by
  have hfind := find_mergeMembers_of_covered htarget hunique.1 hcovered
  have hframe : ∀ key, key ∉ members.map Prod.fst →
      (mergeMembers target members).find key = target.find key := by
    intro key hkey
    rw [hfind, lookup_eq_none_of_not_mem hkey]
  have hvalue : ∀ member ∈ members,
      (ValueMerged target (mergeMembers target members) member ↔
        (member.2.isObject = true →
          (target.get member.1).isObject = true ∧
            MergesRightly (target.get member.1) member.2)) := by
    intro member hmem
    have hresult := hfind member.1
    rw [lookup_of_mem hunique.1 hmem] at hresult
    dsimp only at hresult
    by_cases hobject : member.2.isObject = true
    · have hold := hcovered member hmem hobject
      have hrec := ih member hmem (target.get member.1) hold
        (hunique.2.of_mem hmem)
      rw [if_pos hobject] at hresult
      rw [valueMerged_nested_iff hobject hold, hresult]
      simp only [Option.some.injEq, exists_eq_left', hrec, hold, hobject,
        true_and, true_implies]
    · rw [if_neg hobject] at hresult
      refine iff_of_true ?_ fun h => absurd h hobject
      exact (valueMerged_scalar_iff (Bool.eq_false_of_not_eq_true hobject)).mpr
        hresult
  rw [IsMerge, membersMerged_iff, matches_iff]
  constructor
  · rintro ⟨-, -, hmerged⟩ member hmem
    exact (hvalue member hmem).mp (hmerged member hmem)
  · intro hmatches
    refine ⟨isObject_mergeMembers htarget members, hframe, ?_⟩
    intro member hmem
    exact (hvalue member hmem).mpr (hmatches member hmem)

/-- What the destroyed target still holds. -/
theorem find_survivors
    {key : String} {later : List (String × Json)} (merged : Json)
    (hkeys : (key :: later.map Prod.fst).Nodup) :
    (obj ((key, merged) :: later)).find key = some merged ∧
      (∀ member ∈ later,
        (obj ((key, merged) :: later)).find member.1 = some member.2) ∧
      ∀ key', key' ∉ key :: later.map Prod.fst →
        (obj ((key, merged) :: later)).find key' = none := by
  obtain ⟨hkey, hlater⟩ := List.nodup_cons.mp hkeys
  refine ⟨List.lookup_cons_self, ?_, ?_⟩
  · intro member hmem
    have hne : member.1 ≠ key := by
      intro heq
      exact hkey (List.mem_map.mpr ⟨member, hmem, heq⟩)
    rw [find, lookup_cons_of_ne hne]
    exact lookup_of_mem hlater hmem
  · intro key' hkey'
    rw [List.mem_cons, not_or] at hkey'
    rw [find, lookup_cons_of_ne hkey'.1]
    exact lookup_eq_none_of_not_mem hkey'.2

/-- If the nested object is the first key of the source and the destroyed target
is the merge, there was nothing to lose. -/
theorem kept_of_isMerge_survivors
    {target merged : Json} {key : String} {value : Json}
    {later : List (String × Json)}
    (hkeys : (key :: later.map Prod.fst).Nodup)
    (hlater : ∀ member ∈ later, member.2.isObject = false)
    (h : IsMerge target (obj ((key, merged) :: later))
      (obj ((key, value) :: later)))
    (key' : String) (old : Json) (hfind : target.find key' = some old) :
    key' = key ∨ (key', old) ∈ later := by
  obtain ⟨-, hmembers, hnone⟩ := find_survivors merged hkeys
  obtain ⟨-, hframe, hmerged⟩ := h
  by_cases hkey : key' = key
  · exact Or.inl hkey
  · right
    have hshared : key' ∈ later.map Prod.fst := by
      by_contra hnot
      have hlost := hframe key' (by simp [hkey, hnot])
      rw [hnone key' (by simp [hkey, hnot]), hfind] at hlost
      exact nomatch hlost
    obtain ⟨member, hmem, rfl⟩ := List.mem_map.mp hshared
    have hmember := (valueMerged_scalar_iff (hlater member hmem)).mp
      (membersMerged_iff.mp hmerged member (List.mem_cons_of_mem _ hmem))
    rw [hmembers member hmem, hfind] at hmember
    obtain rfl : member.2 = old := Option.some.inj hmember
    exact hmem

/-- If there was nothing to lose and the nested object arrives as it is, the
destroyed target is the merge. -/
theorem isMerge_survivors_of_kept
    {target : Json} {key : String} {value : Json}
    {later : List (String × Json)}
    (hunique : (obj ((key, value) :: later)).UniqueKeys)
    (hvalue : value.isObject = true)
    (hmissing : (target.get key).isObject = false)
    (hlater : ∀ member ∈ later, member.2.isObject = false)
    (hkept : ∀ key' old, target.find key' = some old →
      key' = key ∨ (key', old) ∈ later) :
    IsMerge target (obj ((key, value) :: later))
      (obj ((key, value) :: later)) := by
  obtain ⟨hself, hmembers, hnone⟩ := find_survivors value hunique.1
  refine ⟨rfl, ?_, membersMerged_iff.mpr ?_⟩
  · intro key' hkey'
    rw [hnone key' hkey']
    cases hfind : target.find key' with
    | none => rfl
    | some old =>
        rcases hkept key' old hfind with rfl | hmem
        · exact absurd List.mem_cons_self hkey'
        · exact absurd (List.mem_cons_of_mem _
            (List.mem_map.mpr ⟨_, hmem, rfl⟩)) hkey'
  · intro member hmem
    rcases List.mem_cons.mp hmem with rfl | hmem
    · exact valueMerged_of_arrived hvalue hmissing hunique.2.1 hself
    · rw [valueMerged_scalar_iff (hlater member hmem), hmembers member hmem]
      cases hfind : target.find member.1 with
      | none => rfl
      | some old =>
          rcases hkept member.1 old hfind with heq | hmem'
          · have hkey := (List.nodup_cons.mp hunique.1).1
            exact absurd (List.mem_map.mpr ⟨member, hmem, heq⟩) hkey
          · have hlookup := hmembers (member.1, old) hmem'
            rwa [hmembers member hmem] at hlookup

/-- If the nested object is the first key of the source, the destroyed target is
the merge exactly if there was nothing to lose. -/
theorem isMerge_survivors_iff
    {target : Json} {key : String} {value : Json}
    {later : List (String × Json)}
    (hunique : (obj ((key, value) :: later)).UniqueKeys)
    (hvalue : value.isObject = true)
    (hmissing : (target.get key).isObject = false)
    (hlater : ∀ member ∈ later, member.2.isObject = false)
    (ih : IsMerge (obj []) (mergeJsonObjects (obj []) value) value ↔
      MergesRightly (obj []) value) :
    IsMerge target (obj ((key, mergeJsonObjects (obj []) value) :: later))
        (obj ((key, value) :: later)) ↔
      NothingToLose target ((key, value) :: later) := by
  have hself :=
    (find_survivors (mergeJsonObjects (obj []) value) hunique.1).1
  constructor
  · intro h
    have hfirst := membersMerged_iff.mp h.2.2 (key, value) List.mem_cons_self
    obtain ⟨new, hnew, hright⟩ :=
      hfirst.isMerge_empty hvalue hmissing hunique.2.1
    obtain rfl : mergeJsonObjects (obj []) value = new :=
      Option.some.inj (hself.symm.trans hnew)
    exact ⟨hvalue, hmissing, ih.mp hright, hlater,
      kept_of_isMerge_survivors hunique.1 hlater h⟩
  · rintro ⟨-, -, hright, -, hkept⟩
    rw [mergeJsonObjects_empty value hvalue hunique.2.1 hright]
    exact isMerge_survivors_of_kept hunique hvalue hmissing hlater hkept

/-- A source that is not covered is merged rightly if the target had nothing to
lose. -/
theorem isMerge_iff_of_not_covered
    {target : Json} (htarget : target.isObject = true)
    {members : List (String × Json)} (hunique : (obj members).UniqueKeys)
    (hcovered : ¬ Covered target members)
    (ih : ∀ member ∈ members, ∀ target : Json, target.isObject = true →
      member.2.UniqueKeys →
      (IsMerge target (mergeJsonObjects target member.2) member.2 ↔
        MergesRightly target member.2)) :
    IsMerge target (mergeMembers target members) (obj members) ↔
      NothingToLose target members := by
  obtain ⟨before, key, value, later, rfl, hvalue, hlater, heq⟩ :=
    mergeMembers_of_not_covered htarget hunique.1 hcovered
  rw [heq]
  cases before with
  | nil =>
      have hmissing : (target.get key).isObject = false := by
        by_contra hobject
        apply hcovered
        intro member hmem hmember
        rcases List.mem_cons.mp hmem with rfl | hmem
        · simpa using hobject
        · rw [hlater member hmem] at hmember
          exact absurd hmember Bool.false_ne_true
      exact isMerge_survivors_iff hunique hvalue hmissing hlater
        (ih (key, value) List.mem_cons_self (obj []) rfl hunique.2.1)
  | cons first before =>
      refine iff_of_false ?_ ?_
      · rintro ⟨-, -, hmerged⟩
        have hfirst := membersMerged_iff.mp hmerged first List.mem_cons_self
        obtain ⟨found, hfound⟩ := hfirst.exists_find
        have hkeys := hunique.1
        rw [List.cons_append, List.map_cons, List.nodup_cons,
          List.map_append, List.mem_append, not_or] at hkeys
        have htail : (key :: later.map Prod.fst).Nodup :=
          (List.nodup_append.mp hkeys.2).2.1
        have hlost := (find_survivors
          (mergeJsonObjects (obj []) value) htail).2.2 first.1 hkeys.1.2
        rw [hlost] at hfound
        exact nomatch hfound
      · rintro ⟨-, -, -, hscalar, -⟩
        have hnot := hscalar (key, value)
          (List.mem_append_right _ List.mem_cons_self)
        rw [hvalue] at hnot
        exact absurd hnot (by decide)

/-- Merging a source with distinct keys into a target object is the left-biased
deep merge if and only if the target has an object wherever the source has one,
at every depth, or has nothing to lose. -/
theorem mergeJsonObjects_isMerge_iff
    (target source : Json) (htarget : target.isObject = true)
    (hunique : source.UniqueKeys) :
    IsMerge target (mergeJsonObjects target source) source ↔
      MergesRightly target source := by
  induction source using object_induction generalizing target with
  | other j hj =>
      cases j with
      | obj members => exact absurd hj (by simp [isObject])
      | _ => exact iff_of_true rfl trivial
  | object members ih =>
      rw [mergeJsonObjects, MergesRightly]
      by_cases hcovered : Covered target members
      · rw [isMerge_iff_of_covered htarget hunique hcovered ih]
        refine ⟨Or.inl, ?_⟩
        rintro (hmatches | hfresh)
        · exact hmatches
        · exact absurd hcovered hfresh.not_covered
      · rw [isMerge_iff_of_not_covered htarget hunique hcovered ih]
        refine ⟨Or.inr, ?_⟩
        rintro (hmatches | hfresh)
        · exact absurd hmatches.covered hcovered
        · exact hfresh

/-- A backup that adds the key `oled` to the section `hardware`. -/
theorem isMerge_new_key :
    IsMerge
      (obj [("hardware", obj [("led", bool false)]), ("ota", bool true)])
      (mergeJsonObjects
        (obj [("hardware", obj [("led", bool false)]), ("ota", bool true)])
        (obj [("hardware", obj [("led", bool true), ("oled", bool true)])]))
      (obj [("hardware", obj [("led", bool true), ("oled", bool true)])]) := by
  have hunique : UniqueKeys
      (obj [("hardware", obj [("led", bool true), ("oled", bool true)])]) :=
    ⟨by decide, ⟨by decide, trivial, trivial, trivial⟩, trivial⟩
  refine (mergeJsonObjects_isMerge_iff _ _ rfl hunique).mpr ?_
  refine Or.inl ⟨fun _ => ⟨rfl, Or.inl ?_⟩, trivial⟩
  refine ⟨?_, ?_, trivial⟩
  · intro h
    exact nomatch h
  · intro h
    exact nomatch h

/-- A backup that adds the section `hardware` removes the user's setting
`ota`. -/
theorem not_isMerge_new_section :
    ¬ IsMerge (obj [("ota", bool false)])
      (mergeJsonObjects (obj [("ota", bool false)])
        (obj [("hardware", obj [("led", bool true)])]))
      (obj [("hardware", obj [("led", bool true)])]) := by
  rintro ⟨-, hframe, -⟩
  have hota := hframe "ota" (by decide)
  have hlost : (none : Option Json) = some (bool false) := hota
  exact nomatch hlost

end FileHandler
end ByteWaterlevel
