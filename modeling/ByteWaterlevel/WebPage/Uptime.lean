import ByteWaterlevel.WebPage.Status

/-!
# Reading an uptime

`readUptime` is what the text of an uptime means: the sum of its parts, each a
number with the label of its unit.  The text that `formatUptime` makes of a
number of seconds means that number, so two different uptimes are never shown
alike.
-/

namespace ByteWaterlevel
namespace WebPage

/-- The seconds in a unit. -/
def unitSeconds (label : List Char) : Option ℕ :=
  if label = ['d'] then some 86400
  else if label = ['h'] then some 3600
  else if label = ['m', 'i', 'n'] then some 60
  else if label = ['s'] then some 1
  else none

/-- The seconds of a part: a decimal number and a label. -/
def readPart (part : List Char) : Option ℕ :=
  let digits := part.takeWhile Char.isDigit
  if digits = [] then none
  else
    (unitSeconds (part.dropWhile Char.isDigit)).map
      fun seconds => Nat.ofDigitChars 10 digits 0 * seconds

def readUptime (text : String) : Option ℕ := do
  let parts ← (text.toList.splitOn ' ').mapM readPart
  return parts.sum

/-- The units of the page. -/
def unitLabels : List (String × ℕ) :=
  [("d", 86400), ("h", 3600), ("min", 60), ("s", 1)]

theorem toList_toString_isDigit {n : ℕ} :
    ∀ c ∈ (toString n).toList, c.isDigit = true := by
  intro c hc
  have hdigits : c ∈ Nat.toDigits 10 n := by simpa using hc
  exact Nat.isDigit_of_mem_toDigits (by decide) (by decide) hdigits

/-- A part reads as its number of its unit. -/
theorem readPart_part
    {label : String} {seconds : ℕ} (h : (label, seconds) ∈ unitLabels)
    (n : ℕ) :
    readPart (toString n ++ label).toList = some (n * seconds) := by
  have hunit : unitSeconds label.toList = some seconds ∧
      ∃ c rest, label.toList = c :: rest ∧ c.isDigit = false := by
    simp only [unitLabels, List.mem_cons, Prod.mk.injEq, List.not_mem_nil,
      or_false] at h
    rcases h with ⟨rfl, rfl⟩ | ⟨rfl, rfl⟩ | ⟨rfl, rfl⟩ | ⟨rfl, rfl⟩
    · exact ⟨rfl, 'd', [], rfl, rfl⟩
    · exact ⟨rfl, 'h', [], rfl, rfl⟩
    · exact ⟨rfl, 'm', ['i', 'n'], rfl, rfl⟩
    · exact ⟨rfl, 's', [], rfl, rfl⟩
  obtain ⟨hseconds, c, rest, hlabel, hc⟩ := hunit
  have htake : ((toString n).toList ++ label.toList).takeWhile Char.isDigit =
      (toString n).toList := by
    rw [List.takeWhile_append_of_pos toList_toString_isDigit, hlabel,
      List.takeWhile_cons_of_neg (by simp [hc]), List.append_nil]
  have hdrop : ((toString n).toList ++ label.toList).dropWhile Char.isDigit =
      label.toList := by
    rw [List.dropWhile_append_of_pos toList_toString_isDigit, hlabel,
      List.dropWhile_cons_of_neg (by simp [hc])]
  have hdigits : (toString n).toList = Nat.toDigits 10 n := by simp
  have hne : Nat.toDigits 10 n ≠ [] := Nat.toDigits_ne_nil
  rw [readPart, String.toList_append, htake, hdrop, hseconds, hdigits]
  simp [hne]

/-- Leading units without a value do not matter for those with one. -/
theorem filter_drop_findIdx
    {α : Type} (p : α → Bool) {l : List α} {i : ℕ}
    (h : l.findIdx? p = some i) : (l.drop i).filter p = l.filter p := by
  induction l generalizing i with
  | nil => exact absurd h (by simp)
  | cons x l ih =>
      rw [List.findIdx?_cons] at h
      split_ifs at h with hx
      · obtain rfl : 0 = i := Option.some.inj h
        rfl
      · obtain ⟨j, hj, rfl⟩ := Option.map_eq_some_iff.mp h
        rw [List.drop_succ_cons, ih hj, List.filter_cons_of_neg hx]

/-- The parts of the text. -/
def uptimeParts (s : ℕ) : List (String × ℕ) :=
  (uptimeUnits s).filter fun unit => 0 < unit.2

theorem formatUptime_of_pos
    {s : ℕ} (h : uptimeParts s ≠ []) :
    formatUptime s =
      " ".intercalate ((uptimeParts s).map fun unit =>
        toString unit.2 ++ unit.1) := by
  unfold formatUptime
  dsimp only
  split
  · next hnone =>
      refine absurd ?_ h
      rw [List.findIdx?_eq_none_iff] at hnone
      exact List.filter_eq_nil_iff.mpr fun unit hunit => by
        simpa using hnone unit hunit
  · next i hi => rw [filter_drop_findIdx _ hi, uptimeParts]

/-- The seconds in the unit with the given label. -/
def secondsOf (label : String) : ℕ := (unitLabels.lookup label).getD 0

theorem secondsOf_mem
    {s : ℕ} {unit : String × ℕ} (h : unit ∈ uptimeParts s) :
    (unit.1, secondsOf unit.1) ∈ unitLabels := by
  have hunit : unit ∈ uptimeUnits s := List.mem_of_mem_filter h
  simp only [uptimeUnits, List.mem_cons, List.not_mem_nil, or_false] at hunit
  have hlabel : ∀ label ∈ ["d", "h", "min", "s"],
      (label, secondsOf label) ∈ unitLabels := by decide
  rcases hunit with rfl | rfl | rfl | rfl <;> exact hlabel _ (by simp)

/-- The parts add up to the uptime. -/
theorem sum_uptimeParts (s : ℕ) :
    ((uptimeParts s).map fun unit => unit.2 * secondsOf unit.1).sum = s := by
  have hd : secondsOf "d" = 86400 := by decide
  have hh : secondsOf "h" = 3600 := by decide
  have hmin : secondsOf "min" = 60 := by decide
  have hs : secondsOf "s" = 1 := by decide
  have hzero : ∀ units : List (String × ℕ),
      ((units.filter fun unit => 0 < unit.2).map
          fun unit => unit.2 * secondsOf unit.1).sum =
        (units.map fun unit => unit.2 * secondsOf unit.1).sum := by
    intro units
    induction units with
    | nil => rfl
    | cons unit units ih =>
        rcases Nat.eq_zero_or_pos unit.2 with hempty | hfull
        · simp [hempty, ih]
        · simp [hfull, ih]
  rw [uptimeParts, hzero]
  simp only [uptimeUnits, List.map_cons, List.map_nil, List.sum_cons,
    List.sum_nil, hd, hh, hmin, hs]
  omega

theorem mapM_of_forall
    {α β : Type} {f : α → Option β} {g : α → β} {l : List α}
    (h : ∀ x ∈ l, f x = some (g x)) : l.mapM f = some (l.map g) := by
  induction l with
  | nil => rfl
  | cons x l ih =>
      rw [List.mapM_cons, h x List.mem_cons_self,
        ih fun y hy => h y (List.mem_cons_of_mem x hy)]
      rfl

theorem space_not_mem_part
    {s : ℕ} {unit : String × ℕ} (h : unit ∈ uptimeParts s) :
    ' ' ∉ (toString unit.2 ++ unit.1).toList := by
  have hlabel : ' ' ∉ unit.1.toList := by
    have hmem := secondsOf_mem h
    simp only [unitLabels, List.mem_cons, Prod.mk.injEq, List.not_mem_nil,
      or_false] at hmem
    rcases hmem with ⟨hl, -⟩ | ⟨hl, -⟩ | ⟨hl, -⟩ | ⟨hl, -⟩ <;>
      rw [hl] <;> decide
  rw [String.toList_append, List.mem_append, not_or]
  refine ⟨?_, hlabel⟩
  intro hspace
  exact absurd (toList_toString_isDigit ' ' hspace) (by decide)

/-- The text of an uptime means the uptime. -/
theorem readUptime_formatUptime (s : ℕ) :
    readUptime (formatUptime s) = some s := by
  by_cases hparts : uptimeParts s = []
  · obtain rfl : s = 0 := by
      rw [← sum_uptimeParts s, hparts]
      rfl
    decide
  · have hsplit : (formatUptime s).toList.splitOn ' ' =
        (uptimeParts s).map fun unit => (toString unit.2 ++ unit.1).toList := by
      rw [formatUptime_of_pos hparts, String.toList_intercalate, List.map_map]
      refine List.splitOn_intercalate ' ' ?_ (by simpa using hparts)
      intro part hpart
      obtain ⟨unit, hunit, rfl⟩ := List.mem_map.mp hpart
      exact space_not_mem_part hunit
    have hread : ∀ unit ∈ uptimeParts s,
        (readPart ∘ fun unit => (toString unit.2 ++ unit.1).toList) unit =
          some (unit.2 * secondsOf unit.1) :=
      fun unit hunit => readPart_part (secondsOf_mem hunit) unit.2
    rw [readUptime, hsplit, List.mapM_map, mapM_of_forall hread]
    exact congrArg some (sum_uptimeParts s)

end WebPage
end ByteWaterlevel
