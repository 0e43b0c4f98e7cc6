import ByteWaterlevel.Support.Machine

/-!
# A value kept in two copies

A value with a stored copy, which survives a boot, and a live copy, which a
boot loads from the stored one.  Saving writes both copies.  Restoring writes
the default to the stored copy alone, and a boot may do the same after it has
loaded, so the copies may differ for a while.

`run_stored` and `run_live` say which value the copies have after an arbitrary
history: that of the last writer.
-/

namespace TwoCopies

variable {V : Type*}

structure Copies (V : Type*) where
  stored : V
  live : V

inductive Event (V : Type*) where
  | save (v : V)
  | restore
  | boot (restoring : Bool)

/-- `default` is the value that restoring writes. -/
def step (default : V) (c : Copies V) : Event V → Copies V
  | .save v => ⟨v, v⟩
  | .restore => { c with stored := default }
  | .boot restoring => ⟨if restoring then default else c.stored, c.stored⟩

/-- What an event writes to the stored copy. -/
def written (default : V) : Event V → Option V
  | .save v => some v
  | .restore => some default
  | .boot restoring => if restoring then some default else none

/-- What an event saves. -/
def saved : Event V → Option V
  | .save v => some v
  | _ => none

def Event.IsBoot : Event V → Prop
  | .boot _ => True
  | _ => False

/-- The value of the last event that writes the stored copy. -/
def lastWritten (default : V) (es : List (Event V)) : Option V :=
  (es.filterMap (written default)).getLast?

/-- The value of the last save. -/
def lastSaved (es : List (Event V)) : Option V :=
  (es.filterMap saved).getLast?

theorem getD_getLast_filterMap_concat
    {α β : Type*} (f : α → Option β) (xs : List α) (x : α) (b : β) :
    ((xs ++ [x]).filterMap f).getLast?.getD b =
      (f x).getD ((xs.filterMap f).getLast?.getD b) := by
  cases hx : f x with
  | none => simp [List.filterMap_append, hx]
  | some y => simp [List.filterMap_append, hx]

/-- The stored copy is that of the last writer. -/
theorem run_stored
    (default : V) (c : Copies V) (es : List (Event V)) :
    (Machine.run (step default) c es).stored =
      (lastWritten default es).getD c.stored := by
  induction es using List.reverseRecOn with
  | nil => rfl
  | append_singleton es e ih =>
      rw [lastWritten, getD_getLast_filterMap_concat, ← lastWritten, ← ih,
        Machine.run_append, Machine.run_cons, Machine.run_nil]
      cases e with
      | save v => rfl
      | restore => rfl
      | boot restoring => cases restoring <;> rfl

/-- Between boots the live copy is that of the last save. -/
theorem run_live_of_no_boot
    (default : V) (c : Copies V) {es : List (Event V)}
    (h : ∀ e ∈ es, ¬ e.IsBoot) :
    (Machine.run (step default) c es).live =
      (lastSaved es).getD c.live := by
  induction es using List.reverseRecOn with
  | nil => rfl
  | append_singleton es e ih =>
      have hinit := ih fun x hx => h x (List.mem_append_left [e] hx)
      rw [lastSaved, getD_getLast_filterMap_concat, ← lastSaved, ← hinit,
        Machine.run_append, Machine.run_cons, Machine.run_nil]
      cases e with
      | save v => rfl
      | restore => rfl
      | boot restoring => exact absurd trivial (h (.boot restoring) (by simp))

/-- After a history whose last boot comes behind `pre`, the live copy is that
of the last save since then, and otherwise what the last writer before the boot
has stored. -/
theorem run_live
    (default : V) (c : Copies V) {pre post : List (Event V)}
    (restoring : Bool) (h : ∀ e ∈ post, ¬ e.IsBoot) :
    (Machine.run (step default) c (pre ++ .boot restoring :: post)).live =
      (lastSaved post).getD ((lastWritten default pre).getD c.stored) := by
  rw [Machine.run_append, Machine.run_cons, run_live_of_no_boot default _ h,
    ← run_stored]
  rfl

end TwoCopies
