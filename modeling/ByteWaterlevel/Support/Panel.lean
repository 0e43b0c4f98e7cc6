import ByteWaterlevel.Support.Machine

/-!
# Buffered panels

A panel with a drawing buffer: clearing and drawing change the buffer, and the
panel shows what the buffer held at the last call of `display`.  A frame clears
the buffer, draws and displays.  Between two frames nothing is half drawn, and
nothing of an earlier frame is left.
-/

structure Panel (δ : Type*) where
  buffer : List δ
  shown : List δ

namespace Panel

variable {δ σ ι : Type*}

inductive Call (δ : Type*) where
  | clear
  | draw (item : δ)
  | display

def step (p : Panel δ) : Call δ → Panel δ
  | .clear => { p with buffer := [] }
  | .draw item => { p with buffer := p.buffer ++ [item] }
  | .display => { p with shown := p.buffer }

abbrev run : Panel δ → List (Call δ) → Panel δ := Machine.run step

/-- The calls that show the given items and nothing else. -/
def frame (items : List δ) : List (Call δ) :=
  .clear :: (items.map .draw ++ [.display])

theorem run_draw (p : Panel δ) (items : List δ) :
    run p (items.map .draw) = { p with buffer := p.buffer ++ items } := by
  induction items generalizing p with
  | nil => simp
  | cons item items ih =>
      rw [List.map_cons, run, Machine.run_cons, ← run, ih]
      simp [step]

/-- A frame shows its items, whatever was drawn before. -/
theorem run_frame (p : Panel δ) (items : List δ) :
    run p (frame items) = ⟨items, items⟩ := by
  rw [frame, run, Machine.run_cons, Machine.run_append, ← run, run_draw]
  rfl

/-- Let the steps of a machine draw frames or nothing.  After a step that draws
a frame, and others that draw nothing, the panel shows that frame. -/
theorem shown_after_frame
    {step : σ → ι → σ} {calls : σ → ι → List (Call δ)} {s : σ}
    {pre : List ι} {e : ι} {post : List ι} {items : List δ}
    (hframe : calls (Machine.run step s pre) e = frame items)
    (hpost : Machine.Along step (fun s e => calls s e = [])
      (Machine.run step s (pre ++ [e])) post) (p : Panel δ) :
    (run p (Machine.trace step calls s (pre ++ e :: post))).shown = items := by
  rw [List.append_cons, Machine.trace_append, Machine.trace_eq_nil hpost,
    List.append_nil, Machine.trace_append, Machine.trace, hframe,
    Machine.trace, List.append_nil, run, Machine.run_append, ← run, run_frame]

end Panel
