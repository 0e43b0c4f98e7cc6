import ByteWaterlevel.Support.Machine
import Mathlib.Data.BitVec
import Mathlib.Data.List.Chain

/-!
# Interval gates on a wrapping clock

A handler that is called again and again, but acts only once an interval has
passed since it last acted, keeps the time of its last action in a timestamp
and compares the difference to the current time with the interval.  Clock and
timestamp are `w` bits wide and wrap; the difference is taken in `w` bits.

`IntervalGate` describes such a gate inside an event machine, and `Governs`
says that the timestamp of the machine follows it.  Over runs of any length,
the gate fires exactly when the interval has truly passed, provided that no two
consecutive calls are too far apart for the difference to be seen in `w` bits.
Without any such condition it never fires too early.
-/

/-- A gate inside a machine with states `σ` and events `ι`. -/
structure IntervalGate (σ ι : Type*) (w : ℕ) where
  interval : BitVec w
  /-- The timestamp of the last firing. -/
  stamp : σ → BitVec w
  /-- The true time of the event, if it is a call of the handler. -/
  time : ι → Option ℕ
  /-- The call gets as far as the gate. -/
  reached : σ → ι → Bool

namespace IntervalGate

variable {σ ι : Type*} {w : ℕ}

/-- The event is a call at the true time `t` that passes the gate. -/
def Fires (g : IntervalGate σ ι w) (s : σ) (e : ι) (t : ℕ) : Prop :=
  g.time e = some t ∧ g.reached s e = true ∧
    BitVec.ofNat w t - g.stamp s ≥ g.interval

instance (g : IntervalGate σ ι w) (s : σ) (e : ι) (t : ℕ) :
    Decidable (g.Fires s e t) :=
  inferInstanceAs (Decidable (_ ∧ _ ∧ _))

/-- The time at which the event passes the gate, if it does. -/
def firings (g : IntervalGate σ ι w) (s : σ) (e : ι) : List ℕ :=
  (g.time e).toList.filter fun t => decide (g.Fires s e t)

/-- The true time of the last firing in the run of `es` from `s`, and `start` if
there is none. -/
def lastFiring (g : IntervalGate σ ι w) (step : σ → ι → σ) (s : σ)
    (start : ℕ) (es : List ι) : ℕ :=
  (Machine.trace step g.firings s es).getLastD start

/-- Each call of the run passes the gate if and only if the interval has truly
passed since the last firing. -/
def Exact (g : IntervalGate σ ι w) (step : σ → ι → σ) (s : σ)
    (start : ℕ) (es : List ι) : Prop :=
  ∀ pre e post t, es = pre ++ e :: post → g.time e = some t →
    (g.Fires (Machine.run step s pre) e t ↔
      g.lastFiring step s start pre + g.interval.toNat ≤ t)

/-- Any two firings of the run are at least the interval apart. -/
def Spaced (g : IntervalGate σ ι w) (step : σ → ι → σ) (s : σ)
    (es : List ι) : Prop :=
  (Machine.trace step g.firings s es).Pairwise fun t t' =>
    t + g.interval.toNat ≤ t'

/-- The steps that satisfy `P` move the timestamp as the gate does: a firing
stores the time, and everything else leaves it alone. -/
structure Governs (g : IntervalGate σ ι w) (step : σ → ι → σ)
    (P : σ → ι → Prop) : Prop where
  fire : ∀ s e t, P s e → g.Fires s e t →
    g.stamp (step s e) = BitVec.ofNat w t
  wait : ∀ s e, P s e → (∀ t, ¬ g.Fires s e t) →
    g.stamp (step s e) = g.stamp s

/-- The calls are in order, and no gap between two of them, or before the first
one, is so long that the interval and the gap together do not fit into the
clock. -/
def Gapless (g : IntervalGate σ ι w) (start : ℕ) (es : List ι) : Prop :=
  List.IsChain (fun t t' => t ≤ t' ∧ t' - t < 2 ^ w - g.interval.toNat)
    (start :: es.filterMap g.time)

instance (g : IntervalGate σ ι w) (start : ℕ) (es : List ι) :
    Decidable (g.Gapless start es) :=
  inferInstanceAs (Decidable (List.IsChain _ _))

/-- A machine follows the gate if each call stores its time or leaves the
timestamp alone, as the gate decides, and no other event touches it. -/
theorem governs_of_calls
    {g : IntervalGate σ ι w} {step : σ → ι → σ} {P : σ → ι → Prop}
    (hcall : ∀ s e t, P s e → g.time e = some t →
      g.stamp (step s e) =
        if g.Fires s e t then BitVec.ofNat w t else g.stamp s)
    (hother : ∀ s e, P s e → g.time e = none →
      g.stamp (step s e) = g.stamp s) : g.Governs step P where
  fire s e t he hfires := by
    rw [hcall s e t he hfires.1, if_pos hfires]
  wait s e he hnot := by
    cases htime : g.time e with
    | none => exact hother s e he htime
    | some t => rw [hcall s e t he htime, if_neg (hnot t)]

theorem Governs.mono
    {g : IntervalGate σ ι w} {step : σ → ι → σ} {P Q : σ → ι → Prop}
    (h : g.Governs step P) (hQ : ∀ s e, Q s e → P s e) :
    g.Governs step Q where
  fire s e t he := h.fire s e t (hQ s e he)
  wait s e he := h.wait s e (hQ s e he)

/-! ## The clock -/

theorem ofNat_sub_ofNat_of_le {last t : ℕ} (h : last ≤ t) :
    BitVec.ofNat w t - BitVec.ofNat w last = BitVec.ofNat w (t - last) := by
  rw [sub_eq_iff_eq_add, ← BitVec.ofNat_add, Nat.sub_add_cancel h]

/-- A difference of the clock is never more than the time that has truly
passed. -/
theorem toNat_sub_le {last t : ℕ} (h : last ≤ t) :
    (BitVec.ofNat w t - BitVec.ofNat w last).toNat ≤ t - last := by
  rw [ofNat_sub_ofNat_of_le h, BitVec.toNat_ofNat]
  exact Nat.mod_le _ _

/-- A difference that fits into the clock is the time that has passed. -/
theorem le_sub_iff
    {interval : BitVec w} {last t : ℕ} (h : last ≤ t)
    (hfits : t - last < 2 ^ w) :
    interval ≤ BitVec.ofNat w t - BitVec.ofNat w last ↔
      last + interval.toNat ≤ t := by
  rw [ofNat_sub_ofNat_of_le h, BitVec.le_def, BitVec.toNat_ofNat,
    Nat.mod_eq_of_lt hfits]
  omega

/-! ## One call -/

section

variable {g : IntervalGate σ ι w} {s : σ} {e : ι} {t : ℕ}

theorem fires_iff (htime : g.time e = some t) (hreached : g.reached s e = true) :
    g.Fires s e t ↔ BitVec.ofNat w t - g.stamp s ≥ g.interval := by
  rw [Fires, and_iff_right htime, and_iff_right hreached]

theorem Fires.firings (h : g.Fires s e t) : g.firings s e = [t] := by
  rw [IntervalGate.firings, h.1]
  simp [h]

theorem firings_of_not_fires (h : ∀ t, ¬ g.Fires s e t) :
    g.firings s e = [] := by
  rw [IntervalGate.firings, List.filter_eq_nil_iff]
  intro t _
  simpa using h t

theorem not_fires_of_time_eq_none (h : g.time e = none) (t : ℕ) :
    ¬ g.Fires s e t := by
  rintro ⟨htime, -⟩
  rw [h] at htime
  exact nomatch htime

/-- If the time since the last firing fits into the clock, the call passes the
gate if and only if it is at least the interval. -/
theorem fires_iff_of_fits
    {last : ℕ} (hstamp : g.stamp s = BitVec.ofNat w last)
    (htime : g.time e = some t) (hreached : g.reached s e = true)
    (hle : last ≤ t) (hfits : t - last < 2 ^ w) :
    g.Fires s e t ↔ last + g.interval.toNat ≤ t := by
  rw [fires_iff htime hreached, hstamp]
  exact le_sub_iff hle hfits

theorem Fires.add_le
    {last : ℕ} (hstamp : g.stamp s = BitVec.ofNat w last) (hle : last ≤ t)
    (h : g.Fires s e t) : last + g.interval.toNat ≤ t := by
  obtain ⟨-, -, hdiff⟩ := h
  rw [hstamp, ge_iff_le, BitVec.le_def] at hdiff
  have hpassed : (BitVec.ofNat w t - BitVec.ofNat w last).toNat ≤ t - last :=
    toNat_sub_le hle
  omega

end

/-! ## Runs -/

section

variable {g : IntervalGate σ ι w} {step : σ → ι → σ} {P : σ → ι → Prop}

theorem lastFiring_of_fires
    {s : σ} {e : ι} {t : ℕ} (h : g.Fires s e t) (start : ℕ) (es : List ι) :
    g.lastFiring step s start (e :: es) =
      g.lastFiring step (step s e) t es := by
  rw [lastFiring, Machine.trace, h.firings, List.singleton_append,
    List.getLastD_cons, lastFiring]

theorem lastFiring_of_not_fires
    {s : σ} {e : ι} (h : ∀ t, ¬ g.Fires s e t) (start : ℕ) (es : List ι) :
    g.lastFiring step s start (e :: es) =
      g.lastFiring step (step s e) start es := by
  rw [lastFiring, Machine.trace, firings_of_not_fires h, List.nil_append,
    lastFiring]

theorem gapless_cons_of_none
    {e : ι} (h : g.time e = none) {start : ℕ} {es : List ι} :
    g.Gapless start (e :: es) ↔ g.Gapless start es := by
  rw [Gapless, List.filterMap_cons_none h, Gapless]

theorem gapless_cons_of_some
    {e : ι} {t : ℕ} (h : g.time e = some t) {start : ℕ} {es : List ι} :
    g.Gapless start (e :: es) ↔
      (start ≤ t ∧ t - start < 2 ^ w - g.interval.toNat) ∧
        g.Gapless t es := by
  rw [Gapless, List.filterMap_cons_some h, List.isChain_cons_cons, Gapless]

/-- `last` is the time of the last firing and `prev` that of the last call.  If
the last call was no firing, it came before the interval was over. -/
structure Tracked (g : IntervalGate σ ι w) (s : σ) (last prev : ℕ) :
    Prop where
  stamp : g.stamp s = BitVec.ofNat w last
  le : last ≤ prev
  early : prev = last ∨ prev < last + g.interval.toNat

theorem Tracked.fires_iff
    {s : σ} {last prev : ℕ} (h : g.Tracked s last prev) {e : ι} {t : ℕ}
    (htime : g.time e = some t) (hreached : g.reached s e = true)
    (hle : prev ≤ t) (hgap : t - prev < 2 ^ w - g.interval.toNat) :
    g.Fires s e t ↔ last + g.interval.toNat ≤ t := by
  have hwidth : g.interval.toNat < 2 ^ w := g.interval.isLt
  have hearly := h.early
  have hfits : t - last < 2 ^ w := by omega
  exact fires_iff_of_fits h.stamp htime hreached (h.le.trans hle) hfits

/-- One step of a run keeps track of the last firing and of the last call. -/
theorem Tracked.after_step
    (hgov : g.Governs step P)
    (hreached : ∀ s e t, P s e → g.time e = some t → g.reached s e = true)
    {s : σ} {last prev : ℕ} (h : g.Tracked s last prev) {e : ι}
    {es : List ι} (he : P s e) (hgaps : g.Gapless prev (e :: es)) :
    ∃ last' prev', g.Tracked (step s e) last' prev' ∧ g.Gapless prev' es ∧
      ∀ es', g.lastFiring step s last (e :: es') =
        g.lastFiring step (step s e) last' es' := by
  cases htime : g.time e with
  | none =>
      have hnot := not_fires_of_time_eq_none (s := s) htime
      refine ⟨last, prev, ⟨?_, h.le, h.early⟩, ?_,
        lastFiring_of_not_fires hnot last⟩
      · exact (hgov.wait s e he hnot).trans h.stamp
      · exact (gapless_cons_of_none htime).mp hgaps
  | some t =>
      obtain ⟨⟨hle, hgap⟩, hrest⟩ := (gapless_cons_of_some htime).mp hgaps
      by_cases hfires : g.Fires s e t
      · exact ⟨t, t, ⟨hgov.fire s e t he hfires, le_rfl, Or.inl rfl⟩, hrest,
          lastFiring_of_fires hfires last⟩
      · have hnot : ∀ t', ¬ g.Fires s e t' := by
          intro t' hfires'
          rw [Option.some.inj (htime.symm.trans hfires'.1)] at hfires
          exact hfires hfires'
        have hearly : t < last + g.interval.toNat := by
          rw [h.fires_iff htime (hreached s e t he htime) hle hgap] at hfires
          exact not_le.mp hfires
        refine ⟨last, t, ⟨?_, h.le.trans hle, Or.inr hearly⟩, hrest,
          lastFiring_of_not_fires hnot last⟩
        exact (hgov.wait s e he hnot).trans h.stamp

theorem Tracked.fires_iff_after
    (hgov : g.Governs step P)
    (hreached : ∀ s e t, P s e → g.time e = some t → g.reached s e = true)
    {s : σ} {last prev : ℕ} (h : g.Tracked s last prev) {pre : List ι}
    {e : ι} {post : List ι} {t : ℕ}
    (hP : Machine.Along step P s (pre ++ e :: post))
    (hgaps : g.Gapless prev (pre ++ e :: post)) (htime : g.time e = some t) :
    g.Fires (Machine.run step s pre) e t ↔
      g.lastFiring step s last pre + g.interval.toNat ≤ t := by
  induction pre generalizing s last prev with
  | nil =>
      obtain ⟨⟨hle, hgap⟩, -⟩ := (gapless_cons_of_some htime).mp hgaps
      exact h.fires_iff htime (hreached s e t hP.1 htime) hle hgap
  | cons e' pre ih =>
      obtain ⟨he', hrest⟩ := hP
      obtain ⟨last', prev', htracked, hgaps', hlast⟩ :=
        h.after_step hgov hreached he' hgaps
      rw [Machine.run_cons, hlast]
      exact ih htracked hrest hgaps'

/-- If the calls are in order and no gap is too long, the gate fires exactly
when the interval has truly passed. -/
theorem Governs.exact
    (hgov : g.Governs step P)
    (hreached : ∀ s e t, P s e → g.time e = some t → g.reached s e = true)
    {s : σ} {start : ℕ} (hstamp : g.stamp s = BitVec.ofNat w start)
    {es : List ι} (hP : Machine.Along step P s es)
    (hgaps : g.Gapless start es) : g.Exact step s start es := by
  rintro pre e post t rfl htime
  have htracked : g.Tracked s start start := ⟨hstamp, le_rfl, Or.inl rfl⟩
  exact htracked.fires_iff_after hgov hreached hP hgaps htime

/-- The firings of a run with calls in order, each with the one before it. -/
theorem isChain_firings
    (hgov : g.Governs step P) {s : σ} {last prev : ℕ}
    (hstamp : g.stamp s = BitVec.ofNat w last) (hle : last ≤ prev)
    {es : List ι} (hP : Machine.Along step P s es)
    (hsorted : List.IsChain (· ≤ ·) (prev :: es.filterMap g.time)) :
    List.IsChain (fun t t' => t + g.interval.toNat ≤ t')
      (last :: Machine.trace step g.firings s es) := by
  induction es generalizing s last prev with
  | nil => exact List.isChain_singleton last
  | cons e es ih =>
      obtain ⟨he, hrest⟩ := hP
      rw [Machine.trace]
      by_cases hfires : ∃ t, g.Fires s e t
      · obtain ⟨t, hfires⟩ := hfires
        rw [List.filterMap_cons_some hfires.1, List.isChain_cons_cons]
          at hsorted
        rw [hfires.firings, List.singleton_append, List.isChain_cons_cons]
        exact ⟨hfires.add_le hstamp (hle.trans hsorted.1),
          ih (hgov.fire s e t he hfires) le_rfl hrest hsorted.2⟩
      · have hnot : ∀ t, ¬ g.Fires s e t := not_exists.mp hfires
        have hstamp' := (hgov.wait s e he hnot).trans hstamp
        rw [firings_of_not_fires hnot, List.nil_append]
        cases htime : g.time e with
        | none =>
            rw [List.filterMap_cons_none htime] at hsorted
            exact ih hstamp' hle hrest hsorted
        | some t =>
            rw [List.filterMap_cons_some htime, List.isChain_cons_cons]
              at hsorted
            exact ih hstamp' (hle.trans hsorted.1) hrest hsorted.2

/-- If the calls are in order, the gate never fires twice within less than the
interval. -/
theorem Governs.spaced
    (hgov : g.Governs step P) {s : σ} {start : ℕ}
    (hstamp : g.stamp s = BitVec.ofNat w start) {es : List ι}
    (hP : Machine.Along step P s es)
    (hsorted : List.IsChain (· ≤ ·) (start :: es.filterMap g.time)) :
    g.Spaced step s es := by
  have htrans : Trans (fun t t' : ℕ => t + g.interval.toNat ≤ t')
      (fun t t' : ℕ => t + g.interval.toNat ≤ t')
      (fun t t' : ℕ => t + g.interval.toNat ≤ t') :=
    ⟨fun h h' => by omega⟩
  have hchain := isChain_firings hgov hstamp le_rfl hP hsorted
  exact (List.pairwise_cons.mp hchain.pairwise).2

/-! ## The last firing -/

theorem Gapless.pairwise_le
    {start : ℕ} {es : List ι} (h : g.Gapless start es) :
    (start :: es.filterMap g.time).Pairwise (· ≤ ·) := by
  have hchain : List.IsChain (· ≤ ·) (start :: es.filterMap g.time) :=
    List.IsChain.imp (fun _ _ hle => hle.1) h
  exact hchain.pairwise

/-- A run without a firing keeps the time at which it starts; any other one can
be split at its last firing. -/
theorem exists_last_firing (s : σ) (start : ℕ) (es : List ι) :
    (g.lastFiring step s start es = start ∧
        Machine.Along step (fun s e => ∀ t, ¬ g.Fires s e t) s es) ∨
      ∃ pre e post t, es = pre ++ e :: post ∧
        g.Fires (Machine.run step s pre) e t ∧
        Machine.Along step (fun s e => ∀ t, ¬ g.Fires s e t)
          (Machine.run step s (pre ++ [e])) post ∧
        g.lastFiring step s start es = t := by
  induction es using List.reverseRecOn with
  | nil => exact Or.inl ⟨rfl, trivial⟩
  | append_singleton es e ih =>
      have hlast : g.lastFiring step s start (es ++ [e]) =
          (g.firings (Machine.run step s es) e).getLastD
            (g.lastFiring step s start es) := by
        simp only [lastFiring, Machine.trace_append, Machine.trace,
          List.append_nil, List.getLastD_eq_getLast?, List.getLast?_append,
          Option.getD_or]
      by_cases hfires : ∃ t, g.Fires (Machine.run step s es) e t
      · obtain ⟨t, hfires⟩ := hfires
        refine Or.inr ⟨es, e, [], t, rfl, hfires, trivial, ?_⟩
        rw [hlast, hfires.firings]
        rfl
      · have hnot := not_exists.mp hfires
        rw [firings_of_not_fires hnot] at hlast
        rcases ih with
          ⟨hstart, hquiet⟩ | ⟨pre, e', post, t, rfl, hfires', hpost, ht⟩
        · exact Or.inl ⟨hlast.trans hstart,
            Machine.along_append.mpr ⟨hquiet, hnot, trivial⟩⟩
        · refine Or.inr ⟨pre, e', post ++ [e], t, by simp, hfires', ?_,
            hlast.trans ht⟩
          refine Machine.along_append.mpr ⟨hpost, ?_, trivial⟩
          rwa [← Machine.run_append, List.append_assoc, List.singleton_append]

/-- A call that is part of a run is not after the last call. -/
theorem prefix_of_last_call
    {es post pre : List ι} {e e' : ι} {t : ℕ}
    (hpost : ∀ e ∈ post, g.time e = none)
    (h : pre ++ [e] <+: es ++ e' :: post) (he : g.time e = some t) :
    pre ++ [e] <+: es ++ [e'] := by
  have hlast : es ++ [e'] <+: es ++ e' :: post := ⟨post, by simp⟩
  rcases List.prefix_or_prefix_of_prefix h hlast with hle | ⟨rest, hrest⟩
  · exact hle
  · have hsub : rest <+: post := by
      rw [← hrest, List.append_cons es e' post] at h
      exact (List.prefix_append_right_inj _).mp h
    rcases List.eq_nil_or_concat' rest with rfl | ⟨rest', e'', rfl⟩
    · rw [← hrest, List.append_nil]
    · rw [← List.append_assoc] at hrest
      have heq : e'' = e := by
        simpa using (List.append_inj' hrest rfl).2
      have hmem : e ∈ post := hsub.subset (by simp [heq])
      rw [hpost e hmem] at he
      exact nomatch he

/-- If the calls are in order and no gap is too long, the last firing is less
than an interval older than the last call. -/
theorem Tracked.exists_recent_firing
    (hgov : g.Governs step P)
    (hreached : ∀ s e t, P s e → g.time e = some t → g.reached s e = true)
    (hinterval : 0 < g.interval.toNat)
    {s : σ} {last prev : ℕ} (h : g.Tracked s last prev)
    {pre : List ι} {e : ι} {post : List ι} {t : ℕ}
    (hP : Machine.Along step P s (pre ++ e :: post))
    (hgaps : g.Gapless prev (pre ++ e :: post)) (htime : g.time e = some t)
    (hpost : ∀ e' ∈ post, g.time e' = none)
    (hlong : last + g.interval.toNat ≤ t) :
    ∃ pre' e' post' t', pre ++ e :: post = pre' ++ e' :: post' ∧
      g.Fires (Machine.run step s pre') e' t' ∧
      Machine.Along step (fun s e => ∀ t, ¬ g.Fires s e t)
        (Machine.run step s (pre' ++ [e'])) post' ∧
      t' ≤ t ∧ t < t' + g.interval.toNat := by
  have hquiet : ∀ s', Machine.Along step (fun s e => ∀ t, ¬ g.Fires s e t)
      s' post := by
    intro s'
    refine Machine.along_of_forall_mem fun s'' e' he' => ?_
    exact not_fires_of_time_eq_none (hpost e' he')
  have hexact := h.fires_iff_after hgov hreached hP hgaps htime
  by_cases hfires : g.Fires (Machine.run step s pre) e t
  · exact ⟨pre, e, post, t, rfl, hfires, hquiet _, le_rfl, by omega⟩
  · have hrecent : t < g.lastFiring step s last pre + g.interval.toNat := by
      rw [hexact] at hfires
      exact not_le.mp hfires
    have hsplit : (g.lastFiring step s last pre = last ∧ _) ∨ _ :=
      exists_last_firing s last pre
    rcases hsplit with
      ⟨hstart, -⟩ | ⟨pre', e', mid, t', rfl, hfires', hmid, hlast⟩
    · omega
    · refine ⟨pre', e', mid ++ e :: post, t', by simp, hfires', ?_, ?_,
        by omega⟩
      · have hnot : ∀ t'', ¬ g.Fires
            (Machine.run step s (pre' ++ e' :: mid)) e t'' := by
          intro t'' hfires''
          rw [Option.some.inj (htime.symm.trans hfires''.1)] at hfires
          exact hfires hfires''
        refine Machine.along_append.mpr ⟨hmid, ?_, hquiet _⟩
        rwa [← Machine.run_append, List.append_assoc, List.singleton_append]
      · have hsorted := (List.pairwise_cons.mp hgaps.pairwise_le).2
        rw [List.append_assoc, List.cons_append, List.filterMap_append,
          List.filterMap_cons_some hfires'.1, List.pairwise_append,
          List.pairwise_cons] at hsorted
        refine hsorted.2.1.1 t ?_
        exact List.mem_filterMap.mpr ⟨e, by simp, htime⟩

theorem Governs.exists_recent_firing
    (hgov : g.Governs step P)
    (hreached : ∀ s e t, P s e → g.time e = some t → g.reached s e = true)
    (hinterval : 0 < g.interval.toNat)
    {s : σ} {start : ℕ} (hstamp : g.stamp s = BitVec.ofNat w start)
    {pre : List ι} {e : ι} {post : List ι} {t : ℕ}
    (hP : Machine.Along step P s (pre ++ e :: post))
    (hgaps : g.Gapless start (pre ++ e :: post)) (htime : g.time e = some t)
    (hpost : ∀ e' ∈ post, g.time e' = none)
    (hlong : start + g.interval.toNat ≤ t) :
    ∃ pre' e' post' t', pre ++ e :: post = pre' ++ e' :: post' ∧
      g.Fires (Machine.run step s pre') e' t' ∧
      Machine.Along step (fun s e => ∀ t, ¬ g.Fires s e t)
        (Machine.run step s (pre' ++ [e'])) post' ∧
      t' ≤ t ∧ t < t' + g.interval.toNat := by
  have htracked : g.Tracked s start start := ⟨hstamp, le_rfl, Or.inl rfl⟩
  exact htracked.exists_recent_firing hgov hreached hinterval hP hgaps htime
    hpost hlong

/-- After a call that reaches the gate, the last firing counts as recent, however
long ago it was: the gate has fired, or has found it recent on its clock. -/
theorem exists_tracked_after_call
    (hgov : g.Governs step P) {s : σ} {e : ι} {t last : ℕ} (he : P s e)
    (htime : g.time e = some t) (hreached : g.reached s e = true)
    (hstamp : g.stamp s = BitVec.ofNat w last) (hle : last ≤ t) :
    ∃ last', g.Tracked (step s e) last' t := by
  by_cases hfires : g.Fires s e t
  · exact ⟨t, hgov.fire s e t he hfires, le_rfl, Or.inl rfl⟩
  · have hnot : ∀ t', ¬ g.Fires s e t' := by
      intro t' hfires'
      rw [Option.some.inj (htime.symm.trans hfires'.1)] at hfires
      exact hfires hfires'
    have hpassed : (BitVec.ofNat w t - g.stamp s).toNat ≤ t := by
      rw [hstamp]
      exact (toNat_sub_le hle).trans (Nat.sub_le t last)
    rw [fires_iff htime hreached, ge_iff_le, BitVec.le_def, not_le] at hfires
    refine ⟨t - (BitVec.ofNat w t - g.stamp s).toNat, ?_, Nat.sub_le _ _,
      Or.inr (by omega)⟩
    rw [hgov.wait s e he hnot]
    have hdiff := ofNat_sub_ofNat_of_le (w := w)
      (Nat.sub_le t (BitVec.ofNat w t - g.stamp s).toNat)
    rw [Nat.sub_sub_self hpassed, BitVec.ofNat_toNat, BitVec.setWidth_eq]
      at hdiff
    exact (sub_right_inj.mp hdiff).symm

/-- In a run with calls in order, the timestamp is the time of a call, or that
of the start. -/
theorem exists_stamp_le
    (hgov : g.Governs step P) {s : σ} {start : ℕ}
    (hstamp : g.stamp s = BitVec.ofNat w start) {es : List ι}
    (hP : Machine.Along step P s es) :
    ∃ last, g.stamp (Machine.run step s es) = BitVec.ofNat w last ∧
      (last = start ∨ last ∈ es.filterMap g.time) := by
  induction es generalizing s start with
  | nil => exact ⟨start, hstamp, Or.inl rfl⟩
  | cons e es ih =>
      obtain ⟨he, hrest⟩ := hP
      by_cases hfires : ∃ t, g.Fires s e t
      · obtain ⟨t, hfires⟩ := hfires
        obtain ⟨last, hlast, hmem⟩ := ih (hgov.fire s e t he hfires) hrest
        refine ⟨last, hlast, Or.inr ?_⟩
        rw [List.filterMap_cons_some hfires.1, List.mem_cons]
        exact hmem
      · have hwait := hgov.wait s e he (not_exists.mp hfires)
        obtain ⟨last, hlast, hmem⟩ := ih (hwait.trans hstamp) hrest
        refine ⟨last, hlast, hmem.imp_right fun hmem => ?_⟩
        cases htime : g.time e with
        | none => rwa [List.filterMap_cons_none htime]
        | some t =>
            rw [List.filterMap_cons_some htime]
            exact List.mem_cons_of_mem t hmem

end

end IntervalGate
