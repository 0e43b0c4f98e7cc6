import ByteWaterlevel.WiFi.Station

/-!
# The fallback to the access point

`checkConnection` starts the access point when the station is found
disconnected and the connection timeout has passed.  The time that counts is
the time since `setup` has started the station; nothing sets it later.  From
the timeout on, the access point is therefore started at the first poll of an
outage, however short the outage has been.
-/

namespace ByteWaterlevel
namespace WiFiHandler

/-- The poll finds the station connected at one of its reads. -/
def Poll.Connected (p : Poll) : Prop := p.first = true ∨ p.second = true

instance (p : Poll) : Decidable p.Connected :=
  inferInstanceAs (Decidable (_ ∨ _))

/-- The poll starts the access point. -/
def Starts (lib : ArduinoJson) (s : State) (p : Poll) : Prop :=
  s.apStarted = false ∧ (step lib s p).apStarted = true

/-- Whenever a poll starts the access point, all polls of the connection
timeout before it have found the station disconnected. -/
def FallsBackAfterOutage
    (lib : ArduinoJson) (s : State) (polls : List Poll) : Prop :=
  ∀ pre p post, polls = pre ++ p :: post → Starts lib (run lib s pre) p →
    ∀ q ∈ pre, p.t ≤ q.t + connectionTimeoutMs.toNat → ¬ q.Connected

/-- A connection that is found lost within the connection timeout after it was
found established is found so before the timeout has passed since `start`. -/
def NoLateLoss (start : ULong) (polls : List Poll) : Prop :=
  polls.Pairwise fun q p =>
    q.Connected → p.second = false →
      p.t ≤ q.t + connectionTimeoutMs.toNat → ¬ TimedOut start p.t

/-- A poll starts the access point exactly if it is off, the station is
disconnected and the timeout has passed since the start time. -/
theorem starts_iff (lib : ArduinoJson) (s : State) (p : Poll) :
    Starts lib s p ↔
      p.second = false ∧ s.apStarted = false ∧
        TimedOut s.connectionStartTime p.t := by
  constructor
  · rintro ⟨hoff, hon⟩
    obtain ⟨-, ⟨-, -, -, hap⟩ | ⟨hsecond, -, htimed, -⟩ | ⟨-, -, -, hap⟩⟩ :=
      step_cases lib s p
    · rw [hap] at hon
      exact absurd hon (by decide)
    · exact ⟨hsecond, hoff, htimed⟩
    · rw [hap, hoff] at hon
      exact absurd hon (by decide)
  · rintro ⟨hsecond, hoff, htimed⟩
    refine ⟨hoff, ?_⟩
    obtain ⟨-, ⟨-, hon, -⟩ | ⟨-, -, -, -, hap⟩ | ⟨-, hkeep, -⟩⟩ :=
      step_cases lib s p
    · rw [hoff] at hon
      exact absurd hon (by decide)
    · exact hap
    · rcases hkeep with hconnected | hnot
      · rw [hsecond] at hconnected
        exact absurd hconnected (by decide)
      · exact absurd ⟨hoff, htimed⟩ hnot

/-- The start time is never set again. -/
theorem run_connectionStartTime
    (lib : ArduinoJson) (s : State) (polls : List Poll) :
    (run lib s polls).connectionStartTime = s.connectionStartTime := by
  have hstep : ∀ (s' : State) (p : Poll),
      s'.connectionStartTime = s.connectionStartTime →
      (step lib s' p).connectionStartTime = s.connectionStartTime := by
    intro s' p hs'
    exact (step_cases lib s' p).1.trans hs'
  exact Machine.run_invariant hstep rfl polls

/-- The access point stays off as long as no poll starts it. -/
theorem apStarted_of_no_start
    {lib : ArduinoJson} {s : State} {polls : List Poll}
    (hoff : s.apStarted = false)
    (h : Machine.Along (step lib) (fun s p => ¬ Starts lib s p) s polls) :
    (run lib s polls).apStarted = false := by
  have hstep : ∀ (s : State) (p : Poll), s.apStarted = false →
      ¬ Starts lib s p → (step lib s p).apStarted = false := by
    intro s p hs hstarts
    by_contra hon
    exact hstarts ⟨hs, by simpa using hon⟩
  exact Machine.run_invariant_along hstep hoff h

/-- A poll whose two reads find the station connected leaves the access point
off. -/
theorem apStarted_of_connected
    (lib : ArduinoJson) (s : State) {p : Poll}
    (hfirst : p.first = true) (hsecond : p.second = true) :
    (step lib s p).apStarted = false := by
  obtain ⟨-, ⟨-, -, -, hap⟩ | ⟨hnot, -⟩ | ⟨hkeep, -, -, hap⟩⟩ :=
    step_cases lib s p
  · exact hap
  · rw [hsecond] at hnot
    exact absurd hnot (by decide)
  · rw [hap]
    by_contra hon
    exact hkeep ⟨hfirst, by simpa using hon⟩

/-- An outage that begins late starts the access point too early: at the poll
`p`, or at an earlier poll of the same outage. -/
theorem exists_start_after_loss
    (lib : ArduinoJson) {s : State} {q p : Poll} (pre mid post : List Poll)
    (hfirst : q.first = true) (hsecond : q.second = true)
    (hlost : p.second = false) (htimed : TimedOut s.connectionStartTime p.t) :
    ∃ pre' r post', mid ++ p :: post = pre' ++ r :: post' ∧
      (r = p ∨ r ∈ mid) ∧
      Starts lib (run lib s (pre ++ q :: pre')) r := by
  have hsplit : ∀ xs, run lib s (pre ++ q :: xs) =
      run lib (step lib (run lib s pre) q) xs := by
    intro xs
    rw [run, Machine.run_append]
    rfl
  have hoff : (step lib (run lib s pre) q).apStarted = false :=
    apStarted_of_connected lib _ hfirst hsecond
  by_cases hquiet : Machine.Along (step lib) (fun s p => ¬ Starts lib s p)
      (step lib (run lib s pre) q) mid
  · refine ⟨mid, p, post, rfl, Or.inl rfl, ?_⟩
    rw [starts_iff, run_connectionStartTime, hsplit]
    exact ⟨hlost, apStarted_of_no_start hoff hquiet, htimed⟩
  · rw [Machine.along_iff_forall_split] at hquiet
    push Not at hquiet
    obtain ⟨pre', r, post', hmid, hstarts⟩ := hquiet
    refine ⟨pre', r, post' ++ p :: post, ?_, Or.inr ?_, ?_⟩
    · simp [hmid]
    · simp [hmid]
    · rw [hsplit]
      exact hstarts

theorem fallsBackAfterOutage_of_noLateLoss
    (lib : ArduinoJson) {s : State} {polls : List Poll}
    (hloss : NoLateLoss s.connectionStartTime polls) :
    FallsBackAfterOutage lib s polls := by
  intro pre p post hpolls hstarts q hq hwindow hconnected
  rw [starts_iff, run_connectionStartTime] at hstarts
  obtain ⟨hlost, -, htimed⟩ := hstarts
  rw [NoLateLoss, hpolls, List.pairwise_append] at hloss
  exact hloss.2.2 q hq p List.mem_cons_self hconnected hlost hwindow htimed

theorem noLateLoss_of_fallsBackAfterOutage
    {lib : ArduinoJson} {s : State} {polls : List Poll}
    (hsorted : polls.Pairwise fun q p => q.t ≤ p.t)
    (hreads : ∀ p ∈ polls, p.first = p.second)
    (hfalls : FallsBackAfterOutage lib s polls) :
    NoLateLoss s.connectionStartTime polls := by
  rw [NoLateLoss, List.pairwise_iff_forall_sublist]
  intro q p hpair hconnected hlost hwindow htimed
  obtain ⟨front, back, hpolls, hfront, hback⟩ :=
    List.cons_sublist_iff.mp hpair
  obtain ⟨pre, mid₁, rfl⟩ := List.append_of_mem hfront
  obtain ⟨mid₂, post, rfl⟩ :=
    List.append_of_mem (List.singleton_sublist.mp hback)
  have hq : q.first = q.second := hreads q (by simp [hpolls])
  have hboth : q.first = true ∧ q.second = true := by
    rcases hconnected with h | h
    · exact ⟨h, hq.symm.trans h⟩
    · exact ⟨hq.trans h, h⟩
  obtain ⟨pre', r, post', hrest, hr, hstarts⟩ :=
    exists_start_after_loss lib pre (mid₁ ++ mid₂) post hboth.1 hboth.2 hlost
      htimed
  have hpolls' : polls = (pre ++ q :: pre') ++ r :: post' := by
    rw [hpolls, List.append_assoc, List.append_assoc, List.cons_append,
      List.cons_append, ← hrest, List.append_assoc]
  have hle : r.t ≤ p.t := by
    rcases hr with rfl | hmem
    · exact le_rfl
    · have hlater : ((mid₁ ++ mid₂) ++ p :: post).Pairwise
          (fun q p => q.t ≤ p.t) := by
        refine List.Pairwise.sublist ?_ hsorted
        rw [hpolls]
        simp
      exact (List.pairwise_append.mp hlater).2.2 r hmem p List.mem_cons_self
  exact hfalls (pre ++ q :: pre') r post' hpolls' hstarts q (by simp)
    (hle.trans hwindow) (Or.inl hboth.1)

/-- For every boot with a successful client connection at time `t₀` and every
sequence of polls: the access point comes up only after an outage of the
connection timeout, if no connection is lost later than that timeout after
`t₀`.  If the polls are in the order of time and no poll reads two different
states, this condition is also necessary. -/
theorem fallsBackAfterOutage_noLateLoss
    (lib : ArduinoJson) (config : Json) (t₀ : ℕ) (polls : List Poll)
    (husable : isWiFiClientUsable lib config = true) :
    let s := setup lib config t₀ true initialState
    (NoLateLoss (millis t₀) polls → FallsBackAfterOutage lib s polls) ∧
      (polls.Pairwise (fun q p => q.t ≤ p.t) →
        (∀ p ∈ polls, p.first = p.second) →
        FallsBackAfterOutage lib s polls → NoLateLoss (millis t₀) polls) := by
  intro s
  have hstart : s.connectionStartTime = millis t₀ :=
    (setup_of_connected t₀ initialState husable).2.2
  rw [← hstart]
  exact ⟨fallsBackAfterOutage_of_noLateLoss lib,
    noLateLoss_of_fallsBackAfterOutage⟩

/-- Connected after one second, lost from the tenth second on: the access
point comes up at the poll after 45 seconds. -/
theorem fallsBackAfterOutage_of_early_loss :
    FallsBackAfterOutage .textless
      (setup .textless clientConfig 0 true initialState)
      [⟨clientConfig, 1000, true, true⟩, ⟨clientConfig, 10000, false, false⟩,
        ⟨clientConfig, 45000, false, false⟩] :=
  (fallsBackAfterOutage_noLateLoss .textless clientConfig 0 _
    (by decide)).1 (by unfold NoLateLoss; decide)

/-- Connected after 100 seconds, lost ten milliseconds later: the access point
comes up at once. -/
theorem not_fallsBackAfterOutage_of_late_loss :
    ¬ FallsBackAfterOutage .textless
      (setup .textless clientConfig 0 true initialState)
      [⟨clientConfig, 100000, true, true⟩,
        ⟨clientConfig, 100010, false, false⟩] := by
  intro h
  exact h [⟨clientConfig, 100000, true, true⟩]
    ⟨clientConfig, 100010, false, false⟩ [] rfl (by unfold Starts; decide)
    ⟨clientConfig, 100000, true, true⟩ List.mem_cons_self (by decide)
    (Or.inl rfl)

end WiFiHandler
end ByteWaterlevel
