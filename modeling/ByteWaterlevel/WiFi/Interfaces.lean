import ByteWaterlevel.WiFi.Station

/-!
# The two interfaces of the radio

The flag `apStarted` and the mode of the radio are set by separate calls.
`Coherent` says that they agree and that the radio is on: the flag is set
exactly if the mode includes the access point, and without the access point the
mode is that of the station.  Every boot establishes it and every poll keeps it,
whatever the status reads return, so the device is always reachable over one of
the two interfaces.
-/

namespace ByteWaterlevel
namespace WiFiHandler

/-- The flag agrees with the mode of the radio, and the radio is on. -/
structure Coherent (s : State) : Prop where
  flag : s.apStarted = true ↔ s.radio.mode.HasAp
  on : s.radio.mode ≠ .off

theorem coherent_of_sta
    {s : State} (hmode : s.radio.mode = .sta) (hflag : s.apStarted = false) :
    Coherent s := by
  constructor
  · rw [hmode, hflag]
    decide
  · rw [hmode]
    decide

theorem coherent_of_hasAp
    {s : State} (hmode : s.radio.mode.HasAp) (hflag : s.apStarted = true) :
    Coherent s := by
  refine ⟨iff_of_true hflag hmode, ?_⟩
  intro hoff
  rw [hoff] at hmode
  exact absurd hmode (by decide)

/-- Without the access point, a coherent radio is in the mode of the
station. -/
theorem Coherent.mode_eq_sta
    {s : State} (h : Coherent s) (hflag : s.apStarted = false) :
    s.radio.mode = .sta := by
  have hap : ¬ s.radio.mode.HasAp := by
    intro hap
    rw [h.flag.mpr hap] at hflag
    exact absurd hflag (by decide)
  have hon := h.on
  revert hap hon
  cases s.radio.mode <;> decide

/-- Every boot ends in a coherent state. -/
theorem coherent_setup
    (lib : ArduinoJson) (config : Json) (t : ℕ) (connected : Bool) :
    Coherent (setup lib config t connected initialState) := by
  have hap := setup_of_not_connected lib config t initialState
  cases connected with
  | false => exact coherent_of_hasAp (Or.inl hap.1) hap.2
  | true =>
      by_cases husable : isWiFiClientUsable lib config = true
      · obtain ⟨hmode, hflag, -⟩ :=
          setup_of_connected t initialState husable
        exact coherent_of_sta hmode hflag
      · have hsame : setup lib config t true initialState =
            setup lib config t false initialState := by
          simp [setup, husable]
        rw [hsame]
        exact coherent_of_hasAp (Or.inl hap.1) hap.2

/-- Every poll keeps a state coherent. -/
theorem coherent_step
    (lib : ArduinoJson) {s : State} (p : Poll) (h : Coherent s) :
    Coherent (step lib s p) := by
  obtain ⟨-, ⟨-, -, hmode, hflag⟩ | ⟨-, -, -, hmode, hflag⟩ |
    ⟨-, -, hmode, hflag⟩⟩ := step_cases lib s p
  · exact coherent_of_sta hmode hflag
  · exact coherent_of_hasAp (Or.inr hmode) hflag
  · constructor
    · rw [hmode, hflag]
      exact h.flag
    · rw [hmode]
      exact h.on

/-- A poll that finds the station connected leaves the station alone on the
air. -/
theorem sta_of_connected
    (lib : ArduinoJson) {s : State} {p : Poll} (h : Coherent s)
    (hfirst : p.first = true) (hsecond : p.second = true) :
    (step lib s p).radio.mode = .sta ∧ (step lib s p).apStarted = false := by
  obtain ⟨-, ⟨-, -, hmode, hflag⟩ | ⟨hnot, -⟩ | ⟨hstop, -, hmode, hflag⟩⟩ :=
    step_cases lib s p
  · exact ⟨hmode, hflag⟩
  · rw [hsecond] at hnot
    exact absurd hnot (by decide)
  · have hoff : s.apStarted = false :=
      Bool.eq_false_of_not_eq_true fun hon => hstop ⟨hfirst, hon⟩
    rw [hmode, hflag]
    exact ⟨h.mode_eq_sta hoff, hoff⟩

/-- A poll that finds the station disconnected after the timeout leaves the
access point up. -/
theorem ap_of_timed_out
    (lib : ArduinoJson) {s : State} {p : Poll} (h : Coherent s)
    (hfirst : p.first = false) (hsecond : p.second = false)
    (htimeout : TimedOut s.connectionStartTime p.t) :
    (step lib s p).radio.mode.HasAp ∧ (step lib s p).apStarted = true := by
  have hnext : Coherent (step lib s p) := coherent_step lib p h
  have hflag : (step lib s p).apStarted = true := by
    obtain ⟨-, ⟨hnot, -⟩ | ⟨-, -, -, -, hflag⟩ | ⟨-, hstay, -, hflag⟩⟩ :=
      step_cases lib s p
    · rw [hfirst] at hnot
      exact absurd hnot (by decide)
    · exact hflag
    · rw [hflag]
      rcases hstay with hconnected | hup
      · rw [hsecond] at hconnected
        exact absurd hconnected (by decide)
      · by_contra hoff
        exact hup ⟨Bool.eq_false_of_not_eq_true hoff, htimeout⟩
  exact ⟨hnext.flag.mp hflag, hflag⟩

/-- In every state that a boot and any polls lead to, the flag is set exactly
if the mode includes the access point, and the radio is on.  The next poll
leaves exactly the station on if it finds it connected, and the access point if
it finds the station disconnected after the timeout. -/
theorem coherent_throughout
    (lib : ArduinoJson) (config : Json) (t : ℕ) (connected : Bool)
    (polls : List Poll) :
    let s := run lib (setup lib config t connected initialState) polls
    (s.apStarted = true ↔ s.radio.mode.HasAp) ∧ s.radio.mode ≠ .off ∧
      ∀ p : Poll,
        (p.first = true → p.second = true →
          (step lib s p).radio.mode = .sta ∧
            (step lib s p).apStarted = false) ∧
        (p.first = false → p.second = false →
          TimedOut s.connectionStartTime p.t →
          (step lib s p).radio.mode.HasAp ∧
            (step lib s p).apStarted = true) := by
  intro s
  have hstep : ∀ (s : State) (p : Poll), Coherent s →
      Coherent (step lib s p) := by
    intro s p h
    exact coherent_step lib p h
  have hs : Coherent s :=
    Machine.run_invariant hstep (coherent_setup lib config t connected) polls
  refine ⟨hs.flag, hs.on, ?_⟩
  intro p
  exact ⟨sta_of_connected lib hs, ap_of_timed_out lib hs⟩

/-- A boot that reaches the network, an outage of 40 seconds, and the poll that
finds the station again. -/
theorem coherent_through_an_outage :
    let s := run .textless (setup .textless clientConfig 0 true initialState)
      [⟨clientConfig, 40000, false, false⟩]
    s.radio.mode = .apsta ∧
      (step .textless s ⟨clientConfig, 50000, true, true⟩).radio.mode = .sta ∧
      (step .textless s
        ⟨clientConfig, 50000, false, false⟩).apStarted = true := by
  intro s
  have h := coherent_throughout .textless clientConfig 0 true
    [⟨clientConfig, 40000, false, false⟩]
  refine ⟨by decide, ?_, ?_⟩
  · exact ((h.2.2 ⟨clientConfig, 50000, true, true⟩).1 rfl rfl).1
  · exact ((h.2.2 ⟨clientConfig, 50000, false, false⟩).2 rfl rfl
      (by decide)).2

end WiFiHandler
end ByteWaterlevel
