import ByteWaterlevel.Support.Machine
import ByteWaterlevel.WiFiHandler

/-!
# Polls of the WiFi connection

The runs of the WiFi handler: `setup`, followed by calls of `checkConnection`
that may find the station connected or disconnected in any order.
`step_cases` lists what one poll can do to the mode of the radio and to the
flag of the access point; all results on runs follow from it.

The first result is about the station.  A boot that reaches the network never
loses the station from the mode of the radio.  A boot that times out ends in a
mode without the station, and only a poll that finds the station connected
leads out of it.
-/

namespace ByteWaterlevel
namespace WiFiHandler

/-- One call of `checkConnection`: its time, the two reads of the status and
the configuration in memory. -/
structure Poll where
  config : Json
  t : ℕ
  first : Bool
  second : Bool

def step (lib : ArduinoJson) (s : State) (p : Poll) : State :=
  checkConnection lib p.config p.t p.first p.second s

abbrev run (lib : ArduinoJson) := Machine.run (step lib)

/-- More than the connection timeout has passed since the start time. -/
def TimedOut (start : ULong) (t : ℕ) : Prop :=
  millis t - start > connectionTimeoutMs

instance (start : ULong) (t : ℕ) : Decidable (TimedOut start t) :=
  inferInstanceAs (Decidable (_ > _))

/-- The first half of the disconnected branch: a new attempt every five
seconds. -/
def reconnected (t : ℕ) (s : State) : State :=
  if millis t - s.lastReconnectAttempt ≥ 5000 then
    { s with
      lastReconnectAttempt := millis t
      radio := s.radio.reconnect }
  else s

@[simp] theorem reconnected_apStarted (t : ℕ) (s : State) :
    (reconnected t s).apStarted = s.apStarted := by
  unfold reconnected
  split_ifs <;> rfl

@[simp] theorem reconnected_connectionStartTime (t : ℕ) (s : State) :
    (reconnected t s).connectionStartTime = s.connectionStartTime := by
  unfold reconnected
  split_ifs <;> rfl

@[simp] theorem reconnected_mode (t : ℕ) (s : State) :
    (reconnected t s).radio.mode = s.radio.mode := by
  unfold reconnected Radio.reconnect
  split_ifs <;> rfl

/-- The access point is started if it is not running and the timeout has
passed. -/
theorem handleDisconnected_eq
    (lib : ArduinoJson) (config : Json) (t : ℕ) (s : State) :
    handleDisconnected lib config t s =
      if s.apStarted = false ∧ TimedOut s.connectionStartTime t then
        startAP lib config true (reconnected t s)
      else reconnected t s := by
  have hguard : ((!(reconnected t s).apStarted) = true ∧
        millis t - (reconnected t s).connectionStartTime >
          connectionTimeoutMs) ↔
      (s.apStarted = false ∧ TimedOut s.connectionStartTime t) := by
    simp [TimedOut]
  exact if_congr hguard rfl rfl

/-- What a poll can do: stop the access point, start it next to the station,
or leave mode and flag as they are. -/
theorem step_cases (lib : ArduinoJson) (s : State) (p : Poll) :
    (step lib s p).connectionStartTime = s.connectionStartTime ∧
      ((p.first = true ∧ s.apStarted = true ∧
          (step lib s p).radio.mode = .sta ∧
          (step lib s p).apStarted = false) ∨
        (p.second = false ∧ s.apStarted = false ∧
          TimedOut s.connectionStartTime p.t ∧
          (step lib s p).radio.mode = .apsta ∧
          (step lib s p).apStarted = true) ∨
        (¬ (p.first = true ∧ s.apStarted = true) ∧
          (p.second = true ∨
            ¬ (s.apStarted = false ∧ TimedOut s.connectionStartTime p.t)) ∧
          (step lib s p).radio.mode = s.radio.mode ∧
          (step lib s p).apStarted = s.apStarted)) := by
  by_cases hstop : p.first = true ∧ s.apStarted = true
  · have hstopped : stopAP s =
        { s with radio := s.radio.softAPdisconnect, apStarted := false } :=
      if_pos hstop.2
    have heq : step lib s p =
        { s with
          radio := s.radio.softAPdisconnect.setMode .sta
          apStarted := false } := by
      rw [step, checkConnection, if_pos hstop, hstopped]
    rw [heq]
    exact ⟨rfl, Or.inl ⟨hstop.1, hstop.2, rfl, rfl⟩⟩
  · by_cases hsecond : p.second = true
    · have heq : step lib s p = s := by
        rw [step, checkConnection, if_neg hstop, if_pos hsecond]
      rw [heq]
      exact ⟨rfl, Or.inr (Or.inr ⟨hstop, Or.inl hsecond, rfl, rfl⟩)⟩
    · have heq : step lib s p = handleDisconnected lib p.config p.t s := by
        rw [step, checkConnection, if_neg hstop, if_neg hsecond]
      rw [heq, handleDisconnected_eq]
      by_cases hfall :
          s.apStarted = false ∧ TimedOut s.connectionStartTime p.t
      · rw [if_pos hfall]
        refine ⟨reconnected_connectionStartTime p.t s, Or.inr (Or.inl ?_)⟩
        exact ⟨by simpa using hsecond, hfall.1, hfall.2, rfl, rfl⟩
      · rw [if_neg hfall]
        refine ⟨reconnected_connectionStartTime p.t s, Or.inr (Or.inr ?_)⟩
        exact ⟨hstop, Or.inr hfall, reconnected_mode p.t s,
          reconnected_apStarted p.t s⟩

/-! ## The station -/

/-- In every state of the run the mode of the radio includes the station. -/
def StationKept (lib : ArduinoJson) (s : State) (polls : List Poll) : Prop :=
  ∀ pre, pre <+: polls → (run lib s pre).radio.mode.HasSta

theorem setup_of_connected
    {lib : ArduinoJson} {config : Json} (t : ℕ) (s : State)
    (h : isWiFiClientUsable lib config = true) :
    (setup lib config t true s).radio.mode = .sta ∧
      (setup lib config t true s).apStarted = false ∧
      (setup lib config t true s).connectionStartTime = millis t := by
  simp [setup, h]

theorem setup_of_not_connected
    (lib : ArduinoJson) (config : Json) (t : ℕ) (s : State) :
    (setup lib config t false s).radio.mode = .ap ∧
      (setup lib config t false s).apStarted = true := by
  by_cases h : isWiFiClientUsable lib config = true
  · simp [setup, h, startAP, Radio.setMode]
  · simp [setup, h, startAP, Radio.setMode]

/-- No poll takes the station out of the mode. -/
theorem hasSta_step
    (lib : ArduinoJson) {s : State} (p : Poll) (h : s.radio.mode.HasSta) :
    (step lib s p).radio.mode.HasSta := by
  obtain ⟨-, ⟨-, -, hmode, -⟩ | ⟨-, -, -, hmode, -⟩ | ⟨-, -, hmode, -⟩⟩ :=
    step_cases lib s p
  · exact Or.inl hmode
  · exact Or.inr hmode
  · rwa [hmode]

theorem hasSta_run
    (lib : ArduinoJson) {s : State} (polls : List Poll)
    (h : s.radio.mode.HasSta) : (run lib s polls).radio.mode.HasSta := by
  have hstep : ∀ (s : State) (p : Poll), s.radio.mode.HasSta →
      (step lib s p).radio.mode.HasSta :=
    fun _ p hs => hasSta_step lib p hs
  exact Machine.run_invariant hstep h polls

/-- From a mode without the station, the first poll that finds the station
connected brings it back, and nothing else does. -/
theorem hasSta_run_iff_of_ap
    (lib : ArduinoJson) {s : State} (polls : List Poll)
    (hmode : s.radio.mode = .ap) (hap : s.apStarted = true) :
    (run lib s polls).radio.mode.HasSta ↔ ∃ p ∈ polls, p.first = true := by
  induction polls generalizing s with
  | nil =>
      have hnot : ¬ s.radio.mode.HasSta := by
        rw [hmode]
        decide
      simpa using hnot
  | cons p polls ih =>
      obtain ⟨-, ⟨hfirst, -, hsta, -⟩ | ⟨-, hoff, -⟩ |
        ⟨hnot, -, hmode', hap'⟩⟩ := step_cases lib s p
      · have hrun : (run lib (step lib s p) polls).radio.mode.HasSta :=
          hasSta_run lib polls (Or.inl hsta)
        exact ⟨fun _ => ⟨p, List.mem_cons_self, hfirst⟩, fun _ => hrun⟩
      · rw [hap] at hoff
        exact absurd hoff (by decide)
      · have hfirst : ¬ p.first = true := fun h => hnot ⟨h, hap⟩
        have htail := ih (hmode'.trans hmode) (hap'.trans hap)
        rw [run, Machine.run_cons, htail]
        simp [hfirst]

/-- For every boot with usable client credentials and every sequence of polls:
all states of the run have the station in the mode of the radio if and only if
the connection was there when `setup` stopped waiting for it. -/
theorem station_kept_iff_connected_at_boot
    (lib : ArduinoJson) (config : Json) (t : ℕ) (connected : Bool)
    (polls : List Poll) (husable : isWiFiClientUsable lib config = true) :
    StationKept lib (setup lib config t connected initialState) polls ↔
      connected = true := by
  constructor
  · intro h
    have hboot := h [] List.nil_prefix
    by_contra hnot
    rw [Bool.eq_false_of_not_eq_true hnot] at hboot
    have hap := setup_of_not_connected lib config t initialState
    rw [hasSta_run_iff_of_ap lib [] hap.1 hap.2] at hboot
    simp at hboot
  · rintro rfl pre -
    exact hasSta_run lib pre (Or.inl (setup_of_connected t _ husable).1)

/-- A configuration with credentials for a client network. -/
def clientConfig : Json :=
  .obj
    [("wifi",
      .obj
        [("client",
            .obj [("ssid", .str "home"), ("password", .str "password")]),
          ("ap",
            .obj
              [("ssid", .str "BYTELEVEL"),
                ("password", .str "BYTESTORE2026")])])]

/-- A connected boot, then an outage in which the access point comes up. -/
theorem station_kept_through_an_outage :
    StationKept .textless (setup .textless clientConfig 0 true initialState)
      [⟨clientConfig, 40000, false, false⟩,
        ⟨clientConfig, 50000, true, true⟩] :=
  (station_kept_iff_connected_at_boot .textless clientConfig 0 true _
    (by decide)).mpr rfl

/-- A boot that times out.  The first poll calls `reconnect`, which starts no
attempt in a mode without the station. -/
theorem station_lost_after_boot_timeout :
    isWiFiClientUsable .textless clientConfig = true ∧
      ¬ StationKept .textless
        (setup .textless clientConfig 0 false initialState)
        [⟨clientConfig, 20000, false, false⟩] ∧
      (run .textless (setup .textless clientConfig 0 false initialState)
        [⟨clientConfig, 20000, false, false⟩]).radio.attempts = 0 := by
  refine ⟨by decide, ?_, by decide⟩
  intro hkept
  exact absurd (hkept _ (List.prefix_refl _)) (by decide)

end WiFiHandler
end ByteWaterlevel
