import ByteWaterlevel.Firmware.IntervalGates
import ByteWaterlevel.WiFi.Fallback
import ByteWaterlevel.WiFi.Interfaces

/-!
# Long outages of the network

While the station has no network, the polls of the connection are what keeps the
device reachable: they start the access point beside the station and call for a
new connection every five seconds.  Both are decided by differences of the
counter.  The start time of the timeout is never set again after the boot, so
each time the counter has gone round there is a window, as long as the timeout,
in which the timeout seems not to have passed.  An outage that is seen for
longer than the timeout does not fit into such a window.
-/

namespace ByteWaterlevel

namespace WiFiHandler

/-- Of two polls that are further apart than the timeout, one is late enough. -/
theorem timedOut_or_timedOut
    (start : ULong) {t₁ t₂ : ℕ} (hlong : t₁ + 30000 < t₂)
    (hfits : t₂ + 30000 < t₁ + 2 ^ 32) :
    TimedOut start t₁ ∨ TimedOut start t₂ := by
  by_contra hnot
  rw [not_or] at hnot
  obtain ⟨h₁, h₂⟩ := hnot
  have hbound : connectionTimeoutMs.toNat = 30000 := rfl
  rw [TimedOut, gt_iff_lt, BitVec.lt_def, hbound, not_lt] at h₁ h₂
  have hsplit : millis t₂ - start =
      (millis t₁ - start) + BitVec.ofNat 32 (t₂ - t₁) := by
    have hdiff : millis t₂ - millis t₁ = BitVec.ofNat 32 (t₂ - t₁) :=
      IntervalGate.ofNat_sub_ofNat_of_le (by omega)
    rw [← hdiff]
    abel
  rw [hsplit, BitVec.toNat_add, BitVec.toNat_ofNat] at h₂
  omega

/-- A poll that finds the station disconnected does not stop the access
point. -/
theorem apStarted_step_of_offline
    (lib : ArduinoJson) {s : State} {p : Poll} (hfirst : p.first = false)
    (h : s.apStarted = true) : (step lib s p).apStarted = true := by
  obtain ⟨-, ⟨hnot, -⟩ | ⟨-, -, -, -, hflag⟩ | ⟨-, -, -, hflag⟩⟩ :=
    step_cases lib s p
  · rw [hfirst] at hnot
    exact absurd hnot (by decide)
  · exact hflag
  · exact hflag.trans h

end WiFiHandler

namespace Firmware

open WiFiHandler

variable (lib : ArduinoJson) (decimals : ExtRat → ℕ → String)

/-- The event is no poll of the connection, or one whose reads both find the
station disconnected. -/
def Event.findsOffline : Event → Bool
  | .checkConnection _ first second => !first && !second
  | _ => true

theorem findsOffline_of_time_eq_none
    {e : Event} (h : reconnectGate.time e = none) : e.findsOffline = true := by
  cases e with
  | checkConnection t first second => exact nomatch h
  | _ => rfl

theorem along_offline
    {fw : Firmware} {es : List Event}
    (h : Along lib decimals (fun fw e => ¬ RestartsDevice lib fw e) fw es)
    (hes : ∀ e ∈ es, e.findsOffline = true) :
    Along lib decimals
      (fun fw e => ¬ RestartsDevice lib fw e ∧ e.findsOffline = true) fw es :=
  Machine.along_and h (Machine.along_of_forall_mem fun _ => hes)

/-- Between two boots the access point stays up as long as the polls find the
station disconnected. -/
theorem run_apStarted_of_offline
    {fw : Firmware} (h : fw.wifi.apStarted = true) {es : List Event}
    (hes : Along lib decimals
      (fun fw e => ¬ RestartsDevice lib fw e ∧ e.findsOffline = true) fw es) :
    (run lib decimals fw es).wifi.apStarted = true := by
  refine Machine.run_invariant_along
    (fun (fw : Firmware) e (hup : fw.wifi.apStarted = true) he => ?_) h hes
  rw [step_wifi lib decimals he.1]
  cases e with
  | checkConnection t first second =>
      have hoffline : (!first && !second) = true := he.2
      rw [Bool.and_eq_true, Bool.not_eq_true', Bool.not_eq_true'] at hoffline
      exact apStarted_step_of_offline lib hoffline.1 hup
  | _ => exact hup

/-- What holds of the WiFi connection between two boots: the flag agrees with
the radio, and the start time is that of the boot. -/
structure Polled (start : ULong) (fw : Firmware) : Prop where
  coherent : Coherent fw.wifi
  start : fw.wifi.connectionStartTime = start

theorem polled_run
    (io : BootInputs) (flash : LittleFS) {es : List Event}
    (h : Along lib decimals (fun fw e => ¬ RestartsDevice lib fw e)
      (Main.setup lib io flash) es) :
    Polled (Main.setup lib io flash).wifi.connectionStartTime
      (run lib decimals (Main.setup lib io flash) es) := by
  have hboot : Coherent (Main.setup lib io flash).wifi := by
    rw [setup_wifi]
    exact coherent_setup lib _ _ _
  constructor
  · rw [run_wifi lib decimals h]
    exact Machine.run_invariant (fun _ p hs => coherent_step lib p hs) hboot _
  · rw [run_wifi lib decimals h]
    exact run_connectionStartTime lib _ _

theorem apStarted_after_poll
    {start : ULong} {fw : Firmware} (h : Polled start fw) {t : ℕ}
    (htimed : TimedOut start t) :
    (step lib decimals fw (.checkConnection t false false)).wifi.apStarted =
      true := by
  rw [← h.start] at htimed
  exact (ap_of_timed_out lib h.coherent
    (p := ⟨FileHandler.getConfig fw.files, t, false, false⟩) rfl rfl htimed).2

/-- A poll that finds the station disconnected reaches the reconnect. -/
theorem reconnectGate_reached_of_offline
    {fw : Firmware} {e : Event} {t : ℕ} (he : e.findsOffline = true)
    (htime : reconnectGate.time e = some t) :
    reconnectGate.reached fw e = true := by
  cases e with
  | checkConnection t' first second =>
      have hoffline : (!first && !second) = true := he
      rw [Bool.and_eq_true, Bool.not_eq_true', Bool.not_eq_true'] at hoffline
      rw [hoffline.1, hoffline.2]
      rfl
  | _ => exact nomatch htime

section

variable {lib} {decimals} {io : BootInputs} {flash : LittleFS}
  {history mid post : List Event} {t₁ t₂ : ℕ}

/-- At the end of an outage that is seen for longer than the timeout the access
point is up. -/
theorem apStarted_after_outage
    (hrun : Along lib decimals (fun fw e => ¬ RestartsDevice lib fw e)
      (Main.setup lib io flash)
      (history ++ .checkConnection t₁ false false ::
        (mid ++ .checkConnection t₂ false false :: post)))
    (hoffline : ∀ e ∈ mid ++ .checkConnection t₂ false false :: post,
      e.findsOffline = true)
    (hlong : t₁ + 30000 < t₂) (hfits : t₂ + 30000 < t₁ + 2 ^ 32) :
    (run lib decimals (Main.setup lib io flash)
      (history ++ .checkConnection t₁ false false ::
        (mid ++ .checkConnection t₂ false false :: post))).wifi.apStarted =
      true := by
  obtain ⟨hhistory, hfirst, hrest⟩ := Machine.along_append.mp hrun
  have hquiet := along_offline lib decimals hrest hoffline
  have hpolled := polled_run lib decimals io flash hhistory
  rw [run, Machine.run_append, Machine.run_cons]
  rcases timedOut_or_timedOut
      (Main.setup lib io flash).wifi.connectionStartTime hlong hfits with
    htimed | htimed
  · exact run_apStarted_of_offline lib decimals
      (apStarted_after_poll lib decimals hpolled htimed) hquiet
  · obtain ⟨hmid, -, hpost⟩ := Machine.along_append.mp hquiet
    have hmidRun : Along lib decimals (fun fw e => ¬ RestartsDevice lib fw e)
        (Main.setup lib io flash)
        (history ++ .checkConnection t₁ false false :: mid) :=
      Machine.along_append.mpr ⟨hhistory, hfirst,
        Machine.along_mono (fun _ _ he => he.1) hmid⟩
    have hpolled' := polled_run lib decimals io flash hmidRun
    rw [run, Machine.run_append, Machine.run_cons] at hpolled'
    rw [Machine.run_append, Machine.run_cons]
    exact run_apStarted_of_offline lib decimals
      (apStarted_after_poll lib decimals hpolled' htimed) hpost

/-- At the last poll of an outage of five seconds or more, the last attempt to
reconnect is less than five seconds old. -/
theorem exists_recent_attempt
    (hrun : Along lib decimals (fun fw e => ¬ RestartsDevice lib fw e)
      (Main.setup lib io flash)
      (history ++ .checkConnection t₁ false false ::
        (mid ++ .checkConnection t₂ false false :: post)))
    (hoffline : ∀ e ∈ mid ++ .checkConnection t₂ false false :: post,
      e.findsOffline = true)
    (hbefore : ∀ t ∈ history.filterMap reconnectGate.time, t ≤ t₁)
    (hgaps : reconnectGate.Gapless t₁
      (mid ++ .checkConnection t₂ false false :: post))
    (hpost : ∀ e ∈ post, reconnectGate.time e = none)
    (hlong : t₁ + 5000 ≤ t₂) :
    ∃ pre e t,
      pre ++ [e] <+: history ++ .checkConnection t₁ false false ::
        (mid ++ .checkConnection t₂ false false :: post) ∧
      reconnectGate.Fires (run lib decimals (Main.setup lib io flash) pre) e
        t ∧
      t ≤ t₂ ∧ t₂ < t + 5000 := by
  obtain ⟨hhistory, hfirst, hrest⟩ := Machine.along_append.mp hrun
  have hquiet := along_offline lib decimals hrest hoffline
  have hgoverns := reconnectGate_governs lib decimals
  obtain ⟨last, hstamp, hlast⟩ := IntervalGate.exists_stamp_le hgoverns
    (setup_stamps lib io flash).2.2.2 hhistory
  have hle : last ≤ t₁ := by
    rcases hlast with rfl | hmem
    · exact Nat.zero_le t₁
    · exact hbefore last hmem
  obtain ⟨last', htracked⟩ := IntervalGate.exists_tracked_after_call hgoverns
    hfirst (e := .checkConnection t₁ false false) rfl rfl hstamp hle
  have hinterval : reconnectGate.interval.toNat = 5000 := rfl
  have hle' := htracked.le
  obtain ⟨pre, e, since, t, heq, hfires, -, hle₂, hlt₂⟩ :=
    htracked.exists_recent_firing
      (hgoverns.mono (Q := fun fw e =>
        ¬ RestartsDevice lib fw e ∧ e.findsOffline = true) fun _ _ he => he.1)
      (fun _ _ _ he htime => reconnectGate_reached_of_offline he.2 htime)
      (by omega) hquiet hgaps rfl hpost (by omega)
  refine ⟨history ++ .checkConnection t₁ false false :: pre, e, t,
    ⟨since, by simp [heq]⟩, ?_, hle₂, hlt₂⟩
  rw [run, Machine.run_append, Machine.run_cons]
  exact hfires

end

/-- For every boot and every run until the next one, with the calls of all
handlers in any order: if two polls of the connection are more than the timeout
apart, the second before the counter has gone round again, and these and all
polls between them have found the station disconnected, then the access point is
on the air after the second one; and if
the polls are in order of time without a gap too long for the counter, the last
attempt to reconnect is then less than five seconds old. -/
theorem reachable_in_long_outage
    (lib : ArduinoJson) (decimals : ExtRat → ℕ → String)
    (io : BootInputs) (flash : LittleFS) (history mid post : List Event)
    (t₁ t₂ : ℕ)
    (hrun : Along lib decimals (fun fw e => ¬ RestartsDevice lib fw e)
      (Main.setup lib io flash)
      (history ++ .checkConnection t₁ false false ::
        (mid ++ .checkConnection t₂ false false :: post)))
    (hmid : ∀ e ∈ mid, e.findsOffline = true)
    (hpost : ∀ e ∈ post, reconnectGate.time e = none)
    (hlong : t₁ + 30000 < t₂) (hfits : t₂ + 30000 < t₁ + 2 ^ 32) :
    let boot := Main.setup lib io flash
    let es := history ++ .checkConnection t₁ false false ::
      (mid ++ .checkConnection t₂ false false :: post)
    (run lib decimals boot es).wifi.radio.mode.HasAp ∧
      ((∀ t ∈ history.filterMap reconnectGate.time, t ≤ t₁) →
        reconnectGate.Gapless t₁
          (mid ++ .checkConnection t₂ false false :: post) →
        ∃ pre e t, pre ++ [e] <+: es ∧
          reconnectGate.Fires (run lib decimals boot pre) e t ∧
          t ≤ t₂ ∧ t₂ < t + 5000) := by
  intro boot es
  have hoffline : ∀ e ∈ mid ++ .checkConnection t₂ false false :: post,
      e.findsOffline = true := by
    intro e he
    rcases List.mem_append.mp he with he | he
    · exact hmid e he
    · rcases List.mem_cons.mp he with rfl | he
      · rfl
      · exact findsOffline_of_time_eq_none (hpost e he)
  constructor
  · have hcoherent := (polled_run lib decimals io flash hrun).coherent
    exact hcoherent.flag.mp (apStarted_after_outage hrun hoffline hlong hfits)
  · intro hbefore hgaps
    exact exists_recent_attempt hrun hoffline hbefore hgaps hpost (by omega)

def clientText : String :=
  "\x7b\"wifi\":\x7b\"client\":\x7b\"ssid\":\"home\",\"password\":\"password\"\x7d," ++
    "\"ap\":\x7b\"ssid\":\"BYTELEVEL\",\"password\":\"BYTESTORE2026\"\x7d\x7d\x7d"

def clientLib : ArduinoJson := .reading clientText clientConfig

def clientFlash : LittleFS := FileHandler.flashWith clientText

/-- The network is lost ten seconds after the boot, well within the timeout of
the boot, and still missing 35 seconds later. -/
def earlyOutage : List Event :=
  [.checkConnection 5000 true true] ++ .checkConnection 10000 false false ::
    ([.handleBlink 20000, .checkConnection 25000 false false] ++
      .checkConnection 45000 false false :: [])

theorem reachable_in_early_outage :
    (run clientLib (fun _ _ => "")
        (Main.setup clientLib (.plain true) clientFlash)
        earlyOutage).wifi.radio.mode.HasAp ∧
      ∃ pre e t, pre ++ [e] <+: earlyOutage ∧
        reconnectGate.Fires
          (run clientLib (fun _ _ => "")
            (Main.setup clientLib (.plain true) clientFlash) pre) e t ∧
        t ≤ 45000 ∧ 45000 < t + 5000 := by
  have hcalls : ∀ e ∈ earlyOutage, e.isLoopCall = true := by decide
  obtain ⟨hap, hattempt⟩ := reachable_in_long_outage clientLib (fun _ _ => "")
    (.plain true) clientFlash [.checkConnection 5000 true true]
    [.handleBlink 20000, .checkConnection 25000 false false] [] 10000 45000
    (Machine.along_of_forall_mem fun fw e he =>
      not_restartsDevice_of_isLoopCall clientLib fw (hcalls e he))
    (by decide) (by simp) (by decide) (by decide)
  unfold earlyOutage
  exact ⟨hap, hattempt (by decide) (by decide +kernel)⟩

end Firmware
end ByteWaterlevel
