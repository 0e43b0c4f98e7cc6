import ByteWaterlevel.Control.Timer

/-!
# Requests with a duration

Switching and arming are two calls that read the payload differently.  The
channel is cut down to eight bits for switching and compared in full for
arming, the duration counts only if it is a 32-bit integer, and the computed
deadline may be the value that stands for no timer.  A request that switches a
relay on arms its timer exactly if none of the three happens.
-/

namespace ByteWaterlevel
namespace WebHandler

open DeviceHandler Control

/-- The handler of the request has called `setRelais` on the channel with the
state on. -/
def SwitchedOn (w w' : Server) (ch : Channel) : Prop :=
  ⟨ch.number8, true⟩ ∈ printed w.device w'.device

instance (w w' : Server) (ch : Channel) : Decidable (SwitchedOn w w' ch) :=
  inferInstanceAs (Decidable (_ ∈ _))

/-- Every relay that the request has switched on has a timer afterwards. -/
def SwitchedOnIsTimed (lib : ArduinoJson) (amb : Ambient) (json : Json)
    (w : Server) : Prop :=
  ∀ ch, SwitchedOn w (handleAPICall lib amb json w) ch →
    ((handleAPICall lib amb json w).device.slot ch).timer ≠ noTimer

/-- If the low eight bits of the channel name a relay, then so does the whole
channel, the duration is a 32-bit integer, and the deadline is not the value
that stands for no timer. -/
def ArmsWhatItSwitches (amb : Ambient) (json : Json) : Prop :=
  ∀ (ch : Channel) (n : ℤ), json.get "channel" = .int n →
    Json.intMin ≤ n → n ≤ Json.intMax → n % 256 = ch.number.toInt →
    n = ch.number.toInt ∧
      ∃ d, json.get "duration" = .int d ∧
        Json.intMin ≤ d ∧ d ≤ Json.intMax ∧
        ((amb.uptime : ℤ) + 1000 * d) % 2 ^ 32 ≠ 2 ^ 32 - 1

theorem setWidth_ofInt_eq_number8_iff (n : ℤ) (ch : Channel) :
    (BitVec.ofInt 32 n).setWidth 8 = ch.number8 ↔
      n % 256 = ch.number.toInt := by
  rw [← BitVec.toNat_inj, BitVec.toNat_setWidth, BitVec.toNat_ofInt]
  cases ch with
  | one =>
      change _ = 1 ↔ _ = 1
      omega
  | two =>
      change _ = 2 ↔ _ = 2
      omega

theorem ofInt_eq_number_iff
    {n : ℤ} (hlo : Json.intMin ≤ n) (hhi : n ≤ Json.intMax) (ch : Channel) :
    BitVec.ofInt 32 n = ch.number ↔ n = ch.number.toInt := by
  simp only [Json.intMin, Json.intMax] at hlo hhi
  rw [← BitVec.toNat_inj, BitVec.toNat_ofInt]
  cases ch with
  | one =>
      change _ = 1 ↔ _ = 1
      omega
  | two =>
      change _ = 2 ↔ _ = 2
      omega

theorem ofInt_deadline_ne_noTimer_iff
    (t : ℕ) {d : ℤ} (hlo : Json.intMin ≤ d) (hhi : d ≤ Json.intMax) :
    millis t + BitVec.ofInt 32 d * 1000 ≠ noTimer ↔
      ((t : ℤ) + 1000 * d) % 2 ^ 32 ≠ 2 ^ 32 - 1 := by
  have hdeadline := toNat_deadline t (BitVec.ofInt 32 d)
  have hd := Json.toInt_asInt_of_isInt .textless hlo hhi
  rw [Json.asInt, if_pos ⟨hlo, hhi⟩] at hd
  have hnone : noTimer.toNat = 2 ^ 32 - 1 := by decide
  rw [hd] at hdeadline
  rw [ne_eq, ← BitVec.toNat_inj, hnone, ← hdeadline]
  generalize (millis t + BitVec.ofInt 32 d * 1000).toNat = w
  omega

/-- The relays that a request switches on are those that the low eight bits of
its channel name. -/
theorem switchedOn_iff
    {lib : ArduinoJson} {json : Json} {r : RelaisRequest}
    (hr : RelaisRequest.ofJson lib json = some r) (hstate : r.state = true)
    (amb : Ambient) (w : Server) (ch : Channel) :
    SwitchedOn w (handleAPICall lib amb json w) ch ↔
      r.channel.setWidth 8 = ch.number8 := by
  rw [SwitchedOn, handleAPICall_device, hr]
  simp [printed, applyRequest, hstate, eq_comm]

/-- A switched relay is left with a timer if the request has a duration, its
whole channel names the relay, and the deadline is one. -/
theorem timer_ne_noTimer_iff
    {lib : ArduinoJson} {json : Json} {r : RelaisRequest}
    (hr : RelaisRequest.ofJson lib json = some r)
    (amb : Ambient) (w : Server) {ch : Channel}
    (hch : r.channel.setWidth 8 = ch.number8) :
    ((handleAPICall lib amb json w).device.slot ch).timer ≠ noTimer ↔
      r.channel = ch.number ∧
        ∃ duration, r.duration = some duration ∧
          millis amb.uptime + duration * 1000 ≠ noTimer := by
  rw [handleAPICall_device, hr, applyRequest,
    RelaisRequest.apply_slot_self amb w.device hch]
  cases r.duration with
  | none => simp
  | some duration =>
      by_cases hfull : r.channel = ch.number
      · simp [hfull]
      · simp [hfull]

/-- A payload without an `int` channel carries no request. -/
theorem ofJson_of_not_isInt
    {lib : ArduinoJson} {json : Json}
    (h : (json.get "channel").isInt = false) :
    RelaisRequest.ofJson lib json = none := by
  simp [RelaisRequest.ofJson, h]

/-- The request of a payload with an `int` channel and the state on. -/
theorem ofJson_of_int
    {lib : ArduinoJson} {json : Json} {n : ℤ}
    (htype : (json.get "type").asString lib = "relais")
    (hstate : json.get "state" = .bool true)
    (hchannel : json.get "channel" = .int n)
    (hlo : Json.intMin ≤ n) (hhi : n ≤ Json.intMax) :
    ∃ r, RelaisRequest.ofJson lib json = some r ∧ r.state = true ∧
      r.channel = BitVec.ofInt 32 n ∧
      ∀ duration, r.duration = some duration ↔
        ∃ d, json.get "duration" = .int d ∧
          Json.intMin ≤ d ∧ d ≤ Json.intMax ∧
          duration = BitVec.ofInt 32 d := by
  refine ⟨{ channel := BitVec.ofInt 32 n
            state := true
            duration :=
              if (json.get "duration").isInt then
                some ((json.get "duration").asInt lib)
              else none }, ?_, rfl, rfl, ?_⟩
  · simp [RelaisRequest.ofJson, htype, hstate, hchannel, Json.isInt,
      Json.isBool, Json.asInt, Json.asBool, hlo, hhi]
  · intro duration
    by_cases hduration : (json.get "duration").isInt = true
    · obtain ⟨d, hd, hdlo, hdhi⟩ := Json.isInt_iff.mp hduration
      simp [hd, Json.isInt, Json.asInt, hdlo, hdhi, eq_comm]
    · simp only [hduration, Bool.false_eq_true, if_false, false_iff,
        reduceCtorEq]
      rintro ⟨d, hd, hdlo, hdhi, -⟩
      exact hduration (Json.isInt_iff.mpr ⟨d, hd, hdlo, hdhi⟩)

section IntChannel

variable {lib : ArduinoJson} {json : Json} {n : ℤ}

/-- The relays that a payload with the channel `n` switches on. -/
theorem switchedOn_iff_of_int
    (htype : (json.get "type").asString lib = "relais")
    (hstate : json.get "state" = .bool true)
    (hchannel : json.get "channel" = .int n)
    (hlo : Json.intMin ≤ n) (hhi : n ≤ Json.intMax)
    (amb : Ambient) (w : Server) (ch : Channel) :
    SwitchedOn w (handleAPICall lib amb json w) ch ↔
      n % 256 = ch.number.toInt := by
  obtain ⟨r, hr, hrstate, hrchannel, -⟩ :=
    ofJson_of_int htype hstate hchannel hlo hhi
  rw [switchedOn_iff hr hrstate, hrchannel, setWidth_ofInt_eq_number8_iff]

/-- When a relay switched on by a payload with the channel `n` is timed. -/
theorem timer_ne_noTimer_iff_of_int
    (htype : (json.get "type").asString lib = "relais")
    (hstate : json.get "state" = .bool true)
    (hchannel : json.get "channel" = .int n)
    (hlo : Json.intMin ≤ n) (hhi : n ≤ Json.intMax)
    (amb : Ambient) (w : Server) {ch : Channel}
    (hch : n % 256 = ch.number.toInt) :
    ((handleAPICall lib amb json w).device.slot ch).timer ≠ noTimer ↔
      n = ch.number.toInt ∧
        ∃ d, json.get "duration" = .int d ∧
          Json.intMin ≤ d ∧ d ≤ Json.intMax ∧
          ((amb.uptime : ℤ) + 1000 * d) % 2 ^ 32 ≠ 2 ^ 32 - 1 := by
  obtain ⟨r, hr, -, hrchannel, hrduration⟩ :=
    ofJson_of_int htype hstate hchannel hlo hhi
  have hself : r.channel.setWidth 8 = ch.number8 := by
    rw [hrchannel]
    exact (setWidth_ofInt_eq_number8_iff n ch).mpr hch
  rw [timer_ne_noTimer_iff hr amb w hself, hrchannel,
    ofInt_eq_number_iff hlo hhi]
  refine and_congr_right fun _ => ?_
  constructor
  · rintro ⟨duration, hduration, hne⟩
    obtain ⟨d, hd, hdlo, hdhi, rfl⟩ := (hrduration duration).mp hduration
    exact ⟨d, hd, hdlo, hdhi,
      (ofInt_deadline_ne_noTimer_iff amb.uptime hdlo hdhi).mp hne⟩
  · rintro ⟨d, hd, hdlo, hdhi, hne⟩
    exact ⟨BitVec.ofInt 32 d,
      (hrduration _).mpr ⟨d, hd, hdlo, hdhi, rfl⟩,
      (ofInt_deadline_ne_noTimer_iff amb.uptime hdlo hdhi).mpr hne⟩

end IntChannel

/-- A request to switch on leaves every relay it switches with a timer exactly
if it arms what it switches. -/
theorem switchedOnIsTimed_iff
    (lib : ArduinoJson) (amb : Ambient) (json : Json) (w : Server)
    (htype : (json.get "type").asString lib = "relais")
    (hstate : json.get "state" = .bool true) :
    SwitchedOnIsTimed lib amb json w ↔ ArmsWhatItSwitches amb json := by
  by_cases hint : (json.get "channel").isInt = true
  · obtain ⟨n, hchannel, hlo, hhi⟩ := Json.isInt_iff.mp hint
    have hswitched := switchedOn_iff_of_int htype hstate hchannel hlo hhi amb w
    constructor
    · intro h ch n' hchannel' _ _ hch
      rw [hchannel] at hchannel'
      obtain rfl := Json.int.inj hchannel'
      have htimed := timer_ne_noTimer_iff_of_int htype hstate hchannel hlo hhi
        amb w hch
      exact htimed.mp (h ch ((hswitched ch).mpr hch))
    · intro h ch hon
      have hch := (hswitched ch).mp hon
      have htimed := timer_ne_noTimer_iff_of_int htype hstate hchannel hlo hhi
        amb w hch
      exact htimed.mpr (h ch n hchannel hlo hhi hch)
  · have hnone : RelaisRequest.ofJson lib json = none :=
      ofJson_of_not_isInt (Bool.eq_false_of_not_eq_true hint)
    constructor
    · intro _ ch n hchannel hlo hhi
      exact absurd (Json.isInt_iff.mpr ⟨n, hchannel, hlo, hhi⟩) hint
    · intro _ ch hon
      rw [SwitchedOn, handleAPICall_device, hnone] at hon
      simp [printed, applyRequest] at hon

/-- The server of a device that has just booted. -/
def bootServer : Server where
  device := (boot (.delivered 0)).device
  files := FileHandler.emptyState
  responses := []
  action := none

theorem switchedOnIsTimed_for_a_minute :
    SwitchedOnIsTimed .textless (.plain 1000)
      (RelaisRequest.payload 1 true (some (.int 60))) bootServer := by
  apply (switchedOnIsTimed_iff .textless (.plain 1000)
    (RelaisRequest.payload 1 true (some (.int 60))) bootServer rfl rfl).mpr
  intro ch n hchannel _ _ hch
  have hn : (1 : ℤ) = n := Json.int.inj hchannel
  subst n
  exact ⟨hch, 60, rfl, by decide, by decide, by decide⟩

/-- Channel 257 with a duration of a minute: relay 1 is switched on and has no
timer. -/
theorem not_switchedOnIsTimed_channel_257 :
    (RelaisRequest.payload 257 true (some (.int 60))).containsKey "duration" =
        true ∧
      ¬ SwitchedOnIsTimed .textless (.plain 1000)
        (RelaisRequest.payload 257 true (some (.int 60))) bootServer := by
  refine ⟨by decide, fun h => ?_⟩
  exact h .one (by decide) (by decide)

end WebHandler
end ByteWaterlevel
