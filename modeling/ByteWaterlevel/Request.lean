import ByteWaterlevel.Relais
import ByteWaterlevel.WebHandler

/-!
# What an API request does to the device

Of all requests only an admitted one of the type `relais` reaches the device.
`RelaisRequest` is what the handler takes out of such a request, and
`apiRoute_device` says that its effect on the device is the whole effect of
the route.
-/

namespace ByteWaterlevel

/-- The fields that a request of the type `relais` is carried out with. -/
structure RelaisRequest where
  channel : CInt
  state : Bool
  duration : Option CInt
deriving DecidableEq

/-- A request handled at uptime `t` by a device that asks for no
credentials. -/
def Ambient.plain (t : ℕ) : Ambient where
  uptime := t
  pin := 0
  authenticate := fun _ _ => false
  wifiConnected := true
  execHTTPcheck := false
  mqttConnected := false
  cpuFreqMHz := 160
  rssi := .fin (-60)

namespace RelaisRequest

open DeviceHandler

/-- The request in a payload that passes the handler's type tests. -/
def ofJson (lib : ArduinoJson) (json : Json) : Option RelaisRequest :=
  if (json.get "type").asString lib = "relais" ∧
      (json.get "channel").isInt ∧ (json.get "state").isBool then
    some
      { channel := (json.get "channel").asInt lib
        state := (json.get "state").asBool
        duration :=
          if (json.get "duration").isInt then
            some ((json.get "duration").asInt lib)
          else none }
  else none

/-- The payload with the given fields. -/
def payload (channel : ℤ) (state : Bool) (duration : Option Json) : Json :=
  .obj
    ([("type", .str "relais"), ("channel", .int channel),
        ("state", .bool state)] ++
      (duration.map fun value => ("duration", value)).toList)

/-- Switching, then arming if there is a duration. -/
def apply (amb : Ambient) (r : RelaisRequest) (d : State) : State :=
  let d := setRelais amb.pin (r.channel.setWidth 8) r.state d
  match r.duration with
  | some duration => setRelaisDuration amb.uptime r.channel duration d
  | none => d

/-- A request that names another channel leaves the slot of `c` alone. -/
theorem apply_slot_of_ne
    (amb : Ambient) {r : RelaisRequest} (d : State) {c : Channel}
    (h : r.channel.setWidth 8 ≠ c.number8) :
    (r.apply amb d).slot c = d.slot c := by
  have hchannel : r.channel ≠ c.number := by
    intro heq
    exact h (by rw [heq, Channel.setWidth_number])
  unfold apply
  cases r.duration with
  | none => rw [setRelais_slot, if_neg h]
  | some duration =>
      rw [setRelaisDuration_slot, if_neg hchannel, setRelais_slot, if_neg h]

/-- The slot that a request leaves on the channel it switches.  The timer is
the new deadline if the request also arms the channel. -/
theorem apply_slot_self
    (amb : Ambient) {r : RelaisRequest} (d : State) {c : Channel}
    (h : r.channel.setWidth 8 = c.number8) :
    (r.apply amb d).slot c =
      { relay := r.state
        timer :=
          match r.duration with
          | some duration =>
              if r.channel = c.number then millis amb.uptime + duration * 1000
              else noTimer
          | none => noTimer } := by
  unfold apply
  cases r.duration with
  | none =>
      rw [setRelais_slot, if_pos h]
      rfl
  | some duration =>
      rw [setRelaisDuration_slot, setRelais_slot, if_pos h]
      by_cases hchannel : r.channel = c.number
      · simp [hchannel, Slot.switched]
      · simp [hchannel, Slot.switched]

theorem apply_of_away
    {α : Type*} {v : State → α} (h : AwayFromRelays v) (amb : Ambient)
    (r : RelaisRequest) (d : State) : v (r.apply amb d) = v d := by
  unfold apply
  cases r.duration with
  | none => exact h.setRelais _ _ _ d
  | some duration =>
      dsimp only
      rw [h.setRelaisDuration, h.setRelais]

@[simp] theorem apply_serial
    (amb : Ambient) (r : RelaisRequest) (d : State) :
    (r.apply amb d).serial =
      ⟨r.channel.setWidth 8, r.state⟩ :: d.serial := by
  unfold apply
  cases r.duration <;> simp

end RelaisRequest

namespace WebHandler

open DeviceHandler

/-- The configuration asks for no authentication, or the credentials of the
request are the right ones. -/
def Authorised (amb : Ambient) (files : FileHandler.State) : Prop :=
  let admin := (FileHandler.getConfig files).get "admin"
  ¬ ((admin.get "state").asBool ∧
    !amb.authenticate (admin.get "user").asCString
      (admin.get "password").asCString)

instance (amb : Ambient) (files : FileHandler.State) :
    Decidable (Authorised amb files) :=
  inferInstanceAs (Decidable (¬ _))

/-- The request is authorised and has a type. -/
def Admitted (amb : Ambient) (files : FileHandler.State) (json : Json) :
    Prop :=
  Authorised amb files ∧ (json.get "type").isString

instance (amb : Ambient) (files : FileHandler.State) (json : Json) :
    Decidable (Admitted amb files json) :=
  inferInstanceAs (Decidable (_ ∧ _))

/-- The relay request that the route carries out, if there is one. -/
def relaisRequest (lib : ArduinoJson) (amb : Ambient)
    (files : FileHandler.State) (json : Json) : Option RelaisRequest :=
  if Admitted amb files json then RelaisRequest.ofJson lib json else none

/-- The route ends with a restart. -/
def Restarts (lib : ArduinoJson) (amb : Ambient)
    (files : FileHandler.State) (json : Json) : Prop :=
  Admitted amb files json ∧
    ((json.get "type").asString lib = "restart" ∨
      (json.get "type").asString lib = "reset")

instance (lib : ArduinoJson) (amb : Ambient) (files : FileHandler.State)
    (json : Json) : Decidable (Restarts lib amb files json) :=
  inferInstanceAs (Decidable (_ ∧ _))

theorem not_restarts_of_relaisRequest
    {lib : ArduinoJson} {amb : Ambient} {files : FileHandler.State}
    {json : Json} {r : RelaisRequest}
    (h : relaisRequest lib amb files json = some r) :
    ¬ Restarts lib amb files json := by
  have hrelais : (json.get "type").asString lib = "relais" := by
    by_contra hne
    simp [relaisRequest, RelaisRequest.ofJson, hne] at h
  rintro ⟨-, htype | htype⟩
  · rw [hrelais] at htype
    exact absurd htype (by decide)
  · rw [hrelais] at htype
    exact absurd htype (by decide)

/-- The effect of a possible request on the device. -/
def applyRequest (amb : Ambient) (request : Option RelaisRequest)
    (d : State) : State :=
  match request with
  | some r => r.apply amb d
  | none => d

theorem relaisCall_device
    (lib : ArduinoJson) (amb : Ambient) (json : Json) (w : Server)
    (htype : (json.get "type").asString lib = "relais") :
    (relaisCall lib amb json w).device =
      applyRequest amb (RelaisRequest.ofJson lib json) w.device := by
  unfold relaisCall RelaisRequest.ofJson
  by_cases hfields :
      (json.get "channel").isInt = true ∧ (json.get "state").isBool = true
  · rw [if_pos hfields, if_pos ⟨htype, hfields⟩]
    by_cases hduration : (json.get "duration").isInt = true
    · simp [hduration, sendOK, sendResponse, applyRequest,
        RelaisRequest.apply]
    · simp [hduration, sendOK, sendResponse, applyRequest,
        RelaisRequest.apply]
  · rw [if_neg hfields, if_neg (fun h => hfields h.2)]
    rfl

/-- The dispatch reaches the device in the branch `relais` alone. -/
theorem handleAPICall_device
    (lib : ArduinoJson) (amb : Ambient) (json : Json) (w : Server) :
    (handleAPICall lib amb json w).device =
      applyRequest amb (RelaisRequest.ofJson lib json) w.device := by
  by_cases htype : (json.get "type").asString lib = "relais"
  · rw [handleAPICall, if_pos htype]
    exact relaisCall_device lib amb json w htype
  · have hnone : RelaisRequest.ofJson lib json = none := by
      rw [RelaisRequest.ofJson, if_neg (fun h => htype h.1)]
    rw [handleAPICall, if_neg htype, hnone]
    simp only [saveCall, applyRequest]
    split_ifs <;> rfl

/-- The dispatch asks for a restart in two branches. -/
theorem handleAPICall_action_restart_iff
    (lib : ArduinoJson) (amb : Ambient) (json : Json) {w : Server}
    (hw : w.action = none) :
    (handleAPICall lib amb json w).action = some .restart ↔
      (json.get "type").asString lib = "restart" ∨
        (json.get "type").asString lib = "reset" := by
  unfold handleAPICall relaisCall saveCall
  generalize (json.get "type").asString lib = type
  by_cases hrestart : type = "restart"
  · subst type
    simp
  · by_cases hreset : type = "reset"
    · subst type
      simp
    · simp only [hrestart, hreset, or_self, iff_false, if_false]
      split_ifs <;> simp [sendOK, sendInvalid, sendResponse, hw]

theorem needAuth_of_authorised
    {amb : Ambient} {w : Server} (h : Authorised amb w.files) :
    needAuth amb w = (true, w) := by
  unfold needAuth
  exact if_neg h

theorem needAuth_of_not_authorised
    {amb : Ambient} {w : Server} (h : ¬ Authorised amb w.files) :
    needAuth amb w =
      (false,
        { w with responses := w.responses ++ [.requestAuthentication] }) := by
  unfold needAuth
  exact if_pos (not_not.mp h)

/-- A rejected request is answered with the challenge and does nothing else. -/
theorem apiRoute_of_not_authorised
    (lib : ArduinoJson) (json : Json) {amb : Ambient} {w : Server}
    (h : ¬ Authorised amb w.files) :
    apiRoute lib amb json w =
      { w with responses := w.responses ++ [.requestAuthentication] } := by
  simp [apiRoute, needAuth_of_not_authorised h]

theorem rootRoute_of_not_authorised
    {amb : Ambient} {w : Server} (h : ¬ Authorised amb w.files) :
    rootRoute amb w =
      { w with responses := w.responses ++ [.requestAuthentication] } := by
  simp [rootRoute, needAuth_of_not_authorised h]

theorem apiRoute_of_admitted
    (lib : ArduinoJson) {amb : Ambient} {json : Json} {w : Server}
    (h : Admitted amb w.files json) :
    apiRoute lib amb json w = handleAPICall lib amb json w := by
  simp [apiRoute, needAuth_of_authorised h.1, checkRequest, h.2]

/-- A request that is not admitted only adds responses. -/
theorem apiRoute_of_not_admitted
    (lib : ArduinoJson) {amb : Ambient} {json : Json} {w : Server}
    (h : ¬ Admitted amb w.files json) :
    ∃ responses,
      apiRoute lib amb json w = { w with responses := responses } := by
  by_cases hauth : Authorised amb w.files
  · have htype : (json.get "type").isString = false :=
      Bool.eq_false_of_not_eq_true fun htype => h ⟨hauth, htype⟩
    simp [apiRoute, needAuth_of_authorised hauth, checkRequest, htype,
      sendResponse]
  · simp [apiRoute, needAuth_of_not_authorised hauth]

theorem apiRoute_device
    (lib : ArduinoJson) (amb : Ambient) (json : Json) (w : Server) :
    (apiRoute lib amb json w).device =
      applyRequest amb (relaisRequest lib amb w.files json) w.device := by
  unfold relaisRequest
  by_cases h : Admitted amb w.files json
  · rw [apiRoute_of_admitted lib h, if_pos h]
    exact handleAPICall_device lib amb json w
  · obtain ⟨responses, heq⟩ := apiRoute_of_not_admitted lib h
    rw [heq, if_neg h]
    rfl

theorem apiRoute_action_restart_iff
    (lib : ArduinoJson) (amb : Ambient) (json : Json) {w : Server}
    (hw : w.action = none) :
    (apiRoute lib amb json w).action = some .restart ↔
      Restarts lib amb w.files json := by
  by_cases h : Admitted amb w.files json
  · rw [apiRoute_of_admitted lib h,
      handleAPICall_action_restart_iff lib amb json hw]
    simp [Restarts, h]
  · obtain ⟨responses, heq⟩ := apiRoute_of_not_admitted lib h
    simp [heq, hw, Restarts, h]

end WebHandler
end ByteWaterlevel
