import ByteWaterlevel.Storage.Save

/-!
# The responses to a request

Every way through the API route ends in one of three outcomes: nothing is
sent, a refusal is sent and nothing else happens, or a 200 is sent.
`apiRoute_outcome` says which requests take the first way.  These are the relay
requests without a usable channel or state, for which the handler has no
`else`; all others are answered exactly once, and whatever is not answered with
200 has no effect.
-/

namespace ByteWaterlevel

/-- A response that is not a 200. -/
def Response.IsRefusal : Response → Prop
  | .send code _ _ => code ≠ 200
  | .sendFile _ _ => False
  | .requestAuthentication => True

namespace WebHandler

/-- The request has the type `relais`, and its channel or its state is missing
or of the wrong type. -/
def IllTypedRelais (lib : ArduinoJson) (json : Json) : Prop :=
  (json.get "type").asString lib = "relais" ∧
    ¬ ((json.get "channel").isInt = true ∧ (json.get "state").isBool = true)

instance (lib : ArduinoJson) (json : Json) :
    Decidable (IllTypedRelais lib json) :=
  inferInstanceAs (Decidable (_ ∧ _))

/-- The route sends exactly one response. -/
def AnswersOnce (lib : ArduinoJson) (amb : Ambient) (json : Json)
    (w : Server) : Prop :=
  ∃ response, (apiRoute lib amb json w).responses = w.responses ++ [response]

/-- The state of the server when a request arrives. -/
def incoming (device : DeviceHandler.State) (files : FileHandler.State) :
    Server where
  device := device
  files := files
  responses := []
  action := none

/-- The outcome `after` only adds a refusal. -/
def Refused (w after : Server) : Prop :=
  ∃ response, response.IsRefusal ∧
    after = { w with responses := w.responses ++ [response] }

/-- The outcome `after` adds a 200, whatever else it does. -/
def Served (w after : Server) : Prop :=
  ∃ body, after.responses =
    w.responses ++ [.send 200 "application/json" body]

theorem refused_sendResponse
    {code : ℕ} (text : String) (w : Server) (h : code ≠ 200) :
    Refused w (sendResponse code text w) :=
  ⟨.send code "application/json" text, h, rfl⟩

theorem served_sendResponse (text : String) (w : Server) :
    Served w (sendResponse 200 text w) :=
  ⟨text, rfl⟩

/-- The outcomes of the branch `relais`. -/
theorem relaisCall_outcome
    (lib : ArduinoJson) (amb : Ambient) (json : Json) (w : Server)
    (htype : (json.get "type").asString lib = "relais") :
    (IllTypedRelais lib json ∧ relaisCall lib amb json w = w) ∨
      (¬ IllTypedRelais lib json ∧ Served w (relaisCall lib amb json w)) := by
  by_cases hfields :
      (json.get "channel").isInt = true ∧ (json.get "state").isBool = true
  · right
    refine ⟨fun h => h.2 hfields, ?_⟩
    rw [relaisCall, if_pos hfields]
    exact ⟨_, rfl⟩
  · left
    refine ⟨⟨htype, hfields⟩, ?_⟩
    rw [relaisCall, if_neg hfields]

/-- The outcomes of the branch `save`. -/
theorem saveCall_outcome
    (lib : ArduinoJson) (json : Json) (w : Server) :
    Refused w (saveCall lib json w) ∨ Served w (saveCall lib json w) := by
  by_cases hobject : (json.get "config").isObject = true
  · right
    rw [saveCall, if_pos hobject]
    exact ⟨_, rfl⟩
  · left
    rw [saveCall, if_neg hobject]
    exact refused_sendResponse _ w (by decide)

/-- The outcomes of the dispatch on the type. -/
theorem handleAPICall_outcome
    (lib : ArduinoJson) (amb : Ambient) (json : Json) (w : Server) :
    (IllTypedRelais lib json ∧ handleAPICall lib amb json w = w) ∨
      (¬ IllTypedRelais lib json ∧
        (Refused w (handleAPICall lib amb json w) ∨
          Served w (handleAPICall lib amb json w))) := by
  by_cases hrelais : (json.get "type").asString lib = "relais"
  · have hbranch : handleAPICall lib amb json w =
        relaisCall lib amb json w := by
      rw [handleAPICall, if_pos hrelais]
    rw [hbranch]
    rcases relaisCall_outcome lib amb json w hrelais with h | ⟨hnot, h⟩
    · exact Or.inl h
    · exact Or.inr ⟨hnot, Or.inr h⟩
  · right
    refine ⟨fun h => hrelais h.1, ?_⟩
    rw [handleAPICall, if_neg hrelais]
    split_ifs
    · exact Or.inr (served_sendResponse _ w)
    · exact Or.inr (served_sendResponse _ w)
    · exact saveCall_outcome lib json w
    · exact Or.inr ⟨_, rfl⟩
    · exact Or.inr ⟨_, rfl⟩
    · exact Or.inl (refused_sendResponse _ w (by decide))
    · exact Or.inr ⟨_, rfl⟩
    · exact Or.inl (refused_sendResponse _ w (by decide))

/-- A request that is not admitted is refused. -/
theorem refused_of_not_admitted
    (lib : ArduinoJson) {amb : Ambient} {json : Json} {w : Server}
    (h : ¬ Admitted amb w.files json) :
    Refused w (apiRoute lib amb json w) := by
  by_cases hauth : Authorised amb w.files
  · have htype : (json.get "type").isString = false :=
      Bool.eq_false_of_not_eq_true fun htype => h ⟨hauth, htype⟩
    have hroute : apiRoute lib amb json w = sendResponse 400
        "\x7b\"type\":\"error\",\"message\":\"No JSON payload provided\"\x7d"
        w := by
      simp [apiRoute, needAuth_of_authorised hauth, checkRequest, htype]
    rw [hroute]
    exact refused_sendResponse _ w (by decide)
  · exact ⟨.requestAuthentication, trivial,
      apiRoute_of_not_authorised lib json hauth⟩

/-- The outcomes of the route. -/
theorem apiRoute_outcome
    (lib : ArduinoJson) (amb : Ambient) (json : Json) (w : Server) :
    ((Admitted amb w.files json ∧ IllTypedRelais lib json) ∧
        apiRoute lib amb json w = w) ∨
      (¬ (Admitted amb w.files json ∧ IllTypedRelais lib json) ∧
        (Refused w (apiRoute lib amb json w) ∨
          Served w (apiRoute lib amb json w))) := by
  by_cases hadmitted : Admitted amb w.files json
  · rw [apiRoute_of_admitted lib hadmitted]
    rcases handleAPICall_outcome lib amb json w with
      ⟨hill, hsame⟩ | ⟨hnot, hsent⟩
    · exact Or.inl ⟨⟨hadmitted, hill⟩, hsame⟩
    · exact Or.inr ⟨fun h => hnot h.2, hsent⟩
  · right
    refine ⟨fun h => hadmitted h.1, Or.inl ?_⟩
    exact refused_of_not_admitted lib hadmitted

/-! ## One response per request -/

/-- The route answers a request exactly once, unless the request is an admitted
relay request whose channel is no integer or whose state is no boolean. -/
theorem answersOnce_iff
    (lib : ArduinoJson) (amb : Ambient) (json : Json) (w : Server) :
    AnswersOnce lib amb json w ↔
      ¬ (Admitted amb w.files json ∧ IllTypedRelais lib json) := by
  rcases apiRoute_outcome lib amb json w with
    ⟨hill, hsame⟩ | ⟨hnot, ⟨response, -, hroute⟩ | ⟨body, hroute⟩⟩
  · refine iff_of_false ?_ (not_not.mpr hill)
    rintro ⟨response, hresponse⟩
    rw [hsame] at hresponse
    exact absurd hresponse (by simp)
  · refine iff_of_true ⟨response, ?_⟩ hnot
    rw [hroute]
  · exact iff_of_true ⟨_, hroute⟩ hnot

/-- A relay request without a channel and without a state is not answered. -/
theorem not_answersOnce_relais_without_fields :
    ¬ AnswersOnce .textless (.plain 1000) (.obj [("type", .str "relais")])
      (incoming DeviceHandler.initialState FileHandler.emptyState) := by
  rintro ⟨response, hresponse⟩
  have hnone : ([] : List Response) = [response] := hresponse
  exact absurd hnone (by simp)

/-! ## Requests without a 200 -/

/-- A request that is not answered with 200 leaves the device, the
configuration in memory and the flash as they are, and starts neither a restart
nor an update. -/
theorem unchanged_of_not_acknowledged
    (lib : ArduinoJson) (amb : Ambient) (json : Json)
    (device : DeviceHandler.State) (files : FileHandler.State)
    (h : ¬ Acknowledged (apiRoute lib amb json (incoming device files))) :
    (apiRoute lib amb json (incoming device files)).device = device ∧
      (apiRoute lib amb json (incoming device files)).files = files ∧
      (apiRoute lib amb json (incoming device files)).action = none := by
  rcases apiRoute_outcome lib amb json (incoming device files) with
    ⟨-, hsame⟩ | ⟨-, ⟨response, -, hroute⟩ | ⟨body, hroute⟩⟩
  · rw [hsame]
    exact ⟨rfl, rfl, rfl⟩
  · rw [hroute]
    exact ⟨rfl, rfl, rfl⟩
  · refine absurd ⟨"application/json", body, ?_⟩ h
    rw [hroute]
    exact List.mem_append_right _ (List.mem_singleton_self _)

/-- A save without a configuration object is refused and saves nothing. -/
theorem unchanged_by_save_without_config :
    (apiRoute .textless (.plain 1000) (.obj [("type", .str "save")])
      (incoming DeviceHandler.initialState FileHandler.emptyState)).files =
      FileHandler.emptyState := by
  refine (unchanged_of_not_acknowledged .textless (.plain 1000)
    (.obj [("type", .str "save")]) DeviceHandler.initialState
    FileHandler.emptyState ?_).2.1
  rintro ⟨contentType, body, hmem⟩
  have hsingle : Response.send 200 contentType body ∈
      [Response.send 400 "application/json"
        "\x7b\"type\":\"error\",\"message\":\"Invalid request\"\x7d"] := hmem
  simp at hsingle

end WebHandler
end ByteWaterlevel
