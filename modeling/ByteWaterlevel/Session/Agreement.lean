import ByteWaterlevel.Session.Exchanges

/-!
# The switches of the page and the relays

The switches of the page follow the relays by the status alone.  A click turns
a switch over at once, and a status that was read before the click may turn it
back; a request that fails puts the switch back to where it was.  So page and
device may differ for a while.

They cannot stay different.  Once the relays rest, and nobody clicks, the first
status that was asked for after that and comes back makes the page agree with
the device, and it stays so.  Since statuses do not overtake each other, no
older status can undo this.
-/

namespace ByteWaterlevel
namespace Session

open WebPage Calls DeviceHandler WebHandler

variable (lib : ArduinoJson) (decimals : ExtRat → ℕ → String)
  (parse : String → Option Json)

def relay (s : Session) (ch : Channel) : Bool :=
  (s.device.control.device.slot ch).relay

def switchOf (s : Session) (ch : Channel) : Bool :=
  s.tab.page.checked (relayId (Channel.ind ch))

/-- The switches of the page are in the positions of the relays. -/
def Agrees (s : Session) : Prop := ∀ ch, switchOf s ch = relay s ch

/-- The call is for a relay, and it comes back with anything but success. -/
def PutsBack (s : Session) : Event → Prop
  | .deliver i _ => ∃ ch state r,
      s.calls[i]? = some ⟨.relay ch state, some (some r)⟩ ∧
        Response.ok r = false
  | .fail i => ∃ ch state answer,
      s.calls[i]? = some ⟨.relay ch state, answer⟩
  | _ => False

/-- The step leaves the relays alone, is no click and puts no switch back. -/
def Quiet (s : Session) (e : Event) : Prop :=
  (∀ ch, relay (step lib decimals parse s e) ch = relay s ch) ∧
    (∀ ch, e ≠ .click ch) ∧ ¬ PutsBack s e

/-- The document has the relays of the device. -/
def HasRelays (s : Session) (json : Json) : Prop :=
  json.find "channels" =
    some (.arr [.bool (relay s .one), .bool (relay s .two)])

/-- If the step handles a status call, the browser reads the channels out of
the text that the library writes. -/
def ReadsBack (s : Session) : Event → Prop
  | .handle i amb _ => s.calls[i]? = some ⟨.status, none⟩ → ∃ json,
      parse (lib.serializeJson (statusDoc amb s.device.control.device)) =
        some json ∧ HasRelays s json
  | _ => True

/-! ## The status of the device -/

theorem response_status (amb : Ambient) (fw : Firmware) :
    response lib amb Continuation.status.payload fw =
      some
        (if Authorised amb fw.files then
          .send 200 "application/json"
            (lib.serializeJson (statusDoc amb fw.control.device))
        else .requestAuthentication) := by
  have htype : ((Continuation.status.payload).get "type") =
      .str "status" := rfl
  split_ifs with hauth
  · have hadmitted : Admitted amb fw.server.files
        Continuation.status.payload := ⟨hauth, rfl⟩
    rw [response, apiRoute_of_admitted lib hadmitted, handleAPICall, htype]
    rfl
  · rw [response, apiRoute_of_not_authorised lib _ hauth]
    rfl

theorem showStatus_page
    {json : Json} {first second : Bool}
    (h : json.find "channels" = some (.arr [.bool first, .bool second]))
    (label : String) (tab : Tab) :
    (showStatus json label tab).page =
      setRelayChecked 2 (.bool second)
        (setRelayChecked 1 (.bool first) tab.page) := by
  unfold showStatus
  split
  · exact absurd h (by simp [Json.find])
  · simp only [h, showTexts, showRelays]
    rfl

/-- Showing a status puts the switches to its relays. -/
theorem agrees_of_showStatus
    {s s' : Session} {json : Json} (h : HasRelays s json) (label : String)
    (hrelay : ∀ ch, relay s' ch = relay s ch)
    (hpage : s'.tab.page = (showStatus json label s.tab).page) :
    Agrees s' := by
  have hne : relayId 1 ≠ relayId 2 := by decide
  intro ch
  rw [switchOf, hpage, showStatus_page h, hrelay]
  cases ch with
  | one => simp [setRelayChecked, setChecked, Channel.ind, hne, truthy]
  | two => simp [setRelayChecked, setChecked, Channel.ind, truthy]

/-! ## Fresh answers -/

/-- Every outstanding status call that has been answered was refused or has the
relays as they are. -/
def Fresh (s : Session) : Prop :=
  ∀ call ∈ own .status s.calls, ∀ r, call.answer = some (some r) →
    r = .requestAuthentication ∨
      ∃ json, responseJson parse r = some json ∧ HasRelays s json

theorem hasRelays_congr
    {s s' : Session} (h : ∀ ch, relay s' ch = relay s ch) {json : Json} :
    HasRelays s' json ↔ HasRelays s json := by
  rw [HasRelays, HasRelays, h, h]

/-- While the relays rest, fresh answers stay fresh, and calls without an answer
may come. -/
theorem fresh_of_own_subset
    {s s' : Session} (hs : Fresh parse s)
    (hrelay : ∀ ch, relay s' ch = relay s ch)
    (hown : ∀ call ∈ own .status s'.calls,
      call ∈ own .status s.calls ∨ call.answer = none) :
    Fresh parse s' := by
  intro call hcall r hr
  rcases hown call hcall with hold | hnone
  · rcases hs call hold r hr with hrefused | ⟨json, hjson, hhas⟩
    · exact Or.inl hrefused
    · exact Or.inr ⟨json, hjson, (hasRelays_congr hrelay).mpr hhas⟩
  · rw [hnone] at hr
    exact absurd hr (by simp)

theorem own_eraseIdx_subset
    {calls : List PageCall} {i : ℕ} {call : PageCall}
    (h : call ∈ own .status (calls.eraseIdx i)) : call ∈ own .status calls := by
  rw [mem_own] at h ⊢
  exact ⟨List.mem_of_mem_eraseIdx h.1, h.2⟩

/-- A status call that the device handles now gets a fresh answer. -/
theorem fresh_handle
    {s : Session} {i : ℕ} {amb : Ambient} {reboot : BootInputs}
    (hs : Fresh parse s)
    (hrelay : ∀ ch, relay (step lib decimals parse s (.handle i amb reboot))
      ch = relay s ch)
    (hread : ReadsBack lib parse s (.handle i amb reboot)) :
    Fresh parse (step lib decimals parse s (.handle i amb reboot)) := by
  rcases step_handle_cases lib decimals parse s i amb reboot with
    ⟨tag, hcall, heq⟩ | ⟨-, heq⟩
  · rw [heq] at hrelay ⊢
    intro call hmem r hr
    obtain ⟨hmem, htag⟩ := mem_own.mp hmem
    rcases List.mem_or_eq_of_mem_set hmem with hold | rfl
    · rcases hs call (mem_own.mpr ⟨hold, htag⟩) r hr with
        hrefused | ⟨json, hjson, hhas⟩
      · exact Or.inl hrefused
      · exact Or.inr ⟨json, hjson, (hasRelays_congr hrelay).mpr hhas⟩
    · obtain rfl : tag = .status := htag
      rw [response_status] at hr
      obtain rfl := Option.some.inj (Option.some.inj hr)
      split_ifs
      · right
        obtain ⟨json, hjson, hhas⟩ := hread hcall
        exact ⟨json, hjson, (hasRelays_congr hrelay).mpr hhas⟩
      · exact Or.inl rfl
  · rwa [heq]

theorem fresh_step
    {s : Session} {e : Event} (hs : Fresh parse s)
    (hquiet : Quiet lib decimals parse s e)
    (hread : ReadsBack lib parse s e) :
    Fresh parse (step lib decimals parse s e) := by
  obtain ⟨hrelay, hclick, -⟩ := hquiet
  cases e with
  | click ch => exact absurd rfl (hclick ch)
  | handle i amb reboot =>
      exact fresh_handle lib decimals parse hs hrelay hread
  | device e => exact fresh_of_own_subset parse hs hrelay fun _ h => Or.inl h
  | ping =>
      refine fresh_of_own_subset parse hs hrelay ?_
      intro call hcall
      simp only [step, start, own_append, List.mem_append] at hcall
      rcases hcall with hold | hnew
      · exact Or.inl hold
      · right
        obtain ⟨tag, -, rfl⟩ := List.mem_map.mp (mem_own.mp hnew).1
        rfl
  | deliver i label =>
      rcases step_deliver_cases lib decimals parse s i label with
        ⟨tag, r, -, heq⟩ | ⟨-, heq⟩
      · rw [heq] at hrelay ⊢
        exact fresh_of_own_subset parse hs hrelay
          fun _ h => Or.inl (own_eraseIdx_subset h)
      · rwa [heq]
  | fail i =>
      rcases step_fail_cases lib decimals parse s i with
        ⟨tag, answer, -, heq⟩ | ⟨-, heq⟩
      · rw [heq] at hrelay ⊢
        exact fresh_of_own_subset parse hs hrelay
          fun _ h => Or.inl (own_eraseIdx_subset h)
      · rwa [heq]

/-! ## Agreement -/

theorem agrees_of_page
    {s s' : Session} (hs : Agrees s)
    (hrelay : ∀ ch, relay s' ch = relay s ch)
    (hpage : s'.tab.page = s.tab.page) : Agrees s' := by
  intro ch
  rw [switchOf, hpage, hrelay]
  exact hs ch

/-- A fresh status that comes back makes the page agree. -/
theorem agrees_of_deliver
    {s : Session} {i : ℕ} {label : String} {r : Response}
    (hs : Fresh parse s)
    (hcall : s.calls[i]? = some ⟨.status, some (some r)⟩)
    (hr : r ≠ .requestAuthentication) :
    Agrees (step lib decimals parse s (.deliver i label)) := by
  have hmem : (⟨.status, some (some r)⟩ : PageCall) ∈ own .status s.calls :=
    mem_own.mpr ⟨List.mem_of_getElem? hcall, rfl⟩
  rcases hs _ hmem r rfl with hrefused | ⟨json, hjson, hhas⟩
  · exact absurd hrefused hr
  · apply agrees_of_showStatus hhas label
    · intro ch
      simp only [step, hcall]
      rfl
    · simp only [step, hcall, resume, Option.bind_some, hjson]

theorem agrees_step
    {s : Session} {e : Event} (hfresh : Fresh parse s) (hs : Agrees s)
    (hquiet : Quiet lib decimals parse s e) :
    Agrees (step lib decimals parse s e) := by
  obtain ⟨hrelay, hclick, hputs⟩ := hquiet
  cases e with
  | click ch => exact absurd rfl (hclick ch)
  | device e => exact agrees_of_page hs hrelay rfl
  | ping =>
      refine agrees_of_page hs hrelay ?_
      simp only [step, statusPing]
      split_ifs <;> rfl
  | handle i amb reboot =>
      refine agrees_of_page hs hrelay ?_
      rcases step_handle_cases lib decimals parse s i amb reboot with
        ⟨tag, -, heq⟩ | ⟨-, heq⟩
      · rw [heq]
      · rw [heq]
  | deliver i label =>
      rcases step_deliver_cases lib decimals parse s i label with
        ⟨tag, r, hcall, heq⟩ | ⟨-, heq⟩
      · cases tag with
        | status =>
            by_cases hr : r = .requestAuthentication
            · refine agrees_of_page hs hrelay ?_
              rw [heq, hr]
              rfl
            · exact agrees_of_deliver lib decimals parse hfresh hcall hr
        | relay ch state =>
            have hok : Response.ok r = true := by
              by_contra hnot
              exact hputs ⟨ch, state, r, hcall, by simpa using hnot⟩
            refine agrees_of_page hs hrelay ?_
            rw [heq]
            simp [resume, hok]
      · rwa [heq]
  | fail i =>
      rcases step_fail_cases lib decimals parse s i with
        ⟨tag, answer, hcall, heq⟩ | ⟨-, heq⟩
      · cases tag with
        | status =>
            refine agrees_of_page hs hrelay ?_
            rw [heq]
            rfl
        | relay ch state => exact absurd ⟨ch, state, answer, hcall⟩ hputs
      · rwa [heq]

/-- When the timer finds no status in flight, no old answer is outstanding. -/
theorem fresh_ping {s : Session} (hs : InPhase .idle s) :
    Fresh parse (step lib decimals parse s .ping) := by
  intro call hcall r hr
  simp only [step, start, own_append, hs.1, Phase.pending, List.nil_append]
    at hcall
  obtain ⟨tag, -, rfl⟩ := List.mem_map.mp (mem_own.mp hcall).1
  exact absurd hr (by simp)

theorem agrees_of_idle
    {s : Session} {mid after : List Event} {i : ℕ} {label : String}
    {r : Response} (hs : InPhase .idle s)
    (hquiet : Along lib decimals parse
      (fun s e => Quiet lib decimals parse s e ∧ ReadsBack lib parse s e)
      s ((.ping :: mid) ++ (.deliver i label :: after)))
    (hcall : (run lib decimals parse s (.ping :: mid)).calls[i]? =
      some ⟨.status, some (some r)⟩)
    (hr : r ≠ .requestAuthentication) :
    Agrees (run lib decimals parse s
      ((.ping :: mid) ++ (.deliver i label :: after))) := by
  obtain ⟨⟨-, hmid⟩, hdeliver, hafter⟩ := Machine.along_append.mp hquiet
  have hfresh : Fresh parse (run lib decimals parse s (.ping :: mid)) := by
    rw [run, Machine.run_cons]
    exact Machine.run_invariant_along
      (fun s e hs h => fresh_step lib decimals parse hs h.1 h.2)
      (fresh_ping lib decimals parse hs) hmid
  have hagrees : Agrees (step lib decimals parse
      (run lib decimals parse s (.ping :: mid)) (.deliver i label)) :=
    agrees_of_deliver lib decimals parse hfresh hcall hr
  have hnext := fresh_step lib decimals parse hfresh hdeliver.1 hdeliver.2
  have hstep : ∀ s e, Fresh parse s ∧ Agrees s →
      Quiet lib decimals parse s e ∧ ReadsBack lib parse s e →
      Fresh parse (step lib decimals parse s e) ∧
        Agrees (step lib decimals parse s e) := by
    rintro s e ⟨hf, ha⟩ ⟨hq, hread⟩
    exact ⟨fresh_step lib decimals parse hf hq hread,
      agrees_step lib decimals parse hf ha hq⟩
  rw [run, Machine.run_append, Machine.run_cons]
  exact (Machine.run_invariant_along hstep ⟨hnext, hagrees⟩ hafter).2

/-- After any run, let the timer of the page find no status in flight, and let
the relays rest from then on, with nobody clicking and no relay request coming
back in vain.  As soon as a status that was not refused comes back, the
switches of the page are in the positions of the relays, and they stay so. -/
theorem agrees_after_refresh
    (device : Firmware) (chartLoaded : Bool) (before mid after : List Event)
    (i : ℕ) (label : String) (r : Response)
    (hidle : (run lib decimals parse (loaded device chartLoaded)
      before).tab.inFlight = false)
    (hquiet : Along lib decimals parse
      (fun s e => Quiet lib decimals parse s e ∧ ReadsBack lib parse s e)
      (run lib decimals parse (loaded device chartLoaded) before)
      ((.ping :: mid) ++ (.deliver i label :: after)))
    (hcall : (run lib decimals parse (loaded device chartLoaded)
      (before ++ .ping :: mid)).calls[i]? = some ⟨.status, some (some r)⟩)
    (hr : r ≠ .requestAuthentication) :
    Agrees (run lib decimals parse (loaded device chartLoaded)
      (before ++ ((.ping :: mid) ++ (.deliver i label :: after)))) := by
  obtain ⟨p, -, hphase⟩ := run_conforms (inPhase_step lib decimals parse)
    (inPhase_loaded device chartLoaded) before
  obtain rfl : p = .idle := by
    by_contra hne
    exact absurd (hphase.2.mpr hne) (by rw [hidle]; simp)
  rw [run, Machine.run_append] at hcall ⊢
  exact agrees_of_idle lib decimals parse hphase hquiet hcall hr

/-! ## A session -/

/-- The status of a device whose first relay is on, as the library writes it. -/
def statusText : String :=
  "\x7b\"type\":\"success\",\"channels\":[true,false],\"adc\":0,\"current\":0," ++
    "\"level\":0,\"volume\":0,\"cpu\":0,\"frequency\":160,\"rssi\":-60," ++
    "\"mqtt\":false,\"up\":5\x7d"

/-- The same as a document. -/
def statusJson : Json :=
  .obj
    [("type", .str "success"), ("channels", .arr [.bool true, .bool false]),
      ("adc", .int 0), ("current", .int 0), ("level", .int 0),
      ("volume", .int 0), ("cpu", .int 0), ("frequency", .int 160),
      ("rssi", .int (-60)), ("mqtt", .bool false), ("up", .int 5)]

/-- The library on that status. -/
def statusLib : ArduinoJson := .writing statusText

def statusParse (text : String) : Option Json :=
  if text = statusText then some statusJson else none

/-- The device boots without a configuration, and another client switches the
first relay on. -/
def switchedElsewhere : Session :=
  run statusLib (fun _ _ => "") statusParse
    (loaded (Main.setup statusLib (.plain true) FileHandler.emptyState.flash)
      true)
    [.device (.api (.plain 4000) (RelaisRequest.payload 1 true none)
      (.plain true))]

/-- The page shows the first relay off until the next status comes back. -/
theorem agrees_after_switched_elsewhere :
    switchOf switchedElsewhere .one = false ∧
      relay switchedElsewhere .one = true ∧
      Agrees (run statusLib (fun _ _ => "") statusParse
        (loaded (Main.setup statusLib (.plain true)
          FileHandler.emptyState.flash) true)
        ([.device (.api (.plain 4000) (RelaisRequest.payload 1 true none)
            (.plain true))] ++
          ((.ping :: [.handle 0 (.plain 5000) (.plain true)]) ++
            (.deliver 0 "12:00:00" :: [])))) := by
  refine ⟨by decide, by decide, ?_⟩
  refine agrees_after_refresh statusLib (fun _ _ => "") statusParse
    (Main.setup statusLib (.plain true) FileHandler.emptyState.flash) true
    [.device (.api (.plain 4000) (RelaisRequest.payload 1 true none)
      (.plain true))]
    [.handle 0 (.plain 5000) (.plain true)] [] 0 "12:00:00"
    (.send 200 "application/json" statusText) rfl ?_ rfl (by simp)
  refine ⟨⟨⟨?_, by simp, fun h => h⟩, trivial⟩,
    ⟨⟨?_, by simp, fun h => h⟩, ?_⟩, ⟨⟨?_, by simp, ?_⟩, trivial⟩, trivial⟩
  · intro ch
    rfl
  · intro ch
    cases ch <;> rfl
  · intro _
    exact ⟨statusJson, if_pos rfl, rfl⟩
  · intro ch
    cases ch <;> rfl
  · rintro ⟨ch, state, r, hcall, -⟩
    have htag : some Continuation.status = some (.relay ch state) :=
      congrArg (Option.map Call.tag) hcall
    exact absurd htag (by simp)

end Session
end ByteWaterlevel
