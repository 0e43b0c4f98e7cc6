import ByteWaterlevel.Session
import ByteWaterlevel.Support.Window

/-!
# Status exchanges

The page asks for the status whenever its interval timer finds no status in
flight.  Although the calls of the page may be handled and come back in any
order, the status calls of every run are a sequence of exchanges, each of which
is asked for, answered by the device and shown before the next one is asked
for.  No status is shown twice, none overtakes another one, and the flag
`inFlight` says exactly whether one is outstanding.

The chart is fed by these exchanges.  It holds the last 21 statuses that were
shown.
-/

namespace ByteWaterlevel
namespace Session

open WebPage Calls

variable (lib : ArduinoJson) (decimals : ExtRat → ℕ → String)
  (parse : String → Option Json)

/-! ## The flag -/

@[simp] theorem showStatus_inFlight
    (json : Json) (label : String) (tab : Tab) :
    (showStatus json label tab).inFlight = tab.inFlight := by
  unfold showStatus showTexts showRelays
  split
  · rfl
  · split
    · rfl
    · dsimp only
      split <;> rfl

theorem resume_status_inFlight
    (label : String) (tab : Tab) (r : Option Response) :
    (resume parse label tab .status r).inFlight = false := rfl

theorem resume_relay_inFlight
    (label : String) (tab : Tab) (channel : Channel) (state : Bool)
    (r : Option Response) :
    (resume parse label tab (.relay channel state) r).inFlight =
      tab.inFlight := by
  unfold resume
  dsimp only
  split_ifs <;> rfl

/-! ## What a step does to the calls -/

/-- The device handles a call once, and then never again. -/
theorem step_handle_cases (s : Session) (i : ℕ) (amb : Ambient)
    (reboot : BootInputs) :
    (∃ tag, s.calls[i]? = some ⟨tag, none⟩ ∧
      step lib decimals parse s (.handle i amb reboot) =
        { s with
          device := Lifecycle.step lib decimals s.device
            (.api amb tag.payload reboot)
          calls := s.calls.set i
            ⟨tag, some (response lib amb tag.payload s.device)⟩ }) ∨
      ((∀ tag, s.calls[i]? ≠ some ⟨tag, none⟩) ∧
        step lib decimals parse s (.handle i amb reboot) = s) := by
  cases hcall : s.calls[i]? with
  | none => exact Or.inr ⟨by simp, by simp only [step, hcall]⟩
  | some call =>
      obtain ⟨tag, answer⟩ := call
      cases answer with
      | none => exact Or.inl ⟨tag, rfl, by simp only [step, hcall]⟩
      | some r => exact Or.inr ⟨by simp, by simp only [step, hcall]⟩

theorem step_deliver_cases (s : Session) (i : ℕ) (label : String) :
    (∃ tag r, s.calls[i]? = some ⟨tag, some (some r)⟩ ∧
      step lib decimals parse s (.deliver i label) =
        { s with
          tab := resume parse label s.tab tag (some r)
          calls := s.calls.eraseIdx i }) ∨
      ((∀ tag r, s.calls[i]? ≠ some ⟨tag, some (some r)⟩) ∧
        step lib decimals parse s (.deliver i label) = s) := by
  cases hcall : s.calls[i]? with
  | none => exact Or.inr ⟨by simp, by simp only [step, hcall]⟩
  | some call =>
      obtain ⟨tag, _ | _ | r⟩ := call
      · exact Or.inr ⟨by simp, by simp only [step, hcall]⟩
      · exact Or.inr ⟨by simp, by simp only [step, hcall]⟩
      · exact Or.inl ⟨tag, r, rfl, by simp only [step, hcall]⟩

theorem step_fail_cases (s : Session) (i : ℕ) :
    (∃ tag answer, s.calls[i]? = some ⟨tag, answer⟩ ∧
      step lib decimals parse s (.fail i) =
        { s with
          tab := resume parse "" s.tab tag none
          calls := s.calls.eraseIdx i }) ∨
      (s.calls[i]? = none ∧ step lib decimals parse s (.fail i) = s) := by
  cases hcall : s.calls[i]? with
  | none => exact Or.inr ⟨rfl, by simp only [step, hcall]⟩
  | some call => exact Or.inl ⟨call.tag, call.answer, rfl, by
      simp only [step, hcall]⟩

/-! ## The exchanges -/

/-- What a step is for the status exchanges. -/
def statusActions (s : Session) :
    Event → List (Calls.Action (Option Response))
  | .ping => if s.tab.inFlight then [] else [.start]
  | .handle i amb _ =>
      match s.calls[i]? with
      | some ⟨.status, none⟩ =>
          [.answer (response lib amb Continuation.status.payload s.device)]
      | _ => []
  | .deliver i _ =>
      match s.calls[i]? with
      | some ⟨.status, some (some r)⟩ => [.finish (some r)]
      | _ => []
  | .fail i =>
      match s.calls[i]? with
      | some ⟨.status, _⟩ => [.fail]
      | _ => []
  | _ => []

/-- The outstanding status calls are those of the phase, and the flag is set
unless the phase is idle. -/
def InPhase (p : Phase (Option Response)) (s : Session) : Prop :=
  own .status s.calls = p.pending .status ∧
    (s.tab.inFlight = true ↔ p ≠ .idle)

theorem inPhase_loaded (device : Firmware) (chartLoaded : Bool) :
    InPhase .idle (loaded device chartLoaded) :=
  ⟨rfl, by simp [loaded, initialTab]⟩

theorem inPhase_ping
    {p : Phase (Option Response)} {s : Session} (h : InPhase p s) :
    ∃ p', (statusActions lib s .ping).foldlM Phase.next p = some p' ∧
      InPhase p' (step lib decimals parse s .ping) := by
  cases hflag : s.tab.inFlight with
  | true =>
      refine ⟨p, by simp [statusActions, hflag], ?_⟩
      simpa [InPhase, step, statusPing, hflag, start] using h
  | false =>
      obtain rfl : p = .idle := by
        by_contra hne
        exact absurd (h.2.mpr hne) (by simp [hflag])
      refine ⟨.asked, by simp [statusActions, hflag, Phase.next], ?_, ?_⟩
      · simp only [step, statusPing, hflag, start, List.map_cons, List.map_nil,
          Bool.false_eq_true, if_false]
        rw [own_start, h.1]
        rfl
      · simp [step, statusPing, hflag]

theorem inPhase_handle
    {p : Phase (Option Response)} {s : Session} (h : InPhase p s) (i : ℕ)
    (amb : Ambient) (reboot : BootInputs) :
    ∃ p', (statusActions lib s (.handle i amb reboot)).foldlM Phase.next p =
        some p' ∧
      InPhase p' (step lib decimals parse s (.handle i amb reboot)) := by
  rcases step_handle_cases lib decimals parse s i amb reboot with
    ⟨tag, hcall, heq⟩ | ⟨hcall, heq⟩
  · rw [heq]
    cases tag with
    | status =>
        rcases phase_of_call hcall rfl h.1 with ⟨-, rfl⟩ | ⟨r, hr, -⟩
        · refine ⟨.answered (response lib amb
            Continuation.status.payload s.device), ?_, ?_, ?_⟩
          · simp [statusActions, hcall, Phase.next]
          · exact (own_of_phase hcall rfl h.1).1 _
          · simpa using h.2
        · exact absurd hr (by simp)
    | relay channel state =>
        refine ⟨p, by simp [statusActions, hcall], ?_, h.2⟩
        rw [← h.1]
        exact own_answer_of_ne hcall (by simp) _
  · rw [heq]
    refine ⟨p, ?_, h⟩
    have hnone : statusActions lib s (.handle i amb reboot) = [] := by
      simp only [statusActions]
      split
      · next hcall' => exact absurd hcall' (hcall .status)
      · rfl
    rw [hnone]
    rfl

theorem inPhase_deliver
    {p : Phase (Option Response)} {s : Session} (h : InPhase p s) (i : ℕ)
    (label : String) :
    ∃ p', (statusActions lib s (.deliver i label)).foldlM Phase.next p =
        some p' ∧
      InPhase p' (step lib decimals parse s (.deliver i label)) := by
  rcases step_deliver_cases lib decimals parse s i label with
    ⟨tag, r, hcall, heq⟩ | ⟨hcall, heq⟩
  · rw [heq]
    cases tag with
    | status =>
        rcases phase_of_call hcall rfl h.1 with ⟨hr, -⟩ | ⟨r', hr, rfl⟩
        · exact absurd hr (by simp)
        · obtain rfl : some r = r' := Option.some.inj hr
          refine ⟨.idle, by simp [statusActions, hcall, Phase.next], ?_, ?_⟩
          · exact (own_of_phase hcall rfl h.1).2
          · simp [resume_status_inFlight]
    | relay channel state =>
        refine ⟨p, by simp [statusActions, hcall], ?_, ?_⟩
        · rw [← h.1]
          exact own_finish_of_ne hcall (by simp)
        · rw [resume_relay_inFlight]
          exact h.2
  · rw [heq]
    refine ⟨p, ?_, h⟩
    have hnone : statusActions lib s (.deliver i label) = [] := by
      simp only [statusActions]
      split
      · next hcall' => exact absurd hcall' (hcall .status _)
      · rfl
    rw [hnone]
    rfl

theorem inPhase_fail
    {p : Phase (Option Response)} {s : Session} (h : InPhase p s) (i : ℕ) :
    ∃ p', (statusActions lib s (.fail i)).foldlM Phase.next p = some p' ∧
      InPhase p' (step lib decimals parse s (.fail i)) := by
  rcases step_fail_cases lib decimals parse s i with
    ⟨tag, answer, hcall, heq⟩ | ⟨hcall, heq⟩
  · rw [heq]
    cases tag with
    | status =>
        have hnext : Phase.next p .fail = some .idle := by
          rcases phase_of_call hcall rfl h.1 with ⟨-, rfl⟩ | ⟨r, -, rfl⟩
          · rfl
          · rfl
        refine ⟨.idle, by simp [statusActions, hcall, hnext], ?_, ?_⟩
        · exact (own_of_phase hcall rfl h.1).2
        · simp [resume_status_inFlight]
    | relay channel state =>
        refine ⟨p, by simp [statusActions, hcall], ?_, ?_⟩
        · rw [← h.1]
          exact own_finish_of_ne hcall (by simp)
        · rw [resume_relay_inFlight]
          exact h.2
  · rw [heq]
    exact ⟨p, by simp [statusActions, hcall], h⟩

theorem inPhase_step
    (p : Phase (Option Response)) (s : Session) (e : Event)
    (h : InPhase p s) :
    ∃ p', (statusActions lib s e).foldlM Phase.next p = some p' ∧
      InPhase p' (step lib decimals parse s e) := by
  cases e with
  | ping => exact inPhase_ping lib decimals parse h
  | click channel =>
      refine ⟨p, rfl, ?_, h.2⟩
      simp only [step, relayToggle, start, List.map_cons, List.map_nil]
      rw [own_start, h.1]
      simp
  | handle i amb reboot => exact inPhase_handle lib decimals parse h i amb reboot
  | deliver i label => exact inPhase_deliver lib decimals parse h i label
  | fail i => exact inPhase_fail lib decimals parse h i
  | device e => exact ⟨p, rfl, h⟩

/-- Whatever the order in which calls are handled, come back or fail, the status
calls of a run are a sequence of exchanges: the next status is asked for only
after the last one has come back or failed, and what is shown is the answer to
the exchange in progress.  The outstanding status calls, and the flag
`inFlight`, are those of the exchange in progress. -/
theorem status_exchanges
    (device : Firmware) (chartLoaded : Bool) (es : List Event) :
    ∃ p, (Machine.trace (step lib decimals parse) (statusActions lib)
        (loaded device chartLoaded) es).foldlM Phase.next .idle = some p ∧
      own .status (run lib decimals parse (loaded device chartLoaded)
        es).calls = p.pending .status ∧
      ((run lib decimals parse (loaded device chartLoaded) es).tab.inFlight =
          true ↔ p ≠ .idle) :=
  run_conforms (inPhase_step lib decimals parse)
    (inPhase_loaded device chartLoaded) es

/-! ## The chart -/

/-- Showing the document throws before it reaches the chart. -/
def throws (json : Json) : Bool :=
  json.isNull || (json.find "channels").any Json.isNull

theorem showStatus_chart
    (json : Json) (label : String) (tab : Tab) :
    (showStatus json label tab).chart =
      if throws json then tab.chart
      else tab.chart.map (pushPoint json label) := by
  unfold showStatus
  split
  · rfl
  · next hjson =>
      have hnull : json.isNull = false := by
        cases json <;> first | rfl | exact absurd rfl hjson
      split
      · next hchannels => simp [throws, hchannels, Json.isNull]
      · next hchannels =>
          have hthrows : throws json = false := by
            rw [throws, hnull, Bool.false_or]
            cases hfind : json.find "channels" with
            | none => rfl
            | some value =>
                cases value with
                | null => exact absurd hfind hchannels
                | _ => rfl
          simp only [hthrows, showTexts, showRelays]
          split <;> rfl

/-- The status that a step shows, with its label. -/
def shownStatus (s : Session) : Event → List (Json × String)
  | .deliver i label =>
      match s.calls[i]? with
      | some ⟨.status, some (some r)⟩ =>
          match responseJson parse r with
          | some json => if throws json then [] else [(json, label)]
          | none => []
      | _ => []
  | _ => []

/-- The statuses that a run shows. -/
def shownStatuses (s : Session) (es : List Event) : List (Json × String) :=
  Machine.trace (step lib decimals parse) (shownStatus parse) s es

/-- The chart of a list of statuses. -/
def chartOf (points : List (Json × String)) : Chart where
  voltage := points.map fun point => point.1.get "adc"
  current := points.map fun point => point.1.get "current"
  labels := points.map fun point => point.2

/-- The three arrays of the chart are shifted together. -/
theorem pushPoint_chartOf
    (points : List (Json × String)) (point : Json × String) :
    pushPoint point.1 point.2 (chartOf points) =
      chartOf (Window.push 20 points point) := by
  simp only [pushPoint, chartOf, Window.push, List.length_map]
  split_ifs <;> simp

/-- The chart after one more status. -/
def pushStatus (chart : Option Chart) (point : Json × String) : Option Chart :=
  chart.map (pushPoint point.1 point.2)

theorem run_pushStatus (points : List (Json × String)) :
    Machine.run pushStatus (some initialChart) points =
      some (chartOf (points.rtake 21)) := by
  have hstep : ∀ chart window (point point' : Json × String),
      chart = some (chartOf window) → point = point' →
      pushStatus chart point = some (chartOf (Window.push 20 window point')) := by
    rintro chart window point point' rfl rfl
    exact congrArg some (pushPoint_chartOf window point)
  have hempty : some initialChart = some (chartOf []) := rfl
  rw [← Window.run_push 20 points]
  exact Machine.run_rel hstep hempty (List.forall₂_refl points)

theorem resume_relay_chart
    (label : String) (tab : Tab) (channel : Channel) (state : Bool)
    (r : Option Response) :
    (resume parse label tab (.relay channel state) r).chart = tab.chart := by
  unfold resume
  dsimp only
  split_ifs <;> rfl

theorem step_chart (s : Session) (e : Event) :
    (step lib decimals parse s e).tab.chart =
      Machine.run pushStatus s.tab.chart (shownStatus parse s e) := by
  cases e with
  | ping =>
      simp only [step, statusPing, shownStatus]
      split_ifs <;> rfl
  | click channel => rfl
  | device e => rfl
  | handle i amb reboot =>
      rcases step_handle_cases lib decimals parse s i amb reboot with
        ⟨tag, -, heq⟩ | ⟨-, heq⟩
      · rw [heq]
        rfl
      · rw [heq]
        rfl
  | fail i =>
      rcases step_fail_cases lib decimals parse s i with
        ⟨tag, answer, -, heq⟩ | ⟨-, heq⟩
      · rw [heq]
        cases tag with
        | status => rfl
        | relay channel state => exact resume_relay_chart parse "" _ _ _ _
      · rw [heq]
        rfl
  | deliver i label =>
      rcases step_deliver_cases lib decimals parse s i label with
        ⟨tag, r, hcall, heq⟩ | ⟨hcall, heq⟩
      · rw [heq]
        cases tag with
        | status =>
            simp only [shownStatus, hcall, resume, Option.bind_some]
            cases responseJson parse r with
            | none => rfl
            | some json =>
                simp only [showStatus_chart]
                split_ifs <;> rfl
        | relay channel state =>
            rw [resume_relay_chart]
            simp [shownStatus, hcall]
      · rw [heq]
        simp only [shownStatus]
        split
        · next hcall' => exact absurd hcall' (hcall .status _)
        · rfl

/-- After every run the chart, if its library has been loaded, shows the last
21 statuses that were shown, in their order: voltage, current and label at each
position are those of one and the same status. -/
theorem chart_shows_last_statuses
    (device : Firmware) (es : List Event) :
    (run lib decimals parse (loaded device true) es).tab.chart =
      some (chartOf ((shownStatuses lib decimals parse
        (loaded device true) es).rtake 21)) := by
  have hrun := Machine.run_projection (π := fun s : Session => s.tab.chart)
    (step_chart lib decimals parse) (loaded device true) es
  rw [run, hrun]
  exact run_pushStatus _

end Session
end ByteWaterlevel
