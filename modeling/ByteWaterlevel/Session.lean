import ByteWaterlevel.Lifecycle
import ByteWaterlevel.Support.Calls
import ByteWaterlevel.WebPage.Status

/-!
# A page and its device

The status tab of one page together with the device that it talks to.  The
calls of the page are handled by the device one at a time and in any order, and
they come back to the page, or fail, in any order; a call may also never come
back.  Between these steps everything else happens to the device: its own loop,
the requests of other clients, and power cycles.
-/

namespace ByteWaterlevel

open WebPage Calls

/-- A call of the page, answered by at most one response. -/
abbrev PageCall := Call Continuation (Option Response)

structure Session where
  device : Firmware
  tab : Tab
  calls : List PageCall

namespace Session

inductive Event where
  /-- The interval timer of the page. -/
  | ping
  /-- A click on the switch of a relay. -/
  | click (channel : Channel)
  /-- The device handles the call at the position. -/
  | handle (i : ℕ) (amb : Ambient) (reboot : BootInputs)
  /-- The call at the position comes back. -/
  | deliver (i : ℕ) (label : String)
  /-- The call at the position fails. -/
  | fail (i : ℕ)
  /-- Anything else that happens to the device. -/
  | device (e : Lifecycle.Event)

/-- The page as it has been loaded. -/
def loaded (device : Firmware) (chartLoaded : Bool) : Session where
  device := device
  tab := initialTab chartLoaded
  calls := []

/-- The calls that the page has started. -/
def start (tags : List Continuation) (calls : List PageCall) :
    List PageCall :=
  calls ++ tags.map fun tag => ⟨tag, none⟩

variable (lib : ArduinoJson) (decimals : ExtRat → ℕ → String)
  (parse : String → Option Json)

/-- The response of the device to a payload, if it sends one. -/
def response (amb : Ambient) (payload : Json) (fw : Firmware) :
    Option Response :=
  (WebHandler.apiRoute lib amb payload fw.server).responses.head?

def step (s : Session) : Event → Session
  | .ping =>
      { s with
        tab := (statusPing s.tab).1
        calls := start (statusPing s.tab).2 s.calls }
  | .click channel =>
      { s with
        tab := (relayToggle channel s.tab).1
        calls := start (relayToggle channel s.tab).2 s.calls }
  | .handle i amb reboot =>
      match s.calls[i]? with
      | some ⟨tag, none⟩ =>
          { s with
            device := Lifecycle.step lib decimals s.device
              (.api amb tag.payload reboot)
            calls := s.calls.set i
              ⟨tag, some (response lib amb tag.payload s.device)⟩ }
      | _ => s
  | .deliver i label =>
      match s.calls[i]? with
      | some ⟨tag, some (some r)⟩ =>
          { s with
            tab := resume parse label s.tab tag (some r)
            calls := s.calls.eraseIdx i }
      | _ => s
  | .fail i =>
      match s.calls[i]? with
      | some ⟨tag, _⟩ =>
          { s with
            tab := resume parse "" s.tab tag none
            calls := s.calls.eraseIdx i }
      | none => s
  | .device e => { s with device := Lifecycle.step lib decimals s.device e }

abbrev run := Machine.run (step lib decimals parse)

abbrev Along := Machine.Along (step lib decimals parse)

end Session
end ByteWaterlevel
