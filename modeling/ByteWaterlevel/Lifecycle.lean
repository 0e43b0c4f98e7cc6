import ByteWaterlevel.Main
import ByteWaterlevel.Storage

/-!
# The life of a device

The firmware together with what happens to it from outside: requests to the two
routes of the web server, and the power being switched off and on.  A power
cycle, like a restart by a request, leads to the next boot on the flash as it
is.  `answer` is what a request sends back and what it ends with.

An event either leads to a boot (`step_of_nextBoot`), or it may save a
configuration and otherwise leaves the files alone (`step_of_no_boot`).
-/

namespace ByteWaterlevel

/-- The server as a handler finds it: nothing sent and nothing decided yet. -/
def Firmware.server (fw : Firmware) : Server where
  device := fw.control.device
  files := fw.files
  responses := []
  action := none

@[simp] theorem Firmware.server_files (fw : Firmware) :
    fw.server.files = fw.files := rfl

namespace Lifecycle

open WebHandler

inductive Event where
  | call (e : Firmware.Event)
  | page (amb : Ambient)
  | powerCycle (io : BootInputs)

/-- A request to the API. -/
abbrev Event.api (amb : Ambient) (json : Json) (reboot : BootInputs) : Event :=
  .call (.api amb json reboot)

/-- What a request sends back, and the restart or update it ends with. -/
structure Answer where
  responses : List Response
  action : Option Action

def Answer.ofServer (w : Server) : Answer := ⟨w.responses, w.action⟩

/-- The answer that consists of the authentication challenge alone. -/
def Answer.challenge : Answer := ⟨[.requestAuthentication], none⟩

variable (lib : ArduinoJson) (decimals : ExtRat → ℕ → String)

/-- The answer to an event that is a request. -/
def answer (fw : Firmware) : Event → Option Answer
  | .call (.api amb json _) =>
      some (.ofServer (apiRoute lib amb json fw.server))
  | .page amb => some (.ofServer (rootRoute amb fw.server))
  | _ => none

def step (fw : Firmware) : Event → Firmware
  | .call e => Firmware.step lib decimals fw e
  | .page amb =>
      let w := rootRoute amb fw.server
      { fw with control.device := w.device, files := w.files }
  | .powerCycle io => Main.setup lib io fw.files.flash

abbrev run := Machine.run (step lib decimals)

abbrev Along := Machine.Along (step lib decimals)

/-- The page changes nothing. -/
@[simp] theorem step_page (fw : Firmware) (amb : Ambient) :
    step lib decimals fw (.page amb) = fw := by
  simp only [step, rootRoute, needAuth]
  split_ifs <;> rfl

/-- A request that does not restart the device leaves the device and the files
as the route does, and everything else alone. -/
theorem step_api_of_not_restarts
    {fw : Firmware} {amb : Ambient} {json : Json} (reboot : BootInputs)
    (h : ¬ Restarts lib amb fw.files json) :
    step lib decimals fw (.api amb json reboot) =
      { fw with
        control.device := (apiRoute lib amb json fw.server).device
        files := (apiRoute lib amb json fw.server).files } := by
  have haction := apiRoute_action_restart_iff lib amb json
    (w := fw.server) rfl
  exact if_neg fun hr => h (haction.mp hr)

/-! ## Boots -/

/-- The inputs of the boot that the event leads to, and the flash it finds. -/
def nextBoot (fw : Firmware) : Event → Option (BootInputs × LittleFS)
  | .call (.api amb json reboot) =>
      if Restarts lib amb fw.files json then
        some (reboot, (apiRoute lib amb json fw.server).files.flash)
      else none
  | .powerCycle io => some (io, fw.files.flash)
  | _ => none

theorem step_of_nextBoot
    {fw : Firmware} {e : Event} {io : BootInputs} {flash : LittleFS}
    (h : nextBoot lib fw e = some (io, flash)) :
    step lib decimals fw e = Main.setup lib io flash := by
  cases e with
  | page amb => exact absurd h (by simp [nextBoot])
  | powerCycle io' =>
      simp only [nextBoot, Option.some.injEq, Prod.mk.injEq] at h
      obtain ⟨rfl, rfl⟩ := h
      rfl
  | call e =>
      cases e with
      | api amb json reboot =>
          simp only [nextBoot] at h
          split_ifs at h with hrestarts
          simp only [Option.some.injEq, Prod.mk.injEq] at h
          obtain ⟨rfl, rfl⟩ := h
          have haction := apiRoute_action_restart_iff lib amb json
            (w := fw.server) rfl
          exact if_pos (haction.mpr hrestarts)
      | _ => exact absurd h (by simp [nextBoot])

/-- The configuration that an event saves, if it saves one. -/
def saved (fw : Firmware) : Event → Option Json
  | .call (.api amb json _) => savedConfig lib amb fw.files json
  | _ => none

/-- An event that saves a configuration does not lead to a boot. -/
theorem nextBoot_of_saved
    {lib : ArduinoJson} {fw : Firmware} {e : Event} {config : Json}
    (h : saved lib fw e = some config) : nextBoot lib fw e = none := by
  cases e with
  | page amb => rfl
  | powerCycle io => exact absurd h (by simp [saved])
  | call e =>
      cases e with
      | api amb json reboot => exact if_neg (not_restarts_of_savedConfig h)
      | _ => rfl

/-- An event without a boot changes the files if it saves a configuration, and
never the OTA server. -/
theorem step_of_no_boot
    {fw : Firmware} {e : Event} (h : nextBoot lib fw e = none) :
    (step lib decimals fw e).ota = fw.ota ∧
      (step lib decimals fw e).files =
        match saved lib fw e with
        | some config => storeConfig lib config fw.files
        | none => fw.files := by
  cases e with
  | page amb =>
      rw [step_page]
      exact ⟨rfl, rfl⟩
  | powerCycle io => exact absurd h (by simp [nextBoot])
  | call e =>
      cases e with
      | api amb json reboot =>
          have hrestarts : ¬ Restarts lib amb fw.files json := by
            intro hr
            simp [nextBoot, hr] at h
          have hresets : ¬ Resets lib amb fw.files json := fun hr =>
            hrestarts (restarts_of_resets hr)
          have hfiles := apiRoute_files lib amb json fw.server
          simp only [Firmware.server_files, hresets, if_false] at hfiles
          rw [step_api_of_not_restarts lib decimals reboot hrestarts]
          exact ⟨rfl, hfiles⟩
      | _ => exact ⟨rfl, rfl⟩

end Lifecycle
end ByteWaterlevel
