import ByteWaterlevel.Lifecycle
import ByteWaterlevel.Storage.Save
import ByteWaterlevel.WebPage.RoundTrip

/-!
# Several pages and one configuration

Any number of pages that show the configuration of one device.  The widgets of
a page are edited; a save button first writes the widgets of its group into the
page's copy of the configuration and then posts the whole copy, unless a section
is missing in the copy, so that the script throws on the way.  A post reaches
the device later, or never, and posts may overtake each other; `getInfo` is
answered with the configuration of the moment, and the answer reaches the page
later, or never.  The documents that go over the wire are taken as they are.

Everything else that happens to the device may happen in between.
-/

namespace ByteWaterlevel

open WebPage

structure Desk (ι : Type) where
  device : Firmware
  pages : ι → Page
  /-- The payloads of saves that the device has not handled. -/
  posts : List Json
  /-- The answers to `getInfo` that have not arrived. -/
  answers : List (ι × Json)

namespace Desk

variable {ι : Type}

inductive Event (ι : Type) where
  /-- Text is typed into a field. -/
  | type (p : ι) (id text : String)
  | check (p : ι) (id : String) (isOn : Bool)
  /-- An option of the select is chosen. -/
  | choose (p : ι) (i : Fin 3)
  /-- `save(button)`. -/
  | press (p : ι) (button : ℕ)
  /-- The device handles the post at the position. -/
  | handle (i : ℕ) (amb : Ambient) (reboot : BootInputs)
  /-- The device handles a request for the information. -/
  | ask (p : ι) (amb : Ambient)
  /-- The answer at the position arrives. -/
  | deliver (i : ℕ)
  | device (e : Lifecycle.Event)

/-- What a field holds after text has been typed into it. -/
def typed (id text : String) (page : Page) : Page :=
  { page with
    value := Function.update page.value id (sanitize (inputType id) text) }

def checkedBy (id : String) (isOn : Bool) (page : Page) : Page :=
  { page with checked := Function.update page.checked id isOn }

def chosen (i : Fin 3) (page : Page) : Page :=
  { page with selectedIndex := i }

/-- The page after the assignments of `save`. -/
def pressed (button : ℕ) (page : Page) : Page := (save button page).1

variable [DecidableEq ι] (lib : ArduinoJson) (browser : Browser)
  (decimals : ExtRat → ℕ → String)

/-- The page `p` is replaced. -/
def update (p : ι) (f : Page → Page) (s : Desk ι) : Desk ι :=
  { s with pages := Function.update s.pages p (f (s.pages p)) }

def step (s : Desk ι) : Event ι → Desk ι
  | .type p id text => update p (typed id text) s
  | .check p id isOn => update p (checkedBy id isOn) s
  | .choose p i => update p (chosen i) s
  | .press p button =>
      { update p (pressed button) s with
        posts := s.posts ++ (save button (s.pages p)).2.toList }
  | .handle i amb reboot =>
      match s.posts[i]? with
      | some payload =>
          { s with
            device := Lifecycle.step lib decimals s.device
              (.api amb payload reboot)
            posts := s.posts.eraseIdx i }
      | none => s
  | .ask p amb =>
      if WebHandler.Authorised amb s.device.files then
        { s with
          answers := s.answers ++
            [(p, WebHandler.infoDoc amb
              (FileHandler.getConfig s.device.files))] }
      else s
  | .deliver i =>
      match s.answers[i]? with
      | some (p, data) =>
          { update p (getInfo browser data) s with
            answers := s.answers.eraseIdx i }
      | none => s
  | .device e => { s with device := Lifecycle.step lib decimals s.device e }

abbrev run := Machine.run (step (ι := ι) lib browser decimals)

abbrev Along := Machine.Along (step (ι := ι) lib browser decimals)

/-- All pages have just loaded the configuration of the device. -/
def opened (device : Firmware) (amb : Ambient) : Desk ι where
  device := device
  pages := fun _ => loaded browser amb (FileHandler.getConfig device.files)
  posts := []
  answers := []

end Desk
end ByteWaterlevel
