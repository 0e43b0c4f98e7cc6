import ByteWaterlevel.Desk.Settings

/-!
# What was saved is shown

A field holds only what its type allows, and the select has one of its options
chosen.  Both hold for every page of every run (`wellFormed_run`), and so the
settings that a button has saved are shown by every page that loads them, in
all widgets of the group as they were on the page that has saved them.
-/

namespace ByteWaterlevel
namespace Desk

open WebPage Json WebHandler

variable {ι : Type} [DecidableEq ι] (lib : ArduinoJson) (browser : Browser)
  (decimals : ExtRat → ℕ → String)

/-- The fields hold what their types allow, and one of the options is
chosen. -/
structure WellFormed (page : Page) : Prop where
  value : ∀ id, sanitize (inputType id) (page.value id) = page.value id
  mode : page.selectedIndex < modeOptions.length

theorem sanitize_sanitize (type : InputType) (s : String) :
    sanitize type (sanitize type s) = sanitize type s := by
  cases type with
  | number =>
      simp only [sanitize]
      split_ifs with hvalid hempty
      · rfl
      · rfl
      · rfl
  | text => simp [sanitize]
  | password => simp [sanitize]

theorem wellFormed_initialPage : WellFormed initialPage := by
  refine ⟨?_, by decide⟩
  intro id
  simp only [initialPage]
  split_ifs with hport
  · subst hport
    decide
  · cases inputType id <;> decide

theorem wellFormed_setValueSl
    {page : Page} (h : WellFormed page) (mode : Json) :
    WellFormed (setValueSl mode page) := by
  unfold setValueSl
  split
  · next i hi => exact ⟨h.value, (List.findIdx?_eq_some_iff_getElem.mp hi).1⟩
  · exact h

theorem wellFormed_load
    {page : Page} (h : WellFormed page) (value : Option Json)
    (widget : Widget) : WellFormed (widget.load browser value page) := by
  cases widget with
  | value id =>
      refine ⟨?_, h.mode⟩
      intro other
      by_cases hid : other = id
      · subst hid
        simp only [Widget.load, setValue, Function.update_self]
        exact sanitize_sanitize _ _
      · simp only [Widget.load, setValue, Function.update_of_ne hid]
        exact h.value other
  | checked id => exact ⟨h.value, h.mode⟩
  | mode => exact wellFormed_setValueSl h _

/-- Whatever is loaded, and as far as it can be loaded, the page stays
well-formed. -/
theorem wellFormed_loadAll
    {page : Page} (h : WellFormed page) (response : Json)
    (entries : List (Widget × List String)) :
    WellFormed (loadAll browser response entries page) := by
  induction entries generalizing page with
  | nil => exact h
  | cons load rest ih =>
      rw [loadAll]
      split
      · exact ih (wellFormed_load browser h _ load.1)
      · exact h

theorem wellFormed_getInfo
    {page : Page} (h : WellFormed page) (data : Json) :
    WellFormed (getInfo browser data page) := by
  unfold getInfo
  split_ifs
  · have hpage : WellFormed { page with configESP := data.get "config" } :=
      ⟨h.value, h.mode⟩
    exact wellFormed_loadAll browser hpage _ _
  · exact h

/-- All pages are well-formed. -/
def AllWellFormed (s : Desk ι) : Prop := ∀ p, WellFormed (s.pages p)

theorem allWellFormed_update
    {s : Desk ι} (hs : AllWellFormed s) (p : ι) {f : Page → Page}
    (h : WellFormed (f (s.pages p))) : AllWellFormed (update p f s) :=
  Draft.forall_update hs p h

theorem allWellFormed_step
    (s : Desk ι) (e : Event ι) (hs : AllWellFormed s) :
    AllWellFormed (step lib browser decimals s e) := by
  cases e with
  | type p id text =>
      apply allWellFormed_update hs p
      refine ⟨?_, (hs p).mode⟩
      intro other
      by_cases hid : other = id
      · subst hid
        simp only [typed, Function.update_self]
        exact sanitize_sanitize _ _
      · simp only [typed, Function.update_of_ne hid]
        exact (hs p).value other
  | check p id isOn =>
      exact allWellFormed_update hs p ⟨(hs p).value, (hs p).mode⟩
  | choose p i => exact allWellFormed_update hs p ⟨(hs p).value, i.isLt⟩
  | press p button =>
      exact allWellFormed_update hs p ⟨(hs p).value, (hs p).mode⟩
  | device d => exact hs
  | handle i amb reboot =>
      simp only [step]
      split
      · exact hs
      · exact hs
  | ask p amb =>
      simp only [step]
      split_ifs
      · exact hs
      · exact hs
  | deliver i =>
      simp only [step]
      split
      · next p data _ =>
          exact allWellFormed_update hs p
            (wellFormed_getInfo browser (hs p) data)
      · exact hs

theorem allWellFormed_run
    (device : Firmware) (amb : Ambient) (es : List (Event ι)) :
    AllWellFormed (run lib browser decimals (opened browser device amb) es) :=
  Machine.run_invariant (allWellFormed_step lib browser decimals)
    (fun _ => wellFormed_getInfo browser wellFormed_initialPage
      (infoDoc amb (FileHandler.getConfig device.files))) es

/-! ## Widgets after loading -/

/-- A well-formed widget shows a value that it has held. -/
theorem shown_read
    {page : Page} (hpage : WellFormed page) (widget : Widget) (before : Json) :
    widget.shown browser (widget.read page) before = widget.read page := by
  cases widget with
  | value id => simp only [Widget.shown, Widget.read, textOf, hpage.value]
  | checked id => rfl
  | mode =>
      have hoption := List.getElem_mem hpage.mode
      refine if_pos ⟨_, hoption, ?_⟩
      simp [Widget.read, hpage.mode, asCString]

/-- Each setting of the page is saved by a button. -/
theorem loads_saved :
    ∀ load ∈ loads, ∃ button ∈ buttons, (load.2, load.1) ∈ saves button := by
  decide +kernel

theorem read_ne_null (widget : Widget) (page : Page) :
    widget.read page ≠ .null := by
  cases widget <;> simp [Widget.read]

/-- The copy of a page keeps all its settings when a button is pressed. -/
theorem reaches_pressed
    {page : Page} (hpage : Reaches page.configESP) {button : ℕ}
    (hbutton : button ∈ buttons) :
    Reaches (pressed button page).configESP := by
  intro load hload
  obtain ⟨type, htype, hentry⟩ := loads_saved load hload
  by_cases heq : button = type
  · subst heq
    have hvalue := (save_of_reaches hbutton hpage).2 _ hentry
    rw [pressed, hvalue]
    exact read_ne_null load.1 page
  · rw [getPath_pressed_of_ne htype heq hentry page]
    exact hpage load hload

theorem isObject_of_reaches {config : Json} (h : Reaches config) :
    config.isObject = true :=
  isObject_of_getPath (h (.checked "ota", ["ota"]) (by decide +kernel))

/-! ## From one page to another -/

/-- Only a post that the device handles changes its configuration. -/
theorem config_of_no_handle
    {s : Desk ι} {e : Event ι} (he : LeavesConfig lib decimals s e)
    (hhandle : ∀ i amb reboot, e ≠ .handle i amb reboot) :
    (step lib browser decimals s e).device.files.config =
      s.device.files.config := by
  cases e with
  | handle i amb reboot => exact absurd rfl (hhandle i amb reboot)
  | device d => exact he d rfl
  | ask p amb =>
      simp only [step]
      split_ifs <;> rfl
  | deliver i =>
      simp only [step]
      split <;> rfl
  | _ => rfl

/-- Page `p`, whose copy of the configuration has all settings, presses a save
button, the device handles the post, and no other post is handled until page `q`
asks for the configuration.  When the answer arrives, `q` shows in every widget
of the group what `p` showed when the button was pressed, whatever else happened
on the pages and on the wire. -/
theorem shown_after_save
    (device : Firmware) (amb₀ : Ambient)
    (before between quiet after : List (Event ι)) (p q : ι) (button i j : ℕ)
    (payload : Json) (amb amb' : Ambient) (reboot : BootInputs)
    (hbutton : button = 1 ∨ button = 2) :
    let s := run lib browser decimals (opened browser device amb₀) before
    let t := run lib browser decimals s (.press p button :: between)
    let u := run lib browser decimals t (.handle i amb reboot :: quiet)
    let v := run lib browser decimals u (.ask q amb' :: after)
    Reaches (s.pages p).configESP →
    Along lib browser decimals
      (fun s e => LeavesConfig lib decimals s e ∧
        ∀ i amb reboot, e ≠ .handle i amb reboot)
      (step lib browser decimals t (.handle i amb reboot)) quiet →
    (save button (s.pages p)).2 = some payload →
    t.posts[i]? = some payload →
    Authorised amb t.device.files →
    v.answers[j]? = some (q, infoDoc amb' u.device.files.config) →
    ∀ entry ∈ saves button,
      entry.2.read ((step lib browser decimals v (.deliver j)).pages q) =
        entry.2.read (s.pages p) := by
  intro s t u v hreach hquiet hsave hpost hauth hanswer entry hentry
  have hmem : button ∈ buttons := by
    rcases hbutton with rfl | rfl <;> decide
  have hpage : WellFormed (s.pages p) :=
    allWellFormed_run lib browser decimals device amb₀ before p
  have hpressed := reaches_pressed hreach hmem
  rw [eq_savePayload_of_save hsave] at hpost
  have hhandled : (step lib browser decimals t
      (.handle i amb reboot)).device.files.config =
      (pressed button (s.pages p)).configESP := by
    simp only [step, hpost]
    have hconfig := config_savePayload lib decimals t.device amb
      (pressed button (s.pages p)).configESP reboot
    rw [if_pos ⟨hauth, isObject_of_reaches hpressed⟩] at hconfig
    exact hconfig
  have hconfig : u.device.files.config =
      (pressed button (s.pages p)).configESP := by
    rw [← hhandled]
    exact Machine.run_view_along (fun s : Desk ι => s.device.files.config)
      (fun _ _ h => config_of_no_handle lib browser decimals h.1 h.2) hquiet
  have hvalue : getPath entry.1 (pressed button (s.pages p)).configESP =
      entry.2.read (s.pages p) := (save_of_reaches hmem hreach).2 entry hentry
  simp only [step, hanswer, update, Function.update_self]
  rw [hconfig, read_getInfo browser amb' hpressed
    (saves_loaded button hmem entry hentry), hvalue]
  exact shown_read browser hpage entry.2 _

/-- One page raises the upper level and chooses the second mode; another one
shows both after it has asked. -/
theorem shown_after_raised_level :
    ((saves 1).map fun entry =>
        entry.2.read ((run .textless sampleBrowser ExtRat.toFixed
          (opened sampleBrowser deliveredDevice (.plain 0))
          [.type false "maxl" "90", .choose false 2, .press false 1,
            .handle 0 (.plain 1000) (.plain false), .ask true (.plain 2000),
            .deliver 0]).pages true)) =
      (saves 1).map fun entry =>
        entry.2.read ((run .textless sampleBrowser ExtRat.toFixed
          (opened sampleBrowser deliveredDevice (.plain 0))
          [.type false "maxl" "90", .choose false 2]).pages false) := by
  refine List.map_congr_left (shown_after_save .textless sampleBrowser
    ExtRat.toFixed deliveredDevice (.plain 0)
    [.type false "maxl" "90", .choose false 2] [] [] [] false true 1 0 0 _
    (.plain 1000) (.plain 2000) (.plain false) (Or.inl rfl) (by decide +kernel)
    trivial rfl rfl (by decide +kernel) rfl)

end Desk
end ByteWaterlevel
