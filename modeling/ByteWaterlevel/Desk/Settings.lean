import ByteWaterlevel.Desk
import ByteWaterlevel.Support.Draft

/-!
# Where a setting comes from

For one setting, the desk is a stored value with a draft at each page, as in
`ByteWaterlevel.Support.Draft`: the button of the setting writes the draft from
the setting's widget and posts it, and the other button posts the draft as it
is.  A button that runs into a missing section may write the draft and posts
nothing.  `view_run` says so for every run.  Hence, however many pages are open
and whatever is lost or overtaken on the way, a setting of the device never has
a value that its own widget did not hold when its own button was pressed, other
than the value it had in the beginning.
-/

namespace ByteWaterlevel
namespace Desk

open WebPage Json WebHandler

variable {ι : Type} [DecidableEq ι] (lib : ArduinoJson) (browser : Browser)
  (decimals : ExtRat → ℕ → String)

/-! ## The assignments of a button -/

theorem saves_apart :
    (saves 1 ++ saves 2).Pairwise fun a b => Apart a.1 b.1 := by
  decide +kernel

theorem saves_apart_of_ne
    {button type : ℕ} (hbutton : button ∈ buttons) (htype : type ∈ buttons)
    (hne : button ≠ type) :
    ∀ a ∈ saves button, ∀ b ∈ saves type, Apart a.1 b.1 := by
  have hacross := (List.pairwise_append.mp saves_apart).2.2
  simp only [buttons, List.mem_cons, List.not_mem_nil, or_false] at hbutton htype
  rcases hbutton with rfl | rfl
  · obtain rfl : type = 2 := by omega
    exact hacross
  · obtain rfl : type = 1 := by omega
    exact fun a ha b hb => (hacross b hb a ha).symm

theorem saves_of_not_mem {button : ℕ} (h : button ∉ buttons) :
    saves button = [] := by
  unfold saves
  split
  · exact absurd (by decide) h
  · exact absurd (by decide) h
  · rfl

/-- A button leaves the settings of the other group alone. -/
theorem getPath_pressed_of_ne
    {button type : ℕ} (htype : type ∈ buttons) (hne : button ≠ type)
    {entry : List String × Widget} (hentry : entry ∈ saves type)
    (page : Page) :
    getPath entry.1 (pressed button page).configESP =
      getPath entry.1 page.configESP := by
  apply getPath_save_of_apart
  intro other hother
  by_cases hbutton : button ∈ buttons
  · exact saves_apart_of_ne hbutton htype hne other hother entry hentry
  · rw [saves_of_not_mem hbutton] at hother
    exact absurd hother List.not_mem_nil

/-- A setting that a button changes has the value of its widget, and the button
is that of its group. -/
theorem getPath_pressed_of_changed
    {button type : ℕ} (htype : type ∈ buttons)
    {entry : List String × Widget} (hentry : entry ∈ saves type)
    {page : Page}
    (hchanged : getPath entry.1 (pressed button page).configESP ≠
      getPath entry.1 page.configESP) :
    button = type ∧
      getPath entry.1 (pressed button page).configESP =
        entry.2.read page := by
  have hbutton : button = type := by
    by_contra hne
    exact hchanged (getPath_pressed_of_ne htype hne hentry page)
  subst hbutton
  have hmem : (entry.1, entry.2.read page) ∈ assignments button page :=
    List.mem_map.mpr ⟨entry, hentry, rfl⟩
  rcases getPath_assignAll_of_mem (j := page.configESP)
      (assignments_pairwise htype page) hmem with hvalue | hsame
  · exact ⟨rfl, hvalue⟩
  · exact absurd hsame hchanged

/-! ## The configuration of the device -/

@[simp] theorem get_savePayload (config : Json) :
    (savePayload config).get "config" = config := rfl

@[simp] theorem get_infoDoc (amb : Ambient) (config : Json) :
    (infoDoc amb config).get "config" = config := rfl

/-- An authorised save of an object replaces the configuration. -/
theorem config_savePayload
    (fw : Firmware) (amb : Ambient) (config : Json) (reboot : BootInputs) :
    (Lifecycle.step lib decimals fw
        (.api amb (savePayload config) reboot)).files.config =
      if Authorised amb fw.files ∧ config.isObject = true then config
      else fw.files.config := by
  have hrestarts : ¬ Restarts lib amb fw.files (savePayload config) := by
    rintro ⟨-, htype | htype⟩
    · exact absurd htype (by decide : "save" ≠ "restart")
    · exact absurd htype (by decide : "save" ≠ "reset")
  have hboot : Lifecycle.nextBoot lib fw
      (.api amb (savePayload config) reboot) = none := if_neg hrestarts
  have hsaved : Lifecycle.saved lib fw (.api amb (savePayload config) reboot) =
      if Authorised amb fw.files ∧ config.isObject = true then some config
      else none := by
    simp only [Lifecycle.saved, savedConfig, get_savePayload]
    refine if_congr ?_ rfl rfl
    constructor
    · exact fun hall => ⟨hall.1.1, hall.2.2⟩
    · exact fun hauth => ⟨⟨hauth.1, rfl⟩, rfl, hauth.2⟩
  rw [(Lifecycle.step_of_no_boot lib decimals hboot).2, hsaved]
  split_ifs <;> rfl

/-! ## The desk as a store of drafts -/

/-- What is under way is what pages and device send. -/
structure Sound (s : Desk ι) : Prop where
  posts : ∀ payload ∈ s.posts, ∃ config, payload = savePayload config
  answers : ∀ answer ∈ s.answers, ∃ amb config, answer.2 = infoDoc amb config

/-- What else happens to the device leaves its configuration alone. -/
def LeavesConfig (s : Desk ι) (e : Event ι) : Prop :=
  ∀ d, e = .device d →
    (Lifecycle.step lib decimals s.device d).files.config =
      s.device.files.config

/-- One setting of the desk. -/
def view (path : List String) (s : Desk ι) : Draft.Store ι Json where
  stored := getPath path s.device.files.config
  draft := fun p => getPath path (s.pages p).configESP
  posts := s.posts.map fun payload => getPath path (payload.get "config")
  answers := s.answers.map fun answer =>
    (answer.1, getPath path (answer.2.get "config"))

open Classical in
/-- The write to the draft of a setting, if the assignments of a button change
the setting. -/
noncomputable def draftWrites
    (entry : List String × Widget) (p : ι) (button : ℕ) (page : Page) :
    List (Draft.Event ι Json) :=
  if getPath entry.1 (pressed button page).configESP =
      getPath entry.1 page.configESP then []
  else [.write p (entry.2.read page)]

/-- What a step is for a setting that is saved from the widget. -/
noncomputable def draftEvents (entry : List String × Widget) (s : Desk ι) :
    Event ι → List (Draft.Event ι Json)
  | .press p button =>
      draftWrites entry p button (s.pages p) ++
        (save button (s.pages p)).2.toList.map fun _ => .post p
  | .handle i amb _ =>
      match s.posts[i]? with
      | some payload =>
          if Authorised amb s.device.files ∧
              (payload.get "config").isObject = true then [.store i]
          else [.refuse i]
      | none => []
  | .ask p amb => if Authorised amb s.device.files then [.ask p] else []
  | .deliver i => [.deliver i]
  | _ => []

/-- What a page posts is its copy after the assignments. -/
theorem eq_savePayload_of_save
    {button : ℕ} {page : Page} {payload : Json}
    (h : (save button page).2 = some payload) :
    payload = savePayload (pressed button page).configESP := by
  simp only [save] at h
  split_ifs at h
  exact (Option.some.inj h).symm

omit [DecidableEq ι] in
theorem sound_opened (device : Firmware) (amb : Ambient) :
    Sound (opened (ι := ι) browser device amb) :=
  ⟨by simp [opened], by simp [opened]⟩

theorem sound_step
    (s : Desk ι) (e : Event ι) (hs : Sound s) :
    Sound (step lib browser decimals s e) := by
  cases e with
  | press p button =>
      refine ⟨?_, hs.answers⟩
      intro payload hpayload
      rcases List.mem_append.mp hpayload with hpayload | hpayload
      · exact hs.posts payload hpayload
      · exact ⟨_, eq_savePayload_of_save (Option.mem_toList.mp hpayload)⟩
  | handle i amb reboot =>
      simp only [step]
      split
      · exact ⟨Draft.forall_eraseIdx hs.posts i, hs.answers⟩
      · exact hs
  | ask p amb =>
      simp only [step]
      split_ifs
      · exact ⟨hs.posts, Draft.forall_concat hs.answers ⟨amb, _, rfl⟩⟩
      · exact hs
  | deliver i =>
      simp only [step]
      split
      · exact ⟨hs.posts, Draft.forall_eraseIdx hs.answers i⟩
      · exact hs
  | _ => exact ⟨hs.posts, hs.answers⟩

/-- A change of one page is a change of one draft. -/
theorem view_update
    (path : List String) (p : ι) (f : Page → Page) (s : Desk ι) :
    view path (update p f s) =
      { view path s with
        draft := Function.update (view path s).draft p
          (getPath path (f (s.pages p)).configESP) } := by
  have hdraft : (fun q => getPath path (update p f s |>.pages q).configESP) =
      Function.update (view path s).draft p
        (getPath path (f (s.pages p)).configESP) :=
    Function.comp_update (fun page : Page => getPath path page.configESP)
      s.pages p (f (s.pages p))
  simp only [view, hdraft]
  rfl

/-- A change of a page that leaves a setting of its copy alone changes no
draft. -/
theorem view_update_of_same
    (path : List String) (p : ι) {f : Page → Page} (s : Desk ι)
    (h : getPath path (f (s.pages p)).configESP =
      getPath path (s.pages p).configESP) :
    view path (update p f s) = view path s := by
  rw [view_update, h]
  exact congrArg (fun draft => { view path s with draft := draft })
    (Function.update_eq_self p (view path s).draft)

/-- The assignments of a button write the draft of the setting, or leave it
alone. -/
theorem view_pressed
    {type : ℕ} (htype : type ∈ buttons) {entry : List String × Widget}
    (hentry : entry ∈ saves type) (s : Desk ι) (p : ι) (button : ℕ) :
    view entry.1 (update p (pressed button) s) =
      Machine.run Draft.step (view entry.1 s)
        (draftWrites entry p button (s.pages p)) := by
  unfold draftWrites
  split_ifs with hsame
  · exact view_update_of_same entry.1 p s hsame
  · rw [view_update, (getPath_pressed_of_changed htype hentry hsame).2]
    rfl

/-- Every step acts on a setting as what it is for the setting. -/
theorem view_step
    {type : ℕ} (htype : type ∈ buttons) {entry : List String × Widget}
    (hentry : entry ∈ saves type) {s : Desk ι} {e : Event ι}
    (hs : Sound s) (he : LeavesConfig lib decimals s e) :
    view entry.1 (step lib browser decimals s e) =
      Machine.run Draft.step (view entry.1 s) (draftEvents entry s e) := by
  cases e with
  | type p id text => exact view_update_of_same entry.1 p s rfl
  | check p id isOn => exact view_update_of_same entry.1 p s rfl
  | choose p i => exact view_update_of_same entry.1 p s rfl
  | device d =>
      simp only [view, step, draftEvents, Machine.run_nil]
      rw [he d rfl]
  | press p button =>
      rw [draftEvents, Machine.run_append,
        ← view_pressed htype hentry s p button]
      cases hsave : (save button (s.pages p)).2 with
      | none => simp [step, hsave, update]
      | some payload =>
          have hpayload := eq_savePayload_of_save hsave
          subst hpayload
          simp [step, hsave, view, Draft.step, update]
  | handle i amb reboot =>
      simp only [step, draftEvents]
      cases hpost : s.posts[i]? with
      | none => rfl
      | some payload =>
          obtain ⟨config, rfl⟩ :=
            hs.posts payload (List.mem_of_getElem? hpost)
          have hfiles := config_savePayload lib decimals s.device amb config
            reboot
          dsimp only
          rw [get_savePayload]
          split_ifs with hstored
          · rw [if_pos hstored] at hfiles
            simp [view, Draft.step, hpost, hfiles, List.eraseIdx_map]
          · rw [if_neg hstored] at hfiles
            simp [view, Draft.step, hfiles, List.eraseIdx_map]
  | ask p amb =>
      simp only [step, draftEvents]
      split_ifs
      · simp [view, Draft.step, FileHandler.getConfig]
      · rfl
  | deliver i =>
      simp only [step, draftEvents, Machine.run_cons, Machine.run_nil]
      cases hanswer : s.answers[i]? with
      | none => simp [Draft.step, view, hanswer]
      | some answer =>
          obtain ⟨p, data⟩ := answer
          obtain ⟨amb, config, hdata⟩ :=
            hs.answers (p, data) (List.mem_of_getElem? hanswer)
          obtain rfl : data = infoDoc amb config := hdata
          have hpages := view_update entry.1 p
            (getInfo browser (infoDoc amb config)) s
          rw [getInfo_configESP] at hpages
          have hstep : ∀ t : Desk ι, view entry.1
              { t with answers := s.answers.eraseIdx i } =
              { view entry.1 t with
                answers := (view entry.1 s).answers.eraseIdx i } := by
            intro t
            simp [view, List.eraseIdx_map]
          rw [hstep, hpages]
          simp [Draft.step, view, hanswer]

theorem along_sound
    {device : Firmware} {amb : Ambient} {es : List (Event ι)}
    (hes : Along lib browser decimals (LeavesConfig lib decimals)
      (opened browser device amb) es) :
    Along lib browser decimals
      (fun s e => Sound s ∧ LeavesConfig lib decimals s e)
      (opened browser device amb) es :=
  Machine.along_of_invariant
    (fun s e hs _ => sound_step lib browser decimals s e hs)
    (sound_opened browser device amb) hes

/-- For each setting the desk is a store of drafts. -/
theorem view_run
    {type : ℕ} (htype : type ∈ buttons) {entry : List String × Widget}
    (hentry : entry ∈ saves type) {device : Firmware} {amb : Ambient}
    {es : List (Event ι)}
    (hes : Along lib browser decimals (LeavesConfig lib decimals)
      (opened browser device amb) es) :
    view entry.1 (run lib browser decimals (opened browser device amb) es) =
      Machine.run Draft.step (view entry.1 (opened browser device amb))
        (Machine.trace (step lib browser decimals)
          (draftEvents entry) (opened browser device amb) es) :=
  Machine.run_projection_along
    (fun _ _ h => view_step lib browser decimals htype hentry h.1 h.2)
    (along_sound lib browser decimals hes)

/-- The value is the one in the beginning, or the one that the widget of some
page held when the button of the setting was pressed there. -/
def Written (type : ℕ) (widget : Widget) (initial : Json) (s : Desk ι)
    (es : List (Event ι)) (value : Json) : Prop :=
  value = initial ∨
    ∃ pre p post, es = pre ++ .press p type :: post ∧
      value = widget.read ((run lib browser decimals s pre).pages p)

/-- The writes to the drafts of a setting are those of its button. -/
theorem written_of_mem_trace
    {type : ℕ} (htype : type ∈ buttons) {entry : List String × Widget}
    (hentry : entry ∈ saves type) (initial : Json) (s : Desk ι)
    (es : List (Event ι)) :
    ∀ x ∈ Machine.trace (step lib browser decimals) (draftEvents entry) s es,
      ∀ p v, x = .write p v →
        Written lib browser decimals type entry.2 initial s es v := by
  apply Machine.forall_mem_trace
  rw [Machine.along_iff_forall_split]
  rintro pre e post hsplit x hx p v rfl
  cases e with
  | press q button =>
      simp only [draftEvents, List.mem_append, List.mem_map] at hx
      rcases hx with hx | ⟨_, -, hx⟩
      · unfold draftWrites at hx
        split_ifs at hx with hsame
        · exact absurd hx List.not_mem_nil
        · obtain ⟨rfl, rfl⟩ : p = q ∧ v = _ := by simpa using hx
          obtain ⟨rfl, -⟩ := getPath_pressed_of_changed htype hentry hsame
          exact Or.inr ⟨pre, p, post, hsplit, rfl⟩
      · exact absurd hx (by simp)
  | handle i amb reboot =>
      simp only [draftEvents] at hx
      split at hx
      · split_ifs at hx <;> exact absurd hx (by simp)
      · exact absurd hx List.not_mem_nil
  | ask q amb =>
      simp only [draftEvents] at hx
      split_ifs at hx <;> exact absurd hx (by simp)
  | deliver i => exact absurd hx (by simp [draftEvents])
  | type q id text => exact absurd hx (by simp [draftEvents])
  | check q id isOn => exact absurd hx (by simp [draftEvents])
  | choose q i => exact absurd hx (by simp [draftEvents])
  | device d => exact absurd hx (by simp [draftEvents])

/-- Let any number of pages edit, save and load the configuration of a device,
with posts and answers lost, delayed or overtaken.  Each setting of the device
has the value it had in the beginning, or the value that its own widget held on
some page when the button that saves it was pressed there. -/
theorem setting_from_own_widget
    (device : Firmware) (amb : Ambient) (es : List (Event ι)) (type : ℕ)
    (entry : List String × Widget)
    (hes : Along lib browser decimals (LeavesConfig lib decimals)
      (opened browser device amb) es)
    (htype : type = 1 ∨ type = 2) (hentry : entry ∈ saves type) :
    let s := run lib browser decimals (opened browser device amb) es
    getPath entry.1 s.device.files.config =
        getPath entry.1 device.files.config ∨
      ∃ pre p post, es = pre ++ .press p type :: post ∧
        getPath entry.1 s.device.files.config =
          entry.2.read ((run lib browser decimals
            (opened browser device amb) pre).pages p) := by
  have hbutton : type ∈ buttons := by
    rcases htype with rfl | rfl <;> decide
  have hview := view_run lib browser decimals hbutton hentry hes
  have hstart : Draft.Within
      (Written lib browser decimals type entry.2
        (getPath entry.1 device.files.config) (opened browser device amb) es)
      (view entry.1 (opened (ι := ι) browser device amb)) := by
    refine ⟨Or.inl rfl, ?_, by simp [view, opened], by simp [view, opened]⟩
    intro p
    left
    simp only [view, opened, loaded_configESP]
    rfl
  have hend := Draft.within_run hstart
    (written_of_mem_trace lib browser decimals hbutton hentry _ _ es)
  rw [← hview] at hend
  exact hend.stored

/-- A device with the delivered configuration. -/
def deliveredDevice : Firmware :=
  { Main.setup .textless (.plain false) FileHandler.emptyState.flash with
    files :=
      { flash := FileHandler.emptyState.flash
        config := deliveredConfig (.str "1") } }

/-- One page raises the upper level and another one switches the LED off; both
save, and the second post overtakes the first. -/
def overtaken : List (Event Bool) :=
  [.type false "maxl" "90", .check true "led" false, .press false 1,
    .press true 2, .handle 1 (.plain 1000) (.plain false),
    .handle 0 (.plain 2000) (.plain false)]

/-- The post that arrives last decides: the level is the one of the first page,
and the LED is on again, as it was in the beginning. -/
theorem setting_from_own_widget_overtaken :
    ((getPath ["hardware", "led"] (run .textless sampleBrowser
        ExtRat.toFixed (opened sampleBrowser deliveredDevice (.plain 0))
        overtaken).device.files.config).asBool = true) ∧
      (getPath ["auto", "max"] (run .textless sampleBrowser
          ExtRat.toFixed (opened sampleBrowser deliveredDevice (.plain 0))
          overtaken).device.files.config =
          getPath ["auto", "max"] deliveredDevice.files.config ∨
        ∃ pre p post, overtaken = pre ++ .press p 1 :: post ∧
          getPath ["auto", "max"] (run .textless sampleBrowser
            ExtRat.toFixed (opened sampleBrowser deliveredDevice (.plain 0))
            overtaken).device.files.config =
            Widget.read ((run .textless sampleBrowser ExtRat.toFixed
              (opened sampleBrowser deliveredDevice (.plain 0)) pre).pages p)
              (.value "maxl")) := by
  refine ⟨by decide +kernel, ?_⟩
  refine setting_from_own_widget .textless sampleBrowser ExtRat.toFixed
    deliveredDevice (.plain 0) overtaken 1 (["auto", "max"], .value "maxl")
    ?_ (Or.inl rfl) (by decide +kernel)
  apply Machine.along_of_forall_mem
  intro s e he d hd
  subst hd
  exact absurd he (by simp [overtaken])

end Desk
end ByteWaterlevel
