import ByteWaterlevel.Lifecycle

/-!
# Rejected requests are inert

Both routes ask `needAuth` before they do anything else.  A request that is
handled while the configuration asks for authentication, and whose credentials
are wrong, is rejected: it is answered with the challenge and changes nothing.
Since saving a configuration switches authentication on and off, whether a
request is rejected depends on everything that was handled before it.

`Variant` relates a run to those obtained from it by leaving out rejected
requests and by changing their payloads.
-/

namespace ByteWaterlevel
namespace Lifecycle

open WebHandler

/-- What the handler reads from outside, if the event is a request. -/
def Event.request : Event → Option Ambient
  | .call (.api amb _ _) => some amb
  | .page amb => some amb
  | _ => none

/-- The event is a request that `needAuth` rejects in this state. -/
def Rejected (fw : Firmware) (e : Event) : Prop :=
  ∃ amb ∈ e.request, ¬ Authorised amb fw.files

instance (fw : Firmware) (e : Event) : Decidable (Rejected fw e) :=
  inferInstanceAs (Decidable (∃ amb ∈ e.request, _))

variable (lib : ArduinoJson) (decimals : ExtRat → ℕ → String)

/-- The second list of events arises from the first one by deleting requests
that are rejected when they are handled, and by replacing their payloads. -/
inductive Variant : Firmware → List Event → List Event → Prop
  | nil (fw : Firmware) : Variant fw [] []
  | keep {fw : Firmware} (e : Event) {es es' : List Event}
      (h : Variant (step lib decimals fw e) es es') :
      Variant fw (e :: es) (e :: es')
  | delete {fw : Firmware} {e : Event} {es es' : List Event}
      (hrejected : Rejected fw e)
      (h : Variant (step lib decimals fw e) es es') :
      Variant fw (e :: es) es'
  | replace {fw : Firmware} {amb : Ambient} {json : Json}
      {reboot : BootInputs} {es es' : List Event}
      (json' : Json) (reboot' : BootInputs)
      (hrejected : Rejected fw (.api amb json reboot))
      (h : Variant (step lib decimals fw (.api amb json reboot)) es es') :
      Variant fw (.api amb json reboot :: es)
        (.api amb json' reboot' :: es')

/-- What an event that is not rejected does: the state it leads to, and its
answer if it is a request. -/
def effect (fw : Firmware) (e : Event) :
    List (Event × Firmware × Option Answer) :=
  if Rejected fw e then []
  else [(e, step lib decimals fw e, answer lib fw e)]

/-- The effects of a run, in order. -/
def effects (fw : Firmware) (es : List Event) :
    List (Event × Firmware × Option Answer) :=
  Machine.trace (step lib decimals) (effect lib decimals) fw es

/-- A rejected request changes nothing and is answered with the challenge. -/
theorem step_of_rejected
    {fw : Firmware} {e : Event} (h : Rejected fw e) :
    step lib decimals fw e = fw ∧ answer lib fw e = some .challenge := by
  obtain ⟨amb, hrequest, hauth⟩ := h
  have hserver : ¬ Authorised amb fw.server.files := hauth
  cases e with
  | powerCycle io => exact absurd hrequest (by simp [Event.request])
  | page amb' =>
      obtain rfl : amb' = amb := Option.some.inj hrequest
      refine ⟨step_page lib decimals fw amb', ?_⟩
      rw [answer, rootRoute_of_not_authorised hserver]
      rfl
  | call e =>
      cases e with
      | api amb' json reboot =>
          obtain rfl : amb' = amb := Option.some.inj hrequest
          have hroute := apiRoute_of_not_authorised lib json hserver
          constructor
          · have hrestarts : ¬ Restarts lib amb' fw.files json := by
              intro hr
              exact hauth hr.1.1
            rw [step_api_of_not_restarts lib decimals reboot hrestarts, hroute]
            rfl
          · rw [answer, hroute]
            rfl
      | _ => exact absurd hrequest (by simp [Event.request])

theorem effects_cons_of_rejected
    {fw : Firmware} {e : Event} (h : Rejected fw e) (es : List Event) :
    effects lib decimals fw (e :: es) = effects lib decimals fw es := by
  simp only [effects, Machine.trace, effect, if_pos h,
    (step_of_rejected lib decimals h).1, List.nil_append]

/-- A rejected request may be left out in front of any run. -/
theorem run_cons_of_rejected
    {fw : Firmware} {e : Event} (h : Rejected fw e) (es : List Event) :
    run lib decimals fw (e :: es) = run lib decimals fw es := by
  rw [run, Machine.run_cons, (step_of_rejected lib decimals h).1]

theorem run_and_effects_of_variant
    {fw : Firmware} {es es' : List Event}
    (h : Variant lib decimals fw es es') :
    run lib decimals fw es = run lib decimals fw es' ∧
      effects lib decimals fw es = effects lib decimals fw es' := by
  induction h with
  | nil fw => exact ⟨rfl, rfl⟩
  | @keep fw e es es' _ ih =>
      refine ⟨ih.1, ?_⟩
      simp only [effects, Machine.trace]
      exact congrArg _ ih.2
  | @delete fw e es es' hrejected _ ih =>
      rw [(step_of_rejected lib decimals hrejected).1] at ih
      rw [run_cons_of_rejected lib decimals hrejected,
        effects_cons_of_rejected lib decimals hrejected]
      exact ih
  | @replace fw amb json reboot es es' json' reboot' hrejected _ ih =>
      have hrejected' : Rejected fw (.api amb json' reboot') := hrejected
      rw [(step_of_rejected lib decimals hrejected).1] at ih
      rw [run_cons_of_rejected lib decimals hrejected,
        effects_cons_of_rejected lib decimals hrejected,
        run_cons_of_rejected lib decimals hrejected',
        effects_cons_of_rejected lib decimals hrejected']
      exact ih

/-- Deleting rejected requests from a run, or changing their payloads, changes
neither the state that the run ends in, nor any state or answer of the other
events; and every rejected request, in both runs, is answered with the
challenge alone. -/
theorem rejected_requests_inert
    (fw : Firmware) (es es' : List Event)
    (h : Variant lib decimals fw es es') :
    run lib decimals fw es = run lib decimals fw es' ∧
      effects lib decimals fw es = effects lib decimals fw es' ∧
      Along lib decimals
        (fun fw e => Rejected fw e → answer lib fw e = some .challenge)
        fw es ∧
      Along lib decimals
        (fun fw e => Rejected fw e → answer lib fw e = some .challenge)
        fw es' := by
  have hchallenge : ∀ es, Along lib decimals
      (fun fw e => Rejected fw e → answer lib fw e = some .challenge)
      fw es := by
    intro es
    apply Machine.along_of_forall_mem
    intro fw e _ hrejected
    exact (step_of_rejected lib decimals hrejected).2
  obtain ⟨hrun, heffects⟩ := run_and_effects_of_variant lib decimals h
  exact ⟨hrun, heffects, hchallenge es, hchallenge es'⟩

/-- A configuration that asks for authentication. -/
def lockedConfig : Json :=
  .obj [("admin", .obj [("state", .bool true), ("user", .str "admin"),
    ("password", .str "secret")])]

/-- The text of `lockedConfig`. -/
def lockedText : String :=
  "\x7b\"admin\":\x7b\"state\":true,\"user\":\"admin\"," ++
    "\"password\":\"secret\"\x7d\x7d"

/-- A device that has booted with `lockedConfig`. -/
def lockedDevice : Firmware :=
  Main.setup (.reading lockedText lockedConfig) (.plain true)
    (FileHandler.flashWith lockedText)

/-- A request of the given type, with wrong credentials. -/
def requestWithoutCredentials (type : String) : Event :=
  .api (.plain 1000) (.obj [("type", .str type)]) (.plain true)

/-- Without credentials it makes no difference whether a restart or a reset is
asked for. -/
theorem restart_without_credentials_inert :
    run (.reading lockedText lockedConfig) (fun _ _ => "") lockedDevice
        [requestWithoutCredentials "restart", .call (.handleRelais 2000)] =
      run (.reading lockedText lockedConfig) (fun _ _ => "") lockedDevice
        [requestWithoutCredentials "reset", .call (.handleRelais 2000)] := by
  have hrejected : Rejected lockedDevice
      (requestWithoutCredentials "restart") := by
    decide +kernel
  exact (rejected_requests_inert _ _ lockedDevice _ _
    (.replace (.obj [("type", .str "reset")]) (.plain true) hrejected
      (.keep _ (.nil _)))).1

end Lifecycle
end ByteWaterlevel
