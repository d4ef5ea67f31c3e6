import PermissionScreen.Proofs.Screen.History
import PermissionScreen.Proofs.Screen.Steps

/-!
When the switch for revoking can be used.

The screen answers its user by the switch that it shows, and that is made at two places: with the
model, and in place when new settings come in. Nevertheless it is always the latest settings that
decide, together with whether groups have come in at all, whatever came first
(`setAutoRevoke_handleAll`).
-/

namespace PermissionScreen

/-- Whether the settings let the user turn revoking on or off. -/
def Hibernation.isSwitchable (hibernation : Hibernation) : Bool :=
  hibernation.enabledGlobal && hibernation.allowUserToggle

/-- There is a switch if revoking is turned on as a whole, and it is enabled if the user may use
it. -/
theorem Hibernation.any_autoRevoke?_enabled (hibernation : Hibernation)
    (allowed : Option Section) (messages : Messages) :
    (hibernation.autoRevoke? allowed messages).any (·.enabled) = hibernation.isSwitchable := by
  unfold autoRevoke? isSwitchable
  cases hibernation.enabledGlobal <;> rfl

/-- Whether the user can turn revoking on or off after a past: there are groups, and the latest
settings allow it. -/
def History.allowsSwitching (past : History) : Bool :=
  (past.latest? Event.newGroups?).isSome &&
    (past.latest? Event.newHibernation?).any Hibernation.isSwitchable

namespace Screen

/-- The switch asks the host exactly if the screen shows one that is enabled. -/
theorem setAutoRevoke_eq (screen : Screen) (enabled : Bool) :
    screen.setAutoRevoke enabled =
      if (screen.model.bind (·.autoRevoke)).any (·.enabled) then
        some (.setAutoRevoke screen.args enabled)
      else none := by
  unfold setAutoRevoke
  cases screen.model.bind (·.autoRevoke) <;> rfl

/-- Whether a screen shows an enabled switch after a past is for the latest of each source to say. -/
theorem any_autoRevoke_after (args : Args) (config : Config) (past : History) :
    ((after args config past).model.bind (·.autoRevoke)).any (·.enabled) =
      past.allowsSwitching := by
  have rendered := past.renderTime?_isSome
  rw [model_after, History.allowsSwitching]
  cases time : past.renderTime? with
  | none =>
    rw [time] at rendered
    rw [← rendered]
    rfl
  | some now =>
    let counted := (keeping args config past).recount now
    have switch : (counted.render now).autoRevoke =
        (past.latest? Event.newHibernation?).bind fun hibernation =>
          hibernation.autoRevoke? ((counted.render now).section? .allowed) config.messages := rfl
    rw [time] at rendered
    rw [← rendered, Option.map_some, Option.bind_some, switch]
    cases past.latest? Event.newHibernation? with
    | none => rfl
    | some hibernation => exact hibernation.any_autoRevoke?_enabled _ _

/-- **The switch.** After any events, turning revoking on or off asks the host for it once if groups
have come in and the latest settings allow it, and otherwise nothing. What it gives is this call and
no other screen: the state stays as it is. -/
theorem setAutoRevoke_handleAll (args : Args) (config : Config) (past : History) (enabled : Bool) :
    (({ args, config } : Screen).handleAll past).1.setAutoRevoke enabled =
      if past.allowsSwitching then some (.setAutoRevoke args enabled) else none := by
  have own := args_handleAll { args, config } past
  rw [setAutoRevoke_eq, own, handleAll_eq_after, any_autoRevoke_after]

end Screen
end PermissionScreen
