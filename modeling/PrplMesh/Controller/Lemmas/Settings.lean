import PrplMesh.Controller.Impl.Settings
import PrplMesh.Controller.Lemmas.Store

/-!
This module contains the verification of the settings of a client.
-/

namespace PrplMesh.Db.setStaParamsFromMap

open Bpl

def other (acc : Station × MacAddr) : MacAddr × NodeState × Option StationBss × MacAddr :=
  (acc.1.mac, acc.1.state, acc.1.bss, acc.1.initialRadio)

theorem other_foldl_setParam (params : List (Sigma (fun _ : String => String)))
    (acc : Station × MacAddr)
    : other (params.foldl setParam acc) = other acc := by
  induction params generalizing acc with
  | nil => rfl
  | cons param params ih =>
    rw [List.foldl_cons, ih]
    unfold setParam other
    grind

theorem observe_foldl_setParam {γ : Type} (observe : Station × MacAddr → γ) {key : String}
    (g : String → γ) (hself : ∀ acc value, observe (setParam acc ⟨key, value⟩) = g value)
    (hoth : ∀ acc param, param.1 ≠ key → observe (setParam acc param) = observe acc)
    (vals : ValuesMap) (acc : Station × MacAddr)
    : observe (vals.entries.foldl setParam acc)
        =
      ((vals.lookup key).map g).getD (observe acc) :=
  AList.observe_foldl observe g hself hoth vals acc

theorem foldl_setParam (vals : ValuesMap) (client : Station) (radio : MacAddr)
    : vals.entries.foldl setParam (client, radio)
        =
      ({ client with
        parametersLastEdit :=
          ((vals.lookup timestampStr).map
            (fun value => timestampFromSeconds (stoi value))).getD client.parametersLastEdit
        timeLifeDelayMinutes :=
          ((vals.lookup timelifeDelayStr).map stoi).getD client.timeLifeDelayMinutes
        stayOnInitialRadio :=
          ((vals.lookup initialRadioEnableStr).map (fun value => .ofBool (value = "1"))).getD
            client.stayOnInitialRadio
        selectedBands :=
          ((vals.lookup selectedBandsStr).map (fun value => .ofInt (stoi value))).getD
            client.selectedBands
        isUnfriendly :=
          ((vals.lookup isUnfriendlyStr).map
            (fun value => .ofBool (value = boolToString true))).getD client.isUnfriendly
      }, ((vals.lookup initialRadioStr).map macFromString).getD radio) := by
  have hoth := other_foldl_setParam vals.entries (client, radio)
  ext1
  . ext1
    . exact congrArg Prod.fst hoth
    . exact congrArg (fun other => other.2.1) hoth
    . exact congrArg (fun other => other.2.2.1) hoth
    . apply observe_foldl_setParam (·.1.parametersLastEdit) _ (fun _ _ => rfl)
      unfold setParam
      grind
    . apply observe_foldl_setParam (·.1.timeLifeDelayMinutes) _ (fun _ _ => rfl)
      unfold setParam
      grind
    . apply observe_foldl_setParam (·.1.stayOnInitialRadio) _ (fun _ _ => rfl)
      unfold setParam
      grind
    . exact congrArg (fun other => other.2.2.2) hoth
    . apply observe_foldl_setParam (·.1.selectedBands) _ (fun _ _ => rfl)
      unfold setParam
      grind
    . apply observe_foldl_setParam (·.1.isUnfriendly) _ (fun _ _ => rfl)
      unfold setParam
      grind
  . apply observe_foldl_setParam Prod.snd _ (fun _ _ => rfl)
    unfold setParam
    grind

theorem setInitialRadio_of_disconnected {client : Station} (h : client.state = .disconnected)
    (initialRadio : MacAddr)
    : setInitialRadio initialRadio client
        =
      some { client with
        initialRadio :=
          if client.stayOnInitialRadio ≠ .true then zeroMac
          else if initialRadio ≠ zeroMac then initialRadio
          else client.initialRadio
      } := by
  have hconn : client.state ≠ .connected := by simp [h]
  unfold setInitialRadio
  split
  . rfl
  . split
    . rfl
    . rfl

end PrplMesh.Db.setStaParamsFromMap
