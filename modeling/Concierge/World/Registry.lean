import Concierge.World.Run

/-!
# Providers and agents from the registry

A provider is created when its model is first asked for, and an agent when its role is. A failure
leaves the registry as it was.
-/

namespace Concierge.World

variable {σ : Type}

def checkModel (out : Outside σ) (model : String) (w : World σ) :
    Except ModelError Unit × World σ :=
  match w.registry.backend with
  | .outside => let (r, o) := out.createModel model w.outside; (r, { w with outside := o })
  | .gemini _ => (Gemini.checkModel model, w)

def provider (out : Outside σ) (model : String) (w : World σ) :
    Except RegistryError Provider × World σ :=
  match w.registry.providers.get? model with
  | some p => (.ok p, w)
  | none =>
    match checkModel out model w with
    | (.error e, w) => (.error (.noClient model e), w)
    | (.ok (), w) =>
      let (p, r) := w.registry.addProvider model
      (.ok p, { w with registry := r })

def registeredAgent (out : Outside σ) (role : String) (w : World σ) :
    Except RegistryError Registered × World σ :=
  match w.registry.agents.get? role with
  | some e => (.ok e, w)
  | none =>
    match w.registry.validate role with
    | .error e => (.error e, w)
    | .ok d =>
      match provider out (w.registry.modelOf d) w with
      | (.error e, w) => (.error e, w)
      | (.ok p, w) =>
        let (e, r) := w.registry.addAgent role (w.registry.agentFor d p)
        (.ok e, { w with registry := r })

end Concierge.World
