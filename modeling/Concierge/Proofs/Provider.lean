import Concierge.Proofs.Registry

/-!
# The providers of a registry

A registry is genuine if every provider in it is one of its backend for the model that it is kept
under. A new configuration makes a registry genuine, and nothing that agents do changes that.
-/

namespace Concierge

open Run

variable {σ : Type}

namespace Registry

def Genuine (r : Registry) : Prop :=
  ∀ model p, r.providers.get? model = some p → p.model = model ∧ p.backend = r.backend

theorem genuine_of_empty {r : Registry} (none : r.providers = []) : r.Genuine := by
  intro model p found
  simp [none, Table.get?] at found

theorem genuine_configure (r : Registry) (ds : List Specialist) : (r.configure ds).Genuine :=
  genuine_of_empty rfl

namespace Genuine

variable {r : Registry} (h : r.Genuine)
include h

theorem addProvider (model : String) : (r.addProvider model).2.Genuine := by
  intro other p found
  simp only [Registry.addProvider] at found ⊢
  rw [Table.get?_put] at found
  by_cases same : other = model
  · simp only [same, if_true, Option.some.injEq] at found
    subst found
    exact ⟨same.symm, rfl⟩
  · simp only [same, if_false] at found
    exact h other p found

theorem setTask (role : String) (serial : Nat) (task : String) : (r.setTask role serial task).Genuine := by
  unfold Registry.setTask
  split
  · split <;> exact h
  · exact h

end Genuine

end Registry

theorem World.provider_ok {out : Outside σ} {model : String} {w : World σ} {p : Provider}
    (genuine : w.registry.Genuine) (h : (provider out model w).1 = .ok p) :
    p.model = model ∧ p.backend = w.registry.backend := by
  unfold provider at h
  split at h
  · rename_i found
    cases h
    exact genuine model p found
  · have kept := checkModel_registry out model w
    split at h
    · cases h
    · rename_i w₁ checked
      rw [checked] at kept
      cases h
      exact ⟨rfl, congrArg Registry.backend kept⟩

theorem genuine_deskDrift (out : Outside σ) :
    DeskDrift out fun w w' => w.registry.Genuine → w'.registry.Genuine where
  trans h h' := h' ∘ h
  clock _ _ := id
  outside _ _ _ := id
  facts store chat op _ _ := along_modifyGet fun w h => by
    rw [World.access_registry]
    exact h
  record store chat m _ := along_modifyGet fun w h => by
    rw [World.access_registry]
    exact h
  addProvider _ model h := h.addProvider model
  addAgent _ _ _ _ h := h
  setTask _ role serial task h := h.setTask role serial task
  openStores plan := along_modifyGet fun w h => by
    rw [World.openAll_registry]
    exact h

end Concierge
