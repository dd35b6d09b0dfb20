import WebDispatch.Proofs.RegistrationHistory
import WebDispatch.Proofs.Requests
import WebDispatch.Template.Tera.Engine

namespace WebDispatch

open Http

variable {σ : Type}

/-! ### Which code a call runs -/

namespace Registration

end Registration

/-! ### States that no engine tells apart -/

/-- An engine gives the same templates in states that are the same, and stays in such states. -/
structure Engine.Steady (same : σ → σ → Prop) (e : Engine σ) : Prop where
  result : ∀ name a b, same a b → (e.getTemplate name a).1 = (e.getTemplate name b).1
  stays : ∀ name a, same a (e.getTemplate name a).2

theorem MustacheEngine.steady {same : σ → σ → Prop} (h : Equivalence same) (e : MustacheEngine) :
    (e.toEngine : Engine σ).Steady same :=
  ⟨fun _ _ _ _ ↦ rfl, fun _ a ↦ h.refl a⟩

theorem TeraEngine.steady {same : σ → σ → Prop} (h : Equivalence same) (e : TeraEngine) :
    (e.toEngine : Engine σ).Steady same :=
  ⟨fun _ _ _ _ ↦ rfl, fun _ a ↦ h.refl a⟩

section

variable {same : σ → σ → Prop}

variable (heq : Equivalence same)
include heq

namespace Setup

end Setup

end

namespace Registration

def unguarded : Registration (List String) :=
  .route .get "/" ((Options.empty.template "page").rolesAllowed ["admin"])
    { function := fun _ ↦ pure .empty }

end Registration

end WebDispatch
