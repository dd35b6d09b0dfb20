import WebDispatch.Run
import WebDispatch.Template.Data

namespace WebDispatch

structure Template (σ : Type) where
  apply : TemplateData → StateM σ (Outcome String)

structure Engine (σ : Type) where
  name : String
  init : StateM σ (Except Error Unit) := pure (.ok ())
  getTemplate : String → StateM σ (Except Error (Template σ))
  cleanup : StateM σ Unit := pure ()

end WebDispatch
