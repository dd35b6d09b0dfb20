import WebDispatch.Exchange
import WebDispatch.Text.Quoted

namespace WebDispatch

abbrev Predicate (σ : Type) := Exchange → StateM σ Bool

abbrev PredicateParser (σ : Type) := String → Except Failure (Predicate σ)

inductive PredicateSource (σ : Type)
  | expression (text : String)
  | compiled (p : Predicate σ)

namespace PredicateSource

variable {σ : Type}

def describe : PredicateSource σ → String
  | expression text => "Expression(" ++ Text.Quoted.encode text ++ ")"
  | compiled _ => "Compiled(..)"

def compile (parser : Option (PredicateParser σ)) : PredicateSource σ → Except Error (Predicate σ)
  | compiled p => .ok p
  | expression text =>
    match parser with
    | none => .error (.invalidPredicate text "no predicate parser registered")
    | some parse =>
      match parse text with
      | .ok p => .ok p
      | .error f => .error (.invalidPredicate text f.message)

end PredicateSource

end WebDispatch
