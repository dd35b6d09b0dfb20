import WebDispatch.Injection.Value
import WebDispatch.Table

namespace WebDispatch

structure Provider (σ : Type) where
  /-- The part of a specifier before the colon. -/
  key : String
  /-- The value for the part after the colon, or null. -/
  get : String → StateM σ (Injected σ)

structure NamedInstances (σ : Type) where
  key : String := "named"
  instances : Table (Item σ) := {}

namespace NamedInstances

variable {σ : Type}

def register (n : NamedInstances σ) (name : String) (item : Item σ) : NamedInstances σ :=
  { n with instances := n.instances.insert name item }

def remove (n : NamedInstances σ) (name : String) : NamedInstances σ :=
  { n with instances := n.instances.erase name }

def contains (n : NamedInstances σ) (name : String) : Bool :=
  n.instances.contains name

def size (n : NamedInstances σ) : Nat :=
  n.instances.size

def get (n : NamedInstances σ) (name : String) : Injected σ :=
  n.instances.get? name

def provider (n : NamedInstances σ) : Provider σ where
  key := n.key
  get name := pure (n.get name)

end NamedInstances

end WebDispatch
