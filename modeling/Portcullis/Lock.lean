/-! Locks.

Whoever breaks off while holding a lock for writing leaves it poisoned, and poisoned it stays.
Locking it then gives a warning, and the content all the same. -/
namespace Portcullis

structure Lock (α : Type) where
  content : α
  /-- Somebody broke off while writing. -/
  poisoned : Bool
  deriving DecidableEq, Repr

namespace Lock
variable {α : Type}

def new (content : α) : Lock α := ⟨content, false⟩

/-- Lock for reading or for writing. A poisoned lock gives its content as a warning. -/
def acquire (l : Lock α) : Except α α := if l.poisoned then .error l.content else .ok l.content

/-- The content that locking gave, with a warning or without. -/
def recover : Except α α → α
  | .ok content => content
  | .error content => content

/-- The content of a lock, whoever broke off before. -/
def read (l : Lock α) : α := recover l.acquire

/-- Write and let go. -/
def write (l : Lock α) (content : α) : Lock α := {l with content}

/-- Break off while writing, with nothing written. -/
def poison (l : Lock α) : Lock α := {l with poisoned := true}

/-- A warning is no obstacle. -/
@[simp] theorem read_eq (l : Lock α) : l.read = l.content := by
  rw [read, acquire]
  split <;> rfl

end Lock

end Portcullis
