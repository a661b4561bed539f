import Blocklist.Engine.Basic
/-!
# Engine — the engine in use

One engine is in use at a time. It is replaced as a whole, and engines can
be put aside under a name.
-/

namespace Blocklist

/-- The engine in use and those put aside. -/
structure Shelf where
  /-- The engine in use. -/
  current : Engine := Engine.empty
  /-- Engines put aside, the latest first. -/
  held : List (String × Engine) := []
  deriving DecidableEq, Repr

namespace Shelf

/-- Puts another engine to use. -/
def replace (s : Shelf) (e : Engine) : Shelf := { s with current := e }

/-- Puts the engine in use aside under a name, in place of any other of that name. -/
def hold (s : Shelf) (name : String) : Shelf := { s with held := (name, s.current) :: s.held }

/-- The engine put aside under a name. -/
def find? (s : Shelf) (name : String) : Option Engine := s.held.lookup name

/-- The engine of this name, or the one in use where no name is given. -/
def select? (s : Shelf) : (name : Option String) → Option Engine
  | none => some s.current
  | some name => s.find? name

@[simp] theorem find?_hold (s : Shelf) (name other : String) :
    (s.hold name).find? other = if other == name then some s.current else s.find? other := by
  rw [find?, find?, hold, List.lookup_cons]
  cases other == name <;> rfl

end Shelf

end Blocklist
