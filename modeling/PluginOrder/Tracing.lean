import PluginOrder.Ledger

/-!
# Tracers

A tracer is kept under the name that it is asked for by.  The first request for a name makes a
default tracer, numbered in the order of making; another tracer may be put in its place, and
forgetting a tracer means that the next request makes a new one.
-/

namespace PluginOrder

/-- A tracer: one that was made on request, or one that was put in place. -/
inductive Tracer where
  | default (number : Nat)
  | custom (label : String)
  deriving DecidableEq, Repr

/-- The tracers that are kept, and how many were made so far. -/
structure TracerCache where
  kept : Ledger Tracer
  made : Nat

namespace TracerCache

/-- The cache of a process that has asked for no tracer yet. -/
def empty : TracerCache := ⟨∅, 0⟩

/-- The name under which resolutions are traced. -/
def defaultName : String := "tessera_core"

/-- The tracer of a name, made if there is none. -/
def get (c : TracerCache) (name : String) : Tracer × TracerCache :=
  match c.kept.get? name with
  | some tracer => (tracer, c)
  | none => (.default c.made, ⟨c.kept.insert name (.default c.made), c.made + 1⟩)

/-- Puts a tracer in place, or forgets the one of the name. -/
def set (c : TracerCache) (name : String) : Option String → TracerCache
  | some label => { c with kept := c.kept.insert name (.custom label) }
  | none => { c with kept := c.kept.erase name }

/-- Forgets all tracers. -/
def reset (c : TracerCache) : TracerCache := { c with kept := ∅ }

end TracerCache

end PluginOrder
