import SourceOutline.Document

/-!
# Listeners of a document

Listeners are told of every change, in the order in which they were added. One listener may be added
several times and is then told as often.
-/

namespace SourceOutline

/-- A document and those who listen to it. -/
structure Feed (α : Type) where
  document : Document
  listeners : List α := []
deriving DecidableEq, Repr

namespace Feed

variable {α : Type} [DecidableEq α]

def addListener (f : Feed α) (listener : α) : Feed α :=
  { f with listeners := f.listeners ++ [listener] }

/-- Removes a listener at its first place. -/
def removeListener (f : Feed α) (listener : α) : Except Fault (Feed α) :=
  if listener ∈ f.listeners then .ok { f with listeners := f.listeners.erase listener }
  else .error .notListening

def replace (f : Feed α) (start stop : Int) (new : List Text) :
    Feed α × Change × List (α × Change) :=
  let (document, change) := f.document.replace start stop new
  ({ f with document }, change, f.listeners.map fun listener => (listener, change))

end Feed

end SourceOutline
