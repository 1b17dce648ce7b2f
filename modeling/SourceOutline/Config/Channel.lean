import SourceOutline.Config.Settings
import SourceOutline.Event

/-!
# A configuration with subscribers

A channel publishes the settings that several documents share, and knows who derives something from
them. An update normalises the changed settings and then checks them as a whole, before anything
changes; a refused update leaves the channel as it is, and an accepted one tells every subscriber,
unless nothing is different.
-/

namespace SourceOutline

/-- Shared settings and the subscribers to them, each of them once. -/
structure Channel (α : Type) where
  /-- The settings that are published. -/
  settings : Settings
  /-- What they stand for. -/
  config : Config
  subscribers : List α := []

/-- An accepted update: the channel after it, and, if the settings are different, who is to be told. -/
structure Update (α : Type) where
  channel : Channel α
  told : Option (List α)

namespace Channel

def create (α : Type) (settings : Settings) : Except ConfigError (Channel α) :=
  let settings := settings.normalize
  settings.check.map fun config => { settings, config }

variable {α : Type} [DecidableEq α]

def subscribe (c : Channel α) (subscriber : α) : Channel α :=
  if subscriber ∈ c.subscribers then c
  else { c with subscribers := c.subscribers ++ [subscriber] }

def unsubscribe (c : Channel α) (subscriber : α) : Channel α :=
  { c with subscribers := c.subscribers.filter (· ≠ subscriber) }

/-- The names of a change in the order of their characters. -/
def changeNames (changes : List (Text × Value)) : List Text :=
  (changes.map Prod.fst).mergeSort fun a b => !(b < a)

/-- The name under which a channel is addressed itself. -/
def ownName : Text := "self".toList

/-- Changes settings by name, where a null value stands for no change. Settings that pass the check
are the same when they stand for the same. -/
def update (c : Channel α) (changes : List (Text × Value)) : Except ConfigError (Update α) :=
  if changes.any fun change => change.1 == ownName then .error .misaddressed
  else
    match c.settings.override? changes with
    | none => .error (.unknownSettings (changeNames changes))
    | some merged => do
      let settings := merged.normalize
      let config ← settings.check
      if config = c.config then return { channel := c, told := none }
      else return { channel := { c with settings, config }, told := some c.subscribers }

def updateEvents (changes : List (Text × Value)) (update : Update α) : List Event :=
  match update.told with
  | none => []
  | some told => [.configUpdated (changeNames changes) told.length]

end Channel

end SourceOutline
