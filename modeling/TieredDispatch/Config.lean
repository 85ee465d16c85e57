import TieredDispatch.InputError
import TieredDispatch.TextMap
import TieredDispatch.Text.Blank
import TieredDispatch.Text.Search

/-!
# Settings

A configuration maps keys to values. Keys in the reserved name space are accepted whatever their
value; the only other key is the performance-counter toggle with its two values.

* `Config.merge`: two configurations together, where the second one wins.
* `Config.validate`: refuses a configuration at its least offending key.
* `Config.ofPairs`: reads `KEY=VALUE` texts.
-/

namespace TieredDispatch

/-- Settings: a value for each of some keys. -/
abbrev Config := TextMap String

namespace Config

/-- Every key that starts so is accepted. -/
def reservedPrefix : String := "AUTO_"

def deviceListKey : String := "AUTO_DEVICE_LIST"

def perfCountKey : String := "PERF_COUNT"

/-- The keys that the dispatcher itself reads. -/
def supportedKeys : List String := [deviceListKey, perfCountKey]

/-- The explicit device list, as it was written. -/
def deviceList? (c : Config) : Option String :=
  c.get? deviceListKey

/-- Performance counters are asked for by the presence of the toggle, whatever its value. -/
def perfCount (c : Config) : Bool :=
  c.contains perfCountKey

/-- Both configurations; where they share a key, `overrides` wins. -/
def merge (base overrides : Config) : Config :=
  base.insertAll overrides.entries

/-- Why one setting is refused, if it is. -/
def entryError? (key value : String) : Option InputError :=
  if Text.hasPrefix reservedPrefix key then none
  else if key = perfCountKey then
    if value = "YES" ∨ value = "NO" then none else some (.unsupportedValue key value)
  else some (.unsupportedKey key)

/-- Why a configuration is refused, if it is: the error of its least offending key. -/
def error? (c : Config) : Option InputError :=
  c.entries.findSome? fun (key, value) => entryError? key value

/-- Refuses a configuration that holds a setting which is refused. -/
def validate (c : Config) : Except InputError Unit :=
  match c.error? with
  | some e => .error e
  | none => .ok ()

/-- The setting that a `KEY=VALUE` text gives: both sides of its first `=`, trimmed. -/
def parsePair (pair : String) : Except InputError (String × String) :=
  match Text.cut '=' pair with
  | none => .error (.malformedPair pair)
  | some (key, value) =>
    let key := Text.trim key
    if key.isEmpty then .error (.malformedPair pair) else .ok (key, Text.trim value)

/-- The settings that `KEY=VALUE` texts give, added in order to those of `c`. -/
def addPairs (c : Config) : List String → Except InputError Config
  | [] => .ok c
  | pair :: pairs =>
    match parsePair pair with
    | .error e => .error e
    | .ok (key, value) => addPairs (c.insert key value) pairs

/-- The settings that `KEY=VALUE` texts give; a later one overrides an earlier one. -/
def ofPairs (pairs : List String) : Except InputError Config :=
  addPairs .empty pairs

end Config

end TieredDispatch
