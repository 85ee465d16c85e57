import TieredDispatch.Precision
import TieredDispatch.TextSet

/-!
# Capability manifests

* `Manifest`: what one device says that it can do.
* `Manifest.supports`: whether it carries the tag of a precision class.
* `Manifest.summary`: the manifest in one line.
-/

namespace TieredDispatch

/-- What one device says that it can do. -/
structure Manifest where
  fullName : String
  /-- The capability tags, those of precision classes among them. -/
  capabilities : TextSet
  configKeys : TextSet
  deriving DecidableEq

namespace Manifest

/-- The manifest of a device that says nothing but its name. -/
def named (fullName : String) : Manifest := ⟨fullName, .empty, .empty⟩

def withCapability (m : Manifest) (tag : String) : Manifest :=
  { m with capabilities := m.capabilities.insert tag }

def withPrecision (m : Manifest) (p : Precision) : Manifest :=
  m.withCapability p.tag

def withConfigKey (m : Manifest) (key : String) : Manifest :=
  { m with configKeys := m.configKeys.insert key }

def supports (m : Manifest) (p : Precision) : Bool :=
  decide (p.tag ∈ m.capabilities)

def summary (m : Manifest) : String :=
  m.fullName ++ " | caps [" ++ ",".intercalate m.capabilities.elems ++ "] | " ++
    toString m.configKeys.size ++ " config keys"

end Manifest

end TieredDispatch
