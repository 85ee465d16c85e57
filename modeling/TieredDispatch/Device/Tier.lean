import TieredDispatch.Device.Id

/-!
# Tiers

A device competes in one of five tiers. The prefix of its id decides the tier, except that a generic
accelerator is told apart by a marker in its full name.

* `selectionOrder`: the accelerator tiers, best first.
* `TierTable.classify`: what the prefix of an id says.
* `TierTable.splitGeneric`: what the full name of a generic accelerator says.
* `TierTable.tierOf?`: both together.
-/

namespace TieredDispatch

/-- The tier a device competes in. -/
inductive Tier
  /-- General-purpose processors, the last resort. -/
  | processor
  /-- Generic accelerators with the discrete marker in their full name. -/
  | discrete
  /-- The accelerator family ranked just below discrete accelerators. -/
  | familyA
  /-- Generic accelerators with the integrated marker in their full name. -/
  | integrated
  /-- The accelerator family ranked last. -/
  | familyB
  deriving DecidableEq

def Tier.label : Tier → String
  | processor => "processor"
  | discrete => "discrete-accelerator"
  | familyA => "family-a"
  | integrated => "integrated-accelerator"
  | familyB => "family-b"

/-- The accelerator tiers, best first. Processors are never among them. -/
def selectionOrder : List Tier := [.discrete, .familyA, .integrated, .familyB]

/-- What the prefix of an id says about the device. -/
inductive PrefixClass
  | tier (t : Tier)
  /-- The full name decides between the discrete and the integrated tier. -/
  | generic
  deriving DecidableEq

/-- The prefixes and markers that assign devices to tiers. -/
structure TierTable where
  processorPrefix : String
  genericPrefixes : List String
  familyAPrefixes : List String
  familyBPrefixes : List String
  discreteMarker : String
  integratedMarker : String
  deriving DecidableEq

namespace TierTable

/-- The table that is used unless another one is given. -/
def standard : TierTable where
  processorPrefix := "CPU"
  genericPrefixes := ["GPU"]
  familyAPrefixes := ["VPUX"]
  familyBPrefixes := ["MYRIAD"]
  discreteMarker := "dGPU"
  integratedMarker := "iGPU"

instance : Inhabited TierTable := ⟨standard⟩

def withGenericPrefix (t : TierTable) (start : String) : TierTable :=
  { t with genericPrefixes := t.genericPrefixes ++ [start] }

def withFamilyAPrefix (t : TierTable) (start : String) : TierTable :=
  { t with familyAPrefixes := t.familyAPrefixes ++ [start] }

def withFamilyBPrefix (t : TierTable) (start : String) : TierTable :=
  { t with familyBPrefixes := t.familyBPrefixes ++ [start] }

def isProcessor (t : TierTable) (d : DeviceId) : Bool :=
  d.hasPrefix t.processorPrefix

/-- What the prefix of an id says: processors first, then family B, family A and generic ones. -/
def classify (t : TierTable) (d : DeviceId) : Option PrefixClass :=
  if t.isProcessor d then some (.tier .processor)
  else if t.familyBPrefixes.any d.hasPrefix then some (.tier .familyB)
  else if t.familyAPrefixes.any d.hasPrefix then some (.tier .familyA)
  else if t.genericPrefixes.any d.hasPrefix then some .generic
  else none

/-- The tier that a generic accelerator's full name tells; the integrated marker goes first. -/
def splitGeneric (t : TierTable) (fullName : String) : Option Tier :=
  if Text.contains t.integratedMarker fullName then some .integrated
  else if Text.contains t.discreteMarker fullName then some .discrete
  else none

/-- The tier of a device, given how full names are read; `none` leaves the device out. -/
def tierOf? (t : TierTable) (fullName? : DeviceId → Option String) (d : DeviceId) : Option Tier :=
  match t.classify d with
  | some (.tier x) => some x
  | some .generic => (fullName? d).bind t.splitGeneric
  | none => none

end TierTable

end TieredDispatch
