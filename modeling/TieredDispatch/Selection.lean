import TieredDispatch.Catalog
import TieredDispatch.Device.Tier

/-!
# Choosing a device

Devices are split into tiers. Only the first accelerator tier that has a member is looked at, and in
it the first member with the wanted precision is chosen. A model of class FP32 may also run on a
member with FP16. Otherwise the first processor is chosen.

* `Lookup`: how manifests and full names are read, from a catalog or from a table.
* `Selector.partition`: the devices split into tiers.
* `Selector.select`: the device chosen for a precision.
-/

namespace TieredDispatch

/-- How the manifest and the full name of a device are read. -/
structure Lookup where
  manifest : DeviceId → Except DeviceError Manifest
  fullName : DeviceId → Except DeviceError String

/-- Reads from the devices of a catalog. -/
def Catalog.lookup (c : Catalog) : Lookup := ⟨c.manifest, c.fullName⟩

/-- Reads from a table; a device that is not in it is unavailable. -/
def Lookup.ofTable (table : List (DeviceId × Manifest)) : Lookup :=
  let manifest := fun d : DeviceId =>
    match table.lookup d with
    | some m => Except.ok m
    | none => .error (DeviceError.unavailable d)
  ⟨manifest, fun d => (manifest d).map Manifest.fullName⟩

/-- Devices split into tiers. -/
structure Partition where
  processor : List DeviceId
  discrete : List DeviceId
  familyA : List DeviceId
  integrated : List DeviceId
  familyB : List DeviceId
  deriving DecidableEq

namespace Partition

def empty : Partition := ⟨[], [], [], [], []⟩

/-- The devices of one tier. -/
def members (p : Partition) : Tier → List DeviceId
  | .processor => p.processor
  | .discrete => p.discrete
  | .familyA => p.familyA
  | .integrated => p.integrated
  | .familyB => p.familyB

/-- The partition with one more device at the end of a tier. -/
def push (p : Partition) (t : Tier) (d : DeviceId) : Partition :=
  match t with
  | .processor => { p with processor := p.processor ++ [d] }
  | .discrete => { p with discrete := p.discrete ++ [d] }
  | .familyA => { p with familyA := p.familyA ++ [d] }
  | .integrated => { p with integrated := p.integrated ++ [d] }
  | .familyB => { p with familyB := p.familyB ++ [d] }

/-- Whether no tier has a member. -/
def isEmpty (p : Partition) : Bool :=
  (Tier.processor :: selectionOrder).all fun t => (p.members t).isEmpty

/-- The tier in which a device is, processors looked at first. -/
def tierOf? (p : Partition) (d : DeviceId) : Option Tier :=
  (Tier.processor :: selectionOrder).find? fun t => (p.members t).contains d

/-- The members of the first accelerator tier that has any. -/
def candidates (p : Partition) : List DeviceId :=
  ((selectionOrder.map p.members).find? fun ds => !ds.isEmpty).getD []

end Partition

/-- What a choice depends on: the tiers, and how manifests are read. -/
structure Selector where
  tiers : TierTable
  lookup : Lookup

namespace Selector

/-- The tier of a device; a generic accelerator whose full name cannot be read has none. -/
def tierOf? (s : Selector) (d : DeviceId) : Option Tier :=
  s.tiers.tierOf? (fun d => (s.lookup.fullName d).toOption) d

/-- The devices split into tiers, in order; those without a tier are left out. -/
def partition (s : Selector) (devices : List DeviceId) : Partition :=
  devices.foldl (fun p d =>
    match s.tierOf? d with
    | some t => p.push t d
    | none => p) .empty

/-- Whether the manifest of a device can be read and carries the wanted tag, if one is wanted. -/
def supports (s : Selector) (wanted : Option Precision) (d : DeviceId) : Bool :=
  match s.lookup.manifest d with
  | .ok m => wanted.all m.supports
  | .error _ => false

/-- The first accelerator of the best tier that serves the precision. -/
def accelerator? (s : Selector) (p : Partition) (wanted : Option Precision) : Option DeviceId :=
  p.candidates.find? (s.supports wanted)

/-- The device chosen from at least two. -/
def selectFrom (s : Selector) (p : Partition) (wanted : Option Precision) :
    Except SelectError DeviceId :=
  if p.isEmpty then .error (.notFound "No available device found")
  else
    let retry := if wanted = some .fp32 then s.accelerator? p (some .fp16) else none
    match s.accelerator? p wanted <|> retry <|> p.processor.head? with
    | some d => .ok d
    | none => .error .noEligibleDevice

/-- The device that serves a model of the given class, `none` meaning any; the only device of a list
is chosen whatever it is. -/
def select (s : Selector) (devices : List DeviceId) (wanted : Option Precision) :
    Except SelectError DeviceId :=
  match devices with
  | [] => .error (.notFound "No available device to select in AUTO plugin")
  | [only] => .ok only
  | _ => s.selectFrom (s.partition devices) wanted

end Selector

end TieredDispatch
