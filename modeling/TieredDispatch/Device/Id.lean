import TieredDispatch.InputError
import TieredDispatch.Text.Blank
import TieredDispatch.Text.Search

/-!
# Device ids

A device is named by a text such as `CPU` or `GPU.1`; the part before the first dot names its family.

* `DeviceId.parse`: the id that a text from outside names.
* `DeviceId.family`: the family's name.
* `DeviceId.sort`: ids in code-point order.
-/

namespace TieredDispatch

/-- The name of a device, or of a family of devices. -/
structure DeviceId where
  text : String
  deriving DecidableEq, Inhabited

namespace DeviceId

/-- The id that a text names: the trimmed text, which may neither be empty nor hold a comma. -/
def parse (text : String) : Except InputError DeviceId :=
  let id := Text.trim text
  if id.isEmpty || id.toList.contains ',' then .error (.invalidDeviceId id) else .ok ⟨id⟩

/-- The name of the family: what stands before the first dot. -/
def family (d : DeviceId) : String :=
  Text.beforeFirst '.' d.text

def hasPrefix (d : DeviceId) (start : String) : Bool :=
  Text.hasPrefix start d.text

/-- The id of the member of a family that has the given index. -/
def member (family : DeviceId) (index : String) : DeviceId :=
  ⟨family.text ++ "." ++ index⟩

/-- The ids in the order of their texts, equal ones kept. -/
def sort (ds : List DeviceId) : List DeviceId :=
  ds.mergeSort fun a b => decide (a.text ≤ b.text)

end DeviceId

end TieredDispatch
