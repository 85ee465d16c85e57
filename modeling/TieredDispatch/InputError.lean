import TieredDispatch.Text.Quoted

/-!
# Texts that are not what they should be

* `InputError`: why a setting, a device id or a precision tag given as text was refused.
* `InputError.message`: how the refusal is told.
-/

namespace TieredDispatch

/-- Why a text given from outside was refused. -/
inductive InputError
  /-- The key is neither in the reserved name space nor a known toggle. -/
  | unsupportedKey (key : String)
  /-- A known toggle was given a value outside its two. -/
  | unsupportedValue (key value : String)
  /-- A device id is empty or holds a comma; the text is the trimmed one. -/
  | invalidDeviceId (text : String)
  /-- A precision tag is unknown; the tag is trimmed and in upper case. -/
  | unknownPrecision (tag : String)
  /-- A setting has no `=` or no key before it. -/
  | malformedPair (pair : String)
  deriving DecidableEq

def InputError.message : InputError → String
  | unsupportedKey key => "Unsupported config key: " ++ key
  | unsupportedValue key value => "Unsupported config value: " ++ value ++ " for key: " ++ key
  | invalidDeviceId text => "Invalid device id: " ++ Text.quote text
  | unknownPrecision tag => "Unknown precision tag: " ++ tag
  | malformedPair pair => "Malformed config pair: " ++ pair

end TieredDispatch
