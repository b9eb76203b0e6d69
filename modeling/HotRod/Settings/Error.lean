import HotRod.Error
import HotRod.Ini.Document
set_option autoImplicit false

/-!
# Errors of settings files
-/

namespace HotRod

/-- Why a text is no settings document. -/
inductive DocumentFault where
  | ini (fault : Ini.Fault)
  | untitledEntries
  deriving DecidableEq, Repr

def DocumentFault.message : DocumentFault → String
  | .ini fault => fault.message
  | .untitledEntries => "keys must appear inside a section"

inductive SettingsError where
  | readFailed (path : String) (fault : FileFault)
  | parse (fault : DocumentFault)
  | invalidValue (title key value : String) (fault : ValueFault)
  | unrecognisedTitle (title : String)
  deriving DecidableEq, Repr

def SettingsError.message : SettingsError → String
  | .readFailed path fault =>
    "failed to read configuration file " ++ path ++ ": " ++ fault.message
  | .parse fault => "failed to parse configuration: " ++ fault.message
  | .invalidValue title key value fault =>
    "invalid value '" ++ value ++ "' for " ++ key ++ " in [" ++ title ++ "]: " ++ fault.message
  | .unrecognisedTitle title => "unrecognised section [" ++ title ++ "]"

end HotRod
