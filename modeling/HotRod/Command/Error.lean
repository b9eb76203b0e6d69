import HotRod.Logging
import HotRod.Settings.Error
set_option autoImplicit false

/-!
# Errors of commands
-/

namespace HotRod

inductive CommandError where
  | missingSchemaDirectory (path : String)
  | unknownClient (client : String)
  | settings (error : SettingsError)
  | client (error : ClientError)
  | logging (error : LoggingError)
  | schemaDirectory (fault : FileFault)
  deriving DecidableEq

def CommandError.message : CommandError → String
  | .missingSchemaDirectory path => "schema directory " ++ path ++ " does not exist"
  | .unknownClient name =>
    "unknown client '" ++ name ++
      "'. Use 'hotrod-clients clients' to list configured clients."
  | .settings error => error.message
  | .client error => error.message
  | .logging error => error.message
  | .schemaDirectory fault => "failed to read schema directory: " ++ fault.message

end HotRod
