import HotRod.Settings.Document
set_option autoImplicit false

/-!
# Loading settings

Settings are read from the text of an INI document. When it comes from a file, the directory of that
file is where relative paths of cache definitions start.
-/

namespace HotRod.ClientsSettings

def parse {σ : Type} (text resourceDirectory : String) :
    Action σ SettingsError ClientsSettings := do
  let document ← Action.ofExcept ((Ini.Document.read text).mapError (.parse ∘ .ini))
  Action.building (setResourceDirectory resourceDirectory {}) (applyDocument document)

def load {σ : Type} (files : Files) (path : String) : Action σ SettingsError ClientsSettings := do
  let text ← Action.ofExcept ((files.read path).mapError (.readFailed path))
  let settings ← parse text (Path.directoryOf path)
  Action.emit ⟨.debug, "Loaded clients configuration",
    [("path", path), ("clients", Nat.repr settings.names.size)]⟩
  return settings

end HotRod.ClientsSettings
