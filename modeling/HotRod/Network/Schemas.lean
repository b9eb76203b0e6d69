import HotRod.Network.Cache
set_option autoImplicit false

/-!
# Schema files on the server

Schema files are written one by one into the cache that the server keeps for them. The cache is looked
up only when there is a file to write, and the first file that cannot be written ends it.
-/

namespace HotRod.Network

def writeSchemas (handle : CacheHandle) (files : List (String × String)) :
    Action Network ClientError Unit :=
  Action.forEach files fun (name, contents) => do
    let _ ← (handle.put name contents.toUTF8).mapError (ClientError.schemaPush name)
    Action.emit ⟨.debug, "Registered schema on server", [("file", name)]⟩

/-- Write files to the server through a look-up of its caches, and give their number. -/
def pushSchemasVia (lookup : String → Action Network RemoteError (Option CacheHandle))
    (files : List (String × String)) : Action Network ClientError Nat := do
  match files with
  | [] => return 0
  | (first, _) :: _ =>
    match ← (lookup metadataCache).mapError (ClientError.schemaPush first) with
    | none =>
      Action.fail (.schemaPush first (.rejected metadataCache "metadata cache is not available"))
    | some handle =>
      writeSchemas handle files
      Action.emit ⟨.info, "Registered schemas in protobuf metadata cache",
        [("files", Nat.repr files.length)]⟩
      return files.length

/-- Write files to the server of a manager, and give their number. -/
def pushSchemas (id : ManagerId) (files : List (String × String)) : Action Network ClientError Nat :=
  pushSchemasVia (cache id) files

end HotRod.Network
