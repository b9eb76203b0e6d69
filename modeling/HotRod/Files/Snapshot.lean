import HotRod.Files.Basic
import HotRod.KeyMap
set_option autoImplicit false

/-!
# Snapshots of files

What was read from a file system at some paths. Paths that were not read count as missing.
-/

namespace HotRod

structure Snapshot where
  texts : KeyMap (Except FileFault String) := ∅
  regular : KeySet := ∅
  directories : KeySet := ∅
  listings : KeyMap (Except FileFault (List DirectoryEntry)) := ∅

namespace Snapshot

def putText (path : String) (text : Except FileFault String) (snapshot : Snapshot) : Snapshot :=
  { snapshot with texts := snapshot.texts.insert path text }

def putRegular (path : String) (snapshot : Snapshot) : Snapshot :=
  { snapshot with regular := snapshot.regular.insert path }

def putDirectory (path : String) (snapshot : Snapshot) : Snapshot :=
  { snapshot with directories := snapshot.directories.insert path }

def putListing (path : String) (entries : Except FileFault (List DirectoryEntry))
    (snapshot : Snapshot) : Snapshot :=
  { snapshot with listings := snapshot.listings.insert path entries }

def view (snapshot : Snapshot) : Files where
  read path := snapshot.texts[path]?.getD (.error .notFound)
  isFile path := snapshot.regular.contains path
  isDirectory path := snapshot.directories.contains path
  list path := snapshot.listings[path]?.getD (.error .notFound)

end Snapshot

end HotRod
