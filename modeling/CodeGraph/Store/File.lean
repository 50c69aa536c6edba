import CodeGraph.Disk
import CodeGraph.Store.Snapshot

/-!
# Snapshots on a disk

A snapshot is written to a file beside its own and renamed, so that the file always
holds a complete snapshot.
-/

namespace CodeGraph.Store

def load (disk : Disk) (path : String) : Except Failure Store :=
  match disk.find? path with
  | none => .error .file
  | some .directory => .error .snapshot
  | some (.file _ content) => Snapshot.load path content

def save (store : Store) (path : String) (disk : Disk) : Except Failure Unit × Disk :=
  let beside := Path.withExtension path "tmp"
  match disk.write beside (Snapshot.save store) with
  | none => (.error .file, disk)
  | some written =>
      match written.rename beside path with
      | none => (.error .file, written)
      | some renamed => (.ok (), renamed)

end CodeGraph.Store
