import Registry.Disk
import Registry.Render

/-!
# Output

A rendering written to a disk. The directory is made, and its files are written, only after the whole
rendering could be made.
-/

namespace Registry

inductive Output where
  | completed (paths : List String)
  /-- The engine declined, and nothing was written. -/
  | aborted (reason : String)
  deriving DecidableEq, Repr

def Loader.renderInto (l : Loader) (project : String) (document : Value) (directory : String)
    (d : Disk) : Except Fault Output × Loader × Disk :=
  match l.render project document with
  | (.error fault, l) => (.error fault, l, d)
  | (.ok (.aborted reason), l) => (.ok (.aborted reason), l, d)
  | (.ok (.files files), l) =>
    match d.writeAll directory files with
    | (some paths, d) => (.ok (.completed paths), l, d)
    | (none, d) => (.error .unwritable, l, d)

end Registry
