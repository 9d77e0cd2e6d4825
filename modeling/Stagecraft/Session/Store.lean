import Stagecraft.Files.AtomicWrite
import Stagecraft.Session.Save

/-!
# Save files

Reading saves from files and writing them.
-/

namespace Stagecraft

inductive SessionError where
  | unreadable (fault : ReadFault)
  | refused (refusal : Refusal)
  | unsupported (version : UInt32)
  | unwritten
deriving DecidableEq, Repr

namespace SessionError

def ofReadError : Save.ReadError → SessionError
  | .refused refusal => .refused refusal
  | .unsupported version => .unsupported version

def message (path : String) : SessionError → String
  | .unreadable fault => "read session '" ++ path ++ "': " ++ fault.name
  | .refused refusal => "parse session: " ++ refusal.category
  | .unsupported version => Save.versionMessage version
  | .unwritten => "write session '" ++ path ++ "'"

end SessionError

namespace Save

def load (files : Files) (path : String) : Except SessionError Save := do
  let text ← (files.readText path).mapError .unreadable
  (ofText? text).mapError .ofReadError

def store (save : Save) (files : Files) (path : String) : Files × Bool :=
  files.writeAtomic path save.text

end Save

end Stagecraft
