import LetterToSound.CommandLine.Run

namespace LetterToSound.Main

def cause : IO.Error → FileError
  | .noFileOrDirectory .. => .notFound
  | .inappropriateType .. => .notDirectory
  | .permissionDenied .. => .denied
  | e => .other (toString e).toList

/-- What is there at a path, whether it can be opened or not. What opens and cannot be read is a
directory. -/
def look (path : Path) : IO (Except FileError Content) := do
  match ← (IO.FS.Handle.mk (String.ofList path) .read).toBaseIO with
  | .error e =>
    let place := (← IO.currentDir).join (String.ofList path)
    if ← place.pathExists then return .ok (.closed (cause e)) else return .error (cause e)
  | .ok handle =>
    match ← (handle.readBinToEnd).toBaseIO with
    | .ok bytes => return .ok (.file bytes.toList)
    | .error _ => return .ok .directory

def lookAll (paths : List Path) : IO Files := do
  let found ← paths.mapM fun path => return (path, ← look path)
  return fun path => (found.lookup path).getD (.error .notFound)

/-- The paths that a request asks for, once the settings are known. -/
def paths (settings : MergedSettings) : Request → List Path
  | .transcribe options => (settings.rulesInEffect options.rules).toList ++ options.inputs
  | .check rules => (settings.rulesInEffect rules).toList
  | _ => []

def readsInput : Request → Bool
  | .transcribe options => options.inputs = []
  | _ => false

partial def readAll (stream : IO.FS.Stream) (soFar : ByteArray) : IO ByteArray := do
  let bytes ← stream.read 65536
  if bytes.isEmpty then return soFar else readAll stream (soFar ++ bytes)

def machine (request : Request) : IO Machine := do
  let here := (← IO.currentDir).toString.toList
  let home := ((← IO.getEnv "HOME").getD "/").toList
  let candidates := SettingsFile.candidates home here
  let settings := Machine.settings ⟨← lookAll candidates, here, home, []⟩
  let asked := match settings with
    | .ok settings => paths settings request
    | .error _ => []
  let input ← if readsInput request then readAll (← IO.getStdin) .empty else pure .empty
  return ⟨← lookAll (candidates ++ asked), here, home, input.toList⟩

/-- The machine of a run that asks for no files. -/
def idle : Machine := ⟨fun _ => .error .notFound, [], [], []⟩

end LetterToSound.Main

open LetterToSound in
def main (arguments : List String) : IO UInt32 := do
  let arguments := arguments.map String.toList
  let machine ← match Request.read arguments with
    | .ok request => Main.machine request
    | .error _ => pure Main.idle
  let outcome := machine.run arguments
  IO.print (String.ofList outcome.out)
  IO.eprint (String.ofList outcome.err)
  return .ofNat outcome.code
