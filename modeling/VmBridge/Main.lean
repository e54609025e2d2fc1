import VmBridge.Program
/-! The tools on the command line, to try a request before it is made: the settings file is
read, but commands and devices are rehearsed. The name of the executable chooses the tool. -/
namespace VmBridge
open Text (Bytes)

def entriesAt (path : Bytes) : IO (List (Bytes × Files.Node)) := do
  match Text.Utf8.decode? path with
  | none => pure []
  | some name =>
    try
      let content ← IO.FS.readBinFile name
      pure [(path, .file content.toList)]
    catch
      | .inappropriateType .. => pure [(path, .directory)]
      | _ => pure []

def writeBytes (stream : IO.FS.Stream) (bytes : Bytes) : IO Unit := do
  stream.write ⟨bytes.toArray⟩
  stream.flush

def runTool (args : List String) : IO UInt32 := do
  let executable ← IO.appPath
  let tool : CommandLine.Tool :=
    if executable.fileName = some CommandLine.Tool.binding.name then .binding else .verbs
  let logFilter ← IO.getEnv "RUST_LOG"
  let searchPath := ["/usr/bin", "/bin"]
  let p : Program :=
    { tool, logFilter
      argv := (executable.toString :: args).map Text.Utf8.encode
      userland := ⟨.ofFiles [], searchPath⟩ }
  let entries ← (p.settingsPath?.map entriesAt).getD (pure [])
  let f := Program.run { p with userland := ⟨.ofFiles entries, searchPath⟩ }
  writeBytes (← IO.getStdout) f.stdout
  writeBytes (← IO.getStderr) f.stderr
  pure f.status.toUInt32

end VmBridge

def main (args : List String) : IO UInt32 := VmBridge.runTool args
