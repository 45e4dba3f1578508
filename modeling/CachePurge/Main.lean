import CachePurge.CommandLine
import CachePurge.Dispatch.Script
import CachePurge.Settings.Reading

/-!
# The program

The command line with its surroundings: settings and keys come from the environment, the network is
whatever answers on standard input, one document per line, and notices go to standard error.
-/

namespace CachePurge

/-- The fields that settings have in the environment. -/
def settingNames : List String :=
  ["NAME", "SITE_NAME", "SCHEME", "HOSTNAME", "PORT", "PATH", "ACCOUNT", "APPLICATION",
   "ENVIRONMENT", "PROXY_NAME", "USERNAME", "PASSWORD_KEY", "REQUEST_METHOD", "HEADERS", "BODY",
   "BODY_CONTENT_TYPE", "TAGS_HEADER", "TIMEOUT", "CONNECT_TIMEOUT", "VERIFY", "HTTP_ERRORS",
   "COOLDOWN_TIME", "MAX_REQUESTS", "RUNTIME_MEASUREMENT"]

/-- The variables of the environment with the given names. -/
def readVariables (names : List String) : IO (List (String × String)) :=
  names.filterMapM fun name => do
    return (← IO.getEnv name).map fun value => (name, value)

/-- The text of a settings error. -/
def Settings.Error.message : Settings.Error → String
  | headersNotJson => Settings.headersNotJsonMessage
  | headersTooDeep nesting => Settings.headersTooDeepMessage nesting
  | invalid findings =>
    "invalid settings: " ++ Text.joinWith ", " (findings.map fun f =>
      Text.joinWith "." (f.location.map fun
        | .field name => name
        | .index n => toString n))
  | total fault => fault.message

/-- The lines of a stream until it ends. -/
partial def readLines (stream : IO.FS.Stream) (before : Array String) : IO (Array String) := do
  let line ← stream.getLine
  if line.isEmpty then return before
  readLines stream (before.push line)

/-- The replies on a stream. -/
def readReplies (stream : IO.FS.Stream) : IO (List (Reply Float)) := do
  let lines ← readLines stream #[]
  return lines.toList.filterMap fun line => (Json.read line).toOption.map Reply.ofJson

/-- Carries out what the arguments ask for. -/
def carryOut (o : CommandLine.Options) : IO UInt32 := do
  let found ← readVariables (settingNames.map fun name => "SECTION_PURGER_" ++ name)
  match Settings.read ⟨[], found⟩ with
  | .error e =>
    IO.eprintln e.message
    return 1
  | .ok settings =>
    let key := KeyRing.variableName KeyRing.standardStart settings.passwordKey
    let found ← readVariables [key]
    let keys := KeyRing.environment KeyRing.standardStart
      (found.map fun (name, value) => (name, (value : Text.Loose)))
    let replies ← if o.dryRun then pure [] else readReplies (← IO.getStdin)
    let outcome := o.run settings keys replies
    for notice in notices outcome.events do
      IO.eprintln (notice.severity.name ++ ": " ++ notice.message)
    for line in outcome.output do
      IO.println line
    for line in outcome.errors do
      IO.eprintln line
    return UInt32.ofNat outcome.exitCode

/-- How the program calls itself. -/
def programName : String := "cachepurge"

end CachePurge

/-- Reads the arguments and carries them out. -/
def main (arguments : List String) : IO UInt32 := do
  match CachePurge.CommandLine.parse arguments with
  | .error e =>
    IO.eprintln (e.line CachePurge.programName)
    return UInt32.ofNat CachePurge.CommandLine.usageExitCode
  | .ok .help =>
    IO.print (CachePurge.CommandLine.usage CachePurge.programName)
    return 0
  | .ok (.run o) => CachePurge.carryOut o
