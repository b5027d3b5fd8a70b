import Rollout.Cli.Program
import Std.Time.DateTime

/-!
The program on a real machine. It opens no connections: every remote service is
out of its reach, and what runs in memory runs as it does elsewhere.
-/

namespace Rollout.Machine

def attempt {α : Type} (action : IO α) : IO (Except String α) := do
  try return .ok (← action) catch e => return .error (toString e)

/-- The variables of the process, as the kernel lists them. -/
def settings : IO (List (String × String)) := do
  match ← attempt (IO.FS.readFile "/proc/self/environ") with
  | .error _ => return []
  | .ok text =>
    return (Text.splitAll '\x00' text.toList).filterMap fun entry =>
      (Text.splitOnce '=' entry).map fun (name, value) =>
        (String.ofList name, String.ofList value)

def now : IO Time.Instant := do
  let nanos : Int := (← Std.Time.Timestamp.now).toNanosecondsSinceUnixEpoch.val
  return ⟨nanos / Time.Instant.nanosPerSecond, (nanos % Time.Instant.nanosPerSecond).toNat⟩

/-- Something is there if it can be opened. -/
def exists? (path : String) : IO Bool := do
  match ← attempt (IO.FS.Handle.mk path .read) with
  | .ok _ => return true
  | .error _ => return false

def host : IO (Host IO) := do
  let known ← settings
  return {
    environment := fun name => List.lookup name known
    readFile := fun path => attempt (IO.FS.readFile path)
    writeFile := fun path text => attempt (IO.FS.writeFile path text)
    exists? := exists?
    print := fun text => IO.print text
    complain := fun text => IO.eprint text
    report := fun line => IO.eprintln line
    now
    sleep := fun milliseconds => IO.sleep milliseconds.toUInt32
    seed := IO.rand 0 (Numeral.greatest 64)
    http := fun _ => return .unreachable
    cloud := fun _ => return .unreachable
    listen := fun _ => return .error "no network" }

end Rollout.Machine

def main (words : List String) : IO UInt32 := do
  return (← Rollout.Cli.run (← Rollout.Machine.host) words).toUInt32
