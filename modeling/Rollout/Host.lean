import Rollout.Cloud.Api
import Rollout.Environment
import Rollout.Http.Message

/-!
What the program asks of the machine it runs on. Commands are written for any
host, so the same text runs on a real machine and on one kept in memory.
-/

namespace Rollout

open Time (Instant)

structure Host (m : Type → Type) where
  environment : Environment
  /-- The text of a file, or why it cannot be read. -/
  readFile : String → m (Except String String)
  writeFile : String → String → m (Except String Unit)
  exists? : String → m Bool
  print : String → m Unit
  complain : String → m Unit
  /-- A line of progress. -/
  report : String → m Unit
  now : m Instant
  sleep : Nat → m Unit
  /-- A number that differs from run to run. -/
  seed : m Nat
  http : Http.Request → m Http.Reply
  cloud : Cloud.Request → m Cloud.Reply
  /-- Binds an address and serves on it. -/
  listen : String → m (Except String Unit)

namespace Host

variable {m : Type → Type}

def printLine (host : Host m) (line : String) : m Unit := host.print (line ++ "\n")

def complainLine (host : Host m) (line : String) : m Unit := host.complain (line ++ "\n")

end Host

end Rollout
