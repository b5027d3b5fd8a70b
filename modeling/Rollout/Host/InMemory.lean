import Rollout.Host
import Rollout.Remote.Script
import Rollout.Text.Split

/-!
A host kept in memory: a file tree, remote services with prepared answers, and a
clock that moves only while the program sleeps. No address can be bound.
-/

namespace Rollout

open Time (Instant)

structure MemoryHost where
  /-- Texts by their path from the working directory. -/
  files : Dict String := ∅
  /-- Directories that exist even without a file in them. -/
  directories : List (List String) := [[]]
  script : Remote.Script := {}
  output : String := ""
  complaints : String := ""
  clock : Instant
  deriving Repr

namespace MemoryHost

/-- A path from the working directory as a list of names; none leads out of it. -/
def place? (path : String) : Option (List String) :=
  if path.isEmpty || path.toList.head? = some '/' then none
  else go [] ((Text.splitAll '/' path.toList).map String.ofList)
where
  go (kept : List String) : List String → Option (List String)
    | [] => some kept.reverse
    | "" :: rest => go kept rest
    | "." :: rest => go kept rest
    | ".." :: rest =>
      match kept with
      | [] => none
      | _ :: kept => go kept rest
    | name :: rest => go (name :: kept) rest

def endsInSlash (path : String) : Bool := path.toList.getLast? = some '/'

def joined (names : List String) : String := "/".intercalate names

def put (s : MemoryHost) (path text : String) : MemoryHost :=
  match place? path with
  | some names => { s with files := s.files.insert (joined names) text }
  | none => s

def isDirectory (s : MemoryHost) (names : List String) : Bool :=
  s.directories.contains names || s.files.keys.any fun key =>
    match place? key with
    | some inner => names.length < inner.length && names.isPrefixOf inner
    | none => false

def file? (s : MemoryHost) (path : String) : Option String := do
  let names ← place? path
  if endsInSlash path then none else s.files.get? (joined names)

def exists? (s : MemoryHost) (path : String) : Bool :=
  (s.file? path).isSome || ((place? path).map s.isDirectory).getD false

def missing : String := "No such file or directory (os error 2)"

def directoryInTheWay : String := "Is a directory (os error 21)"

def read (s : MemoryHost) (path : String) : Except String String :=
  match s.file? path with
  | some text => .ok text
  | none => .error (if s.exists? path then directoryInTheWay else missing)

def write (s : MemoryHost) (path text : String) : Except String Unit × MemoryHost :=
  match place? path with
  | none => (.error missing, s)
  | some names =>
    if endsInSlash path || s.isDirectory names then (.error directoryInTheWay, s)
    else if s.isDirectory names.dropLast then (.ok (), s.put path text)
    else (.error missing, s)

def withScript {α : Type} (action : StateM Remote.Script α) : StateM MemoryHost α := fun s =>
  let (answer, script) := action s.script
  (answer, { s with script })

def host (environment : Environment) : Host (StateM MemoryHost) where
  environment
  readFile path := fun s => (s.read path, s)
  writeFile path text := fun s => s.write path text
  exists? path := fun s => (s.exists? path, s)
  print text := fun s => ((), { s with output := s.output ++ text })
  complain text := fun s => ((), { s with complaints := s.complaints ++ text })
  report _ := pure ()
  now := fun s => (s.clock, s)
  sleep milliseconds := fun s => ((), { s with clock := s.clock.addMillis milliseconds })
  seed := pure 0
  http request := withScript (Remote.sendHttp request)
  cloud request := withScript (Remote.sendCloud request)
  listen _ := pure (.error "failed to lookup address information")

end MemoryHost

end Rollout
