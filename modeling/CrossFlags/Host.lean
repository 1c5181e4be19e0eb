import CrossFlags.Environment
import CrossFlags.Host.Script
import CrossFlags.Text.Pieces
import CrossFlags.Text.Utf8

/-!
# The host

Everything that a run may learn from the machine it runs on: its environment variables, what
stands at a path, and what other programs answer. `Host` is that knowledge as one value, a total
answer to every question, so a run is a function of its arguments and its host. That a question
asked twice has the same answer is part of being a value.

Which file a program's name stands for is not the host's decision: a name with a separator is a
path, any other name is searched in the directories that `PATH` lists. Neither is what a script
is: the program that its first line names is started in its place.
-/

set_option autoImplicit false

namespace CrossFlags

/-- Why the host refuses. -/
inductive Refusal where
  | notFound
  | notDirectory
  | accessDenied
  | unknownFormat
  | nameTooLong
  | tooManyLinks
  | callTooLong
  | zeroOctet
  /-- Anything else, in the host's own words. -/
  | other (words : String)
  deriving DecidableEq

/-- The refusal in words. -/
def Refusal.message : Refusal → String
  | .notFound => "No such file or directory (os error 2)"
  | .notDirectory => "Not a directory (os error 20)"
  | .accessDenied => "Permission denied (os error 13)"
  | .unknownFormat => "Exec format error (os error 8)"
  | .nameTooLong => "File name too long (os error 36)"
  | .tooManyLinks => "Too many levels of symbolic links (os error 40)"
  | .callTooLong => "Argument list too long (os error 7)"
  | .zeroOctet => "nul byte found in provided data"
  | .other words => words

/-- Whether a search for a program may go on where a path has been refused: it may where nothing
that can be run stands at the path. -/
def Refusal.isAbsence : Refusal → Bool
  | .notFound | .notDirectory | .accessDenied => true
  | _ => false

/-- What stands at a path. -/
inductive Node where
  | directory
  | file (content : Octets) (executable : Bool)
  /-- A file that cannot be read, though perhaps it can be run. -/
  | closed (why : Refusal) (content : Octets) (executable : Bool)
  deriving DecidableEq

/-- The most octets in the name of a file. -/
def nameLimit : Nat := 255

/-- The most octets in a path. -/
def pathLimit : Nat := 4095

/-- How another program is called: its arguments, and the variables it sees besides its caller's
own. -/
structure Call where
  args : List String
  environment : List (String × String)
  deriving DecidableEq

namespace Call

/-- The words that are handed over. -/
def words (call : Call) : List String :=
  call.args ++ call.environment.map fun v => v.1 ++ "=" ++ v.2

/-- The most octets in a word that is handed over. -/
def wordLimit : Nat := 131071

/-- A word is too long to be handed over. -/
def isTooLong (call : Call) : Bool :=
  call.words.any fun word => wordLimit < (Utf8.encode word).length

/-- The call of the program that runs a script: its own argument, the script's name, and what the
script is called with. -/
def throughScript (call : Call) (argument? : Option Octets) (path : Octets) : Call :=
  { call with
    args := (argument?.toList ++ [path]).map Utf8.decodeLossy ++ call.args }

end Call

/-- What a program leaves behind when it ends. -/
structure Reply where
  status : UInt8
  stdout : Octets
  stderr : Octets
  deriving DecidableEq

/-- The machine that a run can ask. -/
structure Host where
  environment : Variables
  /-- What stands at a path. -/
  look : Octets → Except Refusal Node
  /-- What a program of this content does when it is called, if this is the content of a
  program. -/
  execute : Octets → Call → Option Reply

/-- The separator of directories in a path. -/
def pathSlash : UInt8 := 0x2F

/-- The separator of directories in a search list. -/
def listColon : UInt8 := 0x3A

/-- A name in a directory. The directory without a name is the working directory. -/
def inDirectory (directory name : Octets) : Octets :=
  match directory.getLast? with
  | none => name
  | some last => directory ++ (if last = pathSlash then [] else [pathSlash]) ++ name

/-- The directories that a search list names, in order. -/
def searchDirectories (list : Octets) : List Octets := Text.pieces (· == listColon) list

namespace Host

/-- Something stands at the path. -/
def exists? (host : Host) (path : Octets) : Bool := (host.look path).isOk

/-- The content of the file at a path, if it may be run. -/
def executableAt (host : Host) (path : Octets) : Except Refusal Octets :=
  match host.look path with
  | .error refusal => .error refusal
  | .ok (.file content true) | .ok (.closed _ content true) => .ok content
  | .ok (.file _ false) | .ok (.closed _ _ false) | .ok .directory => .error .accessDenied

/-- How many scripts may run one another. -/
def scriptLimit : Nat := 6

/-- What is started where the file at a path is called: the program's content, and how the program
itself is called. Of scripts only so many may stand in between. -/
def start (host : Host) : Nat → Octets → Call → Except Refusal (Octets × Call)
  | 0, path, _ => do
    let _ ← host.executableAt path
    .error .tooManyLinks
  | depth + 1, path, call => do
    let content ← host.executableAt path
    match Start.ofContent content with
    | .itself => .ok (content, call)
    | .nameless => .error .unknownFormat
    | .script interpreter argument? =>
      host.start depth interpreter (call.throughScript argument? path)

/-- The first path at which something can be started, or why there is none: a path that may not be
run explains it best, and after that the last path does. -/
def startFirst (host : Host) (call : Call) (why : Refusal) :
    List Octets → Except Refusal (Octets × Call)
  | [] => .error why
  | path :: rest =>
    match host.start scriptLimit path call with
    | .ok started => .ok started
    | .error refusal =>
      if refusal.isAbsence then
        host.startFirst call (if why = .accessDenied then .accessDenied else refusal) rest
      else .error refusal

/-- What is started where a program is called by its name. -/
def startNamed (host : Host) (name : Octets) (call : Call) : Except Refusal (Octets × Call) :=
  if name.contains 0 then .error .zeroOctet
  else if name.isEmpty then .error .notFound
  else if name.contains pathSlash then host.start scriptLimit name call
  else if nameLimit < name.length then .error .nameTooLong
  else
    -- Without a search list there is the one that every system has.
    let list := (host.environment.get? "PATH").getD (Utf8.encode "/bin:/usr/bin")
    let directories := (searchDirectories list).filter fun directory =>
      directory.length ≤ pathLimit
    host.startFirst call .notFound (directories.map fun directory =>
      if directory.isEmpty then name else directory ++ [pathSlash] ++ name)

/-- What a call reaches. Words of a call end at a zero octet, so none may hold one. -/
def reach (host : Host) (name : Octets) (call : Call) : Except Refusal (Octets × Call) :=
  if call.words.any (·.toList.contains '\x00') then .error .zeroOctet
  else do
    let started ← host.startNamed name call
    if call.isTooLong then .error .callTooLong else .ok started

/-- What a program answers. -/
def run (host : Host) (name : Octets) (call : Call) : Except Refusal Reply := do
  let (content, call) ← host.reach name call
  match host.execute content call with
  | some reply => .ok reply
  | none => .error .unknownFormat

end Host
end CrossFlags
