import Vitae.Settings
import Vitae.Text.Path
import Vitae.Text.Utf8

/-!
What lies outside a run: files, the web and the environment. A run that looks at it leaves a trace
of what was asked for and what was said.
-/

namespace Vitae

open Text.Utf8 (Bytes)

/-- Why a file cannot be read. -/
inductive FileProblem where
  | missing
  | directory
  | notDirectory
  | nameTooLong
  | denied
  | failed
  deriving DecidableEq, Repr

def FileProblem.text : FileProblem → String
  | .missing => "[Errno 2] No such file or directory"
  | .failed => "[Errno 5] Input/output error"
  | .denied => "[Errno 13] Permission denied"
  | .directory => "[Errno 21] Is a directory"
  | .notDirectory => "[Errno 20] Not a directory"
  | .nameTooLong => "[Errno 36] File name too long"

def FileProblem.message (problem : FileProblem) (path : String) : String :=
  problem.text ++ ": " ++ (Json.string path).quotedText

/-- Why a file cannot be written. -/
inductive Obstacle where
  /-- The directory it belongs in is a file. -/
  | fileInPlace
  | notDirectory
  | directory
  | nameTooLong
  /-- No file can have the name, because it has a null character in it. -/
  | noName
  deriving DecidableEq, Repr

def Obstacle.text : Obstacle → String
  | .fileInPlace => "File exists"
  | .notDirectory => "Not a directory"
  | .directory => "Is a directory"
  | .nameTooLong => "File name too long"
  | .noName => "Null character in name"

/-- The most bytes that the name of one file or directory can have. -/
def pieceLimit : Nat := 255

/-- The most bytes that a name with all of its pieces can have. -/
def pathLimit : Nat := 4095

def isLongPiece (piece : String) : Bool := pieceLimit < (Text.Utf8.encode piece).length

def isLongPath (path : String) : Bool := pathLimit < (Text.Utf8.encode path).length

def hasNull (path : String) : Bool := path.toList.contains '\x00'

/-- What is wrong with a name wherever it leads. -/
def Obstacle.ofName? (path : String) : Option Obstacle :=
  if hasNull path then some .noName
  else if isLongPath path || (Text.pathPieces path).any isLongPiece then some .nameTooLong
  else none

structure Response where
  status : Nat
  reason : String
  body : Bytes
  deriving DecidableEq, Repr

/-- Why a response is no answer, if it is none. -/
def Response.refusal? (r : Response) (url : String) : Option String :=
  let told := fun side => Decimal.natText r.status ++ side ++ r.reason ++ " for url: " ++ url
  if 400 ≤ r.status && r.status < 500 then some (told " Client Error: ")
  else if 500 ≤ r.status && r.status < 600 then some (told " Server Error: ")
  else none

structure World where
  file : String → Except FileProblem Bytes
  obstacle : String → Option Obstacle := fun _ => none
  /-- What comes back for an address, or why nothing does. -/
  reply : String → Except String Response
  environment : Environment := []
  /-- The certificates that this run was told to use; what counts as false names none. -/
  certificates : Json := .null

/-- The certificates a server is verified with. -/
inductive Trust where
  | system
  | bundle (path : Json)
  deriving DecidableEq, Repr

def bundleVariables : List String := ["REQUESTS_CA_BUNDLE", "CURL_CA_BUNDLE", "SSL_CERT_FILE"]

/-- The first that counts as true of the certificates given for the run and those in the
environment. -/
def World.trust (w : World) : Trust :=
  let named := bundleVariables.map fun name => Json.string (w.environment.value name)
  match (w.certificates :: named).find? Json.truthy with
  | some path => .bundle path
  | none => .system

inductive LogLevel where
  | info
  | warning
  | error
  deriving DecidableEq, Repr

def LogLevel.rank : LogLevel → Nat
  | .info => 20
  | .warning => 30
  | .error => 40

def LogLevel.word : LogLevel → String
  | .info => "INFO"
  | .warning => "WARNING"
  | .error => "ERROR"

structure LogRecord where
  level : LogLevel
  text : String
  deriving DecidableEq, Repr

/-- A request that was made. -/
structure Fetch where
  url : String
  trust : Trust
  deriving DecidableEq, Repr

/-- Seconds to wait for an answer. -/
def Fetch.timeout : Nat := 15

structure Trace where
  log : List LogRecord := []
  fetches : List Fetch := []
  deriving DecidableEq, Repr

/-- Work that looks at the world and may fail; its trace is there either way. -/
abbrev Loading (α : Type) := ReaderT World (ExceptT Fault (StateM Trace)) α

namespace Loading

def note (level : LogLevel) (text : String) : Loading Unit :=
  modify fun t => { t with log := t.log ++ [⟨level, text⟩] }

def ofChecked {α : Type} : Checked α → Loading α
  | .ok a => pure a
  | .error fault => throw fault

def run {α : Type} (work : Loading α) (world : World) (trace : Trace := {}) : Checked α × Trace :=
  (work world).run trace

end Loading

end Vitae
