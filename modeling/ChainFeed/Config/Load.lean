import ChainFeed.Config.Variable
import ChainFeed.Toml.Reader

/-!
# Loading settings

Settings come from a TOML file, if the environment names one, and then from the variables. The
certificates are read last, and the result has to be valid.
-/

namespace ChainFeed

/-- The content of a file by its path, or what is said of why it cannot be read. -/
abbrev Files := String → Except String (List UInt8)

inductive LoadError where
  | unreadableFile (path fault : String)
  /-- The file is no TOML document, or not one of settings. -/
  | malformedFile (path : String)
  | invalidVariable (cause : InvalidVariable)
  | unreadableCertificate (path fault : String)
  | invalid (cause : Error)
  deriving DecidableEq

def LoadError.message : LoadError → String
  | unreadableFile path fault => "reading config file " ++ path ++ ": " ++ fault
  | malformedFile path => "parsing config file " ++ path
  | invalidVariable cause => cause.message
  | unreadableCertificate path fault => "reading certificate " ++ path ++ ": " ++ fault
  | invalid cause => cause.message

namespace Settings

def fileVariable : String := "CC_CONFIG_FILE"

def decodeText (bytes : List UInt8) : Except String String :=
  match String.fromUTF8? ⟨bytes.toArray⟩ with
  | some s => .ok s
  | none => .error "stream did not contain valid UTF-8"

def readFile (files : Files) (path : String) : Except LoadError Settings :=
  match files path >>= decodeText with
  | .error fault => .error (.unreadableFile path fault)
  | .ok text =>
    match (Toml.read? text).bind ofValue? with
    | none => .error (.malformedFile path)
    | some s => .ok s

def base (env : Environment) (files : Files) : Except LoadError Settings :=
  match env fileVariable with
  | none => .ok standard
  | some path => readFile files path

/-- Reads the certificates, if there is a file for them. -/
def withCertificates (files : Files) (s : Settings) : Except LoadError Settings :=
  match s.certFile with
  | none => .ok s
  | some path =>
    match files path with
    | .error fault => .error (.unreadableCertificate path fault)
    | .ok bytes => .ok { s with backend.certificates := some bytes }

def validated (s : Settings) : Except LoadError Settings :=
  match s.backend.validate with
  | .ok () => .ok s
  | .error e => .error (.invalid e)

def overridden (env : Environment) (s : Settings) : Except LoadError Settings :=
  match s.applyOverrides env with
  | (s, none) => .ok s
  | (_, some cause) => .error (.invalidVariable cause)

def load (env : Environment) (files : Files) : Except LoadError Settings := do
  let s ← base env files
  let s ← s.overridden env
  let s ← s.withCertificates files
  s.validated

end Settings

end ChainFeed
