import ProofKey.EnvFile.Loader
import ProofKey.Registry
import ProofKey.Text.Blank

/-!
# Settings

Two variables set up the server: the list of challenge methods, and whether token requests may
use the query string. They come from the process environment, into which an environment file is
read first; a variable that is set to an empty text is set.
-/

namespace ProofKey

structure Settings where
  methods : List Text := [Transform.plainId, Transform.s256Id]
  allowQueryString : Bool := true
  deriving DecidableEq, Repr

inductive SettingsError where
  /-- The environment file cannot be loaded. -/
  | refused (error : VariableError)
  /-- The variable must be one of the words for true and false. -/
  | notBoolean (name value : Text)
  deriving DecidableEq, Repr

def SettingsError.message : SettingsError → Text
  | refused error => error.message
  | notBoolean name value => name ++ " must be a boolean, got " ++ Text.quoted value

namespace Settings

def methodsVariable : Text := "CODEBIND_PKCE_METHODS"

/-- The variable that says whether the query string may be used. -/
def queryVariable : Text := "CODEBIND_ALLOW_QUERY_STRING"

/-- Words for true, in small letters. -/
def trueWords : List Text := ["1", "true", "yes", "on"]

def falseWords : List Text := ["0", "false", "no", "off"]

/-- Reads a boolean; blanks around it and capital letters do not matter. No letter outside ASCII
has a small letter that occurs in these words, so ASCII letters are all that need be lowered. -/
def parseBool? (value : Text) : Option Bool :=
  let word := (Text.strip value).map CodePoint.toLower
  if word ∈ trueWords then some true
  else if word ∈ falseWords then some false
  else none

/-- The methods of a list with commas; blanks around a method and blank pieces do not count. -/
def parseMethods (value : Text) : List Text :=
  ((List.splitOn (CodePoint.ofChar ',') value).map Text.strip).filter fun id => !id.isEmpty

/-- Reads the settings from an environment that is complete. -/
def ofEnvironment (env : Environment) : Except SettingsError Settings :=
  let settings : Settings :=
    match env.get? methodsVariable with
    | some value => { methods := parseMethods value }
    | none => {}
  match env.get? queryVariable with
  | none => .ok settings
  | some value =>
      match parseBool? value with
      | some allow => .ok { settings with allowQueryString := allow }
      | none => .error (.notBoolean queryVariable value)

/-- The environment with an environment file, if there is one, read into it. -/
def complete (loader : Loader) (env : Environment) (file : Option Text) :
    Except SettingsError Environment :=
  match file with
  | none => .ok env
  | some text => (loader env text).mapError .refused

/-- Reads the settings from the environment and, if there is one, an environment file. -/
def load (loader : Loader) (env : Environment) (file : Option Text) :
    Except SettingsError Settings :=
  (complete loader env file).bind ofEnvironment

def registry (s : Settings) : Report Registry := Registry.ofMethodIds s.methods

end Settings

end ProofKey
