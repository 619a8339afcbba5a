import ProofKey.EnvFile.Variable

/-!
# Loaders of environment files

Settings have a loader read an environment file into the process environment, and which loader
does so is a parameter of theirs. `EnvFile.loader` is one that a variable of the process
environment can keep from reading.
-/

namespace ProofKey

/-- Reads the text of an environment file into an environment. -/
abbrev Loader := Environment → Text → Except VariableError Environment

namespace EnvFile

/-- The variable that keeps environment files from being read. -/
def fileSwitch : Text := "PYTHON_DOTENV_DISABLED"

/-- What the switch is set to, in small letters. -/
def switchWords : List Text := ["1", "true", "t", "yes", "y"]

/-- A letter without its case: of the letters outside ASCII only the long s goes to a letter of
ASCII that occurs in a word for yes. -/
def foldCase (c : CodePoint) : CodePoint :=
  if c.value = 0x17F then CodePoint.ofChar 's' else c.toLower

/-- Whether an environment asks that no environment file be read. Blanks around the word count. -/
def ignoresFiles (env : Environment) : Bool :=
  match env.get? fileSwitch with
  | some value => switchWords.contains (value.map foldCase)
  | none => false

def loader : Loader := fun env file => if ignoresFiles env then .ok env else loadInto env file

end EnvFile

end ProofKey
