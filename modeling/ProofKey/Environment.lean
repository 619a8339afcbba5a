import ProofKey.Mapping

/-!
# Process environments

The variables of a process are texts by name. A process passes each of them on as the bytes of
`NAME=value` with a zero byte behind them. That is why a name is never empty and has no `=`, and
why U+0000 stands in neither a name nor a value.
-/

namespace ProofKey

/-- The variables of a process. -/
abbrev Environment := Mapping Text

/-- Why a process cannot have a variable. -/
inductive VariableError where
  /-- The name or the value holds U+0000. -/
  | zeroByte
  /-- The name holds a `=`. -/
  | equalsSign
  /-- The name is empty. -/
  | noName
  deriving DecidableEq, Repr

def VariableError.message : VariableError → Text
  | zeroByte => "embedded null byte"
  | equalsSign => "illegal environment variable name"
  | noName => "[Errno 22] Invalid argument"

namespace Environment

/-- Says what is wrong with a variable, if anything is. -/
def fault? (name value : Text) : Option VariableError :=
  if name.contains (CodePoint.ofChar '\x00') || value.contains (CodePoint.ofChar '\x00') then
    some .zeroByte
  else if name.contains (CodePoint.ofChar '=') then some .equalsSign
  else if name.isEmpty then some .noName
  else none

def set (env : Environment) (name value : Text) : Except VariableError Environment :=
  match fault? name value with
  | some error => .error error
  | none => .ok (env.insert name value)

/-- The environment that has just these variables. The first that is at fault is complained of. -/
def ofMapping (m : Mapping Text) : Except VariableError Environment :=
  m.entries.foldlM (fun env entry => env.set entry.1 entry.2) Mapping.empty

end Environment

end ProofKey
