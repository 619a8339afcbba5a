import ProofKey.EnvFile
import ProofKey.Environment

/-!
# Variables in environment files

Every value of an environment file may refer to a variable as `$` and its name in braces; behind
the name, `:-` and a text say what stands for a variable that is not set. The process environment
is looked at first, then the bindings further up in the file. `loadInto` adds the bindings of a
file to an environment and never changes what is set there; it fails where a binding is none that
an environment can hold.
-/

namespace ProofKey

namespace EnvFile

/-- A reference to a variable, with the text that stands for it where it is not set. -/
structure Variable where
  name : Text
  fallback : Option Text
  deriving DecidableEq, Repr

def Variable.read? (body : Text) : Option Variable :=
  match body.cut ':' with
  | (name, none) => some ⟨name, none⟩
  | (name, some (c :: fallback)) =>
      if c = CodePoint.ofChar '-' then some ⟨name, some fallback⟩ else none
  | (_, some []) => none

/-- The value of a variable. A binding without a value hides the fallback. -/
def Variable.resolve (env : Environment) (earlier : Mapping (Option Text)) (v : Variable) : Text :=
  match env.get? v.name with
  | some value => value
  | none =>
      match earlier.get? v.name with
      | some value => value.getD []
      | none => v.fallback.getD []

/-- Replaces the references in a text. A `$` and a brace that begin no reference stand for
themselves. -/
def expand (value : Variable → Text) (t : Text) : Text :=
  match t with
  | [] => []
  | c :: rest =>
      match rest with
      | [] => [c]
      | d :: body =>
          if c = CodePoint.ofChar '$' ∧ d = CodePoint.ofChar '\x7b' then
            match _found : (Text.cut '\x7d' body).2, Variable.read? (Text.cut '\x7d' body).1 with
            | some after, some v => value v ++ expand value after
            | _, _ => c :: expand value (d :: body)
          else c :: expand value (d :: body)
termination_by t.length
decreasing_by
  all_goals simp only [List.length_cons]
  · have shorter := Text.length_of_cut _found
    omega
  all_goals omega

/-- The values of the bindings, each with its references replaced; the last binding of a name
counts. -/
def resolve (env : Environment) (bindings : List EnvBinding) : Mapping (Option Text) :=
  bindings.foldl
    (fun earlier b =>
      earlier.insert b.name (b.value.map (expand (Variable.resolve env earlier))))
    Mapping.empty

/-- Sets a variable of a file in an environment that does not have it. -/
def addMissing (env : Environment) (name : Text) : Option Text → Except VariableError Environment
  | some value => if env.contains name then .ok env else env.set name value
  | none => .ok env

/-- The environment with the variables of a file added, in the order of their names in the
file. -/
def loadInto (env : Environment) (file : Text) : Except VariableError Environment :=
  (resolve env (bindings file)).entries.foldlM
    (fun acc entry => addMissing acc entry.1 entry.2) env

end EnvFile

end ProofKey
