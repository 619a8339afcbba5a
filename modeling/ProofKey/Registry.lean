import ProofKey.Mapping
import ProofKey.Text.Sorted
import ProofKey.Transform

/-!
# The registry of transforms

A registry maps method ids to transforms. The method `plain` is there from the start, as RFC 7636
requires; registering replaces what an id had and removes nothing. A registration is an instance
of a transform: two instances of equal transforms are told apart by their numbers, so that
registering the very instance that is in place does not count as a replacement.
-/

namespace ProofKey

/-- One instance of a transform. -/
structure Registration where
  transform : Transform
  instanceId : Nat

/-- Transforms by method id, in the order in which the ids first came, and how many instances
there have been. -/
structure Registry where
  slots : Mapping Registration
  instances : Nat

namespace Registry

/-- The built-in `plain` and nothing else. -/
def initial : Registry :=
  ⟨Mapping.empty.insert Transform.plainId ⟨.plain, 0⟩, 1⟩

instance : Inhabited Registry := ⟨initial⟩

/-- A transform as an instance that the registry has not seen. -/
def instantiate (r : Registry) (t : Transform) : Registration := ⟨t, r.instances⟩

/-- Puts an instance under its method id; an id that is there keeps its place. -/
def register (r : Registry) (registration : Registration) : Registry :=
  ⟨r.slots.insert registration.transform.methodId registration,
    max r.instances (registration.instanceId + 1)⟩

def registerEvent (r : Registry) (registration : Registration) : LogEvent :=
  let t := registration.transform
  match r.slots.get? t.methodId with
  | some old =>
      if old.instanceId = registration.instanceId then .registered t.methodId
      else .replaced t.methodId old.transform.shown t.shown
  | none => .registered t.methodId

/-- Registers transforms as new instances, one after the other. -/
def registerAll (r : Registry) (ts : List Transform) : Registry :=
  ts.foldl (fun acc t => acc.register (acc.instantiate t)) r

/-- What registering transforms one after the other logs. -/
def registerAllEvents (r : Registry) : List Transform → List LogEvent
  | [] => []
  | t :: rest =>
      r.registerEvent (r.instantiate t) ::
        (r.register (r.instantiate t)).registerAllEvents rest

/-- The registry of a list of transforms: `plain` first, and then these. -/
def ofTransforms (ts : List Transform) : Report Registry :=
  ⟨.ok (initial.registerAll ts), initial.registerAllEvents ts⟩

/-- The methods of RFC 7636. -/
def standard : Report Registry := ofTransforms [.s256]

/-- The transforms of method ids, all of which must be built in. -/
def builtInTransforms : List Text → Except OAuthError (List Transform)
  | [] => .ok []
  | id :: rest =>
      match Transform.builtIn? id with
      | none =>
          .error (.methodNotBuiltIn id (Text.sorted (Transform.builtIn.map (·.methodId))))
      | some t => (builtInTransforms rest).map (t :: ·)

/-- The registry of the named built-in methods; the first id that is not built in is refused, and
then nothing is registered. -/
def ofMethodIds (ids : List Text) : Report Registry :=
  match builtInTransforms ids with
  | .error error => .refuse error
  | .ok ts => ofTransforms ts

def get? (r : Registry) (methodId : Text) : Option Transform :=
  (r.slots.get? methodId).map (·.transform)

def supports (r : Registry) (methodId : Text) : Bool := r.slots.contains methodId

/-- The transform of a method id that may be missing; without an id there is none. -/
def find? (r : Registry) (methodId : Option Text) : Option Transform := methodId.bind r.get?

/-- Whether there is a method id, and it has a transform. -/
def offers (r : Registry) (methodId : Option Text) : Bool := methodId.any r.supports

/-- The method ids in the order in which they first came. -/
def ids (r : Registry) : List Text := r.slots.keys

def size (r : Registry) : Nat := r.slots.size

def sortedIds (r : Registry) : List Text := Text.sorted r.ids

def shown (r : Registry) : Text := "TransformRegistry(" ++ Text.quotedList r.sortedIds ++ ")"

theorem get?_register (r : Registry) (registration : Registration) (methodId : Text) :
    (r.register registration).get? methodId =
      if registration.transform.methodId = methodId then some registration.transform
      else r.get? methodId := by
  simp only [get?, register, Mapping.get?_insert]
  split <;> rfl

theorem supports_eq_isSome (r : Registry) (methodId : Text) :
    r.supports methodId = (r.get? methodId).isSome := by
  simp [supports, get?, Mapping.contains]

end Registry

end ProofKey
