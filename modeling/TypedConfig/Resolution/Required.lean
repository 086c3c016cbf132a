import TypedConfig.Resolution

namespace TypedConfig.Descriptor

mutual

/-- The names of types that have to exist, in the order in which they are asked for. Of an array
it is the innermost element's name. -/
def required : Descriptor → List String
  | ⟨name, []⟩ => [(peel name).2]
  | ⟨name, first :: rest⟩ => name :: (required first ++ requiredRest rest)

/-- The names that further arguments ask for. -/
def requiredRest : List Descriptor → List String
  | [] => []
  | d :: ds => required d ++ requiredRest ds

end

/-- A layer of a validator around its scalar. -/
inductive Layer where
  | elements
  | optional
  deriving DecidableEq, Repr

/-- The layers of a descriptor's validator, the outermost first, and the type of its scalar. Only
one argument is followed, where there is one that a value can show. -/
def outline : Descriptor → List Layer × String
  | ⟨name, []⟩ =>
    let (depth, base) := peel name
    (List.replicate depth .elements, base)
  | ⟨name, first :: rest⟩ =>
    match Shape.ofGeneric name (rest.length + 1) with
    | .collection => (.elements :: (outline first).1, (outline first).2)
    | .optional => (.optional :: (outline first).1, (outline first).2)
    | .supplier | .map => outline first
    | .array | .scalar => ([], name)

end TypedConfig.Descriptor

namespace TypedConfig.Validator

/-- Layers around a validator, the outermost first. -/
def wrap (v : Validator) : List Descriptor.Layer → Validator
  | [] => v
  | .elements :: layers => .collection (v.wrap layers)
  | .optional :: layers => .optional (v.wrap layers)

end TypedConfig.Validator

namespace TypedConfig.Descriptor

/-- A name that ends in brackets is an array's, if anything stands before them. That is the name of
the element type, but for blanks at its end. -/
def ArrayOf (d inner : Descriptor) : Prop :=
  ∃ front : String, front ≠ "" ∧ d = simple (front ++ "[]") ∧
    inner = simple (String.ofList (Text.dropBlankEnd front.toList))

/-- A step inwards, to the part of a descriptor that a value shows, and what it leaves around the
validator of this part. -/
inductive Inward : Descriptor → List Layer → Descriptor → Prop where
  | array {d inner : Descriptor} (named : d.ArrayOf inner) : Inward d [.elements] inner
  | list {d : Descriptor} : Inward ⟨"java.util.List", [d]⟩ [.elements] d
  | set {d : Descriptor} : Inward ⟨"java.util.Set", [d]⟩ [.elements] d
  | optional {d : Descriptor} : Inward ⟨"java.util.Optional", [d]⟩ [.optional] d
  | supplier {d : Descriptor} : Inward ⟨"java.util.function.Supplier", [d]⟩ [] d
  | jakartaProvider {d : Descriptor} : Inward ⟨"jakarta.inject.Provider", [d]⟩ [] d
  | javaxProvider {d : Descriptor} : Inward ⟨"javax.inject.Provider", [d]⟩ [] d
  | map {key value : Descriptor} : Inward ⟨"java.util.Map", [key, value]⟩ [] key

/-- The validator that is kept of a descriptor: one step inwards at a time, and where none is left a
scalar, whose name decides what it is bound to. -/
inductive Followed (bound : String → Option Context) : Descriptor → Validator → Prop where
  | inward {d inner : Descriptor} {layers : List Layer} {v : Validator}
      (step : Inward d layers inner) (kept : Followed bound inner v) :
      Followed bound d (v.wrap layers)
  | scalar {d : Descriptor} (innermost : ∀ layers inner, ¬ Inward d layers inner) :
      Followed bound d (.scalar d.name (bound d.name))

end TypedConfig.Descriptor
