import TypedConfig.Proofs.Likeness
import TypedConfig.Proofs.Reliability

/-!
What becomes of a descriptor, told step by step. An array requires what its element type requires,
and every other type its own name and what its arguments require. Its validator follows the element
type, the argument of a list, or the key of a map, and so on down to one scalar.
-/
namespace TypedConfig

namespace Descriptor

/-! ## Names of arrays -/

/-- Passing over blanks at the end is dropping them first. -/
theorem peelBackward_skip (cs : List Char) :
    peelBackward true cs = peelBackward false (cs.dropWhile Text.isBlank) := by
  induction cs with
  | nil => rfl
  | cons c cs ih =>
    by_cases blank : Text.isBlank c = true
    · have passed : peelBackward true (c :: cs) = peelBackward true cs := by
        rw [peelBackward.eq_def]
        simp [blank]
      rw [List.dropWhile_cons_of_pos blank, passed, ih]
    · have visible : Text.isBlank c = false := by simpa using blank
      rw [List.dropWhile_cons_of_neg blank, peelBackward_of_visible visible]

/-- The name of an array is one level above the name of its element. -/
theorem peel_of_element {name inner : String} (element : elementName? name = some inner) :
    peel name = ((peel inner).1 + 1, (peel inner).2) := by
  unfold elementName? at element
  split at element
  · rename_i c rest backward
    cases element
    have inside : (String.ofList (Text.dropBlankEnd (c :: rest).reverse)).toList.reverse =
        (c :: rest).dropWhile Text.isBlank := by
      simp [Text.dropBlankEnd]
    rw [peel, peel, backward, inside, peelBackward_brackets, peelBackward_skip]
  · cases element

theorem peel_of_plain {name : String} (plain : elementName? name = none) :
    peel name = (0, name) := by
  have unpeeled : peelBackward false name.toList.reverse = (0, name.toList.reverse) := by
    unfold elementName? at plain
    split at plain
    · cases plain
    · rename_i other
      cases backward : name.toList.reverse with
      | nil => rfl
      | cons c rest =>
        by_cases bracket : c = ']'
        · subst bracket
          unfold peelBackward
          simp only [Bool.false_and, Bool.false_eq_true, if_false, if_true]
          split
          · rename_i d more
            exact absurd backward (other d more)
          · rfl
        · unfold peelBackward
          simp [bracket]
  rw [peel, unpeeled]
  simp

theorem element?_generic (name : String) (first : Descriptor) (rest : List Descriptor) :
    element? ⟨name, first :: rest⟩ = none := rfl

theorem element?_simple (name : String) :
    element? (simple name) = (elementName? name).map simple := rfl

theorem elementName?_eq_some {name inner : String} : elementName? name = some inner ↔
    ∃ front : String, front ≠ "" ∧ name = front ++ "[]" ∧
      inner = String.ofList (Text.dropBlankEnd front.toList) := by
  constructor
  · intro element
    unfold elementName? at element
    split at element
    · rename_i c rest backward
      cases element
      refine ⟨String.ofList (c :: rest).reverse, by simp, ?_, by simp⟩
      have forward := congrArg List.reverse backward
      rw [List.reverse_reverse] at forward
      apply String.toList_injective
      simp [forward]
    · cases element
  · rintro ⟨front, something, rfl, rfl⟩
    have backward : (front ++ "[]").toList.reverse = ']' :: '[' :: front.toList.reverse := by simp
    cases reversed : front.toList.reverse with
    | nil => simp [something] at reversed
    | cons c rest =>
      have forward : (c :: rest).reverse = front.toList := by rw [← reversed, List.reverse_reverse]
      rw [elementName?, backward, reversed]
      simp only [forward]

theorem arrayOf_iff {d inner : Descriptor} : d.ArrayOf inner ↔ d.element? = some inner := by
  obtain ⟨name, arguments⟩ := d
  cases arguments with
  | nil =>
    have plain : element? ⟨name, []⟩ = (elementName? name).map simple := element?_simple name
    rw [plain, Option.map_eq_some_iff]
    constructor
    · rintro ⟨front, something, ⟨⟩, rfl⟩
      exact ⟨_, elementName?_eq_some.mpr ⟨front, something, rfl, rfl⟩, rfl⟩
    · rintro ⟨base, element, rfl⟩
      obtain ⟨front, something, rfl, rfl⟩ := elementName?_eq_some.mp element
      exact ⟨front, something, rfl, rfl⟩
  | cons first rest =>
    rw [element?_generic]
    constructor
    · rintro ⟨front, something, ⟨⟩, _⟩
    · rintro ⟨⟩

/-! ## Required names -/

theorem requiredRest_eq (ds : List Descriptor) : requiredRest ds = ds.flatMap required := by
  induction ds with
  | nil => rfl
  | cons d ds ih => rw [requiredRest, ih, List.flatMap_cons]

theorem required_array {d inner : Descriptor} (array : d.ArrayOf inner) :
    d.required = inner.required := by
  obtain ⟨front, something, rfl, rfl⟩ := array
  have element := elementName?_eq_some.mpr ⟨front, something, rfl, rfl⟩
  simp only [required, peel_of_element element]

/-- A type that is no array requires its own name first, and then what its arguments require. -/
theorem required_other {d : Descriptor} (other : ∀ inner, ¬ d.ArrayOf inner) :
    d.required = d.name :: d.arguments.flatMap required := by
  obtain ⟨name, arguments⟩ := d
  cases arguments with
  | nil =>
    cases element : elementName? name with
    | some inner =>
      obtain ⟨front, something, rfl, rfl⟩ := elementName?_eq_some.mp element
      exact absurd ⟨front, something, rfl, rfl⟩ (other _)
    | none => simp only [required, peel_of_plain element, List.flatMap_nil]
  | cons first rest =>
    rw [required, requiredRest_eq]
    rfl

/-! ## Steps -/

variable {bound : String → Option Context}

theorem validator_array {d inner : Descriptor} (array : d.ArrayOf inner) :
    d.validator bound = .collection (inner.validator bound) := by
  obtain ⟨front, something, rfl, rfl⟩ := array
  have element := elementName?_eq_some.mpr ⟨front, something, rfl, rfl⟩
  simp only [validator, outline, peel_of_element element, List.replicate_succ]
  rfl

theorem Inward.validator {d inner : Descriptor} {layers : List Layer}
    (step : Inward d layers inner) :
    d.validator bound = (inner.validator bound).wrap layers := by
  cases step with
  | array array => exact validator_array array
  | list | set | optional | supplier | jakartaProvider | javaxProvider | map =>
    rw [validator_generic]
    rfl

/-- Where no step leads inwards, the type is none of those that have a shape of their own. -/
theorem shape_of_innermost {d : Descriptor} (innermost : ∀ layers inner, ¬ Inward d layers inner) :
    Shape.of d = .scalar := by
  have plain : d.isArray = false := by
    cases element : d.element? with
    | none => rw [isArray, element, Option.isSome_none]
    | some inner => exact absurd (.array (arrayOf_iff.mpr element)) (innermost _ _)
  rw [Shape.of, plain]
  match d with
  | ⟨name, []⟩ => rfl
  | ⟨name, [first]⟩ =>
    have list : name ≠ "java.util.List" := by
      rintro rfl
      exact innermost _ _ .list
    have set : name ≠ "java.util.Set" := by
      rintro rfl
      exact innermost _ _ .set
    have optional : name ≠ "java.util.Optional" := by
      rintro rfl
      exact innermost _ _ .optional
    have supplier : name ≠ "java.util.function.Supplier" := by
      rintro rfl
      exact innermost _ _ .supplier
    have jakartaProvider : name ≠ "jakarta.inject.Provider" := by
      rintro rfl
      exact innermost _ _ .jakartaProvider
    have javaxProvider : name ≠ "javax.inject.Provider" := by
      rintro rfl
      exact innermost _ _ .javaxProvider
    simp [Shape.ofGeneric, arity, Shape.collectionNames, Shape.optionalName, Shape.supplierNames,
      list, set, optional, supplier, jakartaProvider, javaxProvider]
  | ⟨name, [key, value]⟩ =>
    have map : name ≠ "java.util.Map" := by
      rintro rfl
      exact innermost _ _ .map
    simp [Shape.ofGeneric, arity, Shape.mapName, map]
  | ⟨name, _ :: _ :: _ :: _⟩ => simp [Shape.ofGeneric, arity]

theorem validator_innermost {d : Descriptor} (innermost : ∀ layers inner, ¬ Inward d layers inner) :
    d.validator bound = .scalar d.name (bound d.name) := by
  have shape := shape_of_innermost innermost
  match d with
  | ⟨name, first :: rest⟩ =>
    have shape : Shape.ofGeneric name (rest.length + 1) = .scalar := shape
    rw [validator_generic, shape]
  | ⟨name, []⟩ =>
    cases element : elementName? name with
    | some inner => simp [Shape.of, isArray, element?_simple, element] at shape
    | none =>
      simp only [validator, outline, peel_of_plain element, List.replicate_zero]
      rfl

theorem Followed.eq_validator {d : Descriptor} {v : Validator} (h : d.Followed bound v) :
    v = d.validator bound := by
  induction h with
  | inward step _ ih => rw [step.validator, ih]
  | scalar innermost => rw [validator_innermost innermost]

/-- Without arguments, a step inwards is one to the element type of an array. -/
theorem Inward.arrayOf {name : String} {inner : Descriptor} {layers : List Layer}
    (step : Inward (simple name) layers inner) : (simple name).ArrayOf inner := by
  cases step with
  | array array => exact array

/-- A name can be followed through all of its brackets. -/
theorem followed_simple (name : String) :
    Followed bound (simple name) ((simple name).validator bound) := by
  generalize height : (peel name).1 = depth
  induction depth generalizing name with
  | zero =>
    have innermost : ∀ layers inner, ¬ Inward (simple name) layers inner := by
      intro layers inner step
      obtain ⟨front, something, ⟨⟩, rfl⟩ := step.arrayOf
      rw [peel_of_element (elementName?_eq_some.mpr ⟨front, something, rfl, rfl⟩)] at height
      cases height
    rw [validator_innermost innermost]
    exact .scalar innermost
  | succ depth ih =>
    cases element : elementName? name with
    | some inner =>
      have array : (simple name).ArrayOf (simple inner) := by
        rw [arrayOf_iff, element?_simple, element, Option.map_some]
      rw [peel_of_element element, Nat.add_right_cancel_iff] at height
      rw [validator_array array]
      exact .inward (.array array) (ih inner height)
    | none =>
      rw [peel_of_plain element] at height
      cases height

/-- With arguments, a step inwards is one to the first of them. -/
theorem Inward.eq_first {name : String} {first inner : Descriptor} {rest : List Descriptor}
    {layers : List Layer} (step : Inward ⟨name, first :: rest⟩ layers inner) : inner = first := by
  cases step with
  | array array =>
    obtain ⟨front, _, ⟨⟩, _⟩ := array
  | list | set | optional | supplier | jakartaProvider | javaxProvider | map => rfl

/-- Every descriptor can be followed, and it leads to its validator. -/
theorem followed_validator (d : Descriptor) : Followed bound d (d.validator bound) := by
  obtain ⟨name, arguments⟩ := d
  cases arguments with
  | nil => exact followed_simple name
  | cons first rest =>
    have kept := followed_validator first
    by_cases more : ∃ layers inner, Inward ⟨name, first :: rest⟩ layers inner
    · obtain ⟨layers, inner, step⟩ := more
      rw [step.validator]
      obtain rfl := step.eq_first
      exact .inward step kept
    · have innermost : ∀ layers inner, ¬ Inward ⟨name, first :: rest⟩ layers inner :=
        fun layers inner step => more ⟨layers, inner, step⟩
      rw [validator_innermost innermost]
      exact .scalar innermost

theorem followed_iff {d : Descriptor} {v : Validator} :
    d.Followed bound v ↔ v = d.validator bound := by
  constructor
  · intro followed
    exact followed.eq_validator
  · rintro rfl
    exact followed_validator d

end Descriptor

/-! ## Outcomes -/

namespace Resolution

variable {α : Type} {known : String → Bool}

theorem missing?_eq_none {names : List String} :
    missing? known names = none ↔ ∀ name ∈ names, isType known name = true := by
  simp [missing?, List.find?_eq_none]

theorem missing?_eq_some {names : List String} {name : String} :
    missing? known names = some name ↔ ∃ before after, names = before ++ name :: after ∧
      (∀ other ∈ before, isType known other = true) ∧ isType known name = false := by
  rw [missing?, List.find?_eq_some_iff_append]
  constructor
  · rintro ⟨missing, before, after, split, there⟩
    refine ⟨before, after, split, ?_, by simpa using missing⟩
    intro other member
    simpa using there other member
  · rintro ⟨before, after, split, there, missing⟩
    refine ⟨by simpa using missing, before, after, split, ?_⟩
    intro other member
    simpa using there other member

/-- The first missing type is to blame for every failure. -/
theorem outcome_eq_error {names : List String} {result : α} {failure : Failure} :
    outcome known names result = .error failure ↔ ∃ name,
      missing? known names = some name ∧ failure = .unknownType name := by
  cases missing : missing? known names <;> simp [outcome, missing, eq_comm]

theorem isType_iff {name : String} : isType known name = true ↔
    name ∈ ["boolean", "byte", "short", "int", "long", "float", "double", "char"] ∨
      known name = true := by
  simp [isType, primitives]

/-- **A descriptor resolves just when every type that it requires is there; otherwise the first one
that is missing is to blame.** An array requires what its element type requires, another type its
own name and then what its arguments require. The validator follows the element type of an array,
the argument of a list, of a set and of a wrapper, and the key of a map, down to a scalar, which is
bound if there is a context that converts to its type. -/
theorem resolves_when_types_exist (project : Project) (known : String → Bool)
    (knows : project.Knows known) (context : Option Context) (handled : String → Bool)
    (handles : ∀ c ∈ context, c.Handles handled) (d : Descriptor) (history : History) :
    let result := ((resolve project context d).run history).1
    let isThere (name : String) :=
      name ∈ ["boolean", "byte", "short", "int", "long", "float", "double", "char"] ∨
        known name = true
    (∀ e : Descriptor,
        (∀ inner, e.ArrayOf inner → e.required = inner.required) ∧
        ((∀ inner, ¬ e.ArrayOf inner) →
          e.required = e.name :: e.arguments.flatMap Descriptor.required)) ∧
      ((∃ v, result = .ok v) ↔ ∀ name ∈ d.required, isThere name) ∧
      (∀ failure, result = .error failure ↔ ∃ before name after,
        d.required = before ++ name :: after ∧ (∀ other ∈ before, isThere other) ∧
          ¬ isThere name ∧ failure = .unknownType name) ∧
      ∀ v, (result = .ok v ↔ (∀ name ∈ d.required, isThere name) ∧
          d.Followed (fun type => context.filter fun _ => handled type) v) ∧
        (result = .ok v →
          (v.isBound = true ↔ context.isSome = true ∧ handled v.leaf.1 = true)) := by
  intro result isThere
  have settled : result = outcome known d.required
      (d.validator fun type => context.filter fun _ => handled type) :=
    resolve_requires knows handles d history
  have all : missing? known d.required = none ↔ ∀ name ∈ d.required, isThere name := by
    rw [missing?_eq_none]
    exact forall₂_congr fun name _ => isType_iff
  refine ⟨fun e => ⟨fun inner => Descriptor.required_array, Descriptor.required_other⟩, ?_, ?_, ?_⟩
  · rw [← all, settled]
    constructor
    · rintro ⟨v, resolved⟩
      exact (outcome_eq_ok.mp resolved).1
    · intro there
      exact ⟨_, outcome_eq_ok.mpr ⟨there, rfl⟩⟩
  · intro failure
    rw [settled, outcome_eq_error]
    constructor
    · rintro ⟨name, missing, rfl⟩
      obtain ⟨before, after, split, there, absent⟩ := missing?_eq_some.mp missing
      refine ⟨before, name, after, split, ?_, ?_, rfl⟩
      · intro other member
        exact isType_iff.mp (there other member)
      · intro found
        rw [isType_iff.mpr found] at absent
        cases absent
    · rintro ⟨before, name, after, split, there, absent, rfl⟩
      refine ⟨name, missing?_eq_some.mpr ⟨before, after, split, ?_, ?_⟩, rfl⟩
      · intro other member
        exact isType_iff.mpr (there other member)
      · rw [Bool.eq_false_iff]
        intro found
        exact absent (isType_iff.mp found)
  · intro v
    rw [← all, settled, outcome_eq_ok, Descriptor.followed_iff, eq_comm (a := v)]
    refine ⟨Iff.rfl, ?_⟩
    rintro ⟨-, rfl⟩
    rw [Validator.isBound, Descriptor.leaf_validator]
    cases context <;> simp

/-- A map whose key is a list of arrays of arrays in a wrapper: the blank in the name and the type
of the values are passed over, and the numbers in the middle are what is converted. -/
theorem standard_map_resolves :
    let project := InMemory.standard "app"
    let d : Descriptor := ⟨"java.util.Map", [⟨"java.util.Optional",
      [⟨"java.util.List", [.simple "int[] []"]⟩]⟩, .simple "java.lang.String[]"]⟩
    project.toProject.Knows project.types.contains ∧
      (∀ c ∈ some Standard.context, c.Handles Standard.supports) ∧
      ((resolve project.toProject (some Standard.context) d).run []).1 =
        .ok (.optional (.collection (.collection (.collection
          (.scalar "int" (some Standard.context)))))) := by
  intro project d
  have handles : ∀ c ∈ some Standard.context, c.Handles Standard.supports := by
    rintro c ⟨⟩
    exact Standard.handles
  obtain ⟨-, -, -, kept⟩ := resolves_when_types_exist project.toProject _ project.knows
    (some Standard.context) _ handles d []
  have there : ∀ name ∈ d.required,
      name ∈ ["boolean", "byte", "short", "int", "long", "float", "double", "char"] ∨
        project.types.contains name = true := by
    decide +kernel
  have innermost : ∀ layers inner, ¬ Descriptor.Inward (.simple "int") layers inner := by
    intro layers inner step
    have element := Descriptor.arrayOf_iff.mp step.arrayOf
    have none : (Descriptor.simple "int").element? = none := by decide +kernel
    rw [none] at element
    cases element
  have followed (bound : String → Option Context) : d.Followed bound
      (.optional (.collection (.collection (.collection (.scalar "int" (bound "int")))))) :=
    .inward .map (.inward .optional (.inward .list
      (.inward (.array ⟨"int[] ", by decide, rfl, rfl⟩)
        (.inward (.array ⟨"int", by decide, rfl, rfl⟩) (.scalar innermost)))))
  have bound : (some Standard.context).filter (fun _ => Standard.supports "int") =
      some Standard.context := Option.filter_some_pos (by decide +kernel)
  rw [← bound]
  exact ⟨project.knows, handles, (kept _).1.mpr ⟨there, followed _⟩⟩

end Resolution

end TypedConfig
