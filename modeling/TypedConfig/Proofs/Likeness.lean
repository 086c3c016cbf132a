import TypedConfig.Proofs.Rendering
import TypedConfig.Proofs.Transparency

/-!
Signatures that are checked alike. A wrapper around a type leaves no more than one question behind,
whether the wrapper is there, and steady surroundings answer the rest as without it. A list, a set
and an array of one type come to the same validator, though the brackets of the array are part of
its name.
-/
namespace TypedConfig

open Descriptor (IsName tokensRest AllWellNamed)

/-- The project has a type, whatever was asked before. -/
def Project.Has (project : Project) (name : String) : Prop :=
  ∀ history, project.hasType history name = .ok true

theorem InMemory.has_of_mem {project : InMemory} {name : String} (member : name ∈ project.types) :
    project.toProject.Has name := by
  intro history
  exact congrArg Except.ok (List.contains_iff_mem.mpr member)

/-! ## Texts -/

namespace Signature

theorem parse_name {name : String} (named : IsName name) : parse name = .ok (.simple name) := by
  have wellNamed : (Descriptor.simple name).WellNamed := ⟨named, trivial⟩
  exact parse_render wellNamed

/-- A signature in brackets behind a name is read as the name's first argument. -/
theorem parse_arguments {name text more : String} {d : Descriptor} {ds : List Descriptor}
    (named : IsName name) (read : parse text = .ok d) (others : AllWellNamed ds)
    (spaced : Spaced (tokensRest ds) more.toList) :
    parse (name ++ "<" ++ text ++ more ++ ">") = .ok ⟨name, d :: ds⟩ := by
  obtain ⟨first, layout⟩ := isLayout_of_parse read
  apply parse_of_isLayout
  refine ⟨⟨named, first, others⟩, ?_⟩
  have opened := (Spaced.single (.name name)).append (.single .opening)
  have whole := (opened.append (layout.append spaced)).append (.single .closing)
  simpa [Descriptor.tokens, Token.chars] using whole

theorem parse_single {name text : String} {d : Descriptor} (named : IsName name)
    (read : parse text = .ok d) : parse (name ++ "<" ++ text ++ ">") = .ok ⟨name, [d]⟩ := by
  have others : AllWellNamed [] := trivial
  have nothing : Spaced (tokensRest []) "".toList := .done (List.forall_mem_nil _)
  simpa using parse_arguments named read others nothing

theorem parse_pair {name text other : String} {d e : Descriptor} (named : IsName name)
    (read : parse text = .ok d) (read' : parse other = .ok e) :
    parse (name ++ "<" ++ text ++ "," ++ other ++ ">") = .ok ⟨name, [d, e]⟩ := by
  obtain ⟨second, layout⟩ := isLayout_of_parse read'
  have others : AllWellNamed [e] := ⟨second, trivial⟩
  have more : Spaced (tokensRest [e]) ("," ++ other).toList := by
    simpa [tokensRest, Token.chars] using (Spaced.single .comma).append layout
  simpa only [String.append_assoc] using parse_arguments named read others more

end Signature

/-! ## Names of arrays -/

namespace Descriptor

/-- Where no blank stands at the end, none is passed over. -/
theorem peelBackward_of_visible {c : Char} (visible : Text.isBlank c = false) (rest : List Char) :
    peelBackward true (c :: rest) = peelBackward false (c :: rest) := by
  unfold peelBackward
  simp [visible]

theorem peelBackward_brackets (c : Char) (rest : List Char) :
    peelBackward false (']' :: '[' :: c :: rest) =
      ((peelBackward true (c :: rest)).1 + 1, (peelBackward true (c :: rest)).2) := by
  rw [peelBackward]
  simp

/-- Brackets behind a name make one more array of it. -/
theorem peel_brackets {name : String} (named : IsName name) :
    peel (name ++ "[]") = ((peel name).1 + 1, (peel name).2) := by
  obtain ⟨nonempty, letters⟩ := named
  cases backward : name.toList.reverse with
  | nil => exact absurd (String.toList_eq_nil_iff.mp (List.reverse_eq_nil_iff.mp backward)) nonempty
  | cons c rest =>
    have member : c ∈ name.toList := by
      rw [← List.mem_reverse, backward]
      exact List.mem_cons_self
    have visible := Signature.isBlank_of_isNameChar (letters c member)
    have brackets : (name ++ "[]").toList.reverse = ']' :: '[' :: c :: rest := by
      simp [backward]
    simp only [peel, brackets, backward, peelBackward_brackets, peelBackward_of_visible visible]

theorem IsName.brackets {name : String} (named : IsName name) : IsName (name ++ "[]") := by
  obtain ⟨nonempty, letters⟩ := named
  have brackets : "[]".toList.all Signature.isNameChar = true := by decide
  constructor
  · intro empty
    apply nonempty
    simpa using congrArg String.toList empty
  · intro c member
    rw [String.toList_append, List.mem_append] at member
    rcases member with own | bracket
    · exact letters c own
    · exact List.all_eq_true.mp brackets c bracket

end Descriptor

/-! ## Resolving -/

namespace Resolution

variable {project : Project} {context : Option Context}

theorem resolve_single {name : String} {around : Validator → Validator}
    (combined : ∀ v, combine context name [v] = pure (around v)) (d : Descriptor) :
    resolve project context ⟨name, [d]⟩ =
      (do require project name; around <$> resolve project context d) := by
  simp [resolve, resolveAll, combined]

/-- Of a pair that keeps its first argument the second is resolved for nothing. -/
theorem resolve_pair {name : String} (combined : ∀ v w, combine context name [v, w] = pure v)
    (d e : Descriptor) :
    resolve project context ⟨name, [d, e]⟩ =
      (do
        require project name
        let v ← resolve project context d
        (fun _ => v) <$> resolve project context e) := by
  simp [resolve, resolveAll, combined]

theorem resolveName_brackets {name : String} (named : IsName name) :
    resolveName project context (name ++ "[]") =
      Validator.collection <$> resolveName project context name := by
  simp [resolveName, Descriptor.peel_brackets named, Validator.nest]

/-- A type that is there is asked for, and no more comes of it. -/
theorem require_run {name : String} (foreign : name ∉ primitives) (has : project.Has name)
    (history : History) :
    (require project name).run history = (.ok (), .hasType name :: history) := by
  have asked : project.askHasType name history = (.ok true, .hasType name :: history) := by
    simp only [Project.askHasType, ask, has history]
  unfold require
  rw [if_neg foreign, ExceptT.run_bind, orCrash, ExceptT.run_mk, Asking.bind_apply,
    Asking.bind_apply, asked]
  rfl

/-- In steady surroundings it makes no difference that a type was asked for which is there. -/
theorem require_bind {α : Type} {name : String} (foreign : name ∉ primitives)
    (has : project.Has name) {work : Resolving α} (steady : Asking.Steady work.run)
    (history : History) :
    ((do require project name; work).run history).1 = (work.run history).1 := by
  have same : searched (.hasType name :: history) = searched history := rfl
  rw [ExceptT.run_bind, Asking.bind_apply, require_run foreign has history]
  exact (steady _ _ same).1

end Resolution

section
variable {project : Project} {context : Context}

/-- A signature with one argument resolves like this argument, but for what stands around it. -/
theorem resolveSignature_single {name text : String} {d : Descriptor}
    {around : Validator → Validator} (named : IsName name) (foreign : name ∉ Resolution.primitives)
    (has : project.Has name)
    (combined : ∀ v, Resolution.combine (some context) name [v] = pure (around v))
    (known : project.Steady) (steady : context.Steady) (read : Signature.parse text = .ok d)
    (history : History) :
    (resolveSignature project context (name ++ "<" ++ text ++ ">") history).1 =
      (resolveSignature project context text history).1.map around := by
  have given : ∀ c ∈ some context, c.Steady := by
    rintro c ⟨⟩
    exact steady
  have argument := Resolution.resolve_steady known given d
  rw [resolveSignature_of_ok (Signature.parse_single named read), resolveSignature_of_ok read,
    Resolution.resolve_single combined]
  have wrapped := Resolution.Resolving.steady_map around argument
  simp only [Resolution.require_bind foreign has wrapped, Resolution.Resolving.run_map]
  cases ((Resolution.resolve project (some context) d).run history).1 <;> rfl

/-- A signature whose second argument is dropped resolves like the first, if the second resolves. -/
theorem resolveSignature_pair {name text other : String} {d : Descriptor} {w : Validator}
    (named : IsName name) (foreign : name ∉ Resolution.primitives) (has : project.Has name)
    (combined : ∀ v w, Resolution.combine (some context) name [v, w] = pure v)
    (known : project.Steady) (steady : context.Steady) (read : Signature.parse text = .ok d)
    {history : History} (second : (resolveSignature project context other history).1 = .ok w) :
    (resolveSignature project context (name ++ "<" ++ text ++ "," ++ other ++ ">") history).1 =
      (resolveSignature project context text history).1 := by
  have given : ∀ c ∈ some context, c.Steady := by
    rintro c ⟨⟩
    exact steady
  cases read' : Signature.parse other with
  | error e =>
    rw [resolveSignature_of_error read'] at second
    cases second
  | ok e =>
    have first := Resolution.resolve_steady known given d
    have dropped := Resolution.resolve_steady known given e
    rw [resolveSignature_of_ok read'] at second
    rw [resolveSignature_of_ok (Signature.parse_pair named read read'),
      resolveSignature_of_ok read, Resolution.resolve_pair combined]
    have both := Resolution.Resolving.steady_bind first fun v =>
      Resolution.Resolving.steady_map (fun _ => v) dropped
    simp only [Resolution.require_bind foreign has both]
    rcases run : (Resolution.resolve project (some context) d).run history with
      ⟨failure | v, after⟩
    · rw [ExceptT.run_bind, Asking.bind_apply, run]
      rfl
    · have later := (dropped after history (first.searched_eq run)).1
      have resolved := ok_of_mapError second
      rw [ExceptT.run_bind, Asking.bind_apply, run]
      simp only [Resolution.Resolving.run_map, later, resolved]
      rfl

/-- An array resolves like its element, with a collection around it. -/
theorem resolveSignature_brackets {name : String} (named : IsName name) (history : History) :
    (resolveSignature project context (name ++ "[]") history).1 =
      (resolveSignature project context name history).1.map .collection := by
  rw [resolveSignature_of_ok (Signature.parse_name named.brackets),
    resolveSignature_of_ok (Signature.parse_name named), Resolution.resolve, Resolution.resolve,
    Resolution.resolveName_brackets named]
  simp only [Resolution.Resolving.run_map]
  cases ((Resolution.resolveName project (some context) name).run history).1 <;> rfl

/-! ## Checking -/

/-- How a validator checks, whatever it is made of. -/
def Validator.checker (v : Validator) (marking : Marking) : String → Nat → Asking Report :=
  v.check marking

/-- Two signatures fail alike, or they have validators that check alike. -/
def Alike (a b : Except CheckError Validator) : Prop :=
  a.map Validator.checker = b.map Validator.checker

/-- What stands around a validator does not matter when it does not change how it checks. -/
theorem Alike.around {around : Validator → Validator}
    (unseen : ∀ v, (around v).checker = v.checker) (a : Except CheckError Validator) :
    Alike (a.map around) a := by
  cases a with
  | error e => rfl
  | ok v => exact congrArg Except.ok (unseen v)

/-- Values are judged alike by signatures that resolve alike. -/
theorem evaluate_congr {a b : String} {history : History} (known : project.Steady)
    (steady : context.Steady)
    (alike : Alike (resolveSignature project context a history).1
      (resolveSignature project context b history).1)
    (marking : Marking) (value : String) (start : Nat) :
    context.evaluate project marking value a start history =
      context.evaluate project marking value b start history := by
  have steadyA := resolveSignature_steady known steady a
  have steadyB := resolveSignature_steady known steady b
  rcases resolvedA : resolveSignature project context a history with ⟨e | v, afterA⟩
  · rcases resolvedB : resolveSignature project context b history with ⟨e' | w, afterB⟩
    · rw [resolvedA, resolvedB] at alike
      cases alike
      rw [Session.evaluate_of_error resolvedA, Session.evaluate_of_error resolvedB]
    · rw [resolvedA, resolvedB] at alike
      cases alike
  · rcases resolvedB : resolveSignature project context b history with ⟨e' | w, afterB⟩
    · rw [resolvedA, resolvedB] at alike
      cases alike
    · rw [resolvedA, resolvedB] at alike
      have checks : v.checker = w.checker := Except.ok.inj alike
      have check : v.check marking value start = w.check marking value start :=
        congrFun (congrFun (congrFun checks marking) value) start
      have bound : ∀ c ∈ w.leaf.2, c.Steady := by
        intro c leaf
        rw [resolveSignature_boundTo (congrArg Prod.fst resolvedB) c leaf]
        exact steady
      have same : searched afterA = searched afterB := by
        rw [steadyA.searched_eq resolvedA, steadyB.searched_eq resolvedB]
      have reported := (w.check_steady marking bound value start afterA afterB same).1
      rw [Session.evaluate_of_ok resolvedA, Session.evaluate_of_ok resolvedB, check, reported]

end

namespace Session

namespace Coherent

variable {session after : Session} {context : Context}

theorem steady_of_capability (h : session.Coherent)
    (found : session.capability = (some context, after)) :
    after.project.Steady ∧ context.Steady := by
  have sought := h.capability
  rw [found] at sought
  exact ⟨sought.known, sought.steady context (handle_of_capability found)⟩

/-- A signature that the session has an answer for resolves with its capability, kept or not. -/
theorem resolved_of_validator (h : session.Coherent) {signature : String}
    {answer : Option Instance} (answered : (session.validator signature).1 = .ok answer)
    (found : session.capability = (some context, after)) :
    ∃ v, (resolveSignature after.project context signature after.history).1 = .ok v := by
  rcases asked : session.validator signature with ⟨result, left⟩
  rw [asked] at answered
  cases answered_of_validator asked with
  | @hit kept hit =>
    obtain ⟨c, known, resolves⟩ := h.kept _ (Cache.mem_of_get? hit)
    rw [capability_of_found known] at found
    cases found
    exact ⟨kept.validator, resolves signature rfl⟩
  | unavailable absent missing =>
    rw [missing] at found
    cases found
  | failed => cases answered
  | @built _ _ v _ absent found' resolved =>
    rw [found'] at found
    cases found
    exact ⟨v, congrArg Prod.fst resolved⟩

/-- A coherent session answers alike to signatures that resolve alike with its capability. -/
theorem check_congr (h : session.Coherent) {a b : String}
    (alike : ∀ context after, session.capability = (some context, after) →
      Alike (resolveSignature after.project context a after.history).1
        (resolveSignature after.project context b after.history).1)
    (value : String) (start : Nat) (collected : List Diagnostic) :
    (session.check value a start collected).1 = (session.check value b start collected).1 := by
  have same : session.evaluate value a start = session.evaluate value b start := by
    unfold evaluate
    rcases asked : session.capability with ⟨_ | context, after⟩
    · rfl
    · obtain ⟨known, steady⟩ := h.steady_of_capability asked
      exact evaluate_congr known steady (alike context after asked) _ value start
  rw [h.check_eq_evaluate, h.check_eq_evaluate, same]

end Coherent

/-- The types that stand for a value of their only argument. -/
def wrapperNames : List String :=
  ["java.util.Optional", "java.util.function.Supplier", "jakarta.inject.Provider",
    "javax.inject.Provider"]

theorem wrapperNames_named : ∀ wrapper ∈ wrapperNames,
    IsName wrapper ∧ wrapper ∉ Resolution.primitives := by
  decide

/-- A wrapper leaves its argument's validator as it is, or makes it one for a value that may be
absent, which checks in the same way. -/
theorem combine_wrapper {wrapper : String} (member : wrapper ∈ wrapperNames)
    (context : Option Context) :
    ∃ around : Validator → Validator,
      (∀ v, Resolution.combine context wrapper [v] = pure (around v)) ∧
        ∀ v, (around v).checker = v.checker := by
  simp only [wrapperNames, List.mem_cons, List.not_mem_nil, or_false] at member
  rcases member with rfl | rfl | rfl | rfl
  · exact ⟨.optional, fun _ => rfl, fun _ => rfl⟩
  · exact ⟨id, fun _ => rfl, fun _ => rfl⟩
  · exact ⟨id, fun _ => rfl, fun _ => rfl⟩
  · exact ⟨id, fun _ => rfl, fun _ => rfl⟩

/-- **Wrappers are transparent.** In every session that requests lead to, in steady surroundings, a
value is judged by a type in a wrapper that the project has just as by the type itself, failures
included; and so it is by a map with this type for its keys, if the type of its values resolves. -/
theorem wrappers_are_transparent (project : Project) (settings : Settings)
    (steady : project.Steady) (requests : List Request) (text : String) (d : Descriptor)
    (read : Signature.parse text = .ok d) (value : String) (start : Nat)
    (collected : List Diagnostic) :
    let session := ((Session.new project settings).run requests).2
    (∀ wrapper ∈ wrapperNames, project.Has wrapper →
      (session.check value (wrapper ++ "<" ++ text ++ ">") start collected).1 =
        (session.check value text start collected).1) ∧
      ∀ other, project.Has "java.util.Map" → (session.validator other).1.isOk = true →
        (session.check value ("java.util.Map" ++ "<" ++ text ++ "," ++ other ++ ">") start
          collected).1 = (session.check value text start collected).1 := by
  intro session
  have coherent : session.Coherent := (coherent_new steady settings).run requests
  have same : session.project = project := run_project _ requests
  constructor
  · intro wrapper member has
    obtain ⟨named, foreign⟩ := wrapperNames_named wrapper member
    apply coherent.check_congr
    intro context after found
    obtain ⟨known, firm⟩ := coherent.steady_of_capability found
    obtain ⟨around, combined, unseen⟩ := combine_wrapper member (some context)
    rw [← same, ← project_of_capability found] at has
    rw [resolveSignature_single named foreign has combined known firm read]
    exact Alike.around unseen _
  · intro other has answered
    apply coherent.check_congr
    intro context after found
    obtain ⟨known, firm⟩ := coherent.steady_of_capability found
    cases result : (session.validator other).1 with
    | error e =>
      rw [result] at answered
      cases answered
    | ok answer =>
      obtain ⟨w, second⟩ := coherent.resolved_of_validator result found
      have named : IsName "java.util.Map" := by decide
      have foreign : "java.util.Map" ∉ Resolution.primitives := by decide
      have combined (v w : Validator) :
          Resolution.combine (some context) "java.util.Map" [v, w] = pure v := rfl
      rw [← same, ← project_of_capability found] at has
      rw [resolveSignature_pair named foreign has combined known firm read second]
      rfl

/-- A list of numbers, with blanks in its signature, is judged alike in a wrapper and as the key of
a map, though its validator was forgotten and only the wrapper's is kept. -/
theorem standard_list_in_wrappers :
    let project := (InMemory.standard "app").toProject
    let settings : Settings := { wellKnown := [Standard.providerName] }
    let requests : List Request := [.check "1,2" "java.util.List<int>" 0, .reset,
      .validator "java.util.Optional< java.util.List <int> >"]
    let session := ((Session.new project settings).run requests).2
    project.Steady ∧
      Signature.parse " java.util.List <int> " = .ok ⟨"java.util.List", [.simple "int"]⟩ ∧
      project.Has "java.util.Optional" ∧ project.Has "java.util.Map" ∧
      (session.validator "java.lang.String[]").1.isOk = true ∧
      (session.check "1,x" ("java.util.Optional" ++ "<" ++ " java.util.List <int> " ++ ">")
          7 []).1 = (session.check "1,x" " java.util.List <int> " 7 []).1 ∧
      (session.check "1,x" ("java.util.Map" ++ "<" ++ " java.util.List <int> " ++ "," ++
        "java.lang.String[]" ++ ">") 7 []).1 =
        (session.check "1,x" " java.util.List <int> " 7 []).1 := by
  intro project settings requests session
  have read : Signature.parse " java.util.List <int> " =
      .ok ⟨"java.util.List", [.simple "int"]⟩ := by decide +kernel
  have optional : project.Has "java.util.Optional" := InMemory.has_of_mem (by decide)
  have map : project.Has "java.util.Map" := InMemory.has_of_mem (by decide)
  have answered : (session.validator "java.lang.String[]").1.isOk = true := by decide +kernel
  have ⟨wrapped, paired⟩ := wrappers_are_transparent project settings
    (InMemory.standard_steady "app") requests _ _ read "1,x" 7 []
  exact ⟨InMemory.standard_steady "app", read, optional, map, answered,
    wrapped _ (by decide) optional, paired _ map answered⟩

/-- **Lists, sets and arrays agree.** In every session that requests lead to, in steady surroundings
with both collections, a value is judged by a list or a set of a named type just as by the array of
this type, failures included. The name may end in brackets itself. -/
theorem lists_sets_and_arrays_agree (project : Project) (settings : Settings)
    (steady : project.Steady) (list : project.Has "java.util.List")
    (set : project.Has "java.util.Set") (requests : List Request) (name : String)
    (named : IsName name) (value : String) (start : Nat) (collected : List Diagnostic) :
    let session := ((Session.new project settings).run requests).2
    (session.check value ("java.util.List" ++ "<" ++ name ++ ">") start collected).1 =
        (session.check value (name ++ "[]") start collected).1 ∧
      (session.check value ("java.util.Set" ++ "<" ++ name ++ ">") start collected).1 =
        (session.check value (name ++ "[]") start collected).1 := by
  intro session
  have coherent : session.Coherent := (coherent_new steady settings).run requests
  have same : session.project = project := run_project _ requests
  have collection (type : String) (fit : IsName type) (foreign : type ∉ Resolution.primitives)
      (has : project.Has type)
      (combined : ∀ context v, Resolution.combine context type [v] = pure (.collection v)) :
      (session.check value (type ++ "<" ++ name ++ ">") start collected).1 =
        (session.check value (name ++ "[]") start collected).1 := by
    apply coherent.check_congr
    intro context after found
    obtain ⟨known, firm⟩ := coherent.steady_of_capability found
    have read := Signature.parse_name named
    rw [← same, ← project_of_capability found] at has
    rw [resolveSignature_single fit foreign has (combined (some context)) known firm read,
      resolveSignature_brackets named]
    rfl
  constructor
  · exact collection _ (by decide) (by decide) list fun _ _ => rfl
  · exact collection _ (by decide) (by decide) set fun _ _ => rfl

/-- Of lists, sets and arrays of arrays only the set has a validator that is kept. -/
theorem standard_brackets_agree :
    let project := (InMemory.standard "app").toProject
    let settings : Settings := { wellKnown := [Standard.providerName] }
    let session := ((Session.new project settings).run [.validator "java.util.Set<int[]>"]).2
    project.Steady ∧ project.Has "java.util.List" ∧ project.Has "java.util.Set" ∧
      IsName "int[]" ∧
      (session.check "1,x" ("java.util.List" ++ "<" ++ "int[]" ++ ">") 7 []).1 =
          (session.check "1,x" ("int[]" ++ "[]") 7 []).1 ∧
        (session.check "1,x" ("java.util.Set" ++ "<" ++ "int[]" ++ ">") 7 []).1 =
          (session.check "1,x" ("int[]" ++ "[]") 7 []).1 := by
  intro project settings session
  have list : project.Has "java.util.List" := InMemory.has_of_mem (by decide)
  have set : project.Has "java.util.Set" := InMemory.has_of_mem (by decide)
  have named : IsName "int[]" := by decide
  exact ⟨InMemory.standard_steady "app", list, set, named,
    lists_sets_and_arrays_agree project settings (InMemory.standard_steady "app") list set _ _
      named "1,x" 7 []⟩

end Session

end TypedConfig
