import TypedConfig.Capability.Search

namespace TypedConfig.SearchPlan

/-- A call that a search makes, with its answer. -/
inductive Entry where
  | loaded (name : String) (answer : Except Fault (Option Provider))
  | scanned (interface : String) (answer : Except Fault (List Provider))
  | built (provider : Provider) (answer : Except Fault Context)

namespace Entry

def call : Entry → Call
  | loaded name _ => .load name
  | scanned interface _ => .scan interface
  | built provider _ => .build provider.name provider.serial

/-- This is what is answered after a history. -/
def IsTrue (project : Project) (history : History) : Entry → Prop
  | loaded name answer => project.load history name = answer
  | scanned interface answer => project.scan history interface = answer
  | built provider answer => provider.build history = answer

/-- The candidates that an answer names. A failure names none. -/
def candidates : Entry → List Provider
  | loaded _ (.ok (some provider)) => [provider]
  | scanned _ (.ok providers) => providers
  | _ => []

def load? : Entry → Option String
  | loaded name _ => some name
  | _ => none

def scan? : Entry → Option String
  | scanned interface _ => some interface
  | _ => none

/-- The provider that was to build a context, and the context, if it did. -/
def build? : Entry → Option (Provider × Option Context)
  | built provider answer => some (provider, answer.toOption)
  | _ => none

end Entry

/-- What was answered to calls that were made one after the other. -/
def IsAccount (project : Project) : History → List Entry → Prop
  | _, [] => True
  | history, entry :: rest =>
    entry.IsTrue project history ∧ IsAccount project (entry.call :: history) rest

/-- The calls of an account, the latest first. -/
def calls (entries : List Entry) : History := (entries.map Entry.call).reverse

/-- The names that were loaded. -/
def loads (entries : List Entry) : List String := entries.filterMap Entry.load?

/-- The interfaces that were scanned. -/
def scans (entries : List Entry) : List String := entries.filterMap Entry.scan?

/-- The candidates that were named, in order, each as often as it was named. -/
def candidates (entries : List Entry) : List Provider := entries.flatMap Entry.candidates

/-- The builds that were tried. -/
def builds (entries : List Entry) : List (Provider × Option Context) :=
  entries.filterMap Entry.build?

/-- The candidates that were built, in order, each as often as it was built. -/
def attempts (entries : List Entry) : List Provider := (builds entries).map Prod.fst

/-- Nothing has built a context. -/
def Fails (entries : List Entry) : Prop := ∀ build ∈ builds entries, build.2 = none

/-- The account ends with the context that was found, and nothing before has built one; or nothing
has at all. -/
def EndsWith (entries : List Entry) : Option Context → Prop
  | some context => ∃ earlier winner, entries = earlier ++ [.built winner (.ok context)] ∧
      Fails earlier
  | none => Fails entries

/-- How a search goes: the calls for the names, those for the services, and what is found. -/
structure Course (plan : SearchPlan) (named served : List Entry) (found : Option Context) :
    Prop where
  /-- The first context that is built ends the search, and is found. -/
  ends : EndsWith (named ++ served) found
  /-- The names are loaded in their order, each at most as often as it is listed. -/
  inOrder : loads named <+: plan.wellKnown
  /-- What is loaded is built, once for each time. -/
  tried : attempts named = candidates named
  /-- A context that a name has led to was built from the last name that was loaded. -/
  atName : served = [] → ∀ context ∈ found, ∃ before name winner,
    named = before ++ [.loaded name (.ok (some winner)), .built winner (.ok context)]
  /-- No name leads to a scan. -/
  unscanned : scans named = []
  /-- When no name has led to a context, all were loaded, and the interface is scanned once. -/
  scanned : Fails named → loads named = plan.wellKnown ∧
    ∃ answer rest, served = .scanned plan.interface answer :: rest ∧ scans rest = []
  /-- When a name has led to one, nothing else is called. -/
  settled : ¬ Fails named → served = []
  /-- No name is loaded after the scan. -/
  unloaded : loads served = []
  /-- The services are built in their order, each at most as often as it was named. -/
  triedServices : attempts served <+: candidates served
  /-- When nothing is found, all of them were built. -/
  triedAll : found = none → attempts served = candidates served

end TypedConfig.SearchPlan
