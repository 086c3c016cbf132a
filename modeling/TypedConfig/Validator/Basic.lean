import TypedConfig.Capability.Host
import TypedConfig.Diagnostic
import TypedConfig.Text.Quoted
/-!
Validators: what is to be done with a value of a type.

A scalar is converted as a whole. A collection is a list of elements between commas, and each
element is checked where it stands. A value that may be absent is checked like the value itself.
-/
namespace TypedConfig

/-- What becomes of a sum of places that 64 bits do not hold. The machine settles it, and not the
user. -/
inductive Overflow where
  /-- What does not fit is dropped. -/
  | wraps
  /-- The work crashes. -/
  | crashes
  deriving DecidableEq, Repr

def Overflow.crash : Crash := ⟨"attempt to add with overflow"⟩

/-- The place that lies so many characters behind another. -/
def Overflow.advance : Overflow → Nat → Nat → Except Crash Nat
  | .wraps, place, count => .ok ((place + count) % UInt64.size)
  | .crashes, place, count =>
    if place + count < UInt64.size then .ok (place + count) else .error crash

/-- How diagnostics are made: what is written on them, and how their places are computed. -/
structure Marking extends Labels where
  overflow : Overflow := .wraps
  deriving DecidableEq, Repr

instance : Coe Labels Marking := ⟨fun labels => { labels with }⟩

/-- How the values of a type are checked. A scalar without a context is not checked. -/
inductive Validator where
  | scalar (type : String) (context : Option Context)
  | collection (delegate : Validator)
  | optional (delegate : Validator)

/-- What checking a value comes to: the diagnostics up to the end or to the first fault. -/
structure Report where
  diagnostics : List Diagnostic
  outcome : Except Fault Unit

namespace Report

def clean : Report := ⟨[], .ok ()⟩

/-- Checking stops at a fault. -/
def faulty (fault : Fault) : Report := ⟨[], .error fault⟩

/-- One piece is rejected. -/
def rejection (d : Diagnostic) : Report := ⟨[d], .ok ()⟩

/-- The diagnostics of an earlier piece come first. -/
def after (first next : Report) : Report :=
  ⟨first.diagnostics ++ next.diagnostics, next.outcome⟩

end Report

/-- What a conversion of the characters from `start` on means. Only a rejection asks for the place
at which they stop. -/
def Report.ofConversion (marking : Marking) (value : String) (start : Nat) :
    Except Fault Conversion → Report
  | .ok .accepted => .clean
  | .ok (.rejected message) =>
    match marking.overflow.advance start value.length with
    | .ok stop => .rejection ⟨message, marking.source, marking.code, start, stop⟩
    | .error crash => .faulty (.crashed crash)
  | .error fault => .faulty fault

namespace Validator

/-- The elements of a list: the text between commas, but nothing after a comma at the end. -/
def elements (value : String) : List String :=
  let pieces := value.toList.splitOn ','
  (if pieces.getLast? = some [] then pieces.dropLast else pieces).map String.ofList

/-- Elements are checked from the left, each where it stands; a fault ends the work. The place
behind an element and its comma is computed after the last one too. -/
def checkEach (overflow : Overflow) (check : String → Nat → Asking Report) :
    List String → Nat → Asking Report
  | [], _ => return .clean
  | element :: rest, start => do
    let first ← check element start
    match first.outcome with
    | .error _ => return first
    | .ok () =>
      match overflow.advance start (element.length + 1) with
      | .ok next => return first.after (← checkEach overflow check rest next)
      | .error crash => return first.after (.faulty (.crashed crash))

/-- Checks a value whose first character stands at `start`. -/
def check (marking : Marking) : Validator → String → Nat → Asking Report
  | .scalar _ none, _, _ => return .clean
  | .scalar type (some context), value, start => do
    return .ofConversion marking value start (← context.askConvert value type)
  | .collection delegate, value, start =>
    checkEach marking.overflow (fun element offset => delegate.check marking element offset)
      (elements value) start
  | .optional delegate, value, start => delegate.check marking value start

/-- The type of the innermost scalar and its context. -/
def leaf : Validator → String × Option Context
  | .scalar type context => (type, context)
  | .collection delegate | .optional delegate => delegate.leaf

/-- Whether a value can be rejected at all. -/
def isBound (v : Validator) : Bool := v.leaf.2.isSome

/-- A collection inside a collection, and so on, around a validator. -/
def nest (v : Validator) : Nat → Validator
  | 0 => v
  | depth + 1 => .collection (v.nest depth)

def render : Validator → String
  | .scalar type none => "(scalar " ++ type ++ " unchecked)"
  | .scalar type (some _) => "(scalar " ++ type ++ ")"
  | .collection delegate => "(collection " ++ delegate.render ++ ")"
  | .optional delegate => "(pass " ++ delegate.render ++ ")"

instance : ToString Validator := ⟨render⟩

/-- The tree with every part of each node. -/
def inspect : Validator → String
  | .scalar type context =>
    let provider := match context with
      | none => "None"
      | some context => "Some(" ++ Text.quoted context.provider ++ ")"
    "Scalar(ScalarValidator \x7b type_name: " ++ Text.quoted type ++ ", provider: " ++ provider ++
      " \x7d)"
  | .collection delegate =>
    "Collection(CollectionValidator \x7b delegate: " ++ delegate.inspect ++ ", policy: Comma \x7d)"
  | .optional delegate => "PassThrough(" ++ delegate.inspect ++ ")"

end Validator

end TypedConfig
