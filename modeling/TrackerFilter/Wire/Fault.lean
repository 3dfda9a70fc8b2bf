import TrackerFilter.Json.Basic

/-!
What is wrong with a value that was received, and where. Reading goes on after a fault, so that a
rejected value shows all of them at once.
-/
namespace TrackerFilter

namespace Wire

inductive Step where
  | key (name : String)
  | index (position : Nat)
  deriving DecidableEq

inductive Cause where
  | missing
  | notText
  | notUnicode
  | tooShort
  | notBoolean
  | unreadableBoolean
  | notList
  | notMap
  | notRecord (model : String)
  | notAmong (choices : List String)
  | unknownKey
  | contradiction (reason : String)
  deriving DecidableEq

/-- A cause, the way to it from the value that was received, and the part of that value that is at fault.
For a missing field this is the object that lacks it. -/
@[ext]
structure Fault where
  cause : Cause
  path : List Step
  input : Json

def alternatives : List String → String
  | [] => ""
  | [a] => "'" ++ a ++ "'"
  | [a, b] => "'" ++ a ++ "' or '" ++ b ++ "'"
  | a :: rest => "'" ++ a ++ "', " ++ alternatives rest

def Cause.message : Cause → String
  | missing => "Field required"
  | notText => "Input should be a valid string"
  | notUnicode => "Input should be a valid string, unable to parse raw data as a unicode string"
  | tooShort => "String should have at least 1 character"
  | notBoolean => "Input should be a valid boolean"
  | unreadableBoolean => "Input should be a valid boolean, unable to interpret input"
  | notList => "Input should be a valid list"
  | notMap => "Input should be a valid dictionary"
  | notRecord model => "Input should be a valid dictionary or instance of " ++ model
  | notAmong choices => "Input should be " ++ alternatives choices
  | unknownKey => "Extra inputs are not permitted"
  | contradiction reason => "Value error, " ++ reason

def Fault.below (step : Step) (fault : Fault) : Fault := { fault with path := step :: fault.path }

inductive Checked (α : Type) where
  | sound (value : α)
  | faulty (faults : List Fault)

namespace Checked

variable {α β : Type}

def fault (cause : Cause) (input : Json) : Checked α := faulty [⟨cause, [], input⟩]

def faults : Checked α → List Fault
  | sound _ => []
  | faulty fs => fs

def map (f : α → β) : Checked α → Checked β
  | sound a => sound (f a)
  | faulty fs => faulty fs

/-- Applies one to the other; two faulty ones give the faults of both, in order. -/
def apply : Checked (α → β) → Checked α → Checked β
  | sound f, sound a => sound (f a)
  | sound _, faulty fs => faulty fs
  | faulty fs, a => faulty (fs ++ a.faults)

def cons (a : Checked α) (rest : Checked (List α)) : Checked (List α) :=
  (a.map List.cons).apply rest

def below (step : Step) : Checked α → Checked α
  | sound a => sound a
  | faulty fs => faulty (fs.map (Fault.below step))

end Checked

structure Rejection where
  model : String
  faults : List Fault

def Rejection.message (r : Rejection) : String :=
  let n := r.faults.length
  toString n ++ (if n = 1 then " validation error for " else " validation errors for ") ++ r.model

end Wire

end TrackerFilter
