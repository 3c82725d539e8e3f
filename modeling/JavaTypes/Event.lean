import JavaTypes.Id

/-!
# Logged events

Operations report what they do as events.  An event is data; `Event.line` gives
the line of text that a log shows for it.
-/

namespace JavaTypes

/-- How important an event is. -/
inductive Level where
  | trace
  | debug
  | warn
  deriving DecidableEq, Repr

/-- The spelling of a level in a log line. -/
def Level.label : Level → String
  | .trace => "TRACE"
  | .debug => "DEBUG"
  | .warn => "WARN"

/-- Something that an operation reports. -/
inductive Event where
  /-- A class got a definition. -/
  | classDefined (name : String) (arity : Nat)
  /-- A type variable was allocated. -/
  | typeVarAllocated (name : String) (id : TypeVarId)
  /-- A parameterized node was built before. -/
  | nodeFound (erasure : ClassId)
  /-- A parameterized node is new; holds the number of nodes with it. -/
  | nodeInterned (erasure : ClassId) (count : Nat)
  /-- A fresh model got its standard classes. -/
  | skeletonInstalled (root : String) (classes : Nat)
  /-- A configuration names no possible root class. -/
  | rootClassRejected (name : String)
  /-- A variable got another name. -/
  | variableRenamed (old new : String)
  /-- A variable got another type. -/
  | variableRetyped (name : String)
  deriving DecidableEq, Repr

namespace Event

/-- The importance of an event. -/
def level : Event → Level
  | .nodeFound _ => .trace
  | .nodeInterned _ _ => .trace
  | .rootClassRejected _ => .warn
  | _ => .debug

/-- The part of the library that reports an event. -/
def target : Event → String
  | .variableRenamed _ _ => "jmodel.decl"
  | .variableRetyped _ => "jmodel.decl"
  | _ => "jmodel.types"

/-- The message of an event with its fields. -/
def text : Event → String
  | .classDefined name arity =>
      "defined class class=" ++ name ++ " type_params=" ++ toString arity
  | .typeVarAllocated name id =>
      "allocated type parameter name=" ++ name ++ " id=" ++ id.label
  | .nodeFound erasure => "narrowing cache hit erasure=" ++ erasure.label
  | .nodeInterned erasure count =>
      "narrowing cache miss erasure=" ++ erasure.label ++
        " interned=" ++ toString count
  | .skeletonInstalled root classes =>
      "bootstrapped java.lang skeleton root=" ++ root ++
        " classes=" ++ toString classes
  | .rootClassRejected name =>
      "rejecting config with malformed root class root_class=" ++ name
  | .variableRenamed old new => "renamed variable from=" ++ old ++ " to=" ++ new
  | .variableRetyped name => "retyped variable name=" ++ name

/-- The log line of an event. -/
def line (event : Event) : String :=
  event.level.label ++ " " ++ event.target ++ " " ++ event.text

end Event

end JavaTypes
