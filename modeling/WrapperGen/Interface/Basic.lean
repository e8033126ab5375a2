import WrapperGen.Text.Basic

/-!
What an interface description says: the messages that a window understands, the enumerations that
name integer types, and the categories under which the messages are listed.
-/

namespace WrapperGen

/-- A range of bytes in the description, from `start` up to but excluding `stop`. -/
structure Span where
  start : Nat
  stop : Nat
deriving DecidableEq, Repr, Inhabited

/-- The empty range at a place. -/
def Span.emptyAt (place : Nat) : Span := ⟨place, place⟩

def Span.isEmpty (span : Span) : Bool := span.start = span.stop

inductive Feature
  | function
  | getter
  | setter
deriving DecidableEq, Repr, Inhabited

namespace Feature

def keyword : Feature → Text
  | function => "fun"
  | getter => "get"
  | setter => "set"

def ofKeyword? (word : Text) : Option Feature :=
  [function, getter, setter].find? (·.keyword = word)

def label : Feature → Text
  | function => "function"
  | getter => "getter"
  | setter => "setter"

/-- Every kind, in the order in which they are listed to a reader. -/
def all : List Feature := [function, getter, setter]

end Feature

/-- One slot of a message's parameter list. An absent slot has neither type nor name. -/
structure Param where
  type : Text
  name : Text
  span : Span
deriving DecidableEq, Repr, Inhabited

def Param.isEmpty (param : Param) : Bool := param.type.isEmpty

/-- One message: a line that opens with `fun`, `get` or `set`. A message has two slots, `wparam`
and `lparam`; `id` is its number as it is written. Lines are counted from one. -/
structure Declaration where
  feature : Feature
  returnType : Text
  name : Text
  id : Option Text
  wparam : Param
  lparam : Param
  line : Nat
  span : Span
deriving DecidableEq, Repr, Inhabited

/-- A type whose values are integers: a line that opens with `enu`. -/
structure Enumeration where
  name : Text
  prefixes : List Text
  line : Nat
deriving DecidableEq, Repr, Inhabited

/-- The heading of a group of messages: a line that opens with `cat`. -/
structure Category where
  name : Text
  line : Nat
deriving DecidableEq, Repr, Inhabited

/-- A whole description, each list in the order of its lines. `truncatedAt` is the line at which
the deprecated rest of the description begins, if it has one. -/
structure Interface where
  declarations : List Declaration := []
  enumerations : List Enumeration := []
  categories : List Category := []
  truncatedAt : Option Nat := none
deriving DecidableEq, Repr, Inhabited

/-- The names of the enumerations, in order and with repetitions. -/
def Interface.enumerationNames (interface : Interface) : List Text :=
  interface.enumerations.map (·.name)

end WrapperGen
