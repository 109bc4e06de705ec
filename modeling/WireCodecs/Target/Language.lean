/-! The target languages, in the order in which they are generated when none is asked for. -/

namespace WireCodecs

inductive Language where
  | java
  | cpp
  deriving DecidableEq, Repr

namespace Language

def all : List Language := [java, cpp]

def name : Language → String
  | java => "java"
  | cpp => "cpp"

def ofName? (text : String) : Option Language := all.find? (·.name == text)

def rank : Language → Nat
  | java => 0
  | cpp => 1

end Language

end WireCodecs
