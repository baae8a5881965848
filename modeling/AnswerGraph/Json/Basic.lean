import AnswerGraph.Keyed
import AnswerGraph.Number.Binary64

/-!
JSON values. The members of an object are kept sorted by key, which is the order in which they are
written.
-/

namespace AnswerGraph

/-- A number of a document: whole numbers of 64 bits, with or without sign, and all others. -/
inductive JsonNumber where
  | natural (value : Nat)
  /-- The whole number `-magnitude`. -/
  | negative (magnitude : Nat)
  | real (value : Binary64)
  deriving DecidableEq, Repr

namespace JsonNumber

def maxNatural : Nat := Nat.pow 2 64 - 1

def maxNegative : Nat := Nat.pow 2 63

end JsonNumber

inductive Json where
  | null
  | bool (value : Bool)
  | number (value : JsonNumber)
  | string (value : String)
  | array (items : List Json)
  | object (members : List (String × Json))
  deriving Repr

namespace Json

/-- The object of some members; of two with one key the later counts. -/
def ofMembers (members : List (String × Json)) : Json :=
  .object (Keyed.ofList members)

def member? (key : String) : Json → Option Json
  | .object members => members.lookup key
  | _ => none

def strings (values : List String) : Json :=
  .array (values.map .string)

def natural (value : Nat) : Json :=
  .number (.natural value)

/-- A whole number of either sign. -/
def integer (value : Int) : Json :=
  match value with
  | .ofNat n => .number (.natural n)
  | .negSucc n => .number (.negative (n + 1))

end Json

end AnswerGraph
