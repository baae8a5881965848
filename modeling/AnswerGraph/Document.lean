import AnswerGraph.Json.Basic

/-!
Documents before they are given a meaning. A scalar keeps every reading that its spelling admits,
and a reader takes the one it needs; a part that no reader looks at is never checked. Records are
read field by field, from named members or from a list in the order of the fields.
-/

namespace AnswerGraph

/-- The readings of a scalar. -/
structure Scalar where
  /-- Nothing is written: this also reads as a list or record without parts. -/
  blank : Bool := false
  null : Bool := false
  flag : Option Bool := none
  number : Option JsonNumber := none
  text : Option String := none
  /-- One of the names of an enumeration. -/
  choice : Option String := none
  deriving Repr

inductive Document where
  | scalar (value : Scalar)
  /-- Items in order. If `positional` is set they can also be the fields of a record. -/
  | list (positional : Bool) (items : List Document)
  /-- Members in the order written. A name that is no text is `none`. A record can also stand for
  one of the names of an enumeration. -/
  | record (choice : Option String) (members : List (Option String × Document))

namespace Document

def text? : Document → Option String
  | scalar value => value.text
  | _ => none

def flag? : Document → Option Bool
  | scalar value => value.flag
  | _ => none

def number? : Document → Option JsonNumber
  | scalar value => value.number
  | _ => none

def choice? : Document → Option String
  | scalar value => value.choice
  | list _ _ => none
  | record choice _ => choice

def isNull : Document → Bool
  | scalar value => value.null
  | _ => false

/-- A whole number of 64 bits without sign. -/
def natural? (document : Document) : Option Nat :=
  match document.number? with
  | some (.natural value) => some value
  | _ => none

/-- A whole number of 64 bits with sign. -/
def integer? (document : Document) : Option Int :=
  match document.number? with
  | some (.natural value) => if value < Nat.pow 2 63 then some value else none
  | some (.negative magnitude) => some (-magnitude)
  | _ => none

def real? (document : Document) : Option Binary64 :=
  match document.number? with
  | some (.natural value) => Binary64.ofNat? false value
  | some (.negative magnitude) => Binary64.ofNat? true magnitude
  | some (.real value) => some value
  | none => none

/-- A list of which every item can be read. -/
def listOf? (read : Document → Option α) : Document → Option (List α)
  | list _ items => items.mapM read
  | scalar value => if value.blank then some [] else none
  | record _ _ => none

def texts? : Document → Option (List String) := listOf? text?

def integers? : Document → Option (List Int) := listOf? integer?

/-- A record whose values are texts; of members with one name the last counts. -/
def textMembers? : Document → Option (List (String × String))
  | record _ members => members.mapM fun (name, value) => do some (← name, ← value.text?)
  | _ => none

/-- What a record says about one of its fields. -/
inductive Slot where
  | given (value : Document)
  | absent
  /-- A list that is too short to reach the field. -/
  | cutOff

namespace Slot

def required? (read : Document → Option α) : Slot → Option α
  | given value => read value
  | _ => none

/-- A field that has a default value. -/
def getD? (default : α) (read : Document → Option α) : Slot → Option α
  | given value => read value
  | _ => some default

/-- A field that may be missing or null. -/
def optional? (read : Document → Option α) : Slot → Option (Option α)
  | given value => if value.isNull then some none else (read value).map some
  | absent => some none
  | cutOff => none

end Slot

/-- The slot of a name among members; a name must not occur twice. -/
def slotOf? (name : String) (members : List (String × Document)) : Option Slot :=
  match members.filter (·.1 == name) with
  | [] => some .absent
  | [(_, value)] => some (.given value)
  | _ => none

/-- The slots of the fields of a record, in the order of `names`. Other members are left alone. -/
def slots? (names : List String) : Document → Option (List Slot)
  | record _ members => do
    let named ← members.mapM fun (name, value) => name.map (·, value)
    names.mapM (slotOf? · named)
  | list positional items =>
    if !positional || names.length < items.length then none
    else some (items.map .given ++ List.replicate (names.length - items.length) .cutOff)
  | scalar value => if value.blank then some (names.map fun _ => .absent) else none

end Document

end AnswerGraph
