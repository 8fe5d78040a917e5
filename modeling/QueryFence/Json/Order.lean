import QueryFence.Json.Basic

/-!
Comparing JSON values: numbers by what they are worth, of whatever kind they are, texts by their code
points, lists item by item, and objects by their members in any order.
-/

namespace QueryFence.Json

/-- What a value is worth as a number: first the side on which it lies beyond all finite numbers, 0
where it is finite, and then its finite value. -/
def worth? : Json → Option (Int × Rat)
  | .bool b => some (0, if b then 1 else 0)
  | .int n => some (0, n)
  | .float (.infinite negative) => some (if negative then -1 else 1, 0)
  | .float x => x.toRat?.map fun r => (0, r)
  | _ => none

/-- Whether two values that are no lists or objects are equal. -/
def sameScalar (v w : Json) : Bool :=
  match v.worth?, w.worth? with
  | some a, some b => a == b
  | none, none =>
    match v, w with
    | .null, .null => true
    | .text t, .text u => t == u
    | .float _, .float _ => true
    | _, _ => false
  | _, _ => false

mutual

/-- Whether two values are equal. -/
def same : Json → Json → Bool
  | .list items, .list others => sameItems items others
  | .object members, .object others =>
    members.length == others.length && sameMembers members others
  | v, w => sameScalar v w

def sameItems : List Json → List Json → Bool
  | [], [] => true
  | v :: rest, w :: others => same v w && sameItems rest others
  | _, _ => false

/-- Whether every member is one of the others too. -/
def sameMembers : List (Text × Json) → List (Text × Json) → Bool
  | [], _ => true
  | (name, v) :: rest, others =>
    (match others.lookup name with
      | some w => same v w
      | none => false) && sameMembers rest others

end

/-- The order of two values of worth. -/
def orderByWorth (a b : Int × Rat) : Ordering :=
  if a == b then .eq
  else if a.1 < b.1 || (a.1 == b.1 && Rat.blt a.2 b.2) then .lt
  else .gt

def isNumber (v : Json) : Bool := v.kind = .bool || v.kind = .int || v.kind = .float

mutual

/-- How two values stand to each other. Only numbers, only texts and only lists have an order; what is
no number though its kind is stands beside every number. -/
def order? : Json → Json → Option Ordering
  | .text t, .text u => some (if t = u then .eq else if Text.isAtMost t u then .lt else .gt)
  | .list items, .list others => orderItems? items others
  | v, w =>
    if v.isNumber && w.isNumber then
      match v.worth?, w.worth? with
      | some a, some b => some (orderByWorth a b)
      | _, _ => some .eq
    else none

/-- The order of two lists: that of the first items that differ, or else the shorter one first. -/
def orderItems? : List Json → List Json → Option Ordering
  | [], [] => some .eq
  | [], _ => some .lt
  | _, [] => some .gt
  | v :: rest, w :: others => if same v w then orderItems? rest others else order? v w

end

/-- Whether any two of some values have an order. -/
def areOrdered : List Json → Bool
  | [] => true
  | v :: rest => rest.all (fun w => (v.order? w).isSome) && areOrdered rest

/-- Whether a value may stand before another one in order. -/
def isAtMost (v w : Json) : Bool := v.order? w != some .gt

end QueryFence.Json
