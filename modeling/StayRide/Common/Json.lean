import Mathlib.Data.Rat.Defs
import StayRide.Lib.Dict

/-!
# JSON values

The values that the settings hold, with what JavaScript does with them: whether a value
counts as true, its properties, and the assignment to one of them.  Property names are
those that a value has of its own; what the built-in prototypes add is not here.

A string has its UTF-16 code units as properties; `units` gives them.
-/

namespace StayRide

open Lib

/-- A JSON value. -/
inductive Json
  | null
  | bool (b : Bool)
  | num (n : ℚ)
  | str (s : String)
  | arr (items : List Json)
  | obj (props : List (String × Json))

namespace Json

mutual

/-- Equality of JSON values can be decided, constructor by constructor. -/
def decEq : (a b : Json) → Decidable (a = b)
  | .null, b => match b with
      | .null => isTrue rfl
      | .bool _ | .num _ | .str _ | .arr _ | .obj _ => isFalse nofun
  | .bool x, b => match b with
      | .bool y => decidable_of_iff (x = y) (by rw [Json.bool.injEq])
      | .null | .num _ | .str _ | .arr _ | .obj _ => isFalse nofun
  | .num x, b => match b with
      | .num y => decidable_of_iff (x = y) (by rw [Json.num.injEq])
      | .null | .bool _ | .str _ | .arr _ | .obj _ => isFalse nofun
  | .str x, b => match b with
      | .str y => decidable_of_iff (x = y) (by rw [Json.str.injEq])
      | .null | .bool _ | .num _ | .arr _ | .obj _ => isFalse nofun
  | .arr x, b => match b with
      | .arr y =>
          have := decEqItems x y
          decidable_of_iff (x = y) (by rw [Json.arr.injEq])
      | .null | .bool _ | .num _ | .str _ | .obj _ => isFalse nofun
  | .obj x, b => match b with
      | .obj y =>
          have := decEqProps x y
          decidable_of_iff (x = y) (by rw [Json.obj.injEq])
      | .null | .bool _ | .num _ | .str _ | .arr _ => isFalse nofun

def decEqItems : (a b : List Json) → Decidable (a = b)
  | [], [] => isTrue rfl
  | [], _ :: _ => isFalse nofun
  | _ :: _, [] => isFalse nofun
  | x :: a, y :: b =>
      have := decEq x y
      have := decEqItems a b
      decidable_of_iff (x = y ∧ a = b) (by rw [List.cons.injEq])

def decEqProps : (a b : List (String × Json)) → Decidable (a = b)
  | [], [] => isTrue rfl
  | [], _ :: _ => isFalse nofun
  | _ :: _, [] => isFalse nofun
  | (k, x) :: a, (l, y) :: b =>
      have := decEq x y
      have := decEqProps a b
      decidable_of_iff ((k = l ∧ x = y) ∧ a = b) (by rw [List.cons.injEq, Prod.mk.injEq])

end

instance : DecidableEq Json := decEq

/-- Whether a value counts as true. -/
def truthy : Json → Bool
  | .null => false
  | .bool b => b
  | .num n => n ≠ 0
  | .str s => s ≠ ""
  | .arr _ | .obj _ => true

/-- The array index that a property name spells. -/
def indexOf (name : String) : Option ℕ :=
  name.toNat?.filter fun n => toString n = name

theorem eq_of_indexOf {name name' : String} {n : ℕ} (h : indexOf name = some n)
    (h' : indexOf name' = some n) : name = name' := by
  obtain ⟨-, hn⟩ := Option.filter_eq_some_iff.mp h
  obtain ⟨-, hn'⟩ := Option.filter_eq_some_iff.mp h'
  exact (of_decide_eq_true hn).symm.trans (of_decide_eq_true hn')

variable (units : String → List String)

/-- `v[name]`; `none` is `undefined`. -/
def property (v : Json) (name : String) : Option Json :=
  match v with
  | .null | .bool _ | .num _ => none
  | .str s => (indexOf name).bind fun i => (units s)[i]?.map .str
  | .arr items => (indexOf name).bind fun i => items[i]?
  | .obj props => Dict.find props name

/-- `v[name] = w`, for an object, or an array that has the index.  A property of an array
that is no index is not part of the JSON value. -/
def setProperty (v : Json) (name : String) (w : Json) : Json :=
  match v with
  | .obj props => .obj (Dict.assign props name w)
  | .arr items => .arr ((indexOf name).elim items fun i => items.set i w)
  | .null | .bool _ | .num _ | .str _ => v

/-- The properties that `{ ...v }` copies. -/
def ownProperties (v : Json) : Dict String Json :=
  match v with
  | .null | .bool _ | .num _ => []
  | .str s => (units s).zipIdx.map fun unit => (toString unit.2, .str unit.1)
  | .arr items => items.zipIdx.map fun item => (toString item.2, item.1)
  | .obj props => props

variable {units} {v w w' : Json} {name name' : String}

/-- Assigning one property leaves the others. -/
theorem property_setProperty_of_ne (h : name' ≠ name) :
    (v.setProperty name w).property units name' = v.property units name' := by
  cases v with
  | null | bool | num | str => rfl
  | obj props => exact Dict.find_assign_of_ne props h w
  | arr items =>
      show ((indexOf name').bind fun i =>
        ((indexOf name).elim items fun i => items.set i w)[i]?) = _
      cases hname : indexOf name with
      | none => rfl
      | some n =>
          show ((indexOf name').bind fun i => (items.set n w)[i]?) =
            (indexOf name').bind fun i => items[i]?
          cases hname' : indexOf name' with
          | none => rfl
          | some n' =>
              have hne : n ≠ n' := fun hn => h (eq_of_indexOf hname' (hn ▸ hname))
              exact List.getElem?_set_ne hne

/-- Assignments to different properties commute, if the value has one of them. -/
theorem setProperty_comm (h : name ≠ name') (hname : (v.property units name).isSome) :
    (v.setProperty name w).setProperty name' w' =
      (v.setProperty name' w').setProperty name w := by
  cases v with
  | null | bool | num | str => rfl
  | obj props => exact congrArg Json.obj (Dict.assign_comm h hname w w')
  | arr items =>
      refine congrArg Json.arr ?_
      cases hn : indexOf name with
      | none => rfl
      | some n =>
          cases hn' : indexOf name' with
          | none => rfl
          | some n' => exact List.set_comm _ _ fun he => h (eq_of_indexOf hn (he ▸ hn'))

end Json

end StayRide
