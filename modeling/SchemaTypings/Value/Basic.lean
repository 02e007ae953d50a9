import SchemaTypings.Decimal.Binary64
import SchemaTypings.Table

/-!
# Option values

The values that options may hold, as a configuration text spells them, with their truth, the name of
their kind, and the keys under which values count as the same.
-/

namespace SchemaTypings

inductive Value where
  | null
  | bool (b : Bool)
  | int (n : Int)
  | float (x : Binary64)
  | text (s : String)
  | list (items : List Value)
  | object (fields : List (String × Value))
  deriving Inhabited, Repr

mutual

/-- Whether two values are the same, part by part. -/
def Value.decEq (v w : Value) : Decidable (v = w) :=
  match v, w with
  | .null, .null => isTrue rfl
  | .bool b, .bool c => decidable_of_iff (b = c) (Value.bool.injEq b c ▸ Iff.rfl)
  | .int m, .int n => decidable_of_iff (m = n) (Value.int.injEq m n ▸ Iff.rfl)
  | .float x, .float y => decidable_of_iff (x = y) (Value.float.injEq x y ▸ Iff.rfl)
  | .text s, .text t => decidable_of_iff (s = t) (Value.text.injEq s t ▸ Iff.rfl)
  | .list items, .list others =>
    have := Value.decEqItems items others
    decidable_of_iff (items = others) (Value.list.injEq items others ▸ Iff.rfl)
  | .object fields, .object others =>
    have := Value.decEqFields fields others
    decidable_of_iff (fields = others) (Value.object.injEq fields others ▸ Iff.rfl)
  | .null, .bool _ | .null, .int _ | .null, .float _ | .null, .text _ | .null, .list _
  | .null, .object _ | .bool _, .null | .bool _, .int _ | .bool _, .float _ | .bool _, .text _
  | .bool _, .list _ | .bool _, .object _ | .int _, .null | .int _, .bool _ | .int _, .float _
  | .int _, .text _ | .int _, .list _ | .int _, .object _ | .float _, .null | .float _, .bool _
  | .float _, .int _ | .float _, .text _ | .float _, .list _ | .float _, .object _
  | .text _, .null | .text _, .bool _ | .text _, .int _ | .text _, .float _ | .text _, .list _
  | .text _, .object _ | .list _, .null | .list _, .bool _ | .list _, .int _ | .list _, .float _
  | .list _, .text _ | .list _, .object _ | .object _, .null | .object _, .bool _
  | .object _, .int _ | .object _, .float _ | .object _, .text _ | .object _, .list _ =>
    isFalse nofun

def Value.decEqItems (items others : List Value) : Decidable (items = others) :=
  match items, others with
  | [], [] => isTrue rfl
  | [], _ :: _ | _ :: _, [] => isFalse nofun
  | v :: items, w :: others =>
    have := Value.decEq v w
    have := Value.decEqItems items others
    decidable_of_iff (v = w ∧ items = others) (List.cons.injEq v items w others ▸ Iff.rfl)

def Value.decEqFields (fields others : List (String × Value)) : Decidable (fields = others) :=
  match fields, others with
  | [], [] => isTrue rfl
  | [], _ :: _ | _ :: _, [] => isFalse nofun
  | (key, v) :: fields, (other, w) :: others =>
    have := Value.decEq v w
    have := Value.decEqFields fields others
    decidable_of_iff ((key = other ∧ v = w) ∧ fields = others)
      (by rw [List.cons.injEq, Prod.mk.injEq])

end

instance : DecidableEq Value := Value.decEq

namespace Value

/-- Null, false, zero and everything empty are false; all else is true. -/
def truthy : Value → Bool
  | null => false
  | bool b => b
  | int n => n != 0
  | float x => !x.isZero
  | text s => !s.isEmpty
  | list items => !items.isEmpty
  | object fields => !fields.isEmpty

/-- How messages name the kind of a value. -/
def kindLabel : Value → String
  | null => "<class 'NoneType'>"
  | bool _ => "<class 'bool'>"
  | int _ => "<class 'int'>"
  | float _ => "<class 'float'>"
  | text _ => "<class 'str'>"
  | list _ => "<class 'list'>"
  | object _ => "<class 'dict'>"

def isNull : Value → Bool
  | null => true
  | _ => false

def asText? : Value → Option String
  | text s => some s
  | _ => none

def asObject? : Value → Option (List (String × Value))
  | object fields => some fields
  | _ => none

/-- The value if it is true, a default otherwise. -/
def orElse (v d : Value) : Value := if v.truthy then v else d

/-! ## Keys -/

/-- What a value counts as when it is used as a key. -/
inductive Key where
  | null
  | number (r : Rat)
  | infinite (negative : Bool)
  | nan
  | text (s : String)
  deriving DecidableEq

/-- What the truth values count as. -/
def Key.ofBool (b : Bool) : Key := .number (if b then 1 else 0)

/-- The truth of the values that count as a key. -/
def Key.truthy : Key → Bool
  | .null => false
  | .number r => r != 0
  | .infinite _ | .nan => true
  | .text s => !s.isEmpty

/-- Equal numbers are one key, whether truth values, integers or floats; lists and objects are none. -/
def key? : Value → Option Key
  | null => some .null
  | bool b => some (.ofBool b)
  | int n => some (.number n)
  | float x =>
    match x with
    | .nan => some .nan
    | .infinite negative => some (.infinite negative)
    | .finite .. => x.toRat?.map .number
  | text s => some (.text s)
  | list _ => none
  | object _ => none

end Value

end SchemaTypings
