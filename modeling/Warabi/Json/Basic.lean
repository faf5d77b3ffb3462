import Warabi.Basic
import Warabi.Json.Number
import Mathlib.Data.String.Basic
import Mathlib.Data.List.Sort

/-! JSON documents as `nlohmann::json` holds them, and the member functions the provider
calls on them: `contains`, `value`, `get`, `get_ref`, `operator[]` and `update`. An object is a
`std::map`, so its members are kept sorted by key. -/
namespace Warabi

inductive Json where
  | null
  | boolean (b : Bool)
  | number (n : Json.Number)
  | string (s : String)
  | array (elements : List Json)
  | object (members : List (String × Json))
deriving Repr, Inhabited

namespace Json

mutual
def decEq : (a b : Json) → Decidable (a = b)
  | null, null => isTrue rfl
  | boolean a, boolean b => if h : a = b then isTrue (h ▸ rfl) else isFalse (fun e => h (boolean.inj e))
  | number a, number b => if h : a = b then isTrue (h ▸ rfl) else isFalse (fun e => h (number.inj e))
  | string a, string b => if h : a = b then isTrue (h ▸ rfl) else isFalse (fun e => h (string.inj e))
  | array a, array b =>
    match decEqElements a b with
    | isTrue h => isTrue (h ▸ rfl)
    | isFalse h => isFalse (fun e => h (array.inj e))
  | object a, object b =>
    match decEqMembers a b with
    | isTrue h => isTrue (h ▸ rfl)
    | isFalse h => isFalse (fun e => h (object.inj e))
  | null, boolean _ | null, number _ | null, string _ | null, array _ | null, object _
  | boolean _, null | boolean _, number _ | boolean _, string _ | boolean _, array _
  | boolean _, object _ | number _, null | number _, boolean _ | number _, string _
  | number _, array _ | number _, object _ | string _, null | string _, boolean _
  | string _, number _ | string _, array _ | string _, object _ | array _, null
  | array _, boolean _ | array _, number _ | array _, string _ | array _, object _
  | object _, null | object _, boolean _ | object _, number _ | object _, string _
  | object _, array _ => isFalse Json.noConfusion
def decEqElements : (a b : List Json) → Decidable (a = b)
  | [], [] => isTrue rfl
  | x :: xs, y :: ys =>
    match decEq x y, decEqElements xs ys with
    | isTrue h, isTrue t => isTrue (h ▸ t ▸ rfl)
    | isFalse h, _ => isFalse (fun e => h (List.cons.inj e).1)
    | _, isFalse t => isFalse (fun e => t (List.cons.inj e).2)
  | [], _ :: _ | _ :: _, [] => isFalse List.noConfusion
def decEqMembers : (a b : List (String × Json)) → Decidable (a = b)
  | [], [] => isTrue rfl
  | (k,x) :: xs, (l,y) :: ys =>
    if key : k = l then
      match decEq x y, decEqMembers xs ys with
      | isTrue h, isTrue t => isTrue (key ▸ h ▸ t ▸ rfl)
      | isFalse h, _ => isFalse (fun e => h (Prod.mk.inj (List.cons.inj e).1).2)
      | _, isFalse t => isFalse (fun e => t (List.cons.inj e).2)
    else isFalse (fun e => key (Prod.mk.inj (List.cons.inj e).1).1)
  | [], _ :: _ | _ :: _, [] => isFalse List.noConfusion
end

instance : DecidableEq Json := decEq

def typeName : Json → String
  | null => "null"
  | boolean _ => "boolean"
  | number _ => "number"
  | string _ => "string"
  | array _ => "array"
  | object _ => "object"

def typeError (id : Nat) (message : String) : Exception :=
  ⟨"[json.exception.type_error." ++ toString id ++ "] " ++ message⟩

/-- `operator[](key) = v` on a `std::map`: the member is replaced, or inserted in key order
(`std::string`'s `<`, compared on the characters so that it evaluates). -/
def insertMember (key : String) (v : Json) : List (String × Json) → List (String × Json)
  | [] => [(key,v)]
  | (k,w) :: members =>
    if key.data < k.data then (key,v) :: (k,w) :: members
    else if key = k then (key,v) :: members
    else (k,w) :: insertMember key v members

def contains : Json → String → Bool
  | object members, key => (members.lookup key).isSome
  | _, _ => false

def getString : Json → Except Exception String
  | string s => .ok s
  | j => .error (typeError 302 ("type must be string, but is " ++ j.typeName))

def getRefString : Json → Except Exception String
  | string s => .ok s
  | j => .error (typeError 303 ("incompatible ReferenceType for get_ref, actual type is " ++ j.typeName))

/-- `value(key, default)` with a `json` default. -/
def value (j : Json) (key : String) (default : Json) : Except Exception Json :=
  match j with
  | object members => .ok ((members.lookup key).getD default)
  | _ => .error (typeError 306 ("cannot use value() with " ++ j.typeName))

/-- `value(key, default)` with a string default: a member that is there is read with
`get<std::string>()`. -/
def valueString (j : Json) (key : String) (default : String) : Except Exception String :=
  match j with
  | object members =>
    match members.lookup key with
    | some v => v.getString
    | none => .ok default
  | _ => .error (typeError 306 ("cannot use value() with " ++ j.typeName))

/-- `operator[](key)` used to read. A missing member reads as null: nlohmann inserts one,
which no caller here observes. -/
def index (j : Json) (key : String) : Except Exception Json :=
  match j with
  | null => .ok null
  | object members => .ok ((members.lookup key).getD null)
  | _ => .error (typeError 305 ("cannot use operator[] with a string argument with " ++ j.typeName))

/-- `operator[](key) = v`; a null document first becomes an empty object. -/
def set (j : Json) (key : String) (v : Json) : Except Exception Json :=
  match j with
  | null => .ok (object [(key,v)])
  | object members => .ok (object (insertMember key v members))
  | _ => .error (typeError 305 ("cannot use operator[] with a string argument with " ++ j.typeName))

mutual
/-- `update(other, true)`: every member of `other` overwrites the target's, except that an
object member merges into an object already there. A null target is an empty object. -/
def update (target : Json) : Json → Except Exception Json
  | object others =>
    match target with
    | null => (updateMembers [] others).map object
    | object members => (updateMembers members others).map object
    | _ => .error (typeError 312 ("cannot use update() with " ++ target.typeName))
  | other =>
    match target with
    | null | object _ => .error (typeError 312 ("cannot use update() with " ++ other.typeName))
    | _ => .error (typeError 312 ("cannot use update() with " ++ target.typeName))
def updateMembers (members : List (String × Json)) :
    List (String × Json) → Except Exception (List (String × Json))
  | [] => .ok members
  | (key,v) :: others =>
    match v, members.lookup key with
    | object _, some old => do
      let merged ← update old v
      updateMembers (insertMember key merged members) others
    | _, _ => updateMembers (insertMember key v members) others
end

/-- A number whose text reads back as itself: an unsigned one, or a negative `int64_t` (the
parser stores a non-negative integer as unsigned). A `double` is left out, since that `strtod`
reads Grisu2's digits back to the same `double` is not proved here. -/
def Number.Canonical : Number → Prop
  | .unsigned _ => True
  | .integer n => n.toInt < 0
  | .float _ => False

mutual
/-- Every object of the document has its members in strictly increasing key order, as a
`std::map` does, and every number reads back as itself. -/
def Canonical : Json → Prop
  | number n => n.Canonical
  | array elements => CanonicalElements elements
  | object members => (members.map Prod.fst).Sorted (· < ·) ∧ CanonicalMembers members
  | _ => True
def CanonicalElements : List Json → Prop
  | [] => True
  | j :: js => Canonical j ∧ CanonicalElements js
def CanonicalMembers : List (String × Json) → Prop
  | [] => True
  | (_,j) :: ms => Canonical j ∧ CanonicalMembers ms
end

end Json

end Warabi
