import Mathlib.Data.List.Basic

/-! # JSON in org.json

Objects map names to values; to put null removes the name. What reads a value throws where the
name is missing, or has a default. -/

namespace OrgJson

inductive Json
  | str (s : String)
  | num (n : Int)
  | bool (b : Bool)
  | arr (items : List Json)
  | obj (fields : List (String × Json))

abbrev JSONObject := List (String × Json)

namespace JSONObject

/-- `put(name, value)`, which removes the name where the value is null. -/
def put (name : String) : Option Json → JSONObject → JSONObject
  | none, o => o.filter fun field => field.1 ≠ name
  | some v, [] => [(name, v)]
  | some v, (n, w) :: o => if n = name then (n, v) :: o else (n, w) :: put name (some v) o

theorem lookup_cons (n : String) (w : Json) (o : JSONObject) (m : String) :
    List.lookup m ((n, w) :: o) = if m = n then some w else o.lookup m := by
  rw [List.lookup_cons]
  by_cases h : m = n
  · simp [h]
  · rw [beq_false_of_ne h, if_neg h]

theorem lookup_put (o : JSONObject) (name : String) (value : Option Json) (m : String) :
    (put name value o).lookup m = if m = name then value else o.lookup m := by
  induction o with
  | nil =>
    cases value with
    | none => simp [put]
    | some v => rw [put, lookup_cons]
  | cons field o ih =>
    obtain ⟨n, w⟩ := field
    cases value with
    | none =>
      simp only [put] at ih ⊢
      by_cases hn : n = name
      · rw [List.filter_cons_of_neg (by simp [hn]), ih, lookup_cons, hn]
        split <;> rfl
      · rw [List.filter_cons_of_pos (by simp [hn]), lookup_cons, ih, lookup_cons]
        by_cases hm : m = n
        · rw [if_pos hm, if_neg (hm ▸ hn), if_pos hm]
        · rw [if_neg hm, if_neg hm]
    | some v =>
      rw [put]
      by_cases hn : n = name
      · rw [if_pos hn, lookup_cons, lookup_cons, hn]
        split <;> rfl
      · rw [if_neg hn, lookup_cons, ih, lookup_cons]
        by_cases hm : m = n
        · rw [if_pos hm, if_neg (hm ▸ hn), if_pos hm]
        · rw [if_neg hm, if_neg hm]

end JSONObject

/-! ## Reading

A value of another type than the one that is asked for is not converted here. -/

namespace Json

def asString : Json → Option String
  | .str s => some s
  | _ => none

def asLong : Json → Option Int
  | .num n => some n
  | _ => none

def asBoolean : Json → Option Bool
  | .bool b => some b
  | _ => none

def asArray : Json → Option (List Json)
  | .arr items => some items
  | _ => none

def asObject : Json → Option JSONObject
  | .obj o => some o
  | _ => none

@[simp] theorem asString_str (s : String) : (str s).asString = some s := rfl
@[simp] theorem asLong_num (n : Int) : (num n).asLong = some n := rfl
@[simp] theorem asBoolean_bool (b : Bool) : (bool b).asBoolean = some b := rfl
@[simp] theorem asArray_arr (items : List Json) : (arr items).asArray = some items := rfl
@[simp] theorem asObject_obj (o : JSONObject) : (obj o).asObject = some o := rfl

end Json

namespace JSONObject

def getString (o : JSONObject) (name : String) : Option String := (o.lookup name).bind Json.asString

def getLong (o : JSONObject) (name : String) : Option Int := (o.lookup name).bind Json.asLong

def getBoolean (o : JSONObject) (name : String) : Option Bool :=
  (o.lookup name).bind Json.asBoolean

/-- `optString`: a missing value is the empty text. -/
def optString (o : JSONObject) (name : String) : String := (o.getString name).getD ""

def optLong (o : JSONObject) (name : String) (fallback : Int) : Int :=
  (o.getLong name).getD fallback

def optBoolean (o : JSONObject) (name : String) (fallback : Bool) : Bool :=
  (o.getBoolean name).getD fallback

def optJSONArray (o : JSONObject) (name : String) : Option (List Json) :=
  (o.lookup name).bind Json.asArray

section Put

variable (o : JSONObject) (name : String) (value : Option Json) (m : String)

theorem bind_put {α : Type} (read : Json → Option α) :
    ((put name value o).lookup m).bind read =
      if m = name then value.bind read else (o.lookup m).bind read := by
  rw [lookup_put]
  split <;> rfl

@[simp] theorem getString_put : (put name value o).getString m =
    if m = name then value.bind Json.asString else o.getString m := bind_put o name value m _

@[simp] theorem getLong_put : (put name value o).getLong m =
    if m = name then value.bind Json.asLong else o.getLong m := bind_put o name value m _

@[simp] theorem getBoolean_put : (put name value o).getBoolean m =
    if m = name then value.bind Json.asBoolean else o.getBoolean m := bind_put o name value m _

@[simp] theorem optJSONArray_put : (put name value o).optJSONArray m =
    if m = name then value.bind Json.asArray else o.optJSONArray m := bind_put o name value m _

end Put

end JSONObject

/-- The text of an array of values, from which they are read again. -/
structure Codec where
  Text : Type
  toText : List Json → Text
  parse : Text → Option (List Json)
  faithful : ∀ items, parse (toText items) = some items

end OrgJson
