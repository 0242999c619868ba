import SecureGuard.Lib.CText
import SecureGuard.Lib.JsonReader
import SecureGuard.Ui.RuleIndex

/-! # Rules as a text

A list of rules is written as a JSON object with one array, and read back by a streaming reader
token after token. The rules that are read are added to those the list has; the reading stops at a
limit, and then expects the array to end there. -/

namespace SecureGuard.Ui
open Native (CStr cstr)
open CText (decimal isDigit)
open JsonReader

/-- The object of a rule; the names are not looked at. -/
def readRule (tokens : List (Token CStr)) : Except Thrown ((CStr × CStr) × List (Token CStr)) := do
  let tokens ← expect .beginObject tokens
  let (_, tokens) ← nextName tokens
  let (typ, tokens) ← nextString tokens
  let (_, tokens) ← nextName tokens
  let (val, tokens) ← nextString tokens
  let tokens ← expect .endObject tokens
  return ((typ, val), tokens)

/-! ## Rules -/

/-- `RuleType.valueOf`; `none` where it throws. -/
def RuleType.valueOf (typ : CStr) : Option RuleType :=
  [app, ip, host, protocol, country].find? fun tp => cstr tp.name = typ

/-- `Integer.parseInt`; `none` where it throws. -/
def parseInt (s : CStr) : Option Int :=
  let digits := if s.head? = some 45 ∨ s.head? = some 43 then s.tail else s
  let n : Int := if s.head? = some 45 then -(decimal digits : Int) else decimal digits
  if digits ≠ [] ∧ digits.all isDigit = true ∧ -0x80000000 ≤ n ∧ n < 0x80000000 then some n
  else none

/-- The package of an app rule, and whether it is another text than the value; `none` for a uid
without an app. -/
def migrateApp (r : Resolver) (val : CStr) : Option (CStr × Bool) :=
  let byUid := (parseInt val).elim (some (val, false)) fun uid =>
    (r.getAppByUid uid).map fun app => (app.packageName, true)
  byUid.map fun found =>
    (r.getAppByPackage found.1).elim found fun app =>
      if app.packageName ≠ found.1 then (app.packageName, true) else found

/-- The rule of an object, and whether it has migrated. -/
def ruleOf (r : Resolver) (typ val : CStr) : Option (Rule × Bool) :=
  let type := (RuleType.valueOf typ).elim
    (if typ = cstr "ROOT_DOMAIN" then some (RuleType.host, true) else none)
    fun tp => some (tp, false)
  type.bind fun found =>
    if found.1 = .app then
      (migrateApp r val).map fun app => (⟨.app, app.1⟩, found.2 || app.2)
    else some (⟨found.1, val⟩, found.2)

/-! ## Reading -/

/-- The list while it is read: `num_rules`, and `mMigration`. -/
structure Import where
  list : MatchList
  numRules : Nat
  migration : Bool

/-- A rule is added to the list, if it is one. -/
def Import.add (r : Resolver) (s : Import) (typ val : CStr) : Import :=
  (ruleOf r typ val).elim s fun rule =>
    (s.list.addRule r.toEnv rule.1).elim { s with migration := s.migration || rule.2 } fun list =>
      ⟨list, s.numRules + 1, s.migration || rule.2⟩

/-- A rule has been added, and with it the limit is reached. -/
def atLimit (maxRules : Int) (before after : Import) : Bool :=
  before.numRules < after.numRules && 0 < maxRules && maxRules ≤ after.numRules

/-- The loop over the array; every round takes a token at least. -/
def readRules (r : Resolver) (maxRules : Int) :
    Nat → Import → List (Token CStr) → Import × Except Thrown (List (Token CStr))
  | 0, s, tokens => (s, .ok tokens)
  | fuel + 1, s, tokens =>
    if tokens = [] then (s, .error .io)
    else if tokens.head? = some .beginObject then
      match readRule tokens with
      | .error e => (s, .error e)
      | .ok ((typ, val), tokens) =>
        if atLimit maxRules s (s.add r typ val) then (s.add r typ val, .ok tokens)
        else readRules r maxRules fuel (s.add r typ val) tokens
    else (s, .ok tokens)

/-- The array of the rules and the end of the object, after the name `rules`. -/
def readArray (r : Resolver) (maxRules : Int) (s : Import) (tokens : List (Token CStr)) :
    Import × Except Thrown Unit :=
  if tokens.head? = some .null then (s, (expect .endObject tokens).map fun _ => ())
  else
    match expect .beginArray tokens with
    | .error e => (s, .error e)
    | .ok tokens =>
      let read := readRules r maxRules tokens.length s tokens
      (read.1, do
        let tokens ← expect .endArray (← read.2)
        let _ ← expect .endObject tokens
        return ())

/-- The result of reading: `num_rules`, or that of the exception. -/
def returned (numRules : Nat) : Except Thrown Unit → Int
  | .ok _ => numRules
  | .error .io => numRules
  | .error .illegalState => -1

/-- `fromJson`, with the list, `mMigration` and what it returns. -/
def MatchList.fromJson (r : Resolver) (m : MatchList) (migration : Bool)
    (tokens : List (Token CStr)) (maxRules : Int) : MatchList × Bool × Int :=
  match expect .beginObject tokens with
  | .error e => (m, migration, returned 0 (.error e))
  | .ok tokens =>
    match nextName tokens with
    | .error e => (m, migration, returned 0 (.error e))
    | .ok (ru, tokens) =>
      if ru ≠ cstr "rules" then (m, migration, -1)
      else
        let read := readArray r maxRules ⟨m, 0, migration⟩ tokens
        (read.1.list, read.1.migration, returned read.1.numRules read.2)

/-! ## Texts of rules -/

/-- The text of a member. -/
def textOf (members : List (CStr × Json CStr)) (name : CStr) : Option CStr :=
  (members.lookup name).bind Json.text?

/-- An element of the array has a `type` and a `value`, in any order and with any other members. -/
structure RuleObject where
  members : List (CStr × Json CStr)
  distinct : (members.map (·.1)).Nodup
  hasType : (textOf members (cstr "type")).isSome
  hasValue : (textOf members (cstr "value")).isSome

def RuleObject.type (o : RuleObject) : CStr := (textOf o.members (cstr "type")).get o.hasType

def RuleObject.value (o : RuleObject) : CStr := (textOf o.members (cstr "value")).get o.hasValue

/-- A text of rules has an array of rules or `null` for the name `rules`, in any order and with any
other members. -/
structure RuleText where
  before : List (CStr × Json CStr)
  rules : Option (List RuleObject)
  after : List (CStr × Json CStr)
  distinct : (before.map (·.1) ++ cstr "rules" :: after.map (·.1)).Nodup

def RuleText.json (text : RuleText) : Json CStr :=
  .object (text.before ++ (cstr "rules", text.rules.elim .null fun rules =>
    .array (rules.map fun o => .object o.members)) :: text.after)

/-- The `Serializer`: an element. -/
def Rule.serialize (rule : Rule) : RuleObject where
  members := [(cstr "type", .string (cstr rule.type.name)), (cstr "value", .string rule.value)]
  distinct := by simp; decide
  hasType := rfl
  hasValue := rfl

/-- The `Serializer`. -/
def MatchList.toJson (m : MatchList) : RuleText where
  before := []
  rules := some (m.mRules.map Rule.serialize)
  after := []
  distinct := List.nodup_singleton _

/-- `reload`: the list, and the preference, `none` for an empty one. -/
def MatchList.reload (r : Resolver) (m : MatchList) (migration : Bool)
    (serialized : Option RuleText) : MatchList × Option RuleText :=
  serialized.elim (m.clear, none) fun text =>
    let read := m.fromJson r migration text.json.tokens (-1)
    (read.1, if read.2.1 then some read.1.toJson else some text)

end SecureGuard.Ui
