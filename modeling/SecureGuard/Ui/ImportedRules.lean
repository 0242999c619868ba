import SecureGuard.Ui.RuleImport

/-! # What a text of rules leaves in a list

A text is to leave a list with the rules it encodes, up to the limit, and to return their number.
But the list is not cleared first, and where the limit is reached before the last element the
reader does not find the end of the array. Nor does the reader look at names. -/

namespace SecureGuard.Ui
open Native (CStr cstr)
open JsonReader
open Machine

/-! ## What is to hold -/

/-- Each rule once that is not seen before. -/
def unseen (seen : List Rule) : List Rule → List Rule
  | [] => []
  | rule :: rules =>
    if rule ∈ seen then unseen seen rules else rule :: unseen (seen ++ [rule]) rules

/-- The rules of types and values, without those of unknown types, of apps that do not resolve and
of ranges that do not parse. -/
def acceptedRules (r : Resolver) (rules : List (CStr × CStr)) : List Rule :=
  (rules.filterMap fun rule => (ruleOf r rule.1 rule.2).map (·.1)).filter (accepts r.toEnv)

/-- The first rules, as many as the limit allows. -/
def upTo (maxRules : Int) (rules : List Rule) : List Rule :=
  if 0 < maxRules then rules.take maxRules.toNat else rules

/-- The rules a text encodes. -/
def RuleText.encoded (r : Resolver) (maxRules : Int) (text : RuleText) : List Rule :=
  upTo maxRules (unseen [] (acceptedRules r
    ((text.rules.getD []).map fun o => (o.type, o.value))))

/-- The list has the rules the text encodes, and their number is returned. -/
structure Imported (r : Resolver) (m : MatchList) (migration : Bool) (text : RuleText)
    (maxRules : Int) : Prop where
  rules : (m.fromJson r migration text.json.tokens maxRules).1.mRules = text.encoded r maxRules
  number : (m.fromJson r migration text.json.tokens maxRules).2.2 =
    (text.encoded r maxRules).length

/-- The two texts as they stand, for a type and a value. -/
def RuleObject.inOrder (o : RuleObject) : CStr × CStr :=
  if o.members.head?.map (·.1) = some (cstr "type") then (o.type, o.value) else (o.value, o.type)

/-- No element has other members. Those before the last have fewer rules than the limit, and all
have the rules of the text if the names are not looked at. -/
def RuleText.fitting (r : Resolver) (maxRules : Int) (text : RuleText) (rules : List RuleObject) :
    Bool :=
  rules.all (fun o => o.members.length = 2) &&
  (maxRules ≤ 0 ||
    ((unseen [] (acceptedRules r (rules.dropLast.map (·.inOrder)))).length : Int) < maxRules) &&
  unseen [] (acceptedRules r (rules.map (·.inOrder))) = text.encoded r maxRules

/-- There is an array and no other member. -/
def RuleText.fits (r : Resolver) (maxRules : Int) (text : RuleText) : Bool :=
  text.before.isEmpty && text.after.isEmpty && text.rules.any (text.fitting r maxRules)

/-- Every rule is accepted still, and an app resolves to its package. -/
def MatchList.Resolves (r : Resolver) (m : MatchList) : Prop :=
  ∀ rule ∈ m.mRules, accepts r.toEnv rule = true ∧
    (rule.type = .app → (migrateApp r rule.value).map (·.1) = some rule.value)

/-! ## The loop -/

/-- The loop over the elements, with those it leaves. -/
def addRules (r : Resolver) (maxRules : Int) :
    Import → List RuleObject → Import × List RuleObject
  | s, [] => (s, [])
  | s, o :: rules =>
    if o.members.length = 2 then
      if atLimit maxRules s (s.add r o.inOrder.1 o.inOrder.2) then
        (s.add r o.inOrder.1 o.inOrder.2, rules)
      else addRules r maxRules (s.add r o.inOrder.1 o.inOrder.2) rules
    else (s, o :: rules)

/-! ## An element -/

namespace RuleObject

variable {o : RuleObject}

theorem textOf_type (o : RuleObject) : textOf o.members (cstr "type") = some o.type :=
  (Option.some_get o.hasType).symm

theorem textOf_value (o : RuleObject) : textOf o.members (cstr "value") = some o.value :=
  (Option.some_get o.hasValue).symm

theorem textOf_cons (name n : CStr) (value : Json CStr) (members : List (CStr × Json CStr)) :
    textOf ((n, value) :: members) name =
      if name = n then value.text? else textOf members name := by
  rw [textOf, List.lookup_cons]
  by_cases hname : name = n
  · rw [if_pos hname, beq_iff_eq.mpr hname]
    rfl
  · rw [if_neg hname, beq_eq_false_iff_ne.mpr hname]
    rfl

/-- Two members are the type and the value. -/
theorem texts_of_two {n n' : CStr} {value value' : Json CStr}
    (h : o.members = [(n, value), (n', value')]) :
    value.text? = some o.inOrder.1 ∧ value'.text? = some o.inOrder.2 := by
  have hne : cstr "value" ≠ cstr "type" := by decide
  have htype := o.textOf_type
  have hvalue := o.textOf_value
  have hnil : ∀ name, textOf [] name = none := fun _ => rfl
  rw [h, textOf_cons, textOf_cons, hnil] at htype hvalue
  have horder : o.inOrder =
      if n = cstr "type" then (o.type, o.value) else (o.value, o.type) := by
    simp [inOrder, h]
  rw [horder]
  by_cases hn : n = cstr "type"
  · rw [if_pos hn.symm] at htype
    rw [hn, if_neg hne] at hvalue
    rw [if_pos hn]
    refine ⟨htype, ?_⟩
    split at hvalue
    · exact hvalue
    · cases hvalue
  · rw [if_neg (Ne.symm hn)] at htype
    rw [if_neg hn]
    split at htype
    · rename_i hn'
      rw [← hn', if_neg hne] at hvalue
      refine ⟨?_, htype⟩
      split at hvalue
      · exact hvalue
      · cases hvalue
    · cases htype

/-- The reader takes two texts, and expects the object to end there. -/
theorem readRule_tokens (o : RuleObject) (tokens : List (Token CStr)) :
    readRule ((Json.object o.members).tokens ++ tokens) =
      if o.members.length = 2 then .ok (o.inOrder, tokens) else .error .illegalState := by
  match h : o.members with
  | [] => rfl
  | [(n, value)] =>
    simp only [Json.tokens, memberTokens, readRule, List.cons_append, List.append_assoc,
      List.nil_append, expect_cons, nextName_cons, nextString_tokens, bind, Except.bind]
    cases value.text? with
    | none => rfl
    | some typ => rfl
  | [(n, value), (n', value')] =>
    obtain ⟨htyp, hval⟩ := texts_of_two h
    simp [Json.tokens, memberTokens, readRule, nextString_tokens, htyp, hval, bind, Except.bind,
      pure, Except.pure]
  | (n, value) :: (n', value') :: (n'', value'') :: members =>
    simp only [Json.tokens, memberTokens, readRule, List.cons_append, List.append_assoc,
      expect_cons, nextName_cons, nextString_tokens, bind, Except.bind]
    cases value.text? with
    | none => rfl
    | some typ =>
      simp only [Option.elim_some, nextName_cons, nextString_tokens]
      cases value'.text? with
      | none => rfl
      | some val => rfl

end RuleObject

/-! ## The tokens of the text -/

def ruleTokens (rules : List RuleObject) : List (Token CStr) :=
  elementTokens (rules.map fun o => .object o.members)

theorem ruleTokens_cons (o : RuleObject) (rules : List RuleObject) :
    ruleTokens (o :: rules) = (Json.object o.members).tokens ++ ruleTokens rules := rfl

theorem length_le_ruleTokens (rules : List RuleObject) :
    rules.length ≤ (ruleTokens rules).length := by
  induction rules with
  | nil => exact Nat.le_refl 0
  | cons o rules ih =>
    rw [ruleTokens_cons, Json.tokens, List.cons_append, List.length_cons, List.length_cons,
      List.length_append]
    omega

/-- The reader goes through the elements of an array, and expects its end where it stops. -/
theorem readRules_tokens (r : Resolver) (maxRules : Int) {fuel : Nat} (s : Import)
    (rules : List RuleObject) (hfuel : rules.length < fuel) (tokens : List (Token CStr)) :
    (readRules r maxRules fuel s (ruleTokens rules ++ .endArray :: tokens)).1 =
        (addRules r maxRules s rules).1 ∧
      ((readRules r maxRules fuel s (ruleTokens rules ++ .endArray :: tokens)).2 >>=
          expect .endArray) =
        if (addRules r maxRules s rules).2 = [] then .ok tokens else .error .illegalState := by
  induction rules generalizing s fuel with
  | nil =>
    obtain ⟨fuel, rfl⟩ := Nat.exists_eq_succ_of_ne_zero (Nat.ne_of_gt (Nat.zero_lt_of_lt hfuel))
    exact ⟨rfl, expect_cons Token.endArray tokens⟩
  | cons o rules ih =>
    obtain ⟨fuel, rfl⟩ := Nat.exists_eq_succ_of_ne_zero (Nat.ne_of_gt (Nat.zero_lt_of_lt hfuel))
    have hhead : ∀ tokens, ((Json.object o.members).tokens ++ tokens).head? =
      some Token.beginObject := fun _ => rfl
    have hne : ∀ tokens, (Json.object o.members).tokens ++ tokens ≠ [] := fun _ => nofun
    rw [ruleTokens_cons, List.append_assoc, readRules, if_neg (hne _), if_pos (hhead _),
      RuleObject.readRule_tokens, addRules]
    by_cases htwo : o.members.length = 2
    · rw [if_pos htwo, if_pos htwo]
      dsimp only
      split
      · cases rules with
        | nil => exact ⟨rfl, expect_cons Token.endArray tokens⟩
        | cons o' rules => exact ⟨rfl, rfl⟩
      · exact ih _ (Nat.lt_of_succ_lt_succ hfuel)
    · rw [if_neg htwo, if_neg htwo]
      exact ⟨rfl, rfl⟩

/-- The array ends where no element is left, and the object where no member is. -/
theorem readArray_tokens (r : Resolver) (maxRules : Int) (s : Import) (rules : List RuleObject)
    (after : List (CStr × Json CStr)) :
    readArray r maxRules s
        (.beginArray :: (ruleTokens rules ++ .endArray :: (memberTokens after ++ [.endObject]))) =
      ((addRules r maxRules s rules).1,
        if (addRules r maxRules s rules).2 = [] ∧ after = [] then .ok ()
        else .error .illegalState) := by
  have hfuel : rules.length <
      (ruleTokens rules ++ Token.endArray :: (memberTokens after ++ [Token.endObject])).length := by
    have hle := length_le_ruleTokens rules
    rw [List.length_append, List.length_cons]
    omega
  obtain ⟨hstate, hend⟩ := readRules_tokens r maxRules s rules hfuel
    (memberTokens after ++ [.endObject])
  rw [readArray, if_neg (by simp), expect_cons]
  dsimp only
  rw [← bind_assoc, hend, hstate]
  by_cases hleft : (addRules r maxRules s rules).2 = []
  · rw [if_pos hleft]
    cases after with
    | nil => rw [if_pos ⟨hleft, rfl⟩]; rfl
    | cons member after => rw [if_neg (by simp)]; rfl
  · rw [if_neg hleft, if_neg fun h => hleft h.1]
    rfl

/-- What `fromJson` does with a text: where the array comes first its rules are added, and nothing
may be left then. -/
theorem fromJson_tokens (r : Resolver) (m : MatchList) (migration : Bool) (text : RuleText)
    (maxRules : Int) :
    m.fromJson r migration text.json.tokens maxRules =
      if text.before = [] then
        text.rules.elim (m, migration, -1) fun rules =>
          ((addRules r maxRules ⟨m, 0, migration⟩ rules).1.list,
            (addRules r maxRules ⟨m, 0, migration⟩ rules).1.migration,
            if (addRules r maxRules ⟨m, 0, migration⟩ rules).2 = [] ∧ text.after = [] then
              ((addRules r maxRules ⟨m, 0, migration⟩ rules).1.numRules : Int) else -1)
      else (m, migration, -1) := by
  obtain ⟨before, rules, after, hdistinct⟩ := text
  cases before with
  | nil =>
    rw [if_pos rfl, RuleText.json, List.nil_append, Json.tokens, memberTokens, MatchList.fromJson,
      expect_cons]
    simp only [List.cons_append, nextName_cons, ne_eq, not_true_eq_false, if_false]
    cases rules with
    | none => rfl
    | some rules =>
      have hvalue : (Json.array (rules.map fun o => .object o.members)).tokens =
        .beginArray :: (ruleTokens rules ++ [.endArray]) := by rw [Json.tokens, ruleTokens]
      simp only [Option.elim_some, hvalue, List.cons_append, List.append_assoc, List.nil_append,
        readArray_tokens]
      split <;> rfl
  | cons member before =>
    obtain ⟨name, value⟩ := member
    have hname : name ≠ cstr "rules" := by
      intro hname
      rw [hname, List.map_cons, List.cons_append, List.nodup_cons] at hdistinct
      exact hdistinct.1 (List.mem_append_right _ List.mem_cons_self)
    rw [if_neg (by simp), RuleText.json, List.cons_append, Json.tokens, memberTokens,
      MatchList.fromJson, List.cons_append, expect_cons]
    exact if_pos hname

/-! ## The rules that are added -/

theorem unseen_append (seen rules rules' : List Rule) :
    unseen seen (rules ++ rules') =
      unseen seen rules ++ unseen (seen ++ unseen seen rules) rules' := by
  induction rules generalizing seen with
  | nil => rw [unseen, List.append_nil, List.nil_append, List.nil_append]
  | cons rule rules ih =>
    rw [List.cons_append, unseen, unseen]
    split
    · exact ih seen
    · rw [ih, List.cons_append, List.append_assoc, List.singleton_append]

/-- Of different rules those that are not seen. -/
theorem unseen_of_nodup {rules : List Rule} (h : rules.Nodup) (seen : List Rule) :
    unseen seen rules = rules.filter (· ∉ seen) := by
  induction rules generalizing seen with
  | nil => rfl
  | cons rule rules ih =>
    obtain ⟨hrule, hrules⟩ := List.nodup_cons.mp h
    rw [unseen, ih hrules, ih hrules]
    split
    · rename_i hmem
      rw [List.filter_cons_of_neg (by simpa using hmem)]
    · rename_i hmem
      rw [List.filter_cons_of_pos (by simpa using hmem)]
      refine congrArg (rule :: ·) (List.filter_congr fun x hx => ?_)
      have hne : x ≠ rule := fun heq => hrule (heq ▸ hx)
      simp [hne]

theorem acceptedRules_cons (r : Resolver) (rule : CStr × CStr) (rules : List (CStr × CStr)) :
    acceptedRules r (rule :: rules) = acceptedRules r [rule] ++ acceptedRules r rules := by
  rw [acceptedRules, acceptedRules, acceptedRules, ← List.filter_append, ← List.filterMap_append,
    List.singleton_append]

namespace Import

/-- The rules are added, and counted. -/
structure Adds (s s' : Import) (added : List Rule) : Prop where
  rules : s'.list.mRules = s.list.mRules ++ added
  number : s'.numRules = s.numRules + added.length

theorem Adds.trans {s s' s'' : Import} {added added' : List Rule} (h : s.Adds s' added)
    (h' : s'.Adds s'' added') : s.Adds s'' (added ++ added') where
  rules := by rw [h'.rules, h.rules, List.append_assoc]
  number := by rw [h'.number, h.number, List.length_append, Nat.add_assoc]

/-- A rule is added that is accepted and not in the list. -/
theorem adds_add (r : Resolver) (s : Import) (rule : CStr × CStr) :
    s.Adds (s.add r rule.1 rule.2) (unseen s.list.mRules (acceptedRules r [rule])) := by
  rw [add, acceptedRules]
  cases hrule : ruleOf r rule.1 rule.2 with
  | none =>
    rw [List.filterMap_cons, hrule]
    exact ⟨(List.append_nil _).symm, rfl⟩
  | some found =>
    have hfound :
        ([rule].filterMap fun rule => (ruleOf r rule.1 rule.2).map (·.1)) = [found.1] := by
      rw [List.filterMap_cons, hrule]
      rfl
    rw [hfound, Option.elim_some, MatchList.addRule]
    by_cases hmem : found.1 ∈ s.list.mRules
    · rw [dif_pos (MatchList.containsKey_iff.mpr hmem)]
      have hunseen : unseen s.list.mRules ([found.1].filter (accepts r.toEnv)) = [] := by
        rw [List.filter_singleton]
        cases accepts r.toEnv found.1 with
        | true => exact if_pos hmem
        | false => rfl
      rw [hunseen]
      exact ⟨(List.append_nil _).symm, rfl⟩
    · have haccepts := isSome_register r.toEnv s.list.index found.1
      rw [dif_neg (mt MatchList.containsKey_iff.mp hmem), List.filter_singleton, ← haccepts]
      cases s.list.index.register r.toEnv found.1 with
      | none => exact ⟨(List.append_nil _).symm, rfl⟩
      | some index =>
        have hunseen : unseen s.list.mRules [found.1] = [found.1] := if_neg hmem
        rw [Option.isSome_some, cond_true, hunseen]
        exact ⟨rfl, rfl⟩

end Import

/-- If no element is left, the rules of all are added. -/
theorem adds_addRules {r : Resolver} {maxRules : Int} {s : Import} {rules : List RuleObject}
    (h : (addRules r maxRules s rules).2 = []) :
    s.Adds (addRules r maxRules s rules).1
      (unseen s.list.mRules (acceptedRules r (rules.map (·.inOrder)))) := by
  induction rules generalizing s with
  | nil => exact ⟨(List.append_nil _).symm, rfl⟩
  | cons o rules ih =>
    have hadd := s.adds_add r o.inOrder
    rw [List.map_cons, acceptedRules_cons, unseen_append, ← hadd.rules]
    rw [addRules] at h ⊢
    split at h
    · rename_i htwo
      rw [if_pos htwo]
      split at h
      · rename_i hlimit
        rw [if_pos hlimit]
        have hrules : rules = [] := h
        subst hrules
        exact hadd.trans ⟨(List.append_nil _).symm, rfl⟩
      · rename_i hlimit
        rw [if_neg hlimit]
        exact hadd.trans (ih h)
    · cases h

/-- The number of rules before the last element, counted from the start or from the second. -/
theorem length_unseen_dropLast (r : Resolver) (s : Import) (o o' : RuleObject)
    (rules : List RuleObject) :
    s.numRules + (unseen s.list.mRules
        (acceptedRules r ((o :: o' :: rules).dropLast.map (·.inOrder)))).length =
      (s.add r o.inOrder.1 o.inOrder.2).numRules +
        (unseen (s.add r o.inOrder.1 o.inOrder.2).list.mRules
          (acceptedRules r ((o' :: rules).dropLast.map (·.inOrder)))).length := by
  have hadd := s.adds_add r o.inOrder
  rw [List.dropLast_cons_cons, List.map_cons, acceptedRules_cons, unseen_append,
    List.length_append, ← Nat.add_assoc, ← hadd.number, ← hadd.rules]

theorem atLimit_iff {maxRules : Int} {s s' : Import} : atLimit maxRules s s' = true ↔
    s.numRules < s'.numRules ∧ 0 < maxRules ∧ maxRules ≤ s'.numRules := by
  rw [atLimit, Bool.and_eq_true, Bool.and_eq_true, decide_eq_true_eq, decide_eq_true_eq,
    decide_eq_true_eq, and_assoc]

/-- An element is left if one has other members, or the limit is reached before the last. -/
theorem addRules_left_iff (r : Resolver) {maxRules : Int} (s : Import)
    (hlimit : 0 < maxRules → (s.numRules : Int) < maxRules) (rules : List RuleObject) :
    (addRules r maxRules s rules).2 = [] ↔
      (∀ o ∈ rules, o.members.length = 2) ∧ (0 < maxRules → ((s.numRules +
        (unseen s.list.mRules (acceptedRules r (rules.dropLast.map (·.inOrder)))).length : Nat) :
          Int) < maxRules) := by
  induction rules generalizing s with
  | nil => exact ⟨fun _ => ⟨nofun, hlimit⟩, fun _ => rfl⟩
  | cons o rules ih =>
    rw [addRules, List.forall_mem_cons]
    by_cases htwo : o.members.length = 2
    · rw [if_pos htwo]
      by_cases hfull : atLimit maxRules s (s.add r o.inOrder.1 o.inOrder.2) = true
      · obtain ⟨-, hpos, hle⟩ := atLimit_iff.mp hfull
        rw [if_pos hfull]
        cases rules with
        | nil => exact ⟨fun _ => ⟨⟨htwo, nofun⟩, hlimit⟩, fun _ => rfl⟩
        | cons o' rules =>
          refine ⟨nofun, fun h => ?_⟩
          have hfew := h.2 hpos
          have hlength := length_unseen_dropLast r s o o' rules
          omega
      · have hnumber := (s.adds_add r o.inOrder).number
        have hlimit' : 0 < maxRules →
            ((s.add r o.inOrder.1 o.inOrder.2).numRules : Int) < maxRules := by
          intro hpos
          have hbefore := hlimit hpos
          rw [atLimit_iff] at hfull
          omega
        rw [if_neg hfull, ih _ hlimit']
        cases rules with
        | nil => exact ⟨fun _ => ⟨⟨htwo, nofun⟩, hlimit⟩, fun _ => ⟨nofun, hlimit'⟩⟩
        | cons o' rules => rw [length_unseen_dropLast r s o o' rules, and_iff_right htwo]
    · rw [if_neg htwo]
      simp [htwo]

/-- Into an empty list. -/
theorem addRules_left_empty_iff (r : Resolver) (maxRules : Int) {m : MatchList}
    (hempty : m.mRules = []) (migration : Bool) (rules : List RuleObject) :
    (addRules r maxRules ⟨m, 0, migration⟩ rules).2 = [] ↔
      (∀ o ∈ rules, o.members.length = 2) ∧ (0 < maxRules → ((unseen []
        (acceptedRules r (rules.dropLast.map (·.inOrder)))).length : Int) < maxRules) := by
  rw [addRules_left_iff r ⟨m, 0, migration⟩ id rules, hempty, Nat.zero_add]

/-! ## The whole text -/

theorem RuleText.fits_iff {r : Resolver} {maxRules : Int} {text : RuleText} :
    text.fits r maxRules = true ↔ text.before = [] ∧ text.after = [] ∧
      ∃ rules, text.rules = some rules ∧ (∀ o ∈ rules, o.members.length = 2) ∧
        (0 < maxRules → ((unseen []
          (acceptedRules r (rules.dropLast.map (·.inOrder)))).length : Int) < maxRules) ∧
        unseen [] (acceptedRules r (rules.map (·.inOrder))) = text.encoded r maxRules := by
  simp only [fits, fitting, Bool.and_eq_true, List.isEmpty_iff, Option.any_eq_true,
    List.all_eq_true, decide_eq_true_eq, Bool.or_eq_true, and_assoc, ← Int.not_lt,
    ← imp_iff_not_or]

/-- Where a number is returned the whole text has been read, and what is new in it is added. -/
theorem fromJson_of_number {r : Resolver} {m : MatchList} {migration : Bool} {text : RuleText}
    {maxRules : Int}
    (h : (m.fromJson r migration text.json.tokens maxRules).2.2 ≠ -1) :
    text.before = [] ∧ text.after = [] ∧ ∃ rules, text.rules = some rules ∧
      (addRules r maxRules ⟨m, 0, migration⟩ rules).2 = [] := by
  rw [fromJson_tokens] at h
  split at h
  case isTrue hbefore =>
    cases htext : text.rules with
    | none =>
      rw [htext] at h
      exact absurd rfl h
    | some rules =>
      rw [htext, Option.elim_some] at h
      dsimp only at h
      split at h
      case isTrue hend => exact ⟨hbefore, hend.2, rules, rfl, hend.1⟩
      case isFalse => exact absurd rfl h
  case isFalse => exact absurd rfl h

theorem fromJson_of_left {r : Resolver} {m : MatchList} {migration : Bool} {text : RuleText}
    {maxRules : Int} {rules : List RuleObject} (hbefore : text.before = [])
    (hafter : text.after = []) (htext : text.rules = some rules)
    (hleft : (addRules r maxRules ⟨m, 0, migration⟩ rules).2 = []) :
    (m.fromJson r migration text.json.tokens maxRules).1.mRules =
        m.mRules ++ unseen m.mRules (acceptedRules r (rules.map (·.inOrder))) ∧
      (m.fromJson r migration text.json.tokens maxRules).2.2 =
        (unseen m.mRules (acceptedRules r (rules.map (·.inOrder)))).length := by
  have hadds := adds_addRules hleft
  rw [fromJson_tokens, if_pos hbefore, htext, Option.elim_some, if_pos ⟨hleft, hafter⟩]
  exact ⟨hadds.rules, congrArg Int.ofNat (hadds.number.trans (Nat.zero_add _))⟩

/-- What a text leaves and returns is right exactly if the list is empty before and the text
fits. -/
theorem imported_iff (r : Resolver) (m : MatchList) (migration : Bool) (text : RuleText)
    (maxRules : Int) :
    Imported r m migration text maxRules ↔ m.mRules = [] ∧ text.fits r maxRules = true := by
  rw [RuleText.fits_iff]
  constructor
  · intro h
    have hread : (m.fromJson r migration text.json.tokens maxRules).2.2 ≠ -1 := by
      rw [h.number]
      omega
    obtain ⟨hbefore, hafter, rules, htext, hleft⟩ := fromJson_of_number hread
    obtain ⟨hlist, hnumber⟩ := fromJson_of_left hbefore hafter htext hleft
    have hencoded := hlist.symm.trans h.rules
    -- As many rules are new as the text encodes, so none is there before.
    have hempty : m.mRules = [] := by
      rw [h.number, ← hencoded, List.length_append] at hnumber
      exact List.eq_nil_of_length_eq_zero (by omega)
    obtain ⟨htwo, hfew⟩ := (addRules_left_empty_iff r maxRules hempty migration rules).mp hleft
    rw [hempty, List.nil_append] at hencoded
    exact ⟨hempty, hbefore, hafter, rules, htext, htwo, hfew, hencoded⟩
  · rintro ⟨hempty, hbefore, hafter, rules, htext, htwo, hfew, hsame⟩
    have hleft := (addRules_left_empty_iff r maxRules hempty migration rules).mpr ⟨htwo, hfew⟩
    obtain ⟨hlist, hnumber⟩ := fromJson_of_left hbefore hafter htext hleft
    rw [hempty, hsame] at hlist hnumber
    exact ⟨hlist, hnumber⟩

/-! ## A list and its text -/

theorem valueOf_name (tp : RuleType) : RuleType.valueOf (cstr tp.name) = some tp := by
  cases tp <;> decide

theorem inOrder_serialize (rule : Rule) :
    rule.serialize.inOrder = (cstr rule.type.name, rule.value) := rfl

/-- A rule that resolves is read as it was written. -/
theorem ruleOf_serialize {r : Resolver} {rule : Rule}
    (h : rule.type = .app → (migrateApp r rule.value).map (·.1) = some rule.value) :
    (ruleOf r (cstr rule.type.name) rule.value).map (·.1) = some rule := by
  obtain ⟨type, value⟩ := rule
  rw [ruleOf, valueOf_name]
  simp only [Option.elim_some, Option.bind_some, Bool.false_or]
  split
  · rename_i htype
    subst htype
    have happ := h rfl
    rw [Option.map_map]
    obtain ⟨app, hmigrate, happ⟩ := Option.map_eq_some_iff.mp happ
    rw [hmigrate]
    exact congrArg (some ∘ Rule.mk .app) happ
  · rfl

theorem acceptedRules_serialize {r : Resolver} {rules : List Rule}
    (h : ∀ rule ∈ rules, accepts r.toEnv rule = true ∧
      (rule.type = .app → (migrateApp r rule.value).map (·.1) = some rule.value)) :
    acceptedRules r ((rules.map Rule.serialize).map (·.inOrder)) = rules := by
  induction rules with
  | nil => rfl
  | cons rule rules ih =>
    obtain ⟨⟨haccepts, hruleOf⟩, hrules⟩ := List.forall_mem_cons.mp h
    rw [List.map_cons, List.map_cons, acceptedRules_cons, ih hrules, inOrder_serialize,
      acceptedRules, List.filterMap_cons]
    simp only [ruleOf_serialize hruleOf, List.filterMap_nil, List.filter_singleton, haccepts,
      cond_true, List.singleton_append]

/-- A text of a list adds the rules that the other list does not have. -/
theorem fromJson_toJson (r : Resolver) (m : MatchList) (migration : Bool) {l : MatchList}
    (h : l.Resolves r) :
    (m.fromJson r migration l.toJson.json.tokens (-1)).1.mRules =
      m.mRules ++ l.mRules.filter (· ∉ m.mRules) := by
  have hleft : (addRules r (-1) ⟨m, 0, migration⟩ (l.mRules.map Rule.serialize)).2 = [] := by
    have hno : ¬ (0 : Int) < -1 := by decide
    rw [addRules_left_iff r _ fun h => absurd h hno]
    refine ⟨fun o ho => ?_, fun h => absurd h hno⟩
    obtain ⟨rule, -, rfl⟩ := List.mem_map.mp ho
    rfl
  have htext : l.toJson.rules = some (l.mRules.map Rule.serialize) := rfl
  have hread := (fromJson_of_left rfl rfl htext hleft).1
  rw [acceptedRules_serialize h, unseen_of_nodup l.nodup] at hread
  exact hread

/-- The text of a list gives that list exactly if what is there before begins it. -/
theorem fromJson_toJson_iff (r : Resolver) (m : MatchList) (migration : Bool) {l : MatchList}
    (h : l.Resolves r) :
    (m.fromJson r migration l.toJson.json.tokens (-1)).1.mRules = l.mRules ↔
      m.mRules <+: l.mRules := by
  rw [fromJson_toJson r m migration h]
  constructor
  · exact fun h => ⟨_, h⟩
  · rintro ⟨rules, hl⟩
    have hnodup := l.nodup
    rw [← hl] at hnodup ⊢
    have hnew : ∀ rule ∈ rules, rule ∉ m.mRules :=
      fun rule hrule hmem => List.disjoint_of_nodup_append hnodup hmem hrule
    have hold : m.mRules.filter (· ∉ m.mRules) = [] := by simp
    rw [List.filter_append, hold, List.nil_append,
      List.filter_eq_self.mpr fun rule hrule => decide_eq_true (hnew rule hrule)]

/-- So a list that is loaded again keeps the rules that are not in the preference. -/
theorem reload_iff (r : Resolver) (m : MatchList) (migration : Bool) {l : MatchList}
    (h : l.Resolves r) :
    (m.reload r migration (some l.toJson)).1.mRules = l.mRules ↔ m.mRules <+: l.mRules :=
  fromJson_toJson_iff r m migration h

/-- **A text leaves its rules and returns their number** exactly if it fits and the list is empty
before; and the text of a list gives that list exactly if what is there before begins it. -/
theorem fromJson_exact_iff (r : Resolver) (m : MatchList) (migration : Bool) :
    (∀ text maxRules, Imported r m migration text maxRules ↔
      m.mRules = [] ∧ text.fits r maxRules = true) ∧
    ∀ l : MatchList, l.Resolves r →
      ((m.fromJson r migration l.toJson.json.tokens (-1)).1.mRules = l.mRules ↔
        m.mRules <+: l.mRules) :=
  ⟨imported_iff r m migration, fun _ hl => fromJson_toJson_iff r m migration hl⟩

/-- No app is installed. -/
def noApps : Resolver where
  getUid := fun _ => none
  validCidr := fun _ => false
  service := ⟨false, false, false⟩
  getAppByUid := fun _ => none

def hostList (hosts : List String) : MatchList :=
  run MatchList.step MatchList.empty
    (hosts.map fun host => (noApps, .addRule ⟨.host, cstr host⟩))

/-- The text of a list is read into an empty one. -/
theorem fromJson_exact_hosts :
    (MatchList.empty.fromJson noApps false
      (hostList ["a.org", "b.org"]).toJson.json.tokens (-1)).1.mRules =
      (hostList ["a.org", "b.org"]).mRules :=
  ((fromJson_exact_iff noApps MatchList.empty false).2 (hostList ["a.org", "b.org"]) (by
    intro rule hrule
    have htype : ∀ rule ∈ (hostList ["a.org", "b.org"]).mRules, rule.type = .host := by
      decide +kernel
    obtain ⟨type, value⟩ := rule
    cases htype _ hrule
    exact ⟨rfl, nofun⟩)).mpr List.nil_prefix

/-- A rule from before stays, and at the limit the second rule of a text makes the reader fail. -/
theorem old_rule_stays_and_limit_fails :
    ¬ Imported noApps (hostList ["old.org"]) false (hostList ["a.org", "b.org"]).toJson (-1) ∧
      ((hostList ["old.org"]).fromJson noApps false
        (hostList ["a.org", "b.org"]).toJson.json.tokens (-1)).1.mRules =
        (hostList ["old.org", "a.org", "b.org"]).mRules ∧
      ¬ Imported noApps MatchList.empty false (hostList ["a.org", "b.org"]).toJson 1 ∧
      (MatchList.empty.fromJson noApps false
        (hostList ["a.org", "b.org"]).toJson.json.tokens 1).2.2 = -1 := by
  refine ⟨fun h => ?_, ?_, fun h => ?_, ?_⟩
  · exact absurd h.rules (by decide +kernel)
  · decide +kernel
  · exact absurd h.number (by decide +kernel)
  · decide +kernel

end SecureGuard.Ui
