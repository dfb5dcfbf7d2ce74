import PayloadCheck.Json.Number

/-!
# JSON values

Objects keep the order in which their keys first came; a key written again keeps its place and
takes the new value (`Json.put`). `Object` is an object's members with the fact that no key comes
twice, which `put` preserves.
-/

namespace PayloadCheck

inductive Json where
  | null
  | bool (b : Bool)
  | number (n : Number)
  | string (s : String)
  | array (items : List Json)
  | object (members : List (String × Json))
  deriving Repr

namespace Json

def put (key : String) (value : Json) : List (String × Json) → List (String × Json)
  | [] => [(key, value)]
  | member :: rest =>
    if member.1 = key then (key, value) :: rest else member :: put key value rest

theorem keys_put (key : String) (value : Json) (members : List (String × Json)) :
    (put key value members).map Prod.fst =
      if key ∈ members.map Prod.fst then members.map Prod.fst
      else members.map Prod.fst ++ [key] := by
  induction members with
  | nil => simp [put]
  | cons member rest ih =>
    rw [put]
    by_cases h : member.1 = key
    · simp [h]
    · have hk : key ≠ member.1 := Ne.symm h
      simp only [h, ↓reduceIte, List.map_cons, ih, List.mem_cons, hk, false_or]
      split <;> simp

theorem nodup_keys_put {key : String} {value : Json} {members : List (String × Json)}
    (h : (members.map Prod.fst).Nodup) : ((put key value members).map Prod.fst).Nodup := by
  rw [keys_put]
  split
  · exact h
  · rename_i hk
    rw [List.nodup_append]
    refine ⟨h, List.pairwise_singleton _ key, fun k hm k' hk' => ?_⟩
    rw [List.mem_singleton.mp hk']
    exact fun e => hk (e ▸ hm)

theorem lookup_cons (key k : String) (value : Json) (members : List (String × Json)) :
    ((key, value) :: members).lookup k = if k = key then some value else members.lookup k := by
  rw [List.lookup_cons]
  by_cases h : k = key
  · simp [h]
  · have hb : (k == key) = false := by simpa using h
    simp [hb, h]

theorem lookup_put (key k : String) (value : Json) (members : List (String × Json)) :
    (put key value members).lookup k = if k = key then some value else members.lookup k := by
  induction members with
  | nil => exact lookup_cons key k value []
  | cons member rest ih =>
    obtain ⟨name, old⟩ := member
    rw [put]
    split
    · rename_i h
      obtain rfl : name = key := h
      rw [lookup_cons, lookup_cons]
      split <;> rfl
    · rename_i h
      rw [lookup_cons, ih, lookup_cons]
      split
      · rename_i hk
        have hn : k ≠ key := fun e => h (hk.symm.trans e)
        rw [if_neg hn]
      · rfl

/-- Where no key comes twice, a key leads to each of its members. -/
theorem lookup_eq_some_iff {members : List (String × Json)} (h : (members.map Prod.fst).Nodup)
    (key : String) (value : Json) :
    members.lookup key = some value ↔ (key, value) ∈ members := by
  induction members with
  | nil => simp
  | cons member rest ih =>
    obtain ⟨name, held⟩ := member
    rw [List.map_cons, List.nodup_cons] at h
    rw [lookup_cons, List.mem_cons]
    by_cases hk : key = name
    · subst hk
      have hnot : (key, value) ∉ rest := by
        intro hm
        have hkeys : key ∈ rest.map Prod.fst := List.mem_map_of_mem hm
        exact h.1 hkeys
      simp [hnot, eq_comm]
    · simp [hk, ih h.2]

end Json

structure Object where
  members : List (String × Json)
  distinct : (members.map Prod.fst).Nodup

namespace Object

def empty : Object := ⟨[], List.nodup_nil⟩

def insert (o : Object) (key : String) (value : Json) : Object :=
  ⟨Json.put key value o.members, Json.nodup_keys_put o.distinct⟩

def ofMembers (members : List (String × Json)) : Object :=
  members.foldl (fun o member => o.insert member.1 member.2) empty

def keys (o : Object) : List String := o.members.map Prod.fst

def size (o : Object) : Nat := o.members.length

def get? (o : Object) (key : String) : Option Json := o.members.lookup key

def toJson (o : Object) : Json := .object o.members

theorem keys_insert (o : Object) (key : String) (value : Json) :
    (o.insert key value).keys = if key ∈ o.keys then o.keys else o.keys ++ [key] :=
  Json.keys_put key value o.members

theorem get?_insert (o : Object) (key k : String) (value : Json) :
    (o.insert key value).get? k = if k = key then some value else o.get? k :=
  Json.lookup_put key k value o.members

theorem get?_eq_some_iff (o : Object) (key : String) (value : Json) :
    o.get? key = some value ↔ (key, value) ∈ o.members :=
  Json.lookup_eq_some_iff o.distinct key value

/-- What a key leads to does not depend on the order of the members. -/
theorem get?_eq_of_perm {o₁ o₂ : Object} (h : o₁.members.Perm o₂.members) : o₁.get? = o₂.get? := by
  funext key
  apply Option.ext
  intro value
  rw [get?_eq_some_iff, get?_eq_some_iff, h.mem_iff]

end Object

namespace Json

def toObject? : Json → Option Object
  | object members => some (Object.ofMembers members)
  | _ => none

end Json

end PayloadCheck
