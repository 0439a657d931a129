import AbilityHooks.Json.Basic

/-!
# Merging data values

An object is laid over another member by member, at every depth; anything else replaces what
it is laid over.
-/

namespace AbilityHooks.Json

mutual

/-- A value with another one laid over it. -/
def merge (base : Json) : Json → Json
  | object changes =>
    match base with
    | object members => object (mergeMembers members changes)
    | _ => object changes
  | overlay => overlay

/-- Members with others laid over them. -/
def mergeMembers (members : List (String × Json)) : List (String × Json) → List (String × Json)
  | [] => members
  | (key, overlay) :: rest =>
    let merged := match lookup key members with
      | some existing => merge existing overlay
      | none => overlay
    mergeMembers (insertMember key merged members) rest

end

end AbilityHooks.Json
