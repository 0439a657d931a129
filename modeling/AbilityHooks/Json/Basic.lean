/-!
# Data values

The values of a data document. Numbers are integers or doubles, and the two are told apart.
An object is a list of members: a document read from text has each key once and in the order
of code points, while a value built for output keeps the order its builder chose.
-/

namespace AbilityHooks

/-- A data value. -/
inductive Json where
  | null
  | bool (value : Bool)
  | integer (value : Int)
  | double (value : Float)
  | string (value : String)
  | array (items : List Json)
  | object (members : List (String × Json))
  deriving Inhabited, Repr

namespace Json

/-- The value of a key in a list of members: the first one wins. -/
def lookup (key : String) (members : List (String × Json)) : Option Json :=
  (members.find? (·.1 == key)).map (·.2)

/-- The member of an object under a key. Other values have no members. -/
def get? (key : String) : Json → Option Json
  | object members => lookup key members
  | _ => none

/-- Put a member into a list sorted by key, in place of a member with the same key. -/
def insertMember (key : String) (value : Json) : List (String × Json) → List (String × Json)
  | [] => [(key, value)]
  | (other, kept) :: rest =>
    if key < other then (key, value) :: (other, kept) :: rest
    else if key = other then (key, value) :: rest
    else (other, kept) :: insertMember key value rest

/-- The object with the given members, sorted by key; of members with one key the last wins. -/
def ofMembers (members : List (String × Json)) : Json :=
  object (members.foldl (fun sorted member => insertMember member.1 member.2 sorted) [])

/-- Looking a key up after putting a member under it finds that member. -/
theorem lookup_insertMember_self (key : String) (value : Json) (members : List (String × Json)) :
    lookup key (insertMember key value members) = some value := by
  induction members with
  | nil => simp [insertMember, lookup]
  | cons member rest ih =>
    obtain ⟨other, kept⟩ := member
    rw [insertMember]
    split
    · simp [lookup]
    · split
      · simp [lookup]
      · rename_i differ
        have other_ne : (other == key) = false := beq_false_of_ne (Ne.symm differ)
        simpa only [lookup, List.find?_cons, other_ne] using ih

/-- Putting a member leaves the other keys as they were. -/
theorem lookup_insertMember_of_ne {key probe : String} (value : Json) (differ : probe ≠ key)
    (members : List (String × Json)) :
    lookup probe (insertMember key value members) = lookup probe members := by
  induction members with
  | nil => simp [insertMember, lookup, Ne.symm differ]
  | cons member rest ih =>
    obtain ⟨other, kept⟩ := member
    rw [insertMember]
    split
    · simp [lookup, Ne.symm differ]
    · split
      · rename_i same
        simp [lookup, ← same, Ne.symm differ]
      · by_cases hit : other = probe
        · simp [lookup, hit]
        · have other_ne : (other == probe) = false := beq_false_of_ne hit
          simpa only [lookup, List.find?_cons, other_ne] using ih

end Json

end AbilityHooks
