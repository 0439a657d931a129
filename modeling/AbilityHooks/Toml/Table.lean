import AbilityHooks.Json.Basic

/-!
# Tables of a TOML document

A document fills nested tables in pieces, and the format says which pieces may come together.
A table that only other keys imply may be completed once by a header; a table made by dotted
keys takes more dotted keys; a table that is written out takes nothing more.
-/

namespace AbilityHooks.Toml

/-- A value, a table, or a list of tables. -/
inductive Item where
  | value (content : Json)
  | table (implied dotted : Bool) (entries : List (String × Item))
  | tables (elements : List (List (String × Item)))

/-- The entries of a table. -/
abbrev Entries := List (String × Item)

/-- A table, with whether other keys imply it and whether dotted keys made it. -/
structure Table where
  implied : Bool
  dotted : Bool
  entries : Entries

/-- A table that is written out. -/
def Table.written (entries : Entries) : Table := ⟨false, false, entries⟩

/-- A table as an item. -/
def Table.toItem (table : Table) : Item := .table table.implied table.dotted table.entries

namespace Entries

/-- The item under a key. -/
def get? (key : String) (entries : Entries) : Option Item :=
  (entries.find? (·.1 == key)).map (·.2)

/-- Put an item under a key, in place of the one there or at the end. -/
def set (key : String) (item : Item) : Entries → Entries
  | [] => [(key, item)]
  | (other, kept) :: rest =>
    if other == key then (key, item) :: rest else (other, kept) :: set key item rest

/-- Take the item under a key away. -/
def erase (key : String) (entries : Entries) : Entries := entries.filter (·.1 != key)

end Entries

/-- Change the last element of a list, if there is one. -/
def changeLast {α : Type} (change : α → Option α) : List α → Option (List α)
  | [] => none
  | [last] => (change last).map ([·])
  | first :: rest => (changeLast change rest).map (first :: ·)

/-- Change the table that a path of keys leads to; tables on the way that are missing are
implied. Dotted keys do not enter a table that is written out. -/
def changeAt (dottedKeys : Bool) (change : Table → Option Table) : List String → Table → Option Table
  | [], table => change table
  | key :: path, table =>
    let put := fun item => { table with entries := Entries.set key item table.entries }
    match Entries.get? key table.entries with
    | none => (changeAt dottedKeys change path ⟨true, dottedKeys, []⟩).map fun inner => put inner.toItem
    | some (.value _) => none
    | some (.table implied dotted entries) =>
      if dottedKeys && !implied then none
      else (changeAt dottedKeys change path ⟨implied, dotted, entries⟩).map fun inner => put inner.toItem
    | some (.tables elements) =>
      (changeLast (fun entries =>
          (changeAt dottedKeys change path (.written entries)).map (·.entries)) elements).map
        fun elements => put (.tables elements)

/-- Put an item under a dotted key. The key must be free, and the table it goes into must be
one that takes it. -/
def insertDotted (path : List String) (item : Item) (table : Table) : Option Table :=
  match path.getLast? with
  | none => none
  | some key =>
    let route := path.dropLast
    changeAt true (fun target =>
      if target.dotted == route.isEmpty then none
      else if (Entries.get? key target.entries).isSome then none
      else some { target with entries := Entries.set key item target.entries }) route table

/-- Put the entries of a header into the table it names. -/
def insertHeader (path : List String) (fill : Table → Option Table) (root : Table) : Option Table :=
  match path.getLast? with
  | none => none
  | some key =>
    changeAt false (fun parent =>
      match Entries.get? key parent.entries with
      | none => (fill (.written [])).map fun table =>
          { parent with entries := Entries.set key table.toItem parent.entries }
      | some (.table true false entries) => (fill (.written entries)).map fun table =>
          { parent with entries := Entries.erase key parent.entries ++ [(key, table.toItem)] }
      | _ => none) path.dropLast root

/-- Add an element with the entries of a header to the list of tables that it names. -/
def insertElement (path : List String) (fill : Table → Option Table) (root : Table) :
    Option Table :=
  match path.getLast? with
  | none => none
  | some key =>
    changeAt false (fun parent => do
      let element ← fill (.written [])
      let put := fun elements =>
        { parent with entries := Entries.set key (.tables elements) parent.entries }
      match Entries.get? key parent.entries with
      | none => some (put [element.entries])
      | some (.tables elements) => some (put (elements ++ [element.entries]))
      | _ => none) path.dropLast root

mutual

/-- An item as a data value. -/
def Item.toJson : Item → Json
  | .value content => content
  | .table _ _ entries => .ofMembers (membersOf entries)
  | .tables elements => .array (elementsOf elements)

/-- The members of a table. -/
def membersOf : List (String × Item) → List (String × Json)
  | [] => []
  | (key, item) :: rest => (key, item.toJson) :: membersOf rest

/-- The tables of a list. -/
def elementsOf : List (List (String × Item)) → List Json
  | [] => []
  | entries :: rest => .ofMembers (membersOf entries) :: elementsOf rest

end

end AbilityHooks.Toml
