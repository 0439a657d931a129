/-!
# What to download

The tables of the simulator's repository that an extraction works on, in the order in which
they are processed, and their addresses.
-/

namespace AbilityHooks.Download

/-- The table that hooks are read from. -/
def abilityTable : String := "abilities"

/-- The tables that go with it. -/
def companionTables : List String := ["pokedex", "moves", "items", "typechart", "conditions"]

/-- The chosen tables. -/
def tables (all : Bool) : List String :=
  abilityTable :: if all then companionTables else []

/-- The path of a table inside a directory of the repository. -/
def pathIn (directory table : String) : String := directory ++ "/" ++ table ++ ".ts"

/-- The paths to download. Those of the ninth generation, which override the others, come
after them. -/
def paths (ninthGeneration all : Bool) : List String :=
  (tables all).map (pathIn "data")
    ++ if ninthGeneration then (tables all).map (pathIn "data/mods/gen9") else []

/-- The address below which the files of the repository stand. -/
def base : String := "https://raw.githubusercontent.com/smogon/pokemon-showdown"

/-- The state of the repository that is taken if none is named. -/
def defaultRevision : String := "master"

/-- The address of a path at a branch, tag or commit. -/
def address (revision path : String) : String := base ++ "/" ++ revision ++ "/" ++ path

end AbilityHooks.Download
