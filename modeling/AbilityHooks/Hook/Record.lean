/-!
# Hook records

A record states one effect of an ability. The kind of effect is told by the constructor here
and by the set of member names in the output. Records are compared part by part, numbers as
numbers.
-/

namespace AbilityHooks

/-- Stat stages by stat, sorted by the name of the stat. -/
abbrev Stages := List (String × Int)

/-- Set the stages of a stat. -/
def Stages.set (stat : String) (stages : Int) : Stages → Stages
  | [] => [(stat, stages)]
  | (other, kept) :: rest =>
    if stat < other then (stat, stages) :: (other, kept) :: rest
    else if stat = other then (stat, stages) :: rest
    else (other, kept) :: Stages.set stat stages rest

/-- The stages set one after another; of two for one stat the later one stays. -/
def Stages.ofList (changes : List (String × Int)) : Stages :=
  changes.foldl (fun table change => Stages.set change.1 change.2 table) []

/-- The bonus for moves of the holder's own type. -/
structure StabBonus where
  when : String
  value : Float
  upgradeFrom : Float
  teraValue : Float
  deriving BEq

/-- A factor on a quantity under a condition. -/
structure Modifier where
  when : String
  multiply : Float
  tag : Option String
  deriving BEq

/-- A change of move priority under a condition. -/
structure PriorityShift where
  delta : Int
  when : String
  deriving BEq

/-- What entering the field does. -/
inductive EntryAction where
  | setWeather (weather : String) (durationTurns : Nat) (itemExtend : String)
  | setTerrain (terrain : String) (durationTurns : Nat) (itemExtend : String)
  | foeBoost (boosts : Stages) (when : String)
  deriving BEq

/-- What is kept from happening. -/
inductive BlockRule where
  | moves (when : String)
  | tags (names : List String)
  | statDrops (source : String)
  | types (names : List String)
  | reflect (scope : String)
  | recoil (crashToo : Bool)
  deriving BEq

/-- The kinds of indirect damage the holder does not take. -/
structure ResidualImmunity where
  hazards : Option Bool := none
  statusChip : Option Bool := none
  weatherChip : Option Bool := none
  lifeOrb : Option Bool := none
  deriving BEq

/-- Whose stat stages are ignored. -/
structure IgnoreBoosts where
  attacker : Bool
  defender : Bool
  deriving BEq

/-- Healing by moves of a type. -/
structure Absorb where
  moveType : String
  heal : String
  fraction : String
  deriving BEq

/-- Stages the holder gains. -/
inductive BoostGrant where
  | granted (boosts : Stages)
  | onStatLowered (selfBoosts : Stages)
  deriving BEq

/-- Healing at the end of a turn. -/
structure ResidualHeal where
  when : String
  healFraction : String
  deriving BEq

/-- A change of the type of moves. -/
structure TypeChange where
  source : Option String
  target : String
  stabUpgrade : Option Bool
  fromEveryType : Option Bool
  deriving BEq

/-- A change of a property of moves. -/
inductive MoveChange where
  | set (ignoreAbility : Bool)
  | stripSecondaries (strip : Bool)
  deriving BEq

/-- A raise of the best stat under one of several triggers. -/
structure ParadoxBoost where
  kind : String
  sun : Bool
  electricTerrain : Bool
  boosterEnergy : Bool
  speedMult : Float
  otherStatMult : Float
  deriving BEq

/-- What a hint grants: stages, or a factor on the power of a type. -/
inductive HintBoosts where
  | stages (boosts : Stages)
  | power (moveType : String) (multiply : Float)
  deriving BEq

/-- A hook fragment known for an ability by its name. -/
structure Hint where
  immunities : Option (List String) := none
  absorb : Option (List String) := none
  redirect : Option (List String) := none
  block : Option (List String) := none
  blockTags : Option (List String) := none
  boosts : Option HintBoosts := none
  deriving BEq

/-- Why a handler has no other record. -/
inductive NoteKind where
  | customUnparsed
  | presentNoBody
  deriving DecidableEq, Repr

/-- One effect of an ability. -/
inductive HookRecord where
  | stab (bonus : StabBonus)
  | modifier (factor : Modifier)
  | priority (shift : PriorityShift)
  | action (entry : EntryAction)
  | block (rule : BlockRule)
  | residualImmunity (immunity : ResidualImmunity)
  | ignoreBoosts (sides : IgnoreBoosts)
  | redirect (moveType : String)
  | absorb (healing : Absorb)
  | boost (grant : BoostGrant)
  | residualHeal (heal : ResidualHeal)
  | typeChange (change : TypeChange)
  | moveChange (change : MoveChange)
  | paradox (raise : ParadoxBoost)
  | heuristic (hint : Hint)
  | note (kind : NoteKind)
  deriving BEq

/-- A factor without a tag. -/
def HookRecord.factor (when : String) (multiply : Float) : HookRecord :=
  .modifier ⟨when, multiply, none⟩

/-- A factor with a tag. -/
def HookRecord.taggedFactor (when : String) (multiply : Float) (tag : String) : HookRecord :=
  .modifier ⟨when, multiply, some tag⟩

end AbilityHooks
