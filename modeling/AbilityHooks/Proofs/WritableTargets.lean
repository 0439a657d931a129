import AbilityHooks.Proofs.PathNames
import AbilityHooks.Proofs.WholeDocuments

/-!
# Targets that can be written

A document is written wherever nothing stands in the way. The place of the directory that holds a
target is told by its names alone; each name leads one step further, and no file may stand on the way. A
directory that is not full has an unused name for the new file, and where no step is refused, the new
file gets its text and takes the target's place. So a document is written whole or not at all, and not
only the latter.
-/

namespace AbilityHooks.FileSystem

variable {system before made state : FileSystem} {place there next other : Location}
variable {segments : List String} {segment path directory temporary target text : String}

/-! ## Following names -/

/-- The place that one more segment leads to, if it leads on. -/
def onward (place : Location) (segment : String) : Location :=
  if segment == "" || segment == "." then place
  else if segment == ".." then place.dropLast
  else place ++ [segment]

/-- The place that segments lead to one after another, if each leads on. -/
def follow (place : Location) (segments : List String) : Location := segments.foldl onward place

/-- From a directory a short segment leads on. -/
theorem step_eq (here : system.lookup? place = some .directory)
    (short : segment.utf8ByteSize ≤ 255) : system.step place segment = .ok (onward place segment) := by
  have notLong : ¬255 < segment.utf8ByteSize := not_lt.mpr short
  rw [step, here, onward]
  dsimp only
  rw [if_neg notLong]
  split
  · rfl
  · split <;> rfl

/-- A segment leads nowhere else. -/
theorem eq_onward_of_step (leads : system.step place segment = .ok next) :
    next = onward place segment := by
  rw [step, lookup?_of_step leads] at leads
  dsimp only at leads
  rw [onward]
  split
  case isTrue stays =>
    rw [if_pos stays] at leads
    exact (Except.ok.inj leads).symm
  case isFalse moves =>
    rw [if_neg moves] at leads
    split
    case isTrue up =>
      rw [if_pos up] at leads
      exact (Except.ok.inj leads).symm
    case isFalse down =>
      rw [if_neg down] at leads
      split at leads
      · cases leads
      · exact (Except.ok.inj leads).symm

/-- A segment that is no name stays. -/
theorem onward_of_not_isName (nameless : Path.isName segment = false) :
    onward place segment = place := by
  rw [onward, if_pos]
  by_contra moves
  rw [Bool.or_eq_true, beq_iff_eq, beq_iff_eq, not_or] at moves
  simp [Path.isName, moves] at nameless

/-- Only names lead on. -/
theorem follow_filter (place : Location) (segments : List String) :
    follow place (segments.filter Path.isName) = follow place segments := by
  rw [follow, follow, List.foldl_filter]
  congr 1
  funext place segment
  split
  · rfl
  case isFalse nameless => rw [onward_of_not_isName (by simpa using nameless)]

/-- A way to a directory begins at one. -/
theorem lookup?_of_foldlM (leads : segments.foldlM system.step place = .ok there)
    (isThere : system.lookup? there = some .directory) : system.lookup? place = some .directory := by
  cases segments with
  | nil => rwa [Except.ok.inj leads]
  | cons segment rest =>
    rw [List.foldlM_cons] at leads
    cases first : system.step place segment with
    | error failure =>
      rw [first] at leads
      cases leads
    | ok next => exact lookup?_of_step first

/-- On the way to a directory the segments that are no names may be left out. -/
theorem foldlM_filter (isThere : system.lookup? there = some .directory) :
    (segments.filter Path.isName).foldlM system.step place = .ok there ↔
      segments.foldlM system.step place = .ok there := by
  induction segments generalizing place with
  | nil => exact Iff.rfl
  | cons segment rest ih =>
    cases named : Path.isName segment with
    | true =>
      rw [List.filter_cons_of_pos named, List.foldlM_cons, List.foldlM_cons]
      cases system.step place segment with
      | error failure => exact Iff.rfl
      | ok next => exact ih
    | false =>
      have stays (here : system.lookup? place = some .directory) :
          (segment :: rest).foldlM system.step place = rest.foldlM system.step place := by
        rw [List.foldlM_cons, step_eq here (Path.short_of_not_isName named),
          onward_of_not_isName named]
        rfl
      rw [List.filter_cons_of_neg (by simp [named]), ih]
      constructor
      · intro leads
        rwa [stays (lookup?_of_foldlM leads isThere)]
      · intro leads
        rwa [stays (lookup?_of_foldlM leads isThere)] at leads

/-- A path leads on from the directory to which its segments but the last one lead. -/
theorem locate_eq (plain : '\x00' ∉ path.toList) (filled : path ≠ "")
    (parts : Path.segments path = segments ++ [segment])
    (isThere : system.lookup? place = some .directory)
    (leads : (segments.filter Path.isName).foldlM system.step (system.start path) = .ok place)
    (short : segment.utf8ByteSize ≤ 255) : system.locate path = .ok (onward place segment) := by
  have clean : ¬path.toList.contains '\x00' = true := by simpa using plain
  have given : ¬(path == "") = true := by simpa using filled
  rw [locate, if_neg clean, if_neg given, parts, foldlM_concat_eq_ok]
  exact ⟨place, (foldlM_filter isThere).mp leads, step_eq isThere short⟩

/-! ## Making the directory -/

/-- Going down a list of segments makes nothing off the way. -/
theorem makeBelow_elsewhere (system : FileSystem)
    (apart : ∀ front, front <+: segments → follow place front ≠ other) :
    (system.makeBelow place segments).1.lookup? other = system.lookup? other := by
  induction segments generalizing system place with
  | nil => rfl
  | cons segment rest ih =>
    rw [makeBelow]
    split
    · rfl
    case h_2 next leads =>
      obtain rfl := eq_onward_of_step leads
      have later : ∀ front, front <+: rest → follow (onward place segment) front ≠ other :=
        fun front begins => apart (segment :: front) (List.cons_prefix_cons.mpr ⟨rfl, begins⟩)
      split
      · exact ih system later
      · split
        · rfl
        · exact (ih _ later).trans (lookup?_put_of_ne (later [] List.nil_prefix).symm)

/-- Going down a list of segments makes at most one directory for each name. -/
theorem length_makeBelow (system : FileSystem) (place : Location) (segments : List String) :
    (system.makeBelow place segments).1.entries.length ≤
      system.entries.length + (segments.filter Path.isName).length := by
  induction segments generalizing system place with
  | nil => exact Nat.le_refl _
  | cons segment rest ih =>
    have fewer : (rest.filter Path.isName).length ≤ ((segment :: rest).filter Path.isName).length :=
      ((List.sublist_cons_self segment rest).filter Path.isName).length_le
    rw [makeBelow]
    split
    · exact Nat.le_add_right _ _
    case h_2 next leads =>
      split
      · exact (ih system next).trans (Nat.add_le_add_left fewer _)
      case h_2 free =>
        split
        · exact Nat.le_add_right _ _
        · have later := ih (system.put next .directory) next
          have more : (system.put next .directory).entries.length ≤ system.entries.length + 1 := by
            rw [put, List.length_cons]
            exact Nat.add_le_add_right (List.length_filter_le _ _) 1
          have named : Path.isName segment = true := by
            by_contra nameless
            rw [eq_onward_of_step leads, onward_of_not_isName (by simpa using nameless),
              lookup?_of_step leads] at free
            cases free
          rw [List.filter_cons_of_pos named, List.length_cons]
          omega

/-- The segments that were gone down lead to the same place once what is missing is made. -/
theorem foldlM_of_makeBelow (found : system.makeBelow place segments = (made, .ok there)) :
    segments.foldlM made.step place = .ok there := by
  induction segments generalizing system place with
  | nil =>
    cases found
    rfl
  | cons segment rest ih =>
    have adds := makeBelow_adds system place (segment :: rest)
    rw [found] at adds
    rw [makeBelow] at found
    split at found
    · cases found
    case h_2 next leads =>
      have later : rest.foldlM made.step next = .ok there := by
        split at found
        · exact ih found
        · split at found
          · cases found
          · exact ih found
      rw [List.foldlM_cons, adds.keeps.step leads]
      exact later

/-- Where no file is on the way and nothing is refused, one comes down to a directory. -/
theorem makeBelow_succeeds (willing : ∀ place, system.refuses .createDirectory place = none)
    (here : system.lookup? place = some .directory)
    (short : ∀ segment ∈ segments, segment.utf8ByteSize ≤ 255)
    (clear : ∀ front, front <+: segments → system.file? (follow place front) = none) :
    ∃ made, system.makeBelow place segments = (made, .ok (follow place segments)) ∧
      made.lookup? (follow place segments) = some .directory := by
  induction segments generalizing system place with
  | nil => exact ⟨system, rfl, here⟩
  | cons segment rest ih =>
    obtain ⟨shortHere, shortLater⟩ := List.forall_mem_cons.mp short
    have later : ∀ front, front <+: rest →
        system.file? (follow (onward place segment) front) = none :=
      fun front begins => clear (segment :: front) (List.cons_prefix_cons.mpr ⟨rfl, begins⟩)
    rw [makeBelow, step_eq here shortHere]
    dsimp only
    cases stands : system.lookup? (onward place segment) with
    | none =>
      have below : onward place segment ≠ [] := by
        intro root
        rw [root] at stands
        cases stands
      have adds := AddsDirectories.put stands
      rw [willing]
      exact ih (fun place => willing place) (lookup?_put_self below) shortLater
        fun front begins => (adds.file?_eq _).trans (later front begins)
    | some entry =>
      have unfiled := later [] List.nil_prefix
      rw [file?] at unfiled
      cases entry with
      | file bytes =>
        rw [show follow (onward place segment) [] = onward place segment from rfl, stands] at unfiled
        cases unfiled
      | directory => exact ih willing stands shortLater later

/-- A directory that is ready for a new file: its names lead to it, it is not too full, and nothing is
new but directories on the way to it. -/
structure Ready (before : FileSystem) (directory : String) (made : FileSystem) : Prop where
  adds : AddsDirectories before made
  few : made.entries.length ≤ before.entries.length + (Path.names directory).length
  isThere : made.lookup? (follow (before.start directory) (Path.names directory)) = some .directory
  leads : (Path.names directory).foldlM made.step (before.start directory) =
    .ok (follow (before.start directory) (Path.names directory))
  elsewhere : ∀ other, (∀ front, front <+: Path.names directory →
    follow (before.start directory) front ≠ other) → made.lookup? other = before.lookup? other

/-- Where no file is on the way and nothing is refused, a directory is made ready. -/
theorem createDirectories_succeeds (willing : ∀ place, system.refuses .createDirectory place = none)
    (plain : '\x00' ∉ path.toList)
    (here : system.lookup? (system.start path) = some .directory)
    (short : ∀ name ∈ Path.names path, name.utf8ByteSize ≤ 255)
    (clear : ∀ front, front <+: Path.names path →
      system.file? (follow (system.start path) front) = none) :
    ∃ made, system.createDirectories path = (made, .ok ()) ∧ Ready system path made := by
  have nameFront {front : List String} (begins : front <+: Path.segments path) :
      front.filter Path.isName <+: Path.names path := begins.filter Path.isName
  have shortAll : ∀ segment ∈ Path.segments path, segment.utf8ByteSize ≤ 255 := by
    intro segment listed
    cases named : Path.isName segment with
    | true => exact short segment (List.mem_filter.mpr ⟨listed, named⟩)
    | false => exact Path.short_of_not_isName named
  obtain ⟨made, found, isThere⟩ := makeBelow_succeeds willing here shortAll fun front begins => by
    rw [← follow_filter]
    exact clear _ (nameFront begins)
  have adds := makeBelow_adds system (system.start path) (Path.segments path)
  have few := length_makeBelow system (system.start path) (Path.segments path)
  have leads := foldlM_of_makeBelow found
  rw [found] at adds few
  rw [← follow_filter] at isThere leads
  refine ⟨made, ?_, adds, few, isThere, (foldlM_filter isThere).mpr leads, fun other apart => ?_⟩
  · have clean : ¬path.toList.contains '\x00' = true := by simpa using plain
    have directory : made.isDirectory (follow (system.start path) (Path.segments path)) = true := by
      rw [← follow_filter, isDirectory, isThere]
    rw [createDirectories, if_neg clean, found]
    dsimp only
    rw [if_pos directory]
  · have offWay : ∀ front, front <+: Path.segments path →
        follow (system.start path) front ≠ other := fun front begins => by
      rw [← follow_filter]
      exact apart _ (nameFront begins)
    have same := makeBelow_elsewhere system offWay
    rwa [found] at same

/-! ## The new file -/

/-- Different numbers give different names for new files. -/
theorem temporaryName_injective : Function.Injective temporaryName := by
  intro number other same
  have digits := congrArg String.toList ((String.append_right_inj _).mp same)
  rw [Nat.toList_repr, Nat.toList_repr] at digits
  have read := congrArg (Nat.ofDigitChars 10 · 0) digits
  simpa using read

/-- What stands at a place below the root is an entry. -/
theorem mem_of_lookup? (below : place ≠ []) (stands : system.lookup? place ≠ none) :
    place ∈ system.entries.map (·.1) := by
  rw [lookup?, if_neg below, ne_eq, Option.map_eq_none_iff] at stands
  obtain ⟨row, found⟩ := Option.ne_none_iff_exists'.mp stands
  have own := List.find?_some found
  exact List.mem_map.mpr ⟨row, List.mem_of_find?_eq_some found, eq_of_beq own⟩

/-- In a file system with fewer entries than there are names for new files one of these names is
unused. -/
theorem exists_unusedName (few : system.entries.length < 0x80000000) (directory : Location) :
    ∃ name, system.unusedName? directory = some name := by
  have tried : min (system.entries.length + 1) 0x80000000 = system.entries.length + 1 :=
    Nat.min_eq_left few
  rw [← Option.isSome_iff_exists, unusedName?, tried, List.find?_isSome]
  by_contra used
  simp only [not_exists, not_and, Option.isNone_iff_eq_none] at used
  have places : ((List.range (system.entries.length + 1)).map fun number =>
      directory ++ [temporaryName number]) ⊆ system.entries.map (·.1) := by
    intro place listed
    obtain ⟨number, counted, rfl⟩ := List.mem_map.mp listed
    exact mem_of_lookup? (by simp) (used _ (List.mem_map_of_mem counted))
  have distinct : ((List.range (system.entries.length + 1)).map fun number =>
      directory ++ [temporaryName number]).Nodup := by
    refine List.nodup_range.map fun number other same => temporaryName_injective ?_
    simpa using same
  have many := distinct.length_le_of_subset places
  simp at many

/-- In a directory that is not too full a new file is made if that is not refused. -/
theorem createTemporary_succeeds (willing : ∀ place, system.refuses .createTemporary place = none)
    (few : system.entries.length < 0x80000000)
    (leads : system.locate (directory ++ "/") = .ok place) :
    ∃ temporary, (system.createTemporary directory).2 = .ok temporary := by
  obtain ⟨name, unused⟩ := exists_unusedName few place
  rw [createTemporary, leads]
  dsimp only
  rw [willing, unused]
  exact ⟨_, rfl⟩

/-- Where no directory was, a new file makes none. -/
theorem HasNew.isDirectory_eq_false (new : HasNew before place state)
    (room : before.isDirectory there = false) : state.isDirectory there = false := by
  rw [isDirectory]
  by_cases here : there = place
  · obtain ⟨bytes, held⟩ := new.file
    rw [here, held]
  · rw [new.elsewhere there here]
    exact room

/-- Where nothing is refused, a new empty file is filled and takes the place of a target that is not
a directory. -/
theorem fillAndRename_succeeds (willing : ∀ step place, before.refuses step place = none)
    (new : HasNew before place state) (leads : before.locate temporary = .ok place)
    (empty : state.lookup? place = some (.file .empty))
    (leadsThere : before.locate target = .ok there) (named : namesEntry target = true)
    (room : before.isDirectory there = false) (text : String) :
    ((access.fillAndRename temporary target text).run state).1 = .ok () := by
  have filled := new.put (.empty ++ text.toUTF8)
  obtain ⟨bytes, held⟩ := filled.file
  have appended : (access.append temporary text).run state =
      (.ok (), state.put place (.file (.empty ++ text.toUTF8))) := by
    change (state.append temporary text).swap = _
    rw [append, new.keeps.locate leads]
    dsimp only
    rw [new.refuses, willing, willing, empty]
    rfl
  rw [FileAccess.fillAndRename, run_bind_of appended]
  generalize state.put place (.file (.empty ++ text.toUTF8)) = ready at filled held ⊢
  have renamed : (access.rename temporary target).run ready =
      (.ok (), (ready.erase place).put there (.file bytes)) := by
    change (ready.rename temporary target).swap = _
    rw [rename, filled.keeps.locate leads, filled.keeps.locate leadsThere]
    dsimp only
    rw [named, filled.refuses, willing, held, filled.isDirectory_eq_false room]
    rfl
  dsimp only
  rw [run_bind_of renamed]
  rfl

/-! ## The target -/

/-- The parts of a target that is named: the names of its directory, and one more. -/
theorem segments_of_namesEntry (named : namesEntry target = true) :
    ∃ front last, Path.segments target = front ++ [last] ∧
      front.filter Path.isName = Path.names (directoryOf target) ∧
      Path.names target = Path.names (directoryOf target) ++ [last] := by
  rw [namesEntry] at named
  split at named
  case h_1 last isLast =>
    obtain ⟨front, parts⟩ := List.getLast?_eq_some_iff.mp isLast
    have isName : Path.isName last = true := (Bool.and_eq_true_iff.mp named).1
    have names : Path.names target = front.filter Path.isName ++ [last] := by
      rw [Path.names_eq, parts, List.filter_append, List.filter_cons_of_pos isName, List.filter_nil]
    have own : Path.names (directoryOf target) = front.filter Path.isName := by
      rw [names_directoryOf, names, List.dropLast_concat]
    exact ⟨front, last, parts, own.symm, by rw [own, names]⟩
  case h_2 => cases named

/-- A target where a document can be written. Nothing is refused, and there is room for one more entry
and for each name; the path names something and can be followed from where it begins; no file stands
on the way, and the way does not lead through the target, where no directory is. -/
structure Writable (system : FileSystem) (target : String) : Prop where
  willing : ∀ step place, system.refuses step place = none
  few : system.entries.length + (Path.names target).length < 0x80000000
  plain : '\x00' ∉ target.toList
  named : namesEntry target = true
  short : ∀ name ∈ Path.names target, name.utf8ByteSize ≤ 255
  start : system.lookup? (system.start target) = some .directory
  clear : ∀ front, front <+: (Path.names target).dropLast →
    system.file? (follow (system.start target) front) = none
  apart : ∀ front, front <+: (Path.names target).dropLast →
    follow (system.start target) front ≠ follow (system.start target) (Path.names target)
  room : system.isDirectory (follow (system.start target) (Path.names target)) = false

namespace Writable

/-- The directory of a target begins where the target begins. -/
theorem start_directoryOf (writable : Writable system target) :
    system.start (directoryOf target) = system.start target := by
  rw [FileSystem.start, FileSystem.start, isAbsolute_directoryOf writable.named]

/-- The directory of the target can be made ready. -/
theorem ready (writable : Writable system target) :
    ∃ made, system.createDirectories (directoryOf target) = (made, .ok ()) ∧
      Ready system (directoryOf target) made := by
  have names := names_directoryOf target
  refine createDirectories_succeeds (writable.willing _) (nul_not_mem_directoryOf writable.plain) ?_
    ?_ ?_
  · rw [writable.start_directoryOf]
    exact writable.start
  · rw [names]
    exact fun name listed => writable.short name (List.mem_of_mem_dropLast listed)
  · rw [names, writable.start_directoryOf]
    exact writable.clear

/-- Behind a slash the directory leads to its place, once it is ready. -/
theorem locate_directory (writable : Writable system target)
    (ready : Ready system (directoryOf target) made) :
    made.locate (directoryOf target ++ "/") =
      .ok (follow (system.start target) (Path.names (directoryOf target))) := by
  have begins : made.start (directoryOf target ++ "/") = system.start (directoryOf target) := by
    rw [FileSystem.start, FileSystem.start, ready.adds.working,
      Path.isAbsolute_append_slash (directoryOf_ne_empty target)]
  have plain : '\x00' ∉ (directoryOf target ++ "/").toList := by
    simpa using nul_not_mem_directoryOf writable.plain
  have parts : Path.segments (directoryOf target ++ "/") =
      Path.segments (directoryOf target) ++ [""] := by
    have empty : '/' ∉ "".toList := List.not_mem_nil
    rw [← Path.segments_append_name (directoryOf target) empty, String.append_empty]
  have stays : Path.isName "" = false := by decide
  rw [locate_eq plain (by simp) parts ready.isThere (by rw [begins]; exact ready.leads)
    (Path.short_of_not_isName stays), onward_of_not_isName stays, writable.start_directoryOf]

/-- The target leads to its place, once the directory is ready. -/
theorem locate_target (writable : Writable system target)
    (ready : Ready system (directoryOf target) made) :
    made.locate target = .ok (follow (system.start target) (Path.names target)) := by
  obtain ⟨front, last, parts, own, names⟩ := segments_of_namesEntry writable.named
  have begins : made.start target = system.start (directoryOf target) := by
    rw [writable.start_directoryOf, FileSystem.start, FileSystem.start, ready.adds.working]
  have filled : target ≠ "" := by
    rintro rfl
    have nameless : namesEntry "" = false := by decide
    exact absurd writable.named (by simp [nameless])
  have leads : (front.filter Path.isName).foldlM made.step (made.start target) =
      .ok (follow (system.start (directoryOf target)) (Path.names (directoryOf target))) := by
    rw [own, begins]
    exact ready.leads
  rw [locate_eq writable.plain filled parts ready.isThere leads
    (writable.short last (by simp [names])), names, writable.start_directoryOf, follow, follow,
    List.foldl_concat]

/-- No directory is at the place of the target, once its directory is ready. -/
theorem room_ready (writable : Writable system target)
    (ready : Ready system (directoryOf target) made) :
    made.isDirectory (follow (system.start target) (Path.names target)) = false := by
  have same := ready.elsewhere (follow (system.start target) (Path.names target))
  rw [names_directoryOf, writable.start_directoryOf] at same
  have room := writable.room
  rw [isDirectory] at room ⊢
  rwa [same writable.apart]

/-- There is room for a new file, once the directory of the target is ready. -/
theorem few_ready (writable : Writable system target)
    (ready : Ready system (directoryOf target) made) : made.entries.length < 0x80000000 := by
  have names := congrArg List.length (names_directoryOf target)
  have bound := ready.few
  have few := writable.few
  rw [List.length_dropLast] at names
  omega

end Writable

/-- A document is written to every target where that can be done. -/
theorem writeDocument_succeeds (writable : Writable system (Path.clean path)) (value : Json) :
    ((access.writeDocument path value).run system).1 = .ok () := by
  rw [FileAccess.writeDocument]
  generalize Path.clean path = target at writable
  obtain ⟨made, created, ready⟩ := writable.ready
  have willing : ∀ step place, made.refuses step place = none := by
    rw [ready.adds.refuses]
    exact writable.willing
  have making : (access.createDirectories (directoryOf target)).run system = (.ok (), made) := by
    change (system.createDirectories (directoryOf target)).swap = _
    rw [created]
    rfl
  rw [run_bind_of making]
  obtain ⟨temporary, given⟩ := createTemporary_succeeds (willing _) (writable.few_ready ready)
    (writable.locate_directory ready)
  rcases made.createTemporary_cases (directoryOf target) with
    ⟨failure, refused⟩ | ⟨place, name, filled, found, leads, new, empty⟩
  · rw [refused] at given
    cases given
  · have creating : (access.createTemporary (directoryOf target)).run made = (.ok name, filled) := by
      change (made.createTemporary (directoryOf target)).swap = _
      rw [found]
      rfl
    dsimp only
    rw [run_bind_of creating]
    exact fillAndRename_succeeds willing new leads empty (writable.locate_target ready)
      writable.named (writable.room_ready ready) _

/-- Writing a value to a path either leaves the whole document at the shortest path with the same
meaning and all other files as they were, or it fails and leaves all files as they were. It does not
fail where the target can be written. -/
theorem writeDocument_all_or_nothing (system : FileSystem) (path : String) (value : Json) :
    let run := (access.writeDocument path value).run system
    WrittenOrNot system (Path.clean path) (value.pretty ++ "\n") run.1 run.2 ∧
      (Writable system (Path.clean path) → run.1 = .ok ()) :=
  ⟨writeDocument_writes system path value, fun writable => writeDocument_succeeds writable value⟩

/-- A document beside an older one, below a directory that is not there yet. -/
theorem writeDocument_all_or_nothing_below :
    let system : FileSystem := { entries := [(["old.json"], .file "1".toUTF8)] }
    let run := (access.writeDocument "./out/a.json" .null).run system
    Writable system (Path.clean "./out/a.json") ∧ run.1 = .ok () ∧
      ∃ place, run.2.locate "out/a.json" = .ok place ∧
        run.2.file? place = some "null\n".toUTF8 ∧
        ∀ other, other ≠ place → run.2.file? other = system.file? other := by
  intro system run
  have target : Path.clean "./out/a.json" = "out/a.json" := by decide +kernel
  have fronts : ∀ front ∈ (Path.names "out/a.json").dropLast.inits,
      system.file? (follow [] front) = none ∧
        follow [] front ≠ follow [] (Path.names "out/a.json") := by decide +kernel
  have writable : Writable system "out/a.json" :=
    { willing := fun _ _ => rfl
      few := by decide +kernel
      plain := by decide
      named := by decide
      short := by decide
      start := rfl
      clear := fun front begins => (fronts front ((List.mem_inits _ _).mpr begins)).1
      apart := fun front begins => (fronts front ((List.mem_inits _ _).mpr begins)).2
      room := by decide +kernel }
  have text : Json.null.pretty ++ "\n" = "null\n" := by decide +kernel
  -- From here on only what the theorem says counts, and running the program would be costly.
  clear_value system
  obtain ⟨whole, succeeds⟩ := writeDocument_all_or_nothing system "./out/a.json" .null
  rw [target] at whole succeeds ⊢
  rw [text] at whole
  exact ⟨writable, succeeds writable, whole.written (succeeds writable)⟩

end AbilityHooks.FileSystem
