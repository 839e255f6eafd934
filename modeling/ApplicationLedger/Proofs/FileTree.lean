/-
This file says what the operations on a tree of files do to its places. Writing, moving and removing
a file changes the places that are named, and no other one; and a path leads to the same place as
long as the directories on its way stay. A directory that was made is there, with those above it.
-/

import ApplicationLedger.FileTree

namespace ApplicationLedger

/-- The bytes of a file; a directory has none. -/
def Node.content? : Node → Option Bytes
  | file content => some content
  | directory => none

/-! ### Written paths -/

namespace Path

theorem names_of_plain {name : List Char} (plain : '/' ∉ name) {current : List Char}
    (nonempty : current.reverse ++ name ≠ []) :
    names current name = [String.ofList (current.reverse ++ name)] := by
  induction name generalizing current with
  | nil =>
    rw [List.append_nil, ne_eq, List.reverse_eq_nil_iff] at nonempty
    rw [names, List.append_nil, List.isEmpty_eq_false_iff.mpr nonempty, if_neg Bool.false_ne_true]
  | cons c rest inductionHypothesis =>
    rw [List.mem_cons, not_or] at plain
    have step : names current (c :: rest) = names (c :: current) rest :=
      names.eq_3 current c rest (Ne.symm plain.1)
    rw [step, inductionHypothesis plain.2 (by simp), List.reverse_cons, ← List.append_cons]

/-- A name behind a slash is the last one of a path. -/
theorem names_append {text name : List Char} (bare : text.getLast? ≠ some '/') (plain : '/' ∉ name)
    (nonempty : name ≠ []) (current : List Char) :
    names current (text ++ '/' :: name) = names current text ++ [String.ofList name] := by
  have last : names [] name = [String.ofList name] := names_of_plain plain nonempty
  induction text generalizing current with
  | nil =>
    rw [List.nil_append, names, names, last, List.isEmpty_eq_false_iff.mpr nonempty,
      if_neg Bool.false_ne_true]
    split <;> rfl
  | cons c rest inductionHypothesis =>
    have behind : rest.getLast? ≠ some '/' := by
      cases rest with
      | nil => exact nofun
      | cons d rest => exact bare
    by_cases slash : c = '/'
    · subst slash
      have further : rest ≠ [] := by
        rintro rfl
        exact bare rfl
      have furtherOn : rest ++ '/' :: name ≠ [] := List.append_ne_nil_of_left_ne_nil further _
      rw [List.cons_append, names, names, List.isEmpty_eq_false_iff.mpr further,
        List.isEmpty_eq_false_iff.mpr furtherOn, if_neg Bool.false_ne_true,
        if_neg Bool.false_ne_true, inductionHypothesis behind]
      split <;> rfl
    · have step (rest : List Char) : names current (c :: rest) = names (c :: current) rest :=
        names.eq_3 current c rest slash
      rw [List.cons_append, step, step, inductionHypothesis behind]

theorem endsWith_slash_iff (text : String) :
    text.endsWith "/" = true ↔ text.toList.getLast? = some '/' := by
  rw [String.endsWith_eq_endsWith_toSlice, String.Slice.endsWith_string_iff, String.copy_toSlice,
    List.getLast?_eq_some_iff]
  exact exists_congr fun front => eq_comm

theorem not_startsWith_slash {name : String} (plain : '/' ∉ name.toList) :
    name.startsWith "/" = false := by
  rw [Bool.eq_false_iff, ne_eq, String.startsWith_string_iff]
  intro first
  exact plain (first.subset List.mem_cons_self)

/-- Below a directory a name follows, unless it is a path itself. -/
theorem exists_join_eq {name : String} (plain : '/' ∉ name.toList) (base : String) :
    ∃ front, join base name = front ++ name := by
  rw [join, not_startsWith_slash plain, Bool.false_or]
  split
  · exact ⟨"", String.empty_append.symm⟩
  split
  · exact ⟨base, rfl⟩
  · exact ⟨base ++ "/", rfl⟩

theorem getLast?_join {name : String} (nonempty : name ≠ "") (plain : '/' ∉ name.toList)
    (base : String) : (join base name).toList.getLast? ≠ some '/' := by
  obtain ⟨front, equal⟩ := exists_join_eq plain base
  obtain ⟨last, lastOfName⟩ := Option.ne_none_iff_exists'.mp
    (mt List.getLast?_eq_none_iff.mp (mt String.toList_eq_nil_iff.mp nonempty))
  rw [equal, String.toList_append, List.getLast?_append, lastOfName, Option.some_or]
  rintro ⟨⟩
  exact plain (List.mem_of_getLast? lastOfName)

/-- A name below a directory is one step behind those of the directory. -/
theorem ofText_join {directory name : String} (bare : directory.toList.getLast? ≠ some '/')
    (nonempty : name ≠ "") (plain : '/' ∉ name.toList) :
    ofText (join directory name) = ofText directory ++ [name] := by
  have chars : name.toList ≠ [] := mt String.toList_eq_nil_iff.mp nonempty
  have last : names [] name.toList = [String.ofList name.toList] := names_of_plain plain chars
  have notClosed := mt (endsWith_slash_iff directory).mp bare
  rw [join, not_startsWith_slash plain, Bool.false_or]
  by_cases empty : directory.isEmpty = true
  · rw [if_pos empty, String.isEmpty_iff.mp empty, ofText, last, String.ofList_toList]
    rfl
  · have joined := names_append bare plain chars []
    rw [String.ofList_toList] at joined
    rw [if_neg empty, if_neg notClosed, ofText, String.toList_append, String.toList_append,
      List.append_assoc]
    exact joined

end Path

namespace FileTree

variable {t : FileTree} {place other : Path} {node : Node}

/-! ### Places -/

theorem node?_eq_lookup (below : place ≠ []) : t.node? place = t.entries.lookup place := by
  rw [node?, List.isEmpty_eq_false_iff.mpr below]
  rfl

theorem lookup_filter_of_ne (apart : other ≠ place) (entries : List (Path × Node)) :
    (entries.filter (·.1 != place)).lookup other = entries.lookup other := by
  induction entries with
  | nil => rfl
  | cons entry rest inductionHypothesis =>
    obtain ⟨found, node⟩ := entry
    by_cases same : found = place
    · rw [List.filter_cons_of_neg (by simp [same]), inductionHypothesis, List.lookup_cons, same,
        beq_false_of_ne apart]
    · rw [List.filter_cons_of_pos (by simp [same]), List.lookup_cons, List.lookup_cons,
        inductionHypothesis]

theorem node?_erase_self (below : place ≠ []) : (t.erase place).node? place = none := by
  rw [node?_eq_lookup below, List.lookup_eq_none_iff]
  intro entry member
  exact bne_comm.trans (List.mem_filter.mp member).2

theorem node?_erase_of_ne (apart : other ≠ place) :
    (t.erase place).node? other = t.node? other := by
  cases other with
  | nil => rfl
  | cons name rest =>
    rw [node?_eq_lookup (List.cons_ne_nil _ _), node?_eq_lookup (List.cons_ne_nil _ _), erase,
      lookup_filter_of_ne apart]

theorem node?_insert_self (below : place ≠ []) : (t.insert place node).node? place = some node := by
  rw [node?_eq_lookup below]
  exact List.lookup_cons_self

theorem node?_insert_of_ne (apart : other ≠ place) :
    (t.insert place node).node? other = t.node? other := by
  cases other with
  | nil => rfl
  | cons name rest =>
    rw [node?_eq_lookup (List.cons_ne_nil _ _), node?_eq_lookup (List.cons_ne_nil _ _), insert,
      List.lookup_cons, beq_false_of_ne apart]
    exact lookup_filter_of_ne apart t.entries

/-- Where nothing stands there is nothing to erase. -/
theorem erase_of_free (below : place ≠ []) (free : t.node? place = none) : t.erase place = t := by
  rw [node?_eq_lookup below, List.lookup_eq_none_iff] at free
  refine congrArg FileTree.mk (List.filter_eq_self.mpr fun entry member => ?_)
  exact bne_comm.trans (free entry member)

/-- What was put somewhere is erased without a trace. -/
theorem erase_insert (place : Path) : (t.insert place node).erase place = t.erase place := by
  refine (congrArg FileTree.mk (List.filter_cons_of_neg ?_)).trans ?_
  · rw [bne_self_eq_false]
    exact Bool.false_ne_true
  · exact congrArg FileTree.mk (List.filter_eq_self.mpr fun _ member =>
      (List.mem_filter.mp member).2)

/-! ### Trees with the same directories -/

/-- Whether two trees have directories in the same places. -/
def SameDirectories (t t' : FileTree) : Prop :=
  ∀ place, t'.node? place = some .directory ↔ t.node? place = some .directory

theorem SameDirectories.refl (t : FileTree) : t.SameDirectories t := fun _ => Iff.rfl

theorem SameDirectories.trans {t t' t'' : FileTree} (first : t.SameDirectories t')
    (second : t'.SameDirectories t'') : t.SameDirectories t'' :=
  fun place => (second place).trans (first place)

theorem below_of_ne_directory (notDirectory : t.node? place ≠ some .directory) : place ≠ [] := by
  rintro rfl
  exact notDirectory rfl

theorem sameDirectories_erase (notDirectory : t.node? place ≠ some .directory) :
    t.SameDirectories (t.erase place) := by
  intro other
  by_cases same : other = place
  · rw [same, node?_erase_self (below_of_ne_directory notDirectory)]
    exact iff_of_false nofun notDirectory
  · rw [node?_erase_of_ne same]

theorem sameDirectories_insert (notDirectory : t.node? place ≠ some .directory) (content : Bytes) :
    t.SameDirectories (t.insert place (.file content)) := by
  intro other
  by_cases same : other = place
  · rw [same, node?_insert_self (below_of_ne_directory notDirectory)]
    exact iff_of_false nofun notDirectory
  · rw [node?_insert_of_ne same]

/-! ### Paths -/

theorem walk_append (t : FileTree) (place first second : Path) :
    t.walk place (first ++ second) =
      (t.walk place first).bind fun reached => t.walk reached second := by
  induction first generalizing place with
  | nil => rfl
  | cons name rest inductionHypothesis =>
    rw [List.cons_append, walk, walk]
    rcases t.node? place with _ | content | _
    · rfl
    · rfl
    · dsimp only
      split
      · exact inductionHypothesis place
      split
      · exact inductionHypothesis place.dropLast
      split
      · rfl
      · exact inductionHypothesis (place ++ [name])

/-- A path leads to the same place in a tree that has the directories of the other one. -/
theorem walk_of_directories {t' : FileTree}
    (kept : ∀ place, t.node? place = some .directory → t'.node? place = some .directory)
    {start : Path} {path : Path} (walked : t.walk start path = .ok place) :
    t'.walk start path = .ok place := by
  induction path generalizing start with
  | nil => exact walked
  | cons name rest inductionHypothesis =>
    rw [walk] at walked ⊢
    cases found : t.node? start with
    | none =>
      rw [found] at walked
      cases walked
    | some node =>
      rw [found] at walked
      cases node with
      | file content => cases walked
      | directory =>
        rw [kept start found]
        dsimp only at walked ⊢
        by_cases here : name = "."
        · rw [if_pos here] at walked ⊢
          exact inductionHypothesis walked
        rw [if_neg here] at walked ⊢
        by_cases upwards : name = ".."
        · rw [if_pos upwards] at walked ⊢
          exact inductionHypothesis walked
        rw [if_neg upwards] at walked ⊢
        by_cases long : name.utf8ByteSize > greatestName
        · rw [if_pos long] at walked
          cases walked
        · rw [if_neg long] at walked ⊢
          exact inductionHypothesis walked

theorem locate_of_directories {t' : FileTree}
    (kept : ∀ place, t.node? place = some .directory → t'.node? place = some .directory)
    {path : Path} (located : t.locate path = .ok place) : t'.locate path = .ok place := by
  rw [locate] at located ⊢
  by_cases broken : (path.any fun name => name.contains '\x00') = true
  · rw [if_pos broken] at located
    cases located
  · rw [if_neg broken] at located ⊢
    exact walk_of_directories kept located

/-- A name in a directory leads to the place below it, unless it is too long. -/
theorem locate_child {directory : Path} {name : String} (located : t.locate directory = .ok place)
    (isDirectory : t.node? place = some .directory) (unbroken : '\x00' ∉ name.toList)
    (step : name ≠ "." ∧ name ≠ "..") :
    t.locate (directory ++ [name]) =
      if name.utf8ByteSize > greatestName then .error .nameTooLong else .ok (place ++ [name]) := by
  have last : [name].any (·.contains '\x00') = false := by
    rw [List.any_cons, String.contains_char_eq, decide_eq_false unbroken]
    rfl
  rw [locate] at located ⊢
  split at located
  · cases located
  · rename_i plain
    rw [List.any_append, Bool.eq_false_iff.mpr plain, last, Bool.or_false,
      if_neg Bool.false_ne_true, walk_append, located]
    simp only [Except.bind, walk, isDirectory, if_neg step.1, if_neg step.2]

/-- A path that leads to a place behind a name leads through the directory that holds it. -/
theorem exists_of_locate_child {directory : Path} {name : String}
    (step : name ≠ "." ∧ name ≠ "..") (located : t.locate (directory ++ [name]) = .ok other) :
    ∃ place, t.locate directory = .ok place ∧ t.node? place = some .directory ∧
      other = place ++ [name] := by
  rw [locate] at located
  split at located
  · cases located
  rename_i unbroken
  rw [List.any_append, Bool.or_eq_true, not_or] at unbroken
  rw [walk_append] at located
  cases walked : t.walk [] directory with
  | error fault =>
    rw [walked] at located
    cases located
  | ok place =>
    simp only [walked, Except.bind, walk, if_neg step.1, if_neg step.2] at located
    refine ⟨place, (if_neg unbroken.1).trans walked, ?_⟩
    split at located
    · cases located
    · cases located
    · rename_i isDirectory
      split at located
      · cases located
      · cases located
        exact ⟨isDirectory, rfl⟩

/-- A name leads to its own place below the root. -/
theorem locate_name {name : String} (unbroken : '\x00' ∉ name.toList)
    (step : name ≠ "." ∧ name ≠ "..") (short : name.utf8ByteSize ≤ greatestName) (t : FileTree) :
    t.locate [name] = .ok [name] :=
  (locate_child (rfl : t.locate [] = .ok []) rfl unbroken step).trans
    (if_neg (Nat.not_lt.mpr short))

/-! ### Files -/

section Operations

variable {path source target : Path} {content : Bytes}

theorem read_toOption (located : t.locate path = .ok place) :
    (t.read path).toOption = (t.node? place).bind Node.content? := by
  simp only [read, located, bind, Except.bind]
  rcases t.node? place with _ | content | _ <;> rfl

/-- A file is written unless there is a directory in its place. -/
theorem write_eq (located : t.locate path = .ok place) (content : Bytes) :
    t.write path content =
      if t.node? place = some .directory then .error .isADirectory
      else .ok (t.insert place (.file content)) := by
  simp only [write, located, bind, Except.bind]
  rcases t.node? place with _ | content | _ <;> rfl

/-- A file is moved unless there is a directory in its new place. -/
theorem rename_eq (fromPlace : t.locate source = .ok place) (toPlace : t.locate target = .ok other)
    (isFile : t.node? place = some (.file content)) :
    t.rename source target =
      if t.node? other = some .directory then .error .isADirectory
      else .ok ((t.erase place).insert other (.file content)) := by
  simp only [rename, fromPlace, toPlace, bind, Except.bind, isFile]
  rcases t.node? other with _ | content | _ <;> rfl

/-- A file is removed; nothing and a directory cannot be. -/
theorem remove_eq (located : t.locate path = .ok place) :
    t.remove path =
      match t.node? place with
      | none => .error .notFound
      | some .directory => .error .isADirectory
      | some (.file _) => .ok (t.erase place) := by
  rcases found : t.node? place with _ | content | _ <;>
    simp only [remove, located, bind, Except.bind, found]

end Operations

/-! ### Directories -/

theorem isDirectory_iff {path : Path} :
    t.isDirectory path = true ↔
      ∃ place, t.locate path = .ok place ∧ t.node? place = some .directory := by
  rw [isDirectory]
  cases t.locate path with
  | error fault => exact iff_of_false Bool.false_ne_true nofun
  | ok place =>
    rw [beq_iff_eq]
    exact ⟨fun found => ⟨place, rfl, found⟩, fun ⟨_, same, found⟩ => by cases same; exact found⟩

theorem SameDirectories.isDirectory_eq {t' : FileTree} (same : t.SameDirectories t') (path : Path) :
    t'.isDirectory path = t.isDirectory path := by
  rw [Bool.eq_iff_iff, isDirectory_iff, isDirectory_iff]
  constructor
  · rintro ⟨place, located, found⟩
    exact ⟨place, locate_of_directories (fun other => (same other).mp) located,
      (same place).mp found⟩
  · rintro ⟨place, located, found⟩
    exact ⟨place, locate_of_directories (fun other => (same other).mpr) located,
      (same place).mpr found⟩

theorem isDirectory_of_createDirectory {t' : FileTree} {path : Path}
    (created : t.createDirectory path = .ok t') : t'.isDirectory path = true := by
  unfold createDirectory at created
  cases located : t.locate path with
  | error fault =>
    rw [located] at created
    cases created
  | ok place =>
    simp only [located, bind, Except.bind] at created
    cases found : t.node? place with
    | some node =>
      rw [found] at created
      cases created
    | none =>
      rw [found] at created
      cases created
      have below : place ≠ [] := by
        rintro rfl
        cases found
      refine isDirectory_iff.mpr ⟨place, locate_of_directories ?_ located, node?_insert_self below⟩
      intro other isDirectory
      rw [node?_insert_of_ne, isDirectory]
      rintro rfl
      rw [found] at isDirectory
      cases isDirectory

theorem isDirectory_of_createReversed {reversed : Path} {t' : FileTree}
    (created : t.createReversed reversed = .ok t') : t'.isDirectory reversed.reverse = true := by
  induction reversed generalizing t' with
  | nil => rfl
  | cons name above inductionHypothesis =>
    rw [createReversed] at created
    split at created
    · rename_i made
      cases created
      exact isDirectory_of_createDirectory made
    · cases parent : t.createReversed above with
      | error fault =>
        rw [parent] at created
        cases created
      | ok t₁ =>
        simp only [parent, bind, Except.bind] at created
        split at created
        · rename_i made
          cases created
          exact isDirectory_of_createDirectory made
        · split at created
          · rename_i present
            cases created
            exact present
          · cases created
    · split at created
      · rename_i present
        cases created
        exact present
      · cases created

/-- The directories of a path that were made are there. -/
theorem isDirectory_of_createDirectories {t' : FileTree} {path : Path}
    (created : t.createDirectories path = .ok t') : t'.isDirectory path = true := by
  have reversed := isDirectory_of_createReversed created
  rwa [List.reverse_reverse] at reversed

end FileTree

end ApplicationLedger
