import Mathlib.Data.List.Induction
import Rollout.Files
import Rollout.Proofs.Text.Pieces

namespace Rollout.Files

/-! Which files paths name, and which of those files are read. -/

variable {tree : Tree} {path content : String} {bytes : List UInt8}

namespace Tree

/-- Names lead from a location to an entry, through directories only. -/
inductive Leads (tree : Tree) : Location → List String → Entry → Prop where
  | here {location : Location} {entry : Entry} (found : tree.entry? location = some entry) :
      Leads tree location [] entry
  | on {location : Location} {name : String} {names : List String} {entry : Entry}
      (through : tree.entry? location = some .directory)
      (later : Leads tree (next location name) names entry) :
      Leads tree location (name :: names) entry

/-- A path names a file, from the root or from the working directory. -/
def Names (tree : Tree) (path : String) (bytes : List UInt8) : Prop :=
  ∃ start, (if isAbsolute path then some [] else tree.working) = some start ∧
    tree.Leads start (names path) (.file bytes)

/-- A path names a text file. -/
def Stores (tree : Tree) (path content : String) : Prop :=
  ∃ bytes chars, tree.Names path bytes ∧ Text.Utf8.decode? bytes = some chars ∧
    content = String.ofList chars

end Tree

/-- Names lead above the place from which a lookup began, when it is at some depth below it. -/
def rises : (depth : Nat) → List String → Bool
  | _, [] => false
  | 0, name :: names => name = ".." || rises 1 names
  | depth + 1, name :: names => if name = ".." then rises depth names else rises (depth + 2) names

/-- Absolute paths may lead anywhere.  Others must stay below the working directory, and must not
be spelled like those of directories. -/
def Confined (path : String) : Prop :=
  isAbsolute path = true ∨ rises 0 (names path) = false ∧ endsAsDirectory path = false

section Walking

variable {base location last : Location} {entry entry' : Entry} {names front back : List String}
  {name : String}

theorem Tree.Leads.unique (leads : tree.Leads location names entry)
    (also : tree.Leads location names entry') : entry = entry' := by
  induction leads with
  | here found =>
      obtain found' | _ := also
      exact Option.some.inj (found.symm.trans found')
  | on through later ih =>
      obtain _ | ⟨_, later'⟩ := also
      exact ih later'

/-- A path stores one text at most. -/
theorem Tree.Stores.unique {path content content' : String} (stores : tree.Stores path content)
    (also : tree.Stores path content') : content = content' := by
  obtain ⟨bytes, chars, ⟨start, begins, leads⟩, decoded, rfl⟩ := stores
  obtain ⟨bytes', chars', ⟨start', begins', leads'⟩, decoded', rfl⟩ := also
  obtain rfl := Option.some.inj (begins.symm.trans begins')
  obtain rfl := Entry.file.inj (leads.unique leads')
  rw [Option.some.inj (decoded.symm.trans decoded')]

theorem Tree.walk_nil_eq_ok_iff : tree.walk location [] = .ok (last, entry) ↔
    tree.entry? location = some entry ∧ last = location := by
  cases found : tree.entry? location with
  | none => simp [walk, found]
  | some there => simp [walk, found, and_comm, eq_comm]

theorem Tree.walk_cons_eq_ok_iff : tree.walk location (name :: names) = .ok (last, entry) ↔
    tree.entry? location = some .directory ∧ tree.walk (next location name) names = .ok (last, entry) := by
  cases found : tree.entry? location with
  | none => simp [walk, found]
  | some there =>
      cases there with
      | file bytes => simp [walk, found]
      | directory => simp [walk, found]

/-- The first names lead to a directory from which the others lead on. -/
theorem Tree.leads_append (more : back ≠ []) : tree.Leads location (front ++ back) entry ↔
    ∃ middle, tree.walk location front = .ok (middle, .directory) ∧ tree.Leads middle back entry := by
  induction front generalizing location with
  | nil =>
      simp only [List.nil_append, walk_nil_eq_ok_iff]
      constructor
      · intro leads
        refine ⟨location, ⟨?_, rfl⟩, leads⟩
        cases leads with
        | here found => exact absurd rfl more
        | on through later => exact through
      · intro split
        obtain ⟨middle, ⟨-, rfl⟩, leads⟩ := split
        exact leads
  | cons name front ih =>
      simp only [List.cons_append, walk_cons_eq_ok_iff]
      constructor
      · intro leads
        obtain _ | ⟨through, later⟩ := leads
        obtain ⟨middle, walked, leads⟩ := ih.mp later
        exact ⟨middle, ⟨through, walked⟩, leads⟩
      · intro split
        obtain ⟨middle, ⟨through, walked⟩, leads⟩ := split
        exact .on through (ih.mpr ⟨middle, walked, leads⟩)

/-- What is found below a base is what the names lead to. -/
theorem Tree.leads_of_walkWithin (walked : tree.walkWithin base location names = .ok (last, entry)) :
    tree.Leads location names entry := by
  induction names generalizing location with
  | nil => exact .here (walk_nil_eq_ok_iff.mp walked).1
  | cons name names ih =>
      cases found : tree.entry? location with
      | none => simp [walkWithin, found] at walked
      | some there =>
          cases there with
          | file bytes => simp [walkWithin, found] at walked
          | directory =>
              simp only [walkWithin, found] at walked
              split at walked
              · cases walked
              · exact .on found (ih walked)

/-- What names lead to is found unless they rise above the base. -/
theorem Tree.walkWithin_of_leads (leads : tree.Leads (base ++ front) names entry) :
    if rises front.length names = true then
      tree.walkWithin base (base ++ front) names = .error .outside
    else ∃ last, tree.walkWithin base (base ++ front) names = .ok (last, entry) := by
  induction names generalizing front with
  | nil =>
      obtain found | _ := leads
      exact ⟨_, walk_nil_eq_ok_iff.mpr ⟨found, rfl⟩⟩
  | cons name names ih =>
      obtain _ | ⟨through, later⟩ := leads
      simp only [walkWithin, through]
      by_cases above : name = ".."
      · cases front using List.reverseRecOn with
        | nil => simp [above, rises]
        | append_singleton front label =>
            have before : next (base ++ (front ++ [label])) name = base ++ front := by
              simp [next, above, ← List.append_assoc]
            rw [before] at later ⊢
            simpa [rises, above] using ih later
      · have after : next (base ++ front) name = base ++ (front ++ [name]) := by simp [next, above]
        rw [after] at later ⊢
        have inner := ih later
        cases front with
        | nil => simpa [rises, above] using inner
        | cons label front => simpa [rises, above] using inner

theorem Tree.walkWithin_eq_ok_iff : (∃ last, tree.walkWithin base base names = .ok (last, entry)) ↔
    rises 0 names = false ∧ tree.Leads base names entry := by
  constructor
  · intro walked
    obtain ⟨last, walked⟩ := walked
    have leads := leads_of_walkWithin walked
    refine ⟨?_, leads⟩
    have outcome := walkWithin_of_leads ((List.append_nil base).symm ▸ leads)
    simpa [walked] using outcome
  · intro both
    have outcome := walkWithin_of_leads ((List.append_nil base).symm ▸ both.2)
    simpa [both.1] using outcome

end Walking

section Paths

variable {names : List String} {name : String}

/-- A name of a path: it is not left out when the path is taken apart. -/
structure IsName (name : String) : Prop where
  whole : '/' ∉ name.toList
  some : name ≠ ""
  other : name ≠ "."

theorem isName_of_mem (member : name ∈ Files.names path) : IsName name := by
  obtain ⟨member, kept⟩ := List.mem_filter.mp member
  obtain ⟨piece, cut, rfl⟩ := List.mem_map.mp member
  obtain ⟨some, other⟩ := of_decide_eq_true kept
  refine ⟨?_, some, other⟩
  rw [String.toList_ofList]
  exact Text.not_mem_of_mem_splitAt piece cut

theorem isAbsolute_join (names : List String) : isAbsolute ("/" ++ "/".intercalate names) = true := by
  simp [isAbsolute]

/-- Names that are put together again below the root. -/
theorem names_join (named : ∀ name ∈ names, IsName name) :
    Files.names ("/" ++ "/".intercalate names) = names := by
  have pieces : Text.splitAt '/' ("/" ++ "/".intercalate names).toList =
      [] :: Text.splitAt '/' (List.intercalate ['/'] (names.map String.toList)) := by
    rw [String.toList_append, String.toList_intercalate]
    exact Text.splitAt_cons_separator _
  have kept : names.filter (fun name => name ≠ "" ∧ name ≠ ".") = names := by
    apply List.filter_eq_self.mpr
    intro name member
    exact decide_eq_true ⟨(named name member).some, (named name member).other⟩
  unfold Files.names
  rw [pieces]
  cases names with
  | nil => rfl
  | cons name rest =>
      rw [Text.splitAt_join (by simp)]
      · simpa [List.map_map, Function.comp_def] using kept
      · intro piece member
        obtain ⟨name, among, rfl⟩ := List.mem_map.mp member
        exact (named name among).whole

/-- A path without names is one of a directory. -/
theorem endsAsDirectory_of_names_eq_nil (none : Files.names path = []) :
    endsAsDirectory path = true := by
  obtain ⟨piece, pieces, cut⟩ := Text.exists_splitAt '/' path.toList
  have some : Text.splitAt '/' path.toList ≠ [] := by simp [cut]
  have last := List.getLast_mem some
  have dropped := List.filter_eq_nil_iff.mp none _ (List.mem_map_of_mem last)
  rw [endsAsDirectory, List.getLast?_eq_some_getLast some]
  simp only [decide_not, Bool.decide_and, Bool.and_eq_true, not_and] at dropped
  simpa [or_iff_not_imp_left, ← String.toList_inj] using dropped

end Paths

section Reading

variable {directory : Location} {names : List String} {asDirectory : Bool}

/-- A text file is read unless the names rise above the directory or must be those of one. -/
theorem Tree.readText_eq_ok_iff : tree.readText directory names asDirectory = .ok content ↔
    asDirectory = false ∧ rises 0 names = false ∧ ∃ bytes chars,
      tree.Leads directory names (.file bytes) ∧
        Text.Utf8.decode? bytes = some chars ∧ content = String.ofList chars := by
  have read : tree.readText directory names asDirectory = .ok content ↔
      asDirectory = false ∧ ∃ bytes chars,
        (∃ last, tree.walkWithin directory directory names = .ok (last, .file bytes)) ∧
          Text.Utf8.decode? bytes = some chars ∧ content = String.ofList chars := by
    unfold readText
    cases walked : tree.walkWithin directory directory names with
    | error cause => simp [bind, Except.bind]
    | ok found =>
        obtain ⟨last, entry⟩ := found
        cases entry with
        | directory => simp [bind, Except.bind]
        | file bytes =>
            cases asDirectory with
            | true => simp [bind, Except.bind]
            | false =>
                cases decoded : Text.Utf8.decode? bytes with
                | none => simp [bind, Except.bind, decoded]
                | some chars => simp [bind, Except.bind, decoded, eq_comm]
  simp only [read, walkWithin_eq_ok_iff, and_assoc, exists_and_left]

theorem Tree.openDirectory_join_iff (named : ∀ name ∈ names, IsName name) :
    tree.openDirectory ("/" ++ "/".intercalate names) = .ok directory ↔
      tree.walk [] names = .ok (directory, .directory) := by
  simp only [openDirectory, isAbsolute_join, names_join named, if_true, bind, Except.bind]
  cases walked : tree.walk [] names with
  | error cause => simp
  | ok found =>
      obtain ⟨last, entry⟩ := found
      cases entry with
      | directory => simp
      | file bytes => simp

theorem Tree.openDirectory_here :
    tree.openDirectory "." = match tree.working.map fun start => (start, tree.entry? start) with
      | some (start, some .directory) => .ok start
      | some (_, some (.file _)) => .error .notDirectory
      | _ => .error .notFound := by
  have here : Files.names "." = [] := by decide
  have relative : isAbsolute "." = false := by decide
  have some : ("." : String).isEmpty = false := by decide
  simp only [openDirectory, relative, here, walk, bind, Except.bind]
  cases tree.working with
  | none => rfl
  | some start =>
      simp only [some, Option.map_some]
      cases tree.entry? start with
      | none => rfl
      | some entry => cases entry <;> rfl

/-- Whoever gets to a directory from the root has come through the directories above it. -/
theorem Tree.above_of_walk {location last : Location}
    (walked : tree.walk location names = .ok (last, .directory))
    (above : ∀ part, part <+: location → part ≠ location → tree.entry? part = some .directory) :
    ∀ part, part <+: last → tree.entry? part = some .directory := by
  induction names generalizing location with
  | nil =>
      obtain ⟨found, rfl⟩ := walk_nil_eq_ok_iff.mp walked
      intro part before
      by_cases whole : part = last
      · rw [whole, found]
      · exact above part before whole
  | cons name names ih =>
      obtain ⟨through, walked⟩ := walk_cons_eq_ok_iff.mp walked
      have all : ∀ part, part <+: location → tree.entry? part = some .directory := by
        intro part before
        by_cases whole : part = location
        · rw [whole, through]
        · exact above part before whole
      apply ih walked
      intro part before other
      apply all
      unfold next at before other
      split at before
      case isTrue up => exact before.trans (List.dropLast_prefix location)
      case isFalse down =>
        rw [if_neg down] at other
        exact (List.prefix_concat_iff.mp before).resolve_left other

theorem Tree.not_leads_up {front : List String} :
    ¬ tree.Leads [] (front ++ [".."]) (.file bytes) := by
  intro leads
  obtain ⟨middle, walked, last⟩ := (leads_append (List.cons_ne_nil _ _)).mp leads
  obtain _ | ⟨through, later⟩ := last
  obtain found | _ := later
  have above := above_of_walk walked (by simp) _ (List.dropLast_prefix middle)
  cases found.symm.trans above

theorem Tree.entry?_root (tree : Tree) : tree.entry? [] = some .directory := if_pos rfl

/-- What is read of the last name of an absolute path, below the directories before it. -/
theorem Tree.readText_below_iff {parents : List String} {name : String}
    (named : ∀ parent ∈ parents, IsName parent) (down : name ≠ "..") :
    (tree.openDirectory ("/" ++ "/".intercalate parents) >>= fun directory =>
        tree.readText directory [name]) = .ok content ↔
      ∃ bytes chars, tree.Leads [] (parents ++ [name]) (.file bytes) ∧
        Text.Utf8.decode? bytes = some chars ∧ content = String.ofList chars := by
  constructor
  · intro read
    cases opened : tree.openDirectory ("/" ++ "/".intercalate parents) with
    | error cause => simp [opened, bind, Except.bind] at read
    | ok directory =>
        rw [opened] at read
        obtain ⟨-, -, bytes, chars, last, decoded⟩ := Tree.readText_eq_ok_iff.mp read
        have walked := (Tree.openDirectory_join_iff named).mp opened
        have leads := (Tree.leads_append (List.cons_ne_nil _ _)).mpr ⟨directory, walked, last⟩
        exact ⟨bytes, chars, leads, decoded⟩
  · intro stores
    obtain ⟨bytes, chars, leads, decoded⟩ := stores
    obtain ⟨directory, walked, last⟩ := (Tree.leads_append (List.cons_ne_nil _ _)).mp leads
    rw [(Tree.openDirectory_join_iff named).mpr walked]
    exact Tree.readText_eq_ok_iff.mpr ⟨rfl, by simp [rises, down], bytes, chars, last, decoded⟩

theorem readPath_absolute_iff (absolute : isAbsolute path = true) :
    tree.readPath path = .ok content ↔ tree.Stores path content := by
  simp only [Tree.Stores, Tree.Names, Tree.readPath, if_pos absolute, Option.some.injEq,
    exists_eq_left']
  cases parts : (Files.names path).reverse with
  | nil =>
      rw [List.reverse_eq_nil_iff.mp parts]
      refine iff_of_false nofun ?_
      intro stores
      obtain ⟨bytes, -, ⟨found⟩, -⟩ := stores
      cases found.symm.trans tree.entry?_root
  | cons name parents =>
      have whole := List.reverse_eq_cons_iff.mp parts
      rw [whole]
      by_cases above : name = ".."
      · simp only [above, if_true]
        refine iff_of_false nofun ?_
        intro stores
        obtain ⟨bytes, -, leads, -⟩ := stores
        exact Tree.not_leads_up leads
      · simp only [if_neg above]
        apply Tree.readText_below_iff _ above
        intro parent member
        exact isName_of_mem (whole ▸ List.mem_append_left _ member)

theorem readPath_of_relative (relative : isAbsolute path = false) :
    tree.readPath path = if (Files.names path).head? = some ".." then .error .outside
      else match tree.working.map fun start => (start, tree.entry? start) with
        | some (start, some .directory) =>
            tree.readText start (Files.names path) (endsAsDirectory path)
        | some (_, some (.file _)) => .error .notDirectory
        | _ => .error .notFound := by
  unfold Tree.readPath
  rw [if_neg (by simp [relative]), Tree.openDirectory_here]
  congr 1
  split <;> rfl

theorem rises_of_head {names : List String} (up : names.head? = some "..") : rises 0 names = true := by
  obtain ⟨rest, rfl⟩ := List.head?_eq_some_iff.mp up
  rfl

/-- What is read of a file that a relative path names. -/
theorem readPath_of_names (relative : isAbsolute path = false) (named : tree.Names path bytes) :
    tree.readPath path = if rises 0 (Files.names path) = true then .error .outside
      else if endsAsDirectory path = true then .error .notDirectory
      else match Text.Utf8.decode? bytes with
        | some chars => .ok (String.ofList chars)
        | none => .error .notText := by
  obtain ⟨start, begins, leads⟩ := named
  rw [if_neg (by simp [relative])] at begins
  simp only [readPath_of_relative relative, begins, Option.map_some]
  cases parts : Files.names path with
  | nil =>
      rw [parts] at leads
      obtain found | _ := leads
      simp [found, rises, endsAsDirectory_of_names_eq_nil parts]
  | cons name rest =>
      rw [parts] at leads
      have outcome := Tree.walkWithin_of_leads ((List.append_nil start).symm ▸ leads)
      obtain _ | ⟨through, -⟩ := leads
      simp only [through, Tree.readText]
      by_cases up : (name :: rest).head? = some ".."
      · rw [if_pos up, if_pos (rises_of_head up)]
      · rw [if_neg up]
        by_cases above : rises 0 (name :: rest) = true
        · simp only [List.append_nil, List.length_nil, if_pos above] at outcome
          rw [outcome, if_pos above]
          rfl
        · simp only [List.append_nil, List.length_nil, if_neg above] at outcome
          obtain ⟨last, found⟩ := outcome
          rw [found, if_neg above]
          rfl

/-- A path is read if it names a text file and is confined. -/
theorem readPath_eq_ok_iff :
    tree.readPath path = .ok content ↔ Confined path ∧ tree.Stores path content := by
  unfold Confined
  cases absolute : isAbsolute path with
  | true => simp [readPath_absolute_iff absolute]
  | false =>
      simp only [Bool.false_eq_true, false_or]
      constructor
      · intro read
        rw [readPath_of_relative absolute] at read
        split at read
        · cases read
        · cases begins : tree.working with
          | none => simp [begins] at read
          | some start =>
              simp only [begins, Option.map_some] at read
              split at read
              case h_1 directory found =>
                  obtain ⟨ends, below, bytes, chars, leads, decoded⟩ := Tree.readText_eq_ok_iff.mp read
                  obtain ⟨rfl, -⟩ := Prod.mk.inj (Option.some.inj found)
                  have named : tree.Names path bytes := ⟨start, by simp [absolute, begins], leads⟩
                  exact ⟨⟨below, ends⟩, bytes, chars, named, decoded⟩
              case h_2 => cases read
              case h_3 => cases read
      · intro both
        obtain ⟨⟨below, ends⟩, bytes, chars, named, decoded, rfl⟩ := both
        simp [readPath_of_names absolute named, below, ends, decoded]

/-- A path that names a file but is not confined is refused. -/
theorem readPath_of_not_confined (named : tree.Names path bytes) (loose : ¬ Confined path) :
    tree.readPath path = .error .outside ∨ tree.readPath path = .error .notDirectory := by
  obtain ⟨relative, open_⟩ := not_or.mp loose
  rw [readPath_of_names (by simpa using relative) named]
  by_cases above : rises 0 (Files.names path) = true
  · exact .inl (if_pos above)
  · have ends : endsAsDirectory path = true := by
      by_contra other
      exact open_ ⟨by simpa using above, by simpa using other⟩
    rw [if_neg above, if_pos ends]
    exact .inr rfl

end Reading

end Rollout.Files
