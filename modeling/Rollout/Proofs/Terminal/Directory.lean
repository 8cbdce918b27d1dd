import Rollout.Terminal.Sessions

namespace Rollout.Terminal

/-! The directory of sessions as a finite map.

The directory numbers its handles so that a handle outlives its id.  To those who use it,
it is a map from ids to handles, as long as no two ids are bound to the same handle.
-/

open Sessions (Operation)

/-- A finite map from ids to handles. -/
structure Directory where
  entries : Std.ExtTreeMap String Handle

namespace Directory

def empty : Directory := ⟨∅⟩

def find? (directory : Directory) (id : String) : Option Handle := directory.entries[id]?

def bind (directory : Directory) (id : String) (handle : Handle) : Directory :=
  ⟨directory.entries.insert id handle⟩

def unbind (directory : Directory) (id : String) : Directory := ⟨directory.entries.erase id⟩

def write (directory : Directory) (id : String) (bytes : List UInt8) :
    Directory × Except SessionError Unit :=
  match directory.find? id with
  | some handle => (directory.bind id (handle.write bytes).1, (handle.write bytes).2)
  | none => (directory, .error (.unknownSession id))

def inject (directory : Directory) (request : KeystrokeRequest) :
    Directory × Except SessionError Unit :=
  match Text.Base64.decode? request.payload with
  | some bytes => directory.write request.sessionId bytes
  | none => (directory, .error (.invalidKeystrokes (String.ofList request.payload)))

def apply (directory : Directory) : (operation : Operation) → Directory × operation.Result
  | .register id handle => (directory.bind id handle, ())
  | .write id bytes => directory.write id bytes
  | .inject request => directory.inject request
  | .close id => (directory.unbind id, ())
  | .remove id => (directory.unbind id, directory.entries.contains id)
  | .contains id => (directory, directory.entries.contains id)
  | .size => (directory, directory.entries.size)

end Directory

section Entries

variable {α : Type} {entries : Std.ExtTreeMap String α} {id other : String} {value : α}

theorem getElem?_insert_iff :
    (entries.insert id value)[other]? = if id = other then some value else entries[other]? := by
  rw [Std.ExtTreeMap.getElem?_insert]
  simp only [Std.LawfulEqCmp.compare_eq_iff_eq]

theorem getElem?_erase_iff :
    (entries.erase id)[other]? = if id = other then none else entries[other]? := by
  rw [Std.ExtTreeMap.getElem?_erase]
  simp only [Std.LawfulEqCmp.compare_eq_iff_eq]

theorem erase_of_absent (absent : entries[id]? = none) : entries.erase id = entries := by
  apply Std.ExtTreeMap.ext_getElem?
  intro other
  rw [getElem?_erase_iff]
  split
  · rename_i same
    exact same ▸ absent.symm
  · rfl

theorem Directory.ext_find? {left right : Directory} (same : ∀ id, left.find? id = right.find? id) :
    left = right :=
  congrArg Directory.mk (Std.ExtTreeMap.ext_getElem? same)

theorem Directory.find?_bind {directory : Directory} {handle : Handle} :
    (directory.bind id handle).find? other = if id = other then some handle else directory.find? other :=
  getElem?_insert_iff

theorem Directory.find?_unbind {directory : Directory} :
    (directory.unbind id).find? other = if id = other then none else directory.find? other :=
  getElem?_erase_iff

end Entries

namespace Sessions

/-- Ids are bound to handles that there are, and no two to the same. -/
structure Sound (sessions : Sessions) : Prop where
  found {id : String} {number : Nat} :
    sessions.bound[id]? = some number → number < sessions.handles.length
  apart {id id' : String} {number : Nat} :
    sessions.bound[id]? = some number → sessions.bound[id']? = some number → id = id'

/-- What its users see of a directory. -/
def directory (sessions : Sessions) : Directory :=
  ⟨sessions.bound.filterMap fun _ number => sessions.handles[number]?⟩

variable {sessions : Sessions} {id other : String} {number : Nat} {handle : Handle}

theorem find?_eq_some_iff :
    sessions.find? id = some (number, handle) ↔
      sessions.bound[id]? = some number ∧ sessions.handles[number]? = some handle := by
  simp [find?, Option.bind_eq_some_iff]

theorem directory_find? : sessions.directory.find? id = (sessions.find? id).map (·.2) := by
  simp only [Directory.find?, directory, find?, Std.ExtTreeMap.getElem?_filterMap]
  cases bound : sessions.bound[id]? with
  | none => simp
  | some number => cases found : sessions.handles[number]? <;> simp [found]

theorem Sound.find? (sound : sessions.Sound) (bound : sessions.bound[id]? = some number) :
    ∃ handle, sessions.find? id = some (number, handle) := by
  have within := sound.found bound
  exact ⟨sessions.handles[number], find?_eq_some_iff.mpr ⟨bound, List.getElem?_eq_getElem within⟩⟩

theorem Sound.find?_eq_none_iff (sound : sessions.Sound) :
    sessions.find? id = none ↔ sessions.bound[id]? = none := by
  constructor
  · intro unfound
    cases bound : sessions.bound[id]? with
    | none => rfl
    | some number =>
        obtain ⟨handle, found⟩ := sound.find? bound
        rw [unfound] at found
        cases found
  · intro unbound
    simp [Sessions.find?, unbound]

theorem Sound.directory_contains (sound : sessions.Sound) :
    sessions.directory.entries.contains id = sessions.contains id := by
  have found : (sessions.directory.find? id).isSome = sessions.bound[id]?.isSome := by
    rw [directory_find?, Option.isSome_map]
    cases bound : sessions.bound[id]? with
    | none => rw [sound.find?_eq_none_iff.mpr bound]; rfl
    | some number =>
        obtain ⟨handle, found⟩ := sound.find? bound
        rw [found]
        rfl
  rw [contains, Std.ExtTreeMap.contains_eq_isSome_getElem?, Std.ExtTreeMap.contains_eq_isSome_getElem?]
  exact found

theorem Sound.directory_size (sound : sessions.Sound) :
    sessions.directory.entries.size = sessions.size := by
  apply Std.ExtTreeMap.size_filterMap_eq_size_iff.mpr
  intro id member
  have bound : sessions.bound[id]? = some sessions.bound[id] := Std.ExtTreeMap.getElem?_eq_some_getElem member
  simpa using sound.found bound

section Changes

/-- What becomes of the binding of an id. -/
inductive Binding where
  | kept
  | cleared
  | renewed (handle : Handle)

/-- The handle that is registered. -/
def Binding.fresh : Binding → List Handle
  | .renewed handle => [handle]
  | _ => []

/-- The number that an id is bound to then, if the next handle gets the given number. -/
def Binding.bound? (next : Nat) (before : Option Nat) : Binding → Option Nat
  | .kept => before
  | .cleared => none
  | .renewed _ => some next

def amend (sessions : Sessions) (id : String) (change : Handle → Handle) : Sessions :=
  match sessions.bound[id]? with
  | some number => { sessions with handles := sessions.handles.modify number change }
  | none => sessions

def rebind (sessions : Sessions) (id : String) : Binding → Sessions
  | .kept => sessions
  | .cleared => (sessions.remove id).1
  | .renewed handle => sessions.register id handle

def Operation.id? : Operation → Option String
  | .register id _ | .write id _ | .close id | .remove id | .contains id => some id
  | .inject request => some request.sessionId
  | .size => none

/-- The bytes that an operation writes. -/
def Operation.payload? : Operation → Option (List UInt8)
  | .write _ bytes => some bytes
  | .inject request => Text.Base64.decode? request.payload
  | _ => none

/-- What an operation makes of the handle that its id is bound to. -/
def Operation.amends : Operation → Handle → Handle
  | .close _, handle => handle.shutdown.1
  | operation, handle =>
      match operation.payload? with
      | some bytes => (handle.write bytes).1
      | none => handle

def Operation.binding : Operation → Binding
  | .register _ handle => .renewed handle
  | .close _ | .remove _ => .cleared
  | _ => .kept

def Operation.isClose : Operation → Bool
  | .close _ => true
  | _ => false

variable {change : Handle → Handle} {binding : Binding}

theorem amend_bound : (sessions.amend id change).bound = sessions.bound := by
  unfold amend
  split <;> rfl

theorem amend_getElem? : (sessions.amend id change).bound[other]? = sessions.bound[other]? := by
  rw [amend_bound]

theorem amend_handles (bound : sessions.bound[id]? = some number) :
    (sessions.amend id change).handles = sessions.handles.modify number change := by
  simp only [amend, bound]

theorem amend_of_unbound (unbound : sessions.bound[id]? = none) :
    sessions.amend id change = sessions := by
  simp only [amend, unbound]

theorem modify_of_getElem? {α : Type} {list : List α} {place : Nat} {value : α} {change : α → α}
    (stored : list[place]? = some value) : list.modify place change = list.set place (change value) := by
  obtain ⟨within, rfl⟩ := List.getElem?_eq_some_iff.mp stored
  apply List.ext_getElem?
  intro other
  rw [List.getElem?_modify, List.getElem?_set]
  by_cases same : place = other
  · subst same
    simp [within]
  · simp [same]

theorem amend_of_found (found : sessions.find? id = some (number, handle)) :
    sessions.amend id change =
      { sessions with handles := sessions.handles.set number (change handle) } := by
  obtain ⟨bound, stored⟩ := find?_eq_some_iff.mp found
  simp only [amend, bound, modify_of_getElem? stored]

theorem amend_of_unfound (unfound : sessions.find? id = none) : sessions.amend id change = sessions := by
  cases bound : sessions.bound[id]? with
  | none => exact amend_of_unbound bound
  | some number =>
      have absent : sessions.handles[number]? = none := by
        apply Option.eq_none_iff_forall_ne_some.mpr
        intro handle stored
        rw [find?_eq_some_iff.mpr ⟨bound, stored⟩] at unfound
        cases unfound
      have beyond : sessions.handles.length ≤ number := List.getElem?_eq_none_iff.mp absent
      simp only [amend, bound, List.modify_eq_self beyond]

theorem amend_self : (sessions.amend id fun handle => handle) = sessions := by
  cases found : sessions.find? id with
  | none => exact amend_of_unfound found
  | some entry =>
      obtain ⟨number, handle⟩ := entry
      obtain ⟨-, stored⟩ := find?_eq_some_iff.mp found
      rw [amend_of_found found]
      obtain ⟨within, same⟩ := List.getElem?_eq_some_iff.mp stored
      simp [← same]

theorem write_eq_amend {bytes : List UInt8} :
    (sessions.write id bytes).1 = sessions.amend id fun handle => (handle.write bytes).1 := by
  unfold write
  cases found : sessions.find? id with
  | none => exact (amend_of_unfound found).symm
  | some entry =>
      rw [amend_of_found found]

theorem Sound.close_eq_amend (sound : sessions.Sound) :
    sessions.close id = (sessions.amend id fun handle => handle.shutdown.1).rebind id .cleared := by
  unfold close
  cases found : sessions.find? id with
  | none =>
      have absent := sound.find?_eq_none_iff.mp found
      rw [amend_of_unbound absent, rebind, remove, erase_of_absent absent]
  | some entry =>
      rw [amend_of_found found]
      rfl

/-- An operation amends the handle of its id, and then rebinds the id. -/
theorem Sound.apply_eq {operation : Operation} (sound : sessions.Sound)
    (addressed : operation.id? = some id) :
    (sessions.apply operation).1 = (sessions.amend id operation.amends).rebind id operation.binding := by
  cases operation with
  | register name handle =>
      obtain rfl := Option.some.inj addressed
      exact congrArg (Sessions.register · _ handle) amend_self.symm
  | write name bytes =>
      obtain rfl := Option.some.inj addressed
      exact write_eq_amend
  | inject request =>
      obtain rfl := Option.some.inj addressed
      simp only [apply, inject, rebind, Operation.binding]
      cases decoded : Text.Base64.decode? request.payload with
      | none =>
          have idle : (Operation.inject request).amends = fun handle => handle := by
            funext handle
            simp only [Operation.amends, Operation.payload?, decoded]
          rw [idle, amend_self]
      | some bytes =>
          have types : (Operation.inject request).amends = fun handle => (handle.write bytes).1 := by
            funext handle
            simp only [Operation.amends, Operation.payload?, decoded]
          rw [types]
          exact write_eq_amend
  | close name =>
      obtain rfl := Option.some.inj addressed
      exact sound.close_eq_amend
  | remove name =>
      obtain rfl := Option.some.inj addressed
      exact congrArg (fun sessions : Sessions => (sessions.remove _).1) amend_self.symm
  | contains name =>
      obtain rfl := Option.some.inj addressed
      exact amend_self.symm
  | size => cases addressed

theorem amend_handles_length : (sessions.amend id change).handles.length = sessions.handles.length := by
  unfold amend
  split
  · exact List.length_modify ..
  · rfl

theorem amend_handles_getElem? :
    (sessions.amend id change).handles[number]? =
      if sessions.bound[id]? = some number then sessions.handles[number]?.map change
      else sessions.handles[number]? := by
  cases bound : sessions.bound[id]? with
  | none => rw [amend_of_unbound bound]; simp
  | some place =>
      rw [amend_handles bound, List.getElem?_modify]
      by_cases same : place = number <;> simp [same]

theorem rebind_handles : (sessions.rebind id binding).handles = sessions.handles ++ binding.fresh := by
  cases binding with
  | kept => exact (List.append_nil _).symm
  | cleared => exact (List.append_nil _).symm
  | renewed handle => rfl

theorem rebind_getElem? :
    (sessions.rebind id binding).bound[other]? =
      if id = other then binding.bound? sessions.handles.length sessions.bound[other]?
      else sessions.bound[other]? := by
  cases binding with
  | kept => simp [rebind, Binding.bound?]
  | cleared => exact getElem?_erase_iff
  | renewed handle => exact getElem?_insert_iff

theorem apply_of_unaddressed {operation : Operation} (unaddressed : operation.id? = none) :
    (sessions.apply operation).1 = sessions := by
  cases operation with
  | size => rfl
  | _ => cases unaddressed

theorem Operation.binding_of_unaddressed {operation : Operation} (unaddressed : operation.id? = none) :
    operation.binding = .kept := by
  cases operation with
  | size => rfl
  | _ => cases unaddressed

end Changes

section Bindings

theorem write_bound {bytes : List UInt8} : (sessions.write id bytes).1.bound = sessions.bound := by
  rw [write_eq_amend, amend_bound]

theorem inject_bound {request : KeystrokeRequest} :
    (sessions.inject request).1.bound = sessions.bound := by
  unfold inject
  cases Text.Base64.decode? request.payload with
  | none => rfl
  | some bytes => exact write_bound

theorem close_bound_cases :
    (sessions.close id).bound = sessions.bound ∨
      (sessions.close id).bound = sessions.bound.erase id := by
  unfold close
  cases sessions.find? id with
  | none => exact .inl rfl
  | some entry => exact .inr rfl

/-- An operation on another id leaves a binding as it is, and so does one that only uses it. -/
theorem apply_bound_of_spared {operation : Operation}
    (spared : operation.id? = some id → operation.binding = .kept) :
    (sessions.apply operation).1.bound[id]? = sessions.bound[id]? := by
  have differs {name : String} (rebinds : operation.binding ≠ .kept)
      (addressed : operation.id? = some name) : name ≠ id := by
    rintro rfl
    exact rebinds (spared addressed)
  cases operation with
  | register name handle =>
      exact getElem?_insert_iff.trans (if_neg (differs (by simp [Operation.binding]) rfl))
  | write name bytes => exact congrArg (·[id]?) write_bound
  | inject request => exact congrArg (·[id]?) inject_bound
  | close name =>
      have other := differs (by simp [Operation.binding]) rfl
      rcases close_bound_cases with same | erased
      · exact congrArg (·[id]?) same
      · exact (congrArg (·[id]?) erased).trans (getElem?_erase_iff.trans (if_neg other))
  | remove name =>
      exact getElem?_erase_iff.trans (if_neg (differs (by simp [Operation.binding]) rfl))
  | contains name => rfl
  | size => rfl

/-- Only a registration binds an id. -/
theorem apply_bound_of_unbound {operation : Operation} (unbound : sessions.bound[id]? = none)
    (unregistered : ∀ handle, operation ≠ .register id handle) :
    (sessions.apply operation).1.bound[id]? = none := by
  have erased {name : String} : (sessions.bound.erase name)[id]? = none := by
    rw [getElem?_erase_iff]
    split
    · rfl
    · exact unbound
  cases operation with
  | register name handle =>
      have differs : name ≠ id := fun same => unregistered handle (same ▸ rfl)
      exact (getElem?_insert_iff.trans (if_neg differs)).trans unbound
  | write name bytes => exact (congrArg (·[id]?) write_bound).trans unbound
  | inject request => exact (congrArg (·[id]?) inject_bound).trans unbound
  | close name =>
      rcases close_bound_cases with same | erases
      · exact (congrArg (·[id]?) same).trans unbound
      · exact (congrArg (·[id]?) erases).trans erased
  | remove name => exact erased
  | contains name => exact unbound
  | size => exact unbound

end Bindings

section Soundness

theorem sound_empty : empty.Sound := by
  constructor
  · intro id number bound
    simp [empty] at bound
  · intro id id' number bound
    simp [empty] at bound

theorem Sound.amend (sound : sessions.Sound) (change : Handle → Handle) :
    (sessions.amend id change).Sound := by
  constructor
  · intro other number bound
    rw [amend_bound] at bound
    rw [amend_handles_length]
    exact sound.found bound
  · intro other other' number bound bound'
    rw [amend_bound] at bound bound'
    exact sound.apart bound bound'

theorem Sound.remove (sound : sessions.Sound) : (sessions.remove id).1.Sound := by
  constructor
  · intro other number bound
    rw [Sessions.remove, getElem?_erase_iff] at bound
    split at bound
    · cases bound
    · exact sound.found bound
  · intro other other' number bound bound'
    rw [Sessions.remove, getElem?_erase_iff] at bound bound'
    split at bound
    · cases bound
    · split at bound'
      · cases bound'
      · exact sound.apart bound bound'

theorem Sound.register (sound : sessions.Sound) : (sessions.register id handle).Sound := by
  have fresh {other : String} : sessions.bound[other]? ≠ some sessions.handles.length := by
    intro bound
    exact absurd (sound.found bound) (Nat.lt_irrefl _)
  constructor
  · intro other number bound
    rw [Sessions.register, getElem?_insert_iff] at bound
    simp only [Sessions.register, List.length_append, List.length_singleton]
    split at bound
    · obtain rfl := Option.some.inj bound
      omega
    · have within := sound.found bound
      omega
  · intro other other' number bound bound'
    rw [Sessions.register, getElem?_insert_iff] at bound bound'
    split at bound <;> split at bound'
    · rename_i same same'
      exact same.symm.trans same'
    · exact absurd (bound'.trans bound.symm) fresh
    · exact absurd (bound.trans bound'.symm) fresh
    · exact sound.apart bound bound'

theorem Sound.rebind (sound : sessions.Sound) (binding : Binding) :
    (sessions.rebind id binding).Sound := by
  cases binding with
  | kept => exact sound
  | cleared => exact sound.remove
  | renewed handle => exact sound.register

theorem Sound.apply (sound : sessions.Sound) (operation : Operation) :
    (sessions.apply operation).1.Sound := by
  cases addressed : operation.id? with
  | none => exact apply_of_unaddressed addressed ▸ sound
  | some id =>
      rw [sound.apply_eq addressed]
      exact (sound.amend _).rebind _

end Soundness

section Refinement

variable {change : Handle → Handle}

theorem handle?_of_bound (bound : sessions.bound[id]? = some number) :
    sessions.directory.find? id = sessions.handles[number]? := by
  rw [directory_find?, find?, bound]
  cases stored : sessions.handles[number]? <;> simp [stored]

theorem handle?_of_unbound (unbound : sessions.bound[id]? = none) :
    sessions.directory.find? id = none := by
  rw [directory_find?, find?, unbound]
  rfl

theorem find?_amend_self :
    (sessions.amend id change).directory.find? id = (sessions.directory.find? id).map change := by
  cases bound : sessions.bound[id]? with
  | none => rw [amend_of_unbound bound, handle?_of_unbound bound]; rfl
  | some number =>
      rw [handle?_of_bound (amend_getElem?.trans bound), amend_handles bound, handle?_of_bound bound,
        List.getElem?_modify]
      simp

theorem Sound.find?_amend_other (sound : sessions.Sound) (differs : id ≠ other) :
    (sessions.amend id change).directory.find? other = sessions.directory.find? other := by
  cases bound : sessions.bound[id]? with
  | none => rw [amend_of_unbound bound]
  | some number =>
      cases bound' : sessions.bound[other]? with
      | none =>
          have unbound : (sessions.amend id change).bound[other]? = none := amend_getElem?.trans bound'
          rw [handle?_of_unbound unbound, handle?_of_unbound bound']
      | some number' =>
          have distinct : number ≠ number' := by
            rintro rfl
            exact differs (sound.apart bound bound')
          rw [handle?_of_bound (amend_getElem?.trans bound'), amend_handles bound, handle?_of_bound bound',
            List.getElem?_modify]
          simp [distinct]

theorem find?_remove :
    (sessions.remove id).1.directory.find? other =
      if id = other then none else sessions.directory.find? other := by
  simp only [directory_find?, find?, remove, getElem?_erase_iff]
  split <;> rfl

theorem Sound.find?_register (sound : sessions.Sound) :
    (sessions.register id handle).directory.find? other =
      if id = other then some handle else sessions.directory.find? other := by
  have bound : (sessions.register id handle).bound[other]? =
      if id = other then some sessions.handles.length else sessions.bound[other]? :=
    getElem?_insert_iff
  by_cases same : id = other
  · rw [if_pos same] at bound ⊢
    rw [handle?_of_bound bound]
    simp [Sessions.register]
  · rw [if_neg same] at bound ⊢
    cases bound' : sessions.bound[other]? with
    | none => rw [handle?_of_unbound (bound.trans bound'), handle?_of_unbound bound']
    | some number =>
        rw [handle?_of_bound (bound.trans bound'), handle?_of_bound bound']
        exact List.getElem?_append_left (sound.found bound')

theorem Sound.write_directory (sound : sessions.Sound) (bytes : List UInt8) :
    (sessions.write id bytes).1.directory = (sessions.directory.write id bytes).1 ∧
      (sessions.write id bytes).2 = (sessions.directory.write id bytes).2 := by
  have seen : sessions.directory.find? id = (sessions.find? id).map (·.2) := directory_find?
  cases found : sessions.find? id with
  | none =>
      rw [found] at seen
      simp only [write, found, Directory.write, seen, Option.map_none]
      exact ⟨trivial, trivial⟩
  | some entry =>
      obtain ⟨number, handle⟩ := entry
      rw [found] at seen
      constructor
      · rw [write_eq_amend]
        apply Directory.ext_find?
        intro other
        simp only [Directory.write, seen, Option.map_some, Directory.find?_bind]
        by_cases same : id = other
        · rw [if_pos same, ← same, find?_amend_self, seen]
          rfl
        · rw [if_neg same, sound.find?_amend_other same]
      · simp only [write, found, Directory.write, seen, Option.map_some]

theorem Sound.close_directory (sound : sessions.Sound) :
    (sessions.close id).directory = sessions.directory.unbind id := by
  rw [sound.close_eq_amend]
  apply Directory.ext_find?
  intro other
  rw [Sessions.rebind, find?_remove, Directory.find?_unbind]
  by_cases same : id = other
  · rw [if_pos same, if_pos same]
  · rw [if_neg same, if_neg same, sound.find?_amend_other same]

/-- The directory changes, and answers, as a map from ids to handles does. -/
theorem Sound.apply_directory (sound : sessions.Sound) (operation : Operation) :
    (sessions.apply operation).1.directory = (sessions.directory.apply operation).1 ∧
      (sessions.apply operation).2 = (sessions.directory.apply operation).2 := by
  cases operation with
  | register id handle =>
      refine ⟨Directory.ext_find? fun other => ?_, rfl⟩
      exact sound.find?_register.trans Directory.find?_bind.symm
  | write id bytes => exact sound.write_directory bytes
  | inject request =>
      simp only [Sessions.apply, inject, Directory.apply, Directory.inject]
      cases decoded : Text.Base64.decode? request.payload with
      | none => exact ⟨rfl, rfl⟩
      | some bytes => exact sound.write_directory bytes
  | close id => exact ⟨sound.close_directory, rfl⟩
  | remove id =>
      refine ⟨Directory.ext_find? fun other => ?_, sound.directory_contains.symm⟩
      exact find?_remove.trans Directory.find?_unbind.symm
  | contains id => exact ⟨rfl, sound.directory_contains.symm⟩
  | size => exact ⟨rfl, sound.directory_size.symm⟩

end Refinement

end Sessions

end Rollout.Terminal
