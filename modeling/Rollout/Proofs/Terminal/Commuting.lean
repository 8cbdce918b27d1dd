import Mathlib.Logic.Equiv.Basic
import Rollout.Proofs.Terminal.Directory

namespace Rollout.Terminal

/-! Operations on different ids do not depend on their order.

Each has the same result in both orders.  The directories that they leave differ at most
in the numbers of the handles, since two handles are numbered as they are registered.
-/

open Sessions (Operation)

section Answers

variable {directory directory' : Directory} {operation : Operation} {id other : String}

theorem Directory.write_find?_other (bytes : List UInt8) (differs : id ≠ other) :
    (directory.write id bytes).1.find? other = directory.find? other := by
  unfold Directory.write
  cases found : directory.find? id with
  | none => rfl
  | some handle => exact Directory.find?_bind.trans (if_neg differs)

theorem Directory.apply_find?_other (addressed : operation.id? = some id) (differs : id ≠ other) :
    (directory.apply operation).1.find? other = directory.find? other := by
  cases operation with
  | register name handle =>
      obtain rfl := Option.some.inj addressed
      exact Directory.find?_bind.trans (if_neg differs)
  | write name bytes =>
      obtain rfl := Option.some.inj addressed
      exact Directory.write_find?_other bytes differs
  | inject request =>
      obtain rfl := Option.some.inj addressed
      cases decoded : Text.Base64.decode? request.payload with
      | none => simp only [Directory.apply, Directory.inject, decoded]
      | some bytes =>
          simp only [Directory.apply, Directory.inject, decoded]
          exact Directory.write_find?_other bytes differs
  | close name =>
      obtain rfl := Option.some.inj addressed
      exact Directory.find?_unbind.trans (if_neg differs)
  | remove name =>
      obtain rfl := Option.some.inj addressed
      exact Directory.find?_unbind.trans (if_neg differs)
  | contains name => rfl
  | size => cases addressed

theorem Directory.write_result_congr (bytes : List UInt8)
    (same : directory.find? id = directory'.find? id) :
    (directory.write id bytes).2 = (directory'.write id bytes).2 := by
  unfold Directory.write
  rw [same]
  cases directory'.find? id <;> rfl

theorem Directory.contains_congr (same : directory.find? id = directory'.find? id) :
    directory.entries.contains id = directory'.entries.contains id := by
  rw [Std.ExtTreeMap.contains_eq_isSome_getElem?, Std.ExtTreeMap.contains_eq_isSome_getElem?]
  exact congrArg Option.isSome same

theorem Directory.apply_result_congr (addressed : operation.id? = some id)
    (same : directory.find? id = directory'.find? id) :
    (directory.apply operation).2 = (directory'.apply operation).2 := by
  cases operation with
  | register name handle => rfl
  | write name bytes =>
      obtain rfl := Option.some.inj addressed
      exact Directory.write_result_congr bytes same
  | inject request =>
      obtain rfl := Option.some.inj addressed
      cases decoded : Text.Base64.decode? request.payload with
      | none => simp only [Directory.apply, Directory.inject, decoded]
      | some bytes =>
          simp only [Directory.apply, Directory.inject, decoded]
          exact Directory.write_result_congr bytes same
  | close name => rfl
  | remove name =>
      obtain rfl := Option.some.inj addressed
      exact Directory.contains_congr same
  | contains name =>
      obtain rfl := Option.some.inj addressed
      exact Directory.contains_congr same
  | size => cases addressed

end Answers

namespace Sessions

/-- Two directories differ at most in how they number their handles. -/
def Alike (sessions sessions' : Sessions) : Prop :=
  ∃ renumber : Equiv.Perm Nat,
    (∀ id : String, sessions'.bound[id]? = sessions.bound[id]?.map renumber) ∧
      ∀ number, sessions'.handles[renumber number]? = sessions.handles[number]?

variable {sessions : Sessions} {id other : String} {change change' : Handle → Handle}

theorem alike_of_eq {sessions' : Sessions} (same : sessions = sessions') : Alike sessions sessions' := by
  subst same
  refine ⟨Equiv.refl Nat, ?_, ?_⟩
  · intro id
    simp
  · intro number
    rfl

theorem Sound.amend_amend (sound : sessions.Sound) (differs : id ≠ other) :
    (sessions.amend id change).amend other change' =
      (sessions.amend other change').amend id change := by
  cases bound : sessions.bound[id]? with
  | none => rw [amend_of_unbound bound, amend_of_unbound (amend_getElem?.trans bound)]
  | some number =>
      cases bound' : sessions.bound[other]? with
      | none => rw [amend_of_unbound bound', amend_of_unbound (amend_getElem?.trans bound')]
      | some number' =>
          have distinct : number ≠ number' := by
            rintro rfl
            exact differs (sound.apart bound bound')
          have handles : ((sessions.amend id change).amend other change').handles =
              ((sessions.amend other change').amend id change).handles := by
            rw [amend_handles (amend_getElem?.trans bound'), amend_handles bound,
              amend_handles (amend_getElem?.trans bound), amend_handles bound']
            apply List.ext_getElem?
            intro place
            simp only [List.getElem?_modify]
            cases sessions.handles[place]? with
            | none => rfl
            | some handle =>
                by_cases here : number = place
                · subst here
                  simp [distinct.symm]
                · simp [here]
          have bounds : ((sessions.amend id change).amend other change').bound =
              ((sessions.amend other change').amend id change).bound := by
            simp only [amend_bound]
          exact congrArg₂ Sessions.mk handles bounds

theorem amend_remove (differs : id ≠ other) :
    (sessions.remove id).1.amend other change = ((sessions.amend other change).remove id).1 := by
  have kept : (sessions.remove id).1.bound[other]? = sessions.bound[other]? :=
    getElem?_erase_iff.trans (if_neg differs)
  unfold amend
  rw [kept]
  cases sessions.bound[other]? <;> rfl

theorem Sound.amend_register {handle : Handle} (sound : sessions.Sound) (differs : id ≠ other) :
    (sessions.register id handle).amend other change =
      (sessions.amend other change).register id handle := by
  have kept : (sessions.register id handle).bound[other]? = sessions.bound[other]? :=
    getElem?_insert_iff.trans (if_neg differs)
  unfold Sessions.amend
  rw [kept]
  cases bound : sessions.bound[other]? with
  | none => rfl
  | some number =>
      have within := sound.found bound
      simp only [Sessions.register, List.length_modify]
      apply congrArg (Sessions.mk · _)
      apply List.ext_getElem?
      intro place
      simp only [List.getElem?_modify, List.getElem?_append, List.length_modify]
      by_cases before : place < sessions.handles.length
      · simp [before]
      · have elsewhere : number ≠ place := by omega
        simp [before, elsewhere]

theorem Sound.amend_rebind (sound : sessions.Sound) (differs : id ≠ other) (binding : Binding) :
    (sessions.rebind id binding).amend other change =
      (sessions.amend other change).rebind id binding := by
  cases binding with
  | kept => rfl
  | cleared => exact amend_remove differs
  | renewed handle => exact sound.amend_register differs

theorem remove_remove :
    ((sessions.remove id).1.remove other).1 = ((sessions.remove other).1.remove id).1 := by
  apply congrArg (Sessions.mk sessions.handles)
  apply Std.ExtTreeMap.ext_getElem?
  intro name
  simp only [remove, getElem?_erase_iff]
  split <;> split <;> rfl

theorem remove_register {handle : Handle} (differs : id ≠ other) :
    (sessions.remove id).1.register other handle = ((sessions.register other handle).remove id).1 := by
  apply congrArg (Sessions.mk (sessions.handles ++ [handle]))
  apply Std.ExtTreeMap.ext_getElem?
  intro name
  simp only [remove, register, getElem?_erase_iff, getElem?_insert_iff]
  by_cases same : id = name
  · subst same
    simp [differs.symm]
  · simp [same]

theorem Sound.register_register {handle handle' : Handle} (sound : sessions.Sound)
    (differs : id ≠ other) :
    Alike ((sessions.register id handle).register other handle')
      ((sessions.register other handle').register id handle) := by
  let last := sessions.handles.length
  refine ⟨Equiv.swap last (last + 1), ?_, ?_⟩
  · intro name
    simp only [Sessions.register, getElem?_insert_iff, List.length_append, List.length_singleton]
    by_cases first : id = name
    · subst first
      simp [differs.symm, last]
    · by_cases second : other = name
      · subst second
        simp [differs, last]
      · simp only [if_neg first, if_neg second]
        cases bound : sessions.bound[name]? with
        | none => rfl
        | some number =>
            have within := sound.found bound
            simp only [Option.map_some]
            rw [Equiv.swap_apply_of_ne_of_ne (by omega) (by omega)]
  · intro number
    simp only [Sessions.register, List.append_assoc, List.singleton_append]
    by_cases before : number < last
    · rw [Equiv.swap_apply_of_ne_of_ne (by omega) (by omega), List.getElem?_append_left before,
        List.getElem?_append_left before]
    · obtain ⟨offset, rfl⟩ := Nat.exists_eq_add_of_le (Nat.le_of_not_lt before)
      rcases offset with _ | _ | offset
      · simp [last]
      · simp [last]
      · rw [Equiv.swap_apply_of_ne_of_ne (by omega) (by omega)]
        simp [last]

theorem Sound.rebind_rebind (sound : sessions.Sound) (differs : id ≠ other)
    (binding binding' : Binding) :
    Alike ((sessions.rebind id binding).rebind other binding')
      ((sessions.rebind other binding').rebind id binding) := by
  cases binding with
  | kept => exact alike_of_eq rfl
  | cleared =>
      cases binding' with
      | kept => exact alike_of_eq rfl
      | cleared => exact alike_of_eq remove_remove
      | renewed handle => exact alike_of_eq (remove_register differs)
  | renewed handle =>
      cases binding' with
      | kept => exact alike_of_eq rfl
      | cleared => exact alike_of_eq (remove_register differs.symm).symm
      | renewed handle' => exact sound.register_register differs

/-- Operations on different ids have the same results in both orders, and leave the same
up to numbers. -/
theorem Sound.apply_commutes {first second : Operation} (sound : sessions.Sound)
    (addressed : first.id? = some id) (addressed' : second.id? = some other) (differs : id ≠ other) :
    ((sessions.apply first).1.apply second).2 = (sessions.apply second).2 ∧
      Alike ((sessions.apply first).1.apply second).1 ((sessions.apply second).1.apply first).1 := by
  constructor
  · rw [((sound.apply first).apply_directory second).2, (sound.apply_directory second).2,
      (sound.apply_directory first).1]
    exact Directory.apply_result_congr addressed' (Directory.apply_find?_other addressed differs)
  · rw [(sound.apply first).apply_eq addressed', (sound.apply second).apply_eq addressed,
      sound.apply_eq addressed, sound.apply_eq addressed',
      (sound.amend _).amend_rebind differs, sound.amend_amend differs,
      (sound.amend _).amend_rebind differs.symm]
    exact ((sound.amend _).amend _).rebind_rebind differs _ _

end Sessions

end Rollout.Terminal
