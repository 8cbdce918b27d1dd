import Mathlib.Logic.Function.Basic
import Rollout.Proofs.Terminal.Directory
import Rollout.Proofs.Terminal.Handle
import Rollout.Terminal.Shared

namespace Rollout.Terminal

/-! Payloads of concurrent writers do not interleave.

Only the task that holds a handle gives bytes to it, and it was the last to take it.  So
what a handle has received is made of what each of its takers gave, one after another.
`Orderly` is what every move preserves.
-/

/-- What a task may have given to its handle when it has got this far. -/
def Job.Gave : Job → Job.Stage → List UInt8 → Prop
  | .shutdown, _, given => given = []
  | .write _, .waiting, given => given = []
  | .write payload, .holding left, given => given ++ left = payload
  | .write payload, .ended none, given => given = payload
  | .write payload, .ended (some _), given => ∃ left, given ++ left = payload
  | .write payload, .givenUp, given => ∃ left, given ++ left = payload

def Job.Stage.isHolding : Job.Stage → Bool
  | .holding _ => true
  | _ => false

def Job.Stage.isOver : Job.Stage → Bool
  | .ended _ => true
  | _ => false

section Gifts

variable {job : Job} {payload given left : List UInt8} {stage : Job.Stage} {handle : Handle}

@[simp]
theorem Job.gave_shutdown : Job.shutdown.Gave stage given ↔ given = [] := Iff.rfl

@[simp]
theorem Job.gave_waiting : (Job.write payload).Gave .waiting given ↔ given = [] := Iff.rfl

@[simp]
theorem Job.gave_holding : (Job.write payload).Gave (.holding left) given ↔ given ++ left = payload :=
  Iff.rfl

@[simp]
theorem Job.gave_done : (Job.write payload).Gave (.ended none) given ↔ given = payload := Iff.rfl

@[simp]
theorem Job.gave_failed {failure : SessionError} :
    (Job.write payload).Gave (.ended (some failure)) given ↔ ∃ left, given ++ left = payload := Iff.rfl

@[simp]
theorem Job.gave_givenUp : (Job.write payload).Gave .givenUp given ↔ ∃ left, given ++ left = payload :=
  Iff.rfl

theorem Job.Gave.unfinished (gave : job.Gave stage given) (unfinished : stage.isOver = false) :
    job.Gave .givenUp given := by
  cases job with
  | shutdown => exact gave
  | write payload =>
      cases stage with
      | waiting =>
          rw [Job.gave_waiting] at gave
          exact ⟨payload, by rw [gave, List.nil_append]⟩
      | holding left => exact ⟨left, gave⟩
      | ended failure => cases unfinished
      | givenUp => exact gave

/-- What a step of a task gives to its handle. -/
theorem Job.Gave.advance (gave : job.Gave (.holding left) given) :
    ∃ more, (Shared.advance handle job left).1.received = handle.received ++ more ∧
      job.Gave (Shared.advance handle job left).2 (given ++ more) := by
  cases job with
  | shutdown => exact ⟨[], by simp [Shared.advance, Handle.shutdown_received], by simpa using gave⟩
  | write payload =>
      rw [Job.gave_holding] at gave
      cases left with
      | nil =>
          rw [List.append_nil] at gave
          refine ⟨[], ?_⟩
          cases flushing : handle.flushing handle.calls <;>
            simp [Shared.advance, Handle.flush, flushing, Handle.after, gave]
      | cons byte rest =>
          cases reception : handle.reception handle.calls (byte :: rest) with
          | ok count =>
              refine ⟨byte :: rest.take count, ?_⟩
              simp [Shared.advance, Handle.offer_of_ok reception, Handle.receive, Handle.after, ← gave]
          | error reason =>
              refine ⟨[], ?_⟩
              simp [Shared.advance, Handle.offer_of_error reception, Handle.after, ← gave]

theorem Shared.advance_begun : (Shared.advance handle job left).2 ≠ .waiting := by
  cases job with
  | shutdown => simp [Shared.advance]
  | write payload =>
      cases left with
      | nil =>
          cases flushing : handle.flushing handle.calls <;>
            simp [Shared.advance, Handle.flush, flushing]
      | cons byte rest =>
          cases reception : handle.reception handle.calls (byte :: rest) with
          | ok count => simp [Shared.advance, Handle.offer_of_ok reception]
          | error reason => simp [Shared.advance, Handle.offer_of_error reception]

end Gifts

namespace Shared

/-- The tasks that took a handle, in the order in which they did. -/
def takersOf (shared : Shared) (place : Nat) : List Nat :=
  shared.takers.filter fun number => shared.tasks[number]?.map (·.handle) = some place

/-- A state of the directory, with the handles as they were registered and with what each
task has given. -/
structure Orderly (originals : List Handle) (given : Nat → List UInt8) (shared : Shared) : Prop where
  gave {number : Nat} {task : Task} : shared.tasks[number]? = some task →
    task.job.Gave task.stage (given number)
  received {place : Nat} {handle : Handle} : shared.sessions.handles[place]? = some handle →
    ∃ original, originals[place]? = some original ∧
      handle.received = original.received ++ (shared.takersOf place).flatMap given
  unbegun {number : Nat} : shared.tasks.length ≤ number → given number = []
  sizes : shared.sessions.handles.length = originals.length
  within {number : Nat} {task : Task} : shared.tasks[number]? = some task →
    task.handle < shared.sessions.handles.length
  known {number : Nat} : number ∈ shared.takers → number < shared.tasks.length
  fresh {number : Nat} {task : Task} : shared.tasks[number]? = some task →
    task.stage = .waiting → number ∉ shared.takers
  once : shared.takers.Nodup
  holder {number : Nat} {task : Task} : shared.tasks[number]? = some task →
    task.stage.isHolding = true → (shared.takersOf task.handle).getLast? = some number
  done {number : Nat} {task : Task} : shared.tasks[number]? = some task →
    task.stage.isOver = true → number ∈ shared.takers

variable {shared : Shared} {originals : List Handle} {given : Nat → List UInt8} {number place : Nat}
  {task : Task}

section Tasks

theorem mem_takersOf_iff :
    number ∈ shared.takersOf place ↔
      number ∈ shared.takers ∧ shared.tasks[number]?.map (·.handle) = some place := by
  simp [takersOf, List.mem_filter]

theorem takersOf_congr {shared' : Shared} (takers : shared'.takers = shared.takers)
    (tasks : ∀ number ∈ shared.takers,
      shared'.tasks[number]?.map (·.handle) = shared.tasks[number]?.map (·.handle)) :
    shared'.takersOf place = shared.takersOf place := by
  unfold takersOf
  rw [takers]
  apply List.filter_congr
  intro number member
  rw [tasks number member]

theorem setStage_tasks {stage : Job.Stage} {other : Nat} :
    (shared.setStage number stage).tasks[other]? =
      if number = other then shared.tasks[other]?.map ({ · with stage }) else shared.tasks[other]? := by
  unfold setStage
  rw [List.getElem?_modify]
  by_cases same : number = other <;> simp [same]

theorem setStage_handles {stage : Job.Stage} {other : Nat} :
    (shared.setStage number stage).tasks[other]?.map (·.handle) =
      shared.tasks[other]?.map (·.handle) := by
  rw [setStage_tasks]
  split
  · rw [Option.map_map]
    rfl
  · rfl

theorem setStage_takersOf {stage : Job.Stage} :
    (shared.setStage number stage).takersOf place = shared.takersOf place := by
  apply takersOf_congr
  · rfl
  · intro other _
    exact setStage_handles

theorem setStage_cases {stage : Job.Stage} {other : Nat} {task' : Task}
    (found : shared.tasks[number]? = some task)
    (there : (shared.setStage number stage).tasks[other]? = some task') :
    other = number ∧ task' = { task with stage } ∨
      other ≠ number ∧ shared.tasks[other]? = some task' := by
  rw [setStage_tasks] at there
  by_cases same : number = other
  · subst same
    rw [if_pos rfl, found] at there
    exact .inl ⟨rfl, (Option.some.inj there).symm⟩
  · rw [if_neg same] at there
    exact .inr ⟨Ne.symm same, there⟩

theorem setStage_length {stage : Job.Stage} :
    (shared.setStage number stage).tasks.length = shared.tasks.length :=
  List.length_modify ..

end Tasks

section Moves

theorem orderly_empty : Orderly [] (fun _ => []) empty := by
  constructor <;> simp [empty, Sessions.empty]

theorem Orderly.takersOf_beyond (orderly : Orderly originals given shared)
    (beyond : shared.sessions.handles.length ≤ place) : shared.takersOf place = [] := by
  apply List.eq_nil_iff_forall_not_mem.mpr
  intro number member
  obtain ⟨task, found, rfl⟩ := Option.map_eq_some_iff.mp (mem_takersOf_iff.mp member).2
  exact absurd (orderly.within found) (Nat.not_lt.mpr beyond)

theorem Orderly.register (orderly : Orderly originals given shared) (id : String) (handle : Handle) :
    Orderly (originals ++ [handle]) given
      { shared with sessions := shared.sessions.register id handle } where
  gave := orderly.gave
  received := by
    intro place stored there
    simp only [Sessions.register, List.getElem?_append, orderly.sizes] at there
    by_cases before : place < originals.length
    · rw [if_pos before] at there
      rw [List.getElem?_append_left before]
      exact orderly.received there
    · rw [if_neg before] at there
      have beyond : shared.sessions.handles.length ≤ place := orderly.sizes ▸ Nat.le_of_not_lt before
      refine ⟨stored, ?_, ?_⟩
      · rw [List.getElem?_append, if_neg before]
        exact there
      · change stored.received = stored.received ++ (shared.takersOf place).flatMap given
        rw [orderly.takersOf_beyond beyond]
        simp
  unbegun := orderly.unbegun
  sizes := by simp [Sessions.register, orderly.sizes]
  within := by
    intro number task found
    have before := orderly.within found
    simp only [Sessions.register, List.length_append]
    omega
  known := orderly.known
  fresh := orderly.fresh
  once := orderly.once
  holder := orderly.holder
  done := orderly.done

theorem Orderly.remove (orderly : Orderly originals given shared) (id : String) :
    Orderly originals given { shared with sessions := (shared.sessions.remove id).1 } where
  gave := orderly.gave
  received := orderly.received
  unbegun := orderly.unbegun
  sizes := orderly.sizes
  within := orderly.within
  known := orderly.known
  fresh := orderly.fresh
  once := orderly.once
  holder := orderly.holder
  done := orderly.done

theorem Orderly.begin (orderly : Orderly originals given shared) (id : String) (job : Job) :
    Orderly originals given (shared.begin id job) := by
  unfold Shared.begin
  cases found : shared.sessions.find? id with
  | none => exact orderly
  | some entry =>
      obtain ⟨place, handle⟩ := entry
      let fresh : Task := { handle := place, job, stage := .waiting }
      -- Whatever is said of the tasks holds of the old ones, and of the one that waits.
      have cases_of {number : Nat} {task : Task}
          (there : (shared.tasks ++ [fresh])[number]? = some task) :
          shared.tasks[number]? = some task ∨ number = shared.tasks.length ∧ task = fresh := by
        rw [List.getElem?_append] at there
        split at there
        · exact .inl there
        · obtain ⟨bound, same⟩ := List.getElem?_eq_some_iff.mp there
          simp only [List.length_singleton] at bound
          exact .inr ⟨by omega, by simpa using same.symm⟩
      have takersOf (place : Nat) :
          Shared.takersOf { shared with tasks := shared.tasks ++ [fresh] } place =
            shared.takersOf place := by
        apply takersOf_congr
        · rfl
        · intro number member
          exact congrArg (Option.map _) (List.getElem?_append_left (orderly.known member))
      constructor
      · intro number task there
        rcases cases_of there with old | ⟨rfl, rfl⟩
        · exact orderly.gave old
        · have idle := orderly.unbegun (Nat.le_refl shared.tasks.length)
          cases job <;> exact idle
      · intro place stored there
        rw [takersOf]
        exact orderly.received there
      · intro number beyond
        simp only [List.length_append] at beyond
        exact orderly.unbegun (by omega)
      · exact orderly.sizes
      · intro number task there
        rcases cases_of there with old | ⟨rfl, rfl⟩
        · exact orderly.within old
        · exact (List.getElem?_eq_some_iff.mp (Sessions.find?_eq_some_iff.mp found).2).1
      · intro number member
        have before := orderly.known member
        simp only [List.length_append]
        omega
      · intro number task there waiting
        rcases cases_of there with old | ⟨rfl, rfl⟩
        · exact orderly.fresh old waiting
        · exact fun member => absurd (orderly.known member) (Nat.lt_irrefl _)
      · exact orderly.once
      · intro number task there holding
        rw [takersOf]
        rcases cases_of there with old | ⟨rfl, rfl⟩
        · exact orderly.holder old holding
        · cases holding
      · intro number task there isOver
        rcases cases_of there with old | ⟨rfl, rfl⟩
        · exact orderly.done old isOver
        · cases isOver

/-- A task may take a handle that no other task holds. -/
theorem Orderly.enter (orderly : Orderly originals given shared)
    (found : shared.tasks[number]? = some task) (waiting : task.stage = .waiting)
    (unheld : ∀ {other : Nat} {task' : Task}, shared.tasks[other]? = some task' →
      task'.stage.isHolding = true → task'.handle ≠ task.handle) :
    Orderly originals given ⟨shared.sessions,
      (shared.setStage number (.holding task.job.payload)).tasks, shared.takers ++ [number]⟩ := by
  have begun := (List.getElem?_eq_some_iff.mp found).1
  have fresh := orderly.fresh found waiting
  have takersOf (place : Nat) : Shared.takersOf ⟨shared.sessions,
      (shared.setStage number (.holding task.job.payload)).tasks, shared.takers ++ [number]⟩ place =
        shared.takersOf place ++ if task.handle = place then [number] else [] := by
    unfold Shared.takersOf
    simp only [setStage_handles, List.filter_append, List.filter_cons, List.filter_nil, found,
      Option.map_some, Option.some.injEq, decide_eq_true_eq]
  have idle : given number = [] := by
    have gave := orderly.gave found
    cases job : task.job with
    | write payload => simpa [job, waiting] using gave
    | shutdown => simpa [job] using gave
  constructor
  · intro other task' there
    rcases setStage_cases found there with ⟨rfl, rfl⟩ | ⟨-, old⟩
    · rw [idle]
      cases task.job <;> simp [Job.payload]
    · exact orderly.gave old
  · intro place stored there
    obtain ⟨original, first, received⟩ := orderly.received there
    refine ⟨original, first, ?_⟩
    rw [takersOf, List.flatMap_append, received]
    by_cases here : task.handle = place <;> simp [here, idle]
  · intro other beyond
    exact orderly.unbegun (setStage_length ▸ beyond)
  · exact orderly.sizes
  · intro other task' there
    have bound := orderly.within found
    rcases setStage_cases found there with ⟨-, rfl⟩ | ⟨-, old⟩
    · exact bound
    · exact orderly.within old
  · intro other member
    rw [setStage_length]
    rcases List.mem_append.mp member with before | last
    · exact orderly.known before
    · exact List.mem_singleton.mp last ▸ begun
  · intro other task' there waiting'
    rcases setStage_cases found there with ⟨rfl, rfl⟩ | ⟨differs, old⟩
    · cases waiting'
    · simp [orderly.fresh old waiting', differs]
  · apply List.nodup_append.mpr
    refine ⟨orderly.once, by simp, ?_⟩
    intro other member last final same
    rw [List.mem_singleton.mp final] at same
    exact fresh (same ▸ member)
  · intro other task' there holding
    rw [takersOf]
    rcases setStage_cases found there with ⟨rfl, rfl⟩ | ⟨differs, old⟩
    · simp
    · rw [if_neg (Ne.symm (unheld old holding)), List.append_nil]
      exact orderly.holder old holding
  · intro other task' there isOver
    apply List.mem_append_left
    rcases setStage_cases found there with ⟨rfl, rfl⟩ | ⟨-, old⟩
    · cases isOver
    · exact orderly.done old isOver

theorem Orderly.take (orderly : Orderly originals given shared)
    (found : shared.tasks[number]? = some task) : Orderly originals given (shared.take number task) := by
  unfold Shared.take
  split
  · rename_i free
    apply orderly.enter found free.1
    intro other task' there holding same
    have held : task'.holds task.handle = true := by
      unfold Task.holds
      cases stage : task'.stage with
      | holding left => simpa using same
      | _ =>
          rw [stage] at holding
          cases holding
    have busy : shared.tasks.any (·.holds task.handle) = true :=
      List.any_eq_true.mpr ⟨task', List.mem_of_getElem? there, held⟩
    simp [busy] at free
  · exact orderly

theorem flatMap_update_of_not_mem {takers : List Nat} {more : List UInt8}
    (apart : number ∉ takers) :
    takers.flatMap (Function.update given number more) = takers.flatMap given := by
  rw [List.flatMap_def, List.flatMap_def]
  apply congrArg List.flatten
  apply List.map_congr_left
  intro other member
  have differs : other ≠ number := fun same => apart (same ▸ member)
  exact Function.update_of_ne differs _ _

theorem flatMap_update_last {takers : List Nat} {more : List UInt8} (once : takers.Nodup)
    (last : takers.getLast? = some number) :
    takers.flatMap (Function.update given number (given number ++ more)) =
      takers.flatMap given ++ more := by
  obtain ⟨before, rfl⟩ := List.getLast?_eq_some_iff.mp last
  have apart : number ∉ before := by
    intro member
    exact (List.nodup_append.mp once).2.2 number member number (by simp) rfl
  rw [List.flatMap_append, List.flatMap_append, flatMap_update_of_not_mem apart]
  simp

/-- A task has got further, and has given some more to the handle it holds. -/
theorem Orderly.further {stage : Job.Stage} {more : List UInt8} {sessions : Sessions}
    (orderly : Orderly originals given shared) (found : shared.tasks[number]? = some task)
    (gave : task.job.Gave stage (given number ++ more))
    (sizes : sessions.handles.length = shared.sessions.handles.length)
    (grown : ∀ {place : Nat} {handle : Handle}, sessions.handles[place]? = some handle →
      ∃ before, shared.sessions.handles[place]? = some before ∧
        handle.received = before.received ++ if place = task.handle then more else [])
    (last : more ≠ [] → (shared.takersOf task.handle).getLast? = some number)
    (begun : stage ≠ .waiting) (holding : stage.isHolding = true → task.stage.isHolding = true)
    (stops : stage.isOver = true → number ∈ shared.takers) :
    Orderly originals (Function.update given number (given number ++ more))
      ⟨sessions, (shared.setStage number stage).tasks, shared.takers⟩ := by
  have takersOf (place : Nat) :
      Shared.takersOf ⟨sessions, (shared.setStage number stage).tasks, shared.takers⟩ place =
        shared.takersOf place :=
    setStage_takersOf
  constructor
  · intro other task' there
    rcases setStage_cases found there with ⟨rfl, rfl⟩ | ⟨differs, old⟩
    · rw [Function.update_self]
      exact gave
    · rw [Function.update_of_ne differs]
      exact orderly.gave old
  · intro place stored there
    obtain ⟨before, old, received⟩ := grown there
    obtain ⟨original, first, received'⟩ := orderly.received old
    refine ⟨original, first, ?_⟩
    rw [takersOf, received, received', List.append_assoc]
    by_cases here : place = task.handle
    · subst here
      rw [if_pos rfl]
      by_cases idle : more = []
      · simp [idle]
      · have once : (shared.takersOf task.handle).Nodup := orderly.once.filter _
        rw [flatMap_update_last once (last idle)]
    · have apart : number ∉ shared.takersOf place := by
        intro member
        have its := (mem_takersOf_iff.mp member).2
        rw [found] at its
        exact here (Option.some.inj its).symm
      rw [if_neg here, List.append_nil, flatMap_update_of_not_mem apart]
  · intro other beyond
    rw [setStage_length] at beyond
    have differs : other ≠ number := by
      rintro rfl
      exact absurd (List.getElem?_eq_some_iff.mp found).1 (Nat.not_lt.mpr beyond)
    rw [Function.update_of_ne differs]
    exact orderly.unbegun beyond
  · exact sizes.trans orderly.sizes
  · intro other task' there
    have bound := orderly.within found
    rw [sizes]
    rcases setStage_cases found there with ⟨-, rfl⟩ | ⟨-, old⟩
    · exact bound
    · exact orderly.within old
  · intro other member
    rw [setStage_length]
    exact orderly.known member
  · intro other task' there waiting
    rcases setStage_cases found there with ⟨-, rfl⟩ | ⟨-, old⟩
    · exact absurd waiting begun
    · exact orderly.fresh old waiting
  · exact orderly.once
  · intro other task' there holds
    rw [takersOf]
    rcases setStage_cases found there with ⟨rfl, rfl⟩ | ⟨-, old⟩
    · have held := orderly.holder found (holding holds)
      exact held
    · exact orderly.holder old holds
  · intro other task' there isOver
    rcases setStage_cases found there with ⟨rfl, rfl⟩ | ⟨-, old⟩
    · exact stops isOver
    · exact orderly.done old isOver

theorem Orderly.mem_takers (orderly : Orderly originals given shared)
    (found : shared.tasks[number]? = some task) (holding : task.stage.isHolding = true) :
    number ∈ shared.takers :=
  (mem_takersOf_iff.mp (List.mem_of_getLast? (orderly.holder found holding))).1

theorem Orderly.giveUp (orderly : Orderly originals given shared)
    (found : shared.tasks[number]? = some task) :
    Orderly originals given (shared.giveUp number task) := by
  have leaves (unfinished : task.stage.isOver = false) :
      Orderly originals given (shared.setStage number .givenUp) := by
    have gave := (orderly.gave found).unfinished unfinished
    have further : Orderly originals (Function.update given number (given number ++ []))
        (shared.setStage number .givenUp) := by
      apply orderly.further found
      · rwa [List.append_nil]
      · rfl
      · intro place handle there
        exact ⟨handle, there, by simp⟩
      · simp
      · simp
      · intro holding
        cases holding
      · intro isOver
        cases isOver
    simpa using further
  unfold Shared.giveUp
  cases stage : task.stage with
  | waiting => exact leaves (by rw [stage]; rfl)
  | holding left => exact leaves (by rw [stage]; rfl)
  | ended failure => exact orderly
  | givenUp => exact orderly

theorem proceed_of_holding {left : List UInt8} {handle : Handle} (stage : task.stage = .holding left)
    (there : shared.sessions.handles[task.handle]? = some handle) :
    shared.proceed number task =
      ⟨⟨shared.sessions.handles.set task.handle (advance handle task.job left).1, shared.sessions.bound⟩,
        (shared.setStage number (advance handle task.job left).2).tasks, shared.takers⟩ := by
  unfold proceed
  rw [stage, there]
  rfl

theorem proceed_of_idle (idle : task.stage.isHolding = false) : shared.proceed number task = shared := by
  unfold proceed
  cases stage : task.stage with
  | holding left =>
      rw [stage] at idle
      cases idle
  | _ => rfl

theorem Orderly.proceed (orderly : Orderly originals given shared)
    (found : shared.tasks[number]? = some task) :
    ∃ given', Orderly originals given' (shared.proceed number task) := by
  by_cases holding : task.stage.isHolding = true
  · obtain ⟨left, stage⟩ : ∃ left, task.stage = .holding left := by
      cases stage : task.stage with
      | holding left => exact ⟨left, rfl⟩
      | _ =>
          rw [stage] at holding
          cases holding
    have within := orderly.within found
    have there := List.getElem?_eq_getElem within
    rw [proceed_of_holding stage there]
    have gave := orderly.gave found
    rw [stage] at gave
    obtain ⟨more, received, gave⟩ := gave.advance
    refine ⟨Function.update given number (given number ++ more), orderly.further found gave
      (List.length_set ..) ?_ (fun _ => orderly.holder found holding) advance_begun
      (fun _ => holding) (fun _ => orderly.mem_takers found holding)⟩
    intro place stored there'
    by_cases here : task.handle = place
    · subst here
      rw [List.getElem?_set_self within] at there'
      obtain rfl := Option.some.inj there'
      exact ⟨_, there, by rw [received, if_pos rfl]⟩
    · rw [List.getElem?_set_ne here] at there'
      exact ⟨stored, there', by rw [if_neg (Ne.symm here), List.append_nil]⟩
  · rw [proceed_of_idle (by simpa using holding)]
    exact ⟨given, orderly⟩

end Moves

section Runs

def registeredBy : Move → List Handle
  | .register _ handle => [handle]
  | _ => []

theorem Orderly.step (orderly : Orderly originals given shared) (move : Move) :
    ∃ given', Orderly (originals ++ registeredBy move) given' (shared.step move) := by
  have touching (number : Nat) {act : Task → Shared}
      (acts : ∀ task, shared.tasks[number]? = some task →
        ∃ given', Orderly originals given' (act task)) :
      ∃ given', Orderly originals given' (shared.withTask number act) := by
    unfold withTask
    cases found : shared.tasks[number]? with
    | none => exact ⟨given, orderly⟩
    | some task => exact acts task found
  cases move with
  | register id handle => exact ⟨given, orderly.register id handle⟩
  | remove id =>
      simp only [registeredBy, List.append_nil]
      exact ⟨given, orderly.remove id⟩
  | write id payload =>
      simp only [registeredBy, List.append_nil]
      exact ⟨given, orderly.begin id (.write payload)⟩
  | close id =>
      simp only [registeredBy, List.append_nil]
      exact ⟨given, (orderly.begin id .shutdown).remove id⟩
  | take number =>
      simp only [registeredBy, List.append_nil]
      exact touching number fun task found => ⟨given, orderly.take found⟩
  | proceed number =>
      simp only [registeredBy, List.append_nil]
      exact touching number fun task found => orderly.proceed found
  | giveUp number =>
      simp only [registeredBy, List.append_nil]
      exact touching number fun task found => ⟨given, orderly.giveUp found⟩

theorem Orderly.run (orderly : Orderly originals given shared) (moves : List Move) :
    ∃ given', Orderly (originals ++ moves.flatMap registeredBy) given' (shared.run moves) := by
  induction moves generalizing shared originals given with
  | nil => exact ⟨given, by simpa [Shared.run] using orderly⟩
  | cons move rest ih =>
      obtain ⟨given', next⟩ := orderly.step move
      obtain ⟨given'', ends⟩ := ih next
      exact ⟨given'', by simpa [Shared.run] using ends⟩

theorem setStage_task {stage : Job.Stage} {other : Nat} (found : shared.tasks[number]? = some task) :
    ∃ stage', (shared.setStage other stage).tasks[number]? = some { task with stage := stage' } := by
  rw [setStage_tasks, found]
  split
  · exact ⟨stage, rfl⟩
  · exact ⟨task.stage, rfl⟩

theorem begin_task {id : String} {job : Job} (found : shared.tasks[number]? = some task) :
    (shared.begin id job).tasks[number]? = some task := by
  unfold begin
  cases shared.sessions.find? id with
  | none => exact found
  | some entry =>
      have begun := (List.getElem?_eq_some_iff.mp found).1
      exact (List.getElem?_append_left begun).trans found

/-- What a task does to itself only shows in its stage. -/
def Touches (shared shared' : Shared) (number : Nat) : Prop :=
  shared'.tasks = shared.tasks ∨ ∃ stage, shared'.tasks = (shared.setStage number stage).tasks

theorem take_touches : Touches shared (shared.take number task) number := by
  unfold take
  split
  · exact .inr ⟨_, rfl⟩
  · exact .inl rfl

theorem proceed_touches : Touches shared (shared.proceed number task) number := by
  unfold proceed
  split
  · exact .inr ⟨_, rfl⟩
  · exact .inl rfl

theorem giveUp_touches : Touches shared (shared.giveUp number task) number := by
  unfold giveUp
  split
  · exact .inr ⟨_, rfl⟩
  · exact .inr ⟨_, rfl⟩
  · exact .inl rfl
  · exact .inl rfl

theorem withTask_task {other : Nat} {act : Task → Shared} (found : shared.tasks[number]? = some task)
    (touches : ∀ task', Touches shared (act task') other) :
    ∃ stage, (shared.withTask other act).tasks[number]? = some { task with stage } := by
  unfold withTask
  cases shared.tasks[other]? with
  | none => exact ⟨task.stage, found⟩
  | some task' =>
      simp only [Option.map_some, Option.getD_some]
      rcases touches task' with same | ⟨stage, moved⟩
      · rw [same]
        exact ⟨task.stage, found⟩
      · rw [moved]
        exact setStage_task found

/-- What a task is about never changes. -/
theorem step_task (found : shared.tasks[number]? = some task) (move : Move) :
    ∃ stage, (shared.step move).tasks[number]? = some { task with stage } := by
  cases move with
  | register id handle => exact ⟨task.stage, found⟩
  | remove id => exact ⟨task.stage, found⟩
  | write id payload => exact ⟨task.stage, begin_task found⟩
  | close id => exact ⟨task.stage, begin_task found⟩
  | take other => exact withTask_task found fun _ => take_touches
  | proceed other => exact withTask_task found fun _ => proceed_touches
  | giveUp other => exact withTask_task found fun _ => giveUp_touches

theorem run_task (found : shared.tasks[number]? = some task) (moves : List Move) :
    ∃ stage, (shared.run moves).tasks[number]? = some { task with stage } := by
  induction moves generalizing shared task with
  | nil => exact ⟨task.stage, found⟩
  | cons move rest ih =>
      obtain ⟨stage, next⟩ := step_task found move
      obtain ⟨stage', ends⟩ := ih next
      exact ⟨stage', ends⟩

/-- Only a step of a task that holds a handle changes the handle. -/
theorem step_handle {handle : Handle} (there : shared.sessions.handles[place]? = some handle)
    (move : Move) :
    (shared.step move).sessions.handles[place]? = some handle ∨
      ∃ number task, move = .proceed number ∧ shared.tasks[number]? = some task ∧
        task.handle = place ∧ task.stage.isHolding = true := by
  have begun {id : String} {job : Job} : (shared.begin id job).sessions = shared.sessions := by
    unfold begin
    split <;> rfl
  cases move with
  | register id fresh =>
      have within := (List.getElem?_eq_some_iff.mp there).1
      exact .inl ((List.getElem?_append_left within).trans there)
  | remove id => exact .inl there
  | write id payload =>
      refine .inl ?_
      simp only [step, begun]
      exact there
  | close id =>
      refine .inl ?_
      simp only [step, begun]
      exact there
  | take number =>
      refine .inl ?_
      simp only [step, withTask]
      cases shared.tasks[number]? with
      | none => exact there
      | some task =>
          simp only [Option.map_some, Option.getD_some, take]
          split <;> exact there
  | giveUp number =>
      refine .inl ?_
      simp only [step, withTask]
      cases shared.tasks[number]? with
      | none => exact there
      | some task =>
          simp only [Option.map_some, Option.getD_some, giveUp]
          split <;> exact there
  | proceed number =>
      simp only [step, withTask]
      cases found : shared.tasks[number]? with
      | none => exact .inl there
      | some task =>
          simp only [Option.map_some, Option.getD_some, proceed]
          split
          · rename_i left handle' stage _
            by_cases here : task.handle = place
            · exact .inr ⟨number, task, rfl, found, here, by rw [stage]; rfl⟩
            · exact .inl ((List.getElem?_set_ne here).trans there)
          · exact .inl there

theorem run_append (moves later : List Move) :
    shared.run (moves ++ later) = (shared.run moves).run later :=
  List.foldl_append ..

/-- A write is about the handle that its lookup finds. -/
theorem begin_of_found {id : String} {job : Job} {handle : Handle}
    (found : shared.sessions.find? id = some (place, handle)) :
    (shared.begin id job).tasks[shared.tasks.length]? = some { handle := place, job, stage := .waiting } := by
  unfold begin
  rw [found]
  exact List.getElem?_concat_length

end Runs

/-- However the moves of several tasks come, every handle has received what its takers
gave, one after another in the order in which they took it.  A task that is done gave all
of its payload, one that still holds the handle is the last taker, and one that failed or
was given up gave a part.  A write only ever gives to the handle that its lookup found. -/
theorem payloads_stay_whole (moves : List Move) :
    (∃ given : Nat → List UInt8,
      (∀ (number : Nat) (task : Task), (empty.run moves).tasks[number]? = some task →
        task.job.Gave task.stage (given number)) ∧
      ∀ (place : Nat) (handle : Handle), (empty.run moves).sessions.handles[place]? = some handle →
        ∃ original, (moves.flatMap registeredBy)[place]? = some original ∧
          handle.received = original.received ++ ((empty.run moves).takersOf place).flatMap given) ∧
    (empty.run moves).takers.Nodup ∧
    (∀ (number : Nat) (task : Task), (empty.run moves).tasks[number]? = some task →
      (task.stage.isOver = true → number ∈ (empty.run moves).takersOf task.handle) ∧
      (task.stage.isHolding = true →
        ((empty.run moves).takersOf task.handle).getLast? = some number)) ∧
    (∀ past id payload later place handle, moves = past ++ .write id payload :: later →
      (empty.run past).sessions.find? id = some (place, handle) →
      ∃ stage, (empty.run moves).tasks[(empty.run past).tasks.length]? =
        some { handle := place, job := .write payload, stage }) ∧
    ∀ (move : Move) (place : Nat) (handle : Handle),
      (empty.run moves).sessions.handles[place]? = some handle →
      ((empty.run moves).step move).sessions.handles[place]? = some handle ∨
        ∃ number task, move = .proceed number ∧ (empty.run moves).tasks[number]? = some task ∧
          task.handle = place ∧ task.stage.isHolding = true := by
  obtain ⟨given, orderly⟩ := orderly_empty.run moves
  refine ⟨⟨given, ?_, ?_⟩, orderly.once, ?_, ?_, ?_⟩
  · intro number task found
    exact orderly.gave found
  · intro place handle there
    simpa using orderly.received there
  · intro number task found
    constructor
    · intro isOver
      exact mem_takersOf_iff.mpr ⟨orderly.done found isOver, by rw [found]; rfl⟩
    · intro holding
      exact orderly.holder found holding
  · intro past id payload later place handle split found
    rw [split, run_append]
    exact run_task (begin_of_found found) later
  · intro move place handle there
    exact step_handle there move

end Shared

end Rollout.Terminal
