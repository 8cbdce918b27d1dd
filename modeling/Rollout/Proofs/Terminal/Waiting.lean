import Rollout.Terminal.Automation
import Rollout.Terminal.Waiting

namespace Rollout.Terminal

/-! How long a wait for a prompt goes on, and how it ends.

What is written while someone waits is a schedule: chunks with the instants at which they come.
A run is along a schedule if it writes just these chunks, each at its instant.  In every such run
the clock stands still as long as the prompt may be there unseen: a write leaves a note, and a
rest with a note left is over.  So no poll has to come for the prompt to be seen in time.
-/

/-- Output that comes at an instant. -/
structure Arrival where
  time : Nat
  chunk : List UInt8
deriving Repr, DecidableEq

/-- All that is written from an instant on, in the order in which it comes. -/
structure Schedule (start : Nat) where
  arrivals : List Arrival
  ordered : arrivals.Pairwise (·.time ≤ ·.time)
  begins : ∀ arrival ∈ arrivals, start ≤ arrival.time

namespace Window

def receive (window : Window) (arrivals : List Arrival) : Window :=
  arrivals.foldl (fun window arrival => window.append arrival.chunk) window

/-- The window at the end of an instant. -/
def heldAt (window : Window) (arrivals : List Arrival) (time : Nat) : Window :=
  window.receive (arrivals.filter (·.time ≤ time))

variable {window : Window} {arrivals later : List Arrival} {time : Nat}

theorem receive_append (window : Window) (front back : List Arrival) :
    window.receive (front ++ back) = (window.receive front).receive back := List.foldl_append

theorem heldAt_append_of_later (after : ∀ arrival ∈ later, time < arrival.time) :
    window.heldAt (arrivals ++ later) time = window.heldAt arrivals time := by
  have none : later.filter (·.time ≤ time) = [] := List.filter_eq_nil_iff.mpr
    fun arrival member => by simpa using after arrival member
  rw [heldAt, heldAt, List.filter_append, none, List.append_nil]

theorem heldAt_of_later (after : ∀ arrival ∈ later, time < arrival.time) :
    window.heldAt later time = window :=
  @heldAt_append_of_later window [] later time after

theorem heldAt_cons {arrival : Arrival} (begun : arrival.time ≤ time) :
    window.heldAt (arrival :: arrivals) time = (window.append arrival.chunk).heldAt arrivals time := by
  simp only [heldAt, List.filter_cons, begun, decide_true, ↓reduceIte, receive, List.foldl_cons]

end Window

namespace Waiting

variable {waiting next reached : Waiting} {event : Event} {events more : List Event}

/-- What is written during events from an instant on. -/
def arrivals (now : Nat) : List Event → List Arrival
  | [] => []
  | .written chunk :: later => ⟨now, chunk⟩ :: arrivals now later
  | .clock time :: later => arrivals time later
  | .look :: later | .notice :: later | .wake :: later => arrivals now later

/-- All that an event can do to a wait. -/
inductive Change (waiting : Waiting) : Event → Waiting → Prop where
  | written (chunk : List UInt8) (going : ∀ seen, waiting.stage ≠ .ended seen) :
      Change waiting (.written chunk)
        { waiting with window := waiting.window.append chunk, hasNote := true }
  | sees (looking : waiting.stage = .looking)
      (shown : waiting.window.shows waiting.prompt = true) :
      Change waiting .look { waiting with stage := .ended true }
  | givesUp (looking : waiting.stage = .looking)
      (hidden : waiting.window.shows waiting.prompt = false) (late : waiting.deadline ≤ waiting.now) :
      Change waiting .look { waiting with stage := .ended false }
  | rests (looking : waiting.stage = .looking)
      (hidden : waiting.window.shows waiting.prompt = false) (early : waiting.now < waiting.deadline) :
      Change waiting .look
        { waiting with
          stage := .resting (waiting.now + min (waiting.deadline - waiting.now) restLimit) }
  | notices {wake : Nat} (resting : waiting.stage = .resting wake) (noted : waiting.hasNote = true) :
      Change waiting .notice { waiting with hasNote := false, stage := .looking }
  | wakes {wake : Nat} (resting : waiting.stage = .resting wake) (due : wake ≤ waiting.now) :
      Change waiting .wake { waiting with stage := .looking }
  | idles {wake time : Nat} (resting : waiting.stage = .resting wake)
      (quiet : waiting.hasNote = false) (onward : waiting.now < time) (due : time ≤ wake) :
      Change waiting (.clock time) { waiting with now := time }

theorem step?_of_change (change : Change waiting event next) : waiting.step? event = some next := by
  cases change with
  | written chunk going =>
      cases stage : waiting.stage with
      | looking => simp only [step?, stage]
      | resting wake => simp only [step?, stage]
      | ended seen => exact absurd stage (going seen)
  | sees looking shown => simp only [step?, looking, looked, shown, ↓reduceIte]
  | givesUp looking hidden late =>
      simp only [step?, looking, looked, hidden, late, ↓reduceIte, Bool.false_eq_true]
  | rests looking hidden early =>
      simp only [step?, looking, looked, hidden, Nat.not_le.mpr early, ↓reduceIte, Bool.false_eq_true]
  | notices resting noted => simp only [step?, resting, noted, ↓reduceIte]
  | wakes resting due => simp only [step?, resting, due, ↓reduceIte]
  | idles resting quiet onward due => simp [step?, resting, quiet, onward, due]

theorem change_of_step (stepped : waiting.step? event = some next) : Change waiting event next := by
  unfold step? at stepped
  split at stepped
  · cases stepped
  · rename_i going
    obtain rfl := Option.some.inj stepped
    exact .written _ fun seen ended => going seen ended
  · rename_i looking
    obtain rfl := Option.some.inj stepped
    cases shown : waiting.window.shows waiting.prompt with
    | true =>
        have seen : waiting.looked = .ended true := by simp only [looked, shown, ↓reduceIte]
        exact seen ▸ .sees looking shown
    | false =>
        by_cases late : waiting.deadline ≤ waiting.now
        · have missed : waiting.looked = .ended false := by
            simp only [looked, shown, late, ↓reduceIte, Bool.false_eq_true]
          exact missed ▸ .givesUp looking shown late
        · have rest : waiting.looked =
              .resting (waiting.now + min (waiting.deadline - waiting.now) restLimit) := by
            simp only [looked, shown, late, ↓reduceIte, Bool.false_eq_true]
          exact rest ▸ .rests looking shown (Nat.lt_of_not_le late)
  · rename_i wake resting
    split at stepped
    · rename_i noted
      obtain rfl := Option.some.inj stepped
      exact .notices resting noted
    · cases stepped
  · rename_i wake resting
    split at stepped
    · rename_i due
      obtain rfl := Option.some.inj stepped
      exact .wakes resting due
    · cases stepped
  · rename_i wake time resting
    split at stepped
    · rename_i free
      obtain rfl := Option.some.inj stepped
      simp only [Bool.and_eq_true, Bool.not_eq_true', decide_eq_true_eq] at free
      exact .idles resting free.1.1 free.1.2 free.2
    · cases stepped
  · cases stepped

/-- A run, event by event. -/
inductive Passes : Waiting → List Event → Waiting → Prop where
  | nil (waiting : Waiting) : Passes waiting [] waiting
  | cons {waiting next reached : Waiting} {event : Event} {events : List Event}
      (change : Change waiting event next) (later : Passes next events reached) :
      Passes waiting (event :: events) reached

theorem run?_eq_some_iff : waiting.run? events = some reached ↔ Passes waiting events reached := by
  constructor
  · intro run
    induction events generalizing waiting with
    | nil =>
        obtain rfl := Option.some.inj run
        exact .nil waiting
    | cons event events ih =>
        rw [run?, List.foldlM_cons] at run
        obtain ⟨next, stepped, later⟩ := Option.bind_eq_some_iff.mp run
        exact .cons (change_of_step stepped) (ih later)
  · intro passes
    induction passes with
    | nil waiting => rfl
    | cons change later ih =>
        rw [run?, List.foldlM_cons, step?_of_change change]
        exact ih

theorem Passes.append {last : Waiting} (front : Passes waiting events reached)
    (back : Passes reached more last) : Passes waiting (events ++ more) last := by
  induction front with
  | nil waiting => exact back
  | cons change later ih => exact .cons change (ih back)

section Frame

theorem Change.prompt (change : Change waiting event next) : next.prompt = waiting.prompt := by
  cases change <;> rfl

theorem Change.deadline (change : Change waiting event next) : next.deadline = waiting.deadline := by
  cases change <;> rfl

theorem Change.now_le (change : Change waiting event next) : waiting.now ≤ next.now := by
  cases change with
  | idles resting quiet onward due => exact Nat.le_of_lt onward
  | written | sees | givesUp | rests | notices | wakes => exact Nat.le_refl _

theorem Passes.prompt (passes : Passes waiting events reached) : reached.prompt = waiting.prompt := by
  induction passes with
  | nil waiting => rfl
  | cons change later ih => exact ih.trans change.prompt

theorem Passes.deadline (passes : Passes waiting events reached) :
    reached.deadline = waiting.deadline := by
  induction passes with
  | nil waiting => rfl
  | cons change later ih => exact ih.trans change.deadline

theorem Passes.now_le (passes : Passes waiting events reached) : waiting.now ≤ reached.now := by
  induction passes with
  | nil waiting => exact Nat.le_refl _
  | cons change later ih => exact Nat.le_trans change.now_le ih

end Frame

section Arrivals

theorem Change.arrivals_cons (change : Change waiting event next) (later : List Event) :
    arrivals waiting.now (event :: later) =
      arrivals waiting.now [event] ++ arrivals next.now later := by
  cases change <;> rfl

theorem Passes.arrivals_append (passes : Passes waiting events reached) (more : List Event) :
    arrivals waiting.now (events ++ more) =
      arrivals waiting.now events ++ arrivals reached.now more := by
  induction passes with
  | nil waiting => rfl
  | @cons waiting next reached event events change later ih =>
      rw [List.cons_append, change.arrivals_cons, ih, change.arrivals_cons events, List.append_assoc]

theorem Passes.arrives (passes : Passes waiting events reached) :
    ∀ arrival ∈ arrivals waiting.now events, waiting.now ≤ arrival.time := by
  induction passes with
  | nil waiting => exact fun arrival member => absurd member List.not_mem_nil
  | @cons waiting next reached event events change later ih =>
      intro arrival member
      rw [change.arrivals_cons] at member
      rcases List.mem_append.mp member with first | rest
      · cases change with
        | written chunk going =>
            obtain rfl := List.mem_singleton.mp first
            exact Nat.le_refl _
        | sees | givesUp | rests | notices | wakes | idles => cases first
      · exact Nat.le_trans change.now_le (ih arrival rest)

theorem Change.window (change : Change waiting event next) :
    next.window = waiting.window.receive (arrivals waiting.now [event]) := by
  cases change with
  | written chunk going => simp only [arrivals, Window.receive, List.foldl_cons, List.foldl_nil]
  | sees | givesUp | rests | notices | wakes | idles => rfl

theorem Passes.window (passes : Passes waiting events reached) :
    reached.window = waiting.window.receive (arrivals waiting.now events) := by
  induction passes with
  | nil waiting => rfl
  | @cons waiting next reached event events change later ih =>
      rw [ih, change.window, change.arrivals_cons events, Window.receive_append]

end Arrivals

section Attention

/-- What holds of a wait at any time.  While it rests and no note is left for it, the prompt is
not there. -/
def Attentive (waiting : Waiting) : Prop :=
  match waiting.stage with
  | .looking => waiting.now ≤ waiting.deadline
  | .resting wake =>
      waiting.now ≤ wake ∧ wake ≤ waiting.deadline ∧ wake ≤ waiting.now + restLimit ∧
      (waiting.hasNote = false → waiting.window.shows waiting.prompt = false)
  | .ended true => waiting.now ≤ waiting.deadline ∧ waiting.window.shows waiting.prompt = true
  | .ended false => waiting.now = waiting.deadline ∧ waiting.window.shows waiting.prompt = false

theorem attentive_start (window : Window) (hasNote : Bool) (prompt : Prompt) (now limit : Nat) :
    (start window hasNote prompt now limit).Attentive := Nat.le_add_right now limit

theorem Attentive.now_le (attentive : waiting.Attentive) : waiting.now ≤ waiting.deadline := by
  unfold Attentive at attentive
  split at attentive
  · exact attentive
  · exact Nat.le_trans attentive.1 attentive.2.1
  · exact attentive.1
  · exact Nat.le_of_eq attentive.1

theorem Change.attentive (change : Change waiting event next) (attentive : waiting.Attentive) :
    next.Attentive := by
  unfold Attentive at attentive ⊢
  cases change with
  | written chunk going =>
      cases stage : waiting.stage with
      | looking => simpa only [stage] using attentive
      | resting wake =>
          simp only [stage] at attentive ⊢
          exact ⟨attentive.1, attentive.2.1, attentive.2.2.1, fun quiet => absurd quiet Bool.noConfusion⟩
      | ended seen => exact absurd stage (going seen)
  | sees looking shown =>
      simp only [looking] at attentive ⊢
      exact ⟨attentive, shown⟩
  | givesUp looking hidden late =>
      simp only [looking] at attentive ⊢
      exact ⟨Nat.le_antisymm attentive late, hidden⟩
  | rests looking hidden early =>
      simp only [looking] at attentive ⊢
      refine ⟨by omega, by omega, by omega, fun _ => hidden⟩
  | notices resting | wakes resting =>
      simp only [resting] at attentive ⊢
      exact Nat.le_trans attentive.1 attentive.2.1
  | idles resting quiet onward due =>
      simp only [resting] at attentive ⊢
      exact ⟨due, attentive.2.1, by omega, attentive.2.2.2⟩

/-- The clock stands still as long as the prompt may be there unseen. -/
theorem Change.unseen (change : Change waiting event next) (attentive : waiting.Attentive)
    (onward : waiting.now < next.now) : waiting.window.shows waiting.prompt = false := by
  cases change with
  | idles resting quiet _ _ =>
      simp only [Attentive, resting] at attentive
      exact attentive.2.2.2 quiet
  | written | sees | givesUp | rests | notices | wakes => exact absurd onward (Nat.lt_irrefl _)

theorem Passes.attentive (passes : Passes waiting events reached) (attentive : waiting.Attentive) :
    reached.Attentive := by
  induction passes with
  | nil waiting => exact attentive
  | cons change later ih => exact ih (change.attentive attentive)

/-- At no instant that a run left behind was the prompt there at its end. -/
theorem Passes.unseen (passes : Passes waiting events reached) (attentive : waiting.Attentive)
    {time : Nat} (begun : waiting.now ≤ time) (before : time < reached.now) :
    (waiting.window.heldAt (arrivals waiting.now events) time).shows waiting.prompt = false := by
  induction passes with
  | nil waiting => omega
  | @cons waiting next reached event events change later ih =>
      by_cases reaches : next.now ≤ time
      · rw [← change.prompt, ← ih (change.attentive attentive) reaches before]
        cases change with
        | written chunk going =>
            rw [arrivals, Window.heldAt_cons begun]
        | sees | givesUp | rests | notices | wakes | idles => rfl
      · have passed := Nat.lt_of_not_le reaches
        have hidden := change.unseen attentive (Nat.lt_of_le_of_lt begun passed)
        rw [Window.heldAt_of_later, hidden]
        intro arrival member
        cases change with
        | idles resting quiet onward due => exact Nat.lt_of_lt_of_le passed (later.arrives arrival member)
        | written | sees | givesUp | rests | notices | wakes => exact absurd begun reaches

end Attention

section Effort

/-- How many rests fill a time. -/
def restsIn (time : Nat) : Nat := (time + restLimit - 1) / restLimit

/-- A bound on the events that are left while nothing is written. -/
def effort (waiting : Waiting) : Nat :=
  match waiting.stage with
  | .looking =>
      2 * (1 + waiting.hasNote.toNat + restsIn (waiting.deadline - waiting.now)) +
        (waiting.deadline - waiting.now)
  | .resting wake =>
      2 * (1 + waiting.hasNote.toNat + restsIn (waiting.deadline - wake)) + 1 +
        (waiting.deadline - waiting.now)
  | .ended _ => 0

theorem Change.effort (change : Change waiting event next) (attentive : waiting.Attentive) :
    1 + next.effort ≤ waiting.effort + 3 * (arrivals waiting.now [event]).length := by
  unfold Attentive at attentive
  unfold Waiting.effort
  cases change with
  | written chunk going =>
      have noted := waiting.hasNote.toNat_le
      cases stage : waiting.stage with
      | looking =>
          simp only [arrivals, List.length_singleton, Bool.toNat_true]
          omega
      | resting wake =>
          simp only [arrivals, List.length_singleton, Bool.toNat_true]
          omega
      | ended seen => exact absurd stage (going seen)
  | sees looking shown =>
      simp only [looking, arrivals, List.length_nil]
      omega
  | givesUp looking hidden late =>
      simp only [looking, arrivals, List.length_nil]
      omega
  | rests looking hidden early =>
      simp only [looking, arrivals, List.length_nil, restsIn, restLimit]
      omega
  | notices resting noted =>
      simp only [resting, noted, arrivals, List.length_nil, restsIn, restLimit, Bool.toNat_true,
        Bool.toNat_false] at attentive ⊢
      omega
  | wakes resting due =>
      simp only [resting] at attentive
      obtain rfl : _ = waiting.now := Nat.le_antisymm due attentive.1
      simp only [resting, arrivals, List.length_nil]
      omega
  | idles resting quiet onward due =>
      simp only [resting, arrivals, List.length_nil] at attentive ⊢
      omega

theorem Passes.effort (passes : Passes waiting events reached) (attentive : waiting.Attentive) :
    events.length + reached.effort ≤
      waiting.effort + 3 * (arrivals waiting.now events).length := by
  induction passes with
  | nil waiting => exact Nat.le_of_eq (Nat.zero_add _)
  | cons change later ih =>
      have first := change.effort attentive
      have rest := ih (change.attentive attentive)
      rw [change.arrivals_cons, List.length_append, List.length_cons]
      omega

end Effort

section Schedules

variable {origin : Nat} {schedule : Schedule origin} {later : List Arrival}

/-- A run along a schedule: it wrote the front of the schedule, and nothing else was due before
the instant that it reached. -/
structure Along (schedule : Schedule origin) (waiting : Waiting) (events : List Event)
    (reached : Waiting) : Prop where
  runs : waiting.run? events = some reached
  due : ∃ later, schedule.arrivals = arrivals waiting.now events ++ later ∧
    ∀ arrival ∈ later, reached.now ≤ arrival.time

theorem Along.passes (along : Along schedule waiting events reached) :
    Passes waiting events reached := run?_eq_some_iff.mp along.runs

theorem Along.refl (waiting : Waiting) (schedule : Schedule waiting.now) :
    Along schedule waiting [] waiting where
  runs := rfl
  due := ⟨schedule.arrivals, rfl, schedule.begins⟩

theorem Along.snoc (along : Along schedule waiting events reached)
    (change : Change reached event next)
    (split : schedule.arrivals =
      arrivals waiting.now events ++ (arrivals reached.now [event] ++ later))
    (ahead : ∀ arrival ∈ later, next.now ≤ arrival.time) :
    Along schedule waiting (events ++ [event]) next where
  runs := run?_eq_some_iff.mpr (along.passes.append (.cons change (.nil next)))
  due := ⟨later, by rw [split, along.passes.arrivals_append, List.append_assoc], ahead⟩

/-- A wait that rests without a note goes on with what is due, or with the clock up to the next
arrival or to the end of the rest. -/
theorem Along.extend_quiet {wake : Nat} (along : Along schedule waiting events reached)
    (resting : reached.stage = .resting wake) (quiet : reached.hasNote = false)
    (onward : reached.now < wake) :
    ∃ event next, Along schedule waiting (events ++ [event]) next := by
  obtain ⟨later, split, ahead⟩ := along.due
  cases later with
  | nil =>
      have change := Change.idles resting quiet onward (Nat.le_refl wake)
      exact ⟨.clock wake, _, along.snoc change split fun arrival member => absurd member List.not_mem_nil⟩
  | cons first others =>
      by_cases now : first.time ≤ reached.now
      · have instant := Nat.le_antisymm (ahead first List.mem_cons_self) now
        have due : first :: others = arrivals reached.now [.written first.chunk] ++ others := by
          rw [instant]
          rfl
        have going : ∀ seen, reached.stage ≠ .ended seen := by simp [resting]
        exact ⟨.written first.chunk, _, along.snoc (.written first.chunk going) (due ▸ split)
          fun arrival member => ahead arrival (List.mem_cons_of_mem first member)⟩
      · have before : reached.now < min wake first.time :=
          Nat.lt_min.mpr ⟨onward, Nat.lt_of_not_le now⟩
        have ordered := schedule.ordered
        rw [split] at ordered
        have order := (List.pairwise_cons.mp (List.pairwise_append.mp ordered).2.1).1
        have change := Change.idles resting quiet before (Nat.min_le_left wake first.time)
        refine ⟨.clock (min wake first.time), _, along.snoc change split fun arrival member => ?_⟩
        refine Nat.le_trans (Nat.min_le_right wake first.time) ?_
        rcases List.mem_cons.mp member with rfl | other
        · exact Nat.le_refl _
        · exact order arrival other

/-- A wait that is not over can go on along its schedule. -/
theorem Along.extend (along : Along schedule waiting events reached)
    (going : ∀ seen, reached.stage ≠ .ended seen) :
    ∃ event next, Along schedule waiting (events ++ [event]) next := by
  obtain ⟨later, split, ahead⟩ := along.due
  cases stage : reached.stage with
  | ended seen => exact absurd stage (going seen)
  | looking =>
      cases shown : reached.window.shows reached.prompt with
      | true => exact ⟨.look, _, along.snoc (.sees stage shown) split ahead⟩
      | false =>
          by_cases late : reached.deadline ≤ reached.now
          · exact ⟨.look, _, along.snoc (.givesUp stage shown late) split ahead⟩
          · exact ⟨.look, _, along.snoc (.rests stage shown (Nat.lt_of_not_le late)) split ahead⟩
  | resting wake =>
      cases noted : reached.hasNote with
      | true => exact ⟨.notice, _, along.snoc (.notices stage noted) split ahead⟩
      | false =>
          by_cases due : wake ≤ reached.now
          · exact ⟨.wake, _, along.snoc (.wakes stage due) split ahead⟩
          · exact along.extend_quiet stage noted (Nat.lt_of_not_le due)

/-- No run along a schedule goes on for ever. -/
theorem Along.length_le (along : Along schedule waiting events reached)
    (attentive : waiting.Attentive) :
    events.length ≤ waiting.effort + 3 * schedule.arrivals.length := by
  have bound := along.passes.effort attentive
  obtain ⟨later, split, -⟩ := along.due
  have written := congrArg List.length split
  rw [List.length_append] at written
  omega

theorem Along.finish {events : List Event} {reached : Waiting}
    (along : Along schedule waiting events reached) (attentive : waiting.Attentive) :
    ∃ more last seen, Along schedule waiting (events ++ more) last ∧ last.stage = .ended seen := by
  by_cases stopped : ∃ seen, reached.stage = .ended seen
  · obtain ⟨seen, ended⟩ := stopped
    exact ⟨[], reached, seen, (List.append_nil events).symm ▸ along, ended⟩
  · obtain ⟨event, next, further⟩ := along.extend (not_exists.mp stopped)
    have room := further.length_le attentive
    obtain ⟨more, last, seen, whole, ended⟩ := further.finish attentive
    exact ⟨event :: more, last, seen, by rwa [List.append_assoc] at whole, ended⟩
termination_by waiting.effort + 3 * schedule.arrivals.length - events.length
decreasing_by
  rw [List.length_append, List.length_singleton] at room ⊢
  omega

/-- The prompt was not there at the end of any instant that a run along a schedule left behind. -/
theorem Along.unseen (along : Along schedule waiting events reached) (attentive : waiting.Attentive)
    {time : Nat} (begun : waiting.now ≤ time) (before : time < reached.now) :
    (waiting.window.heldAt schedule.arrivals time).shows waiting.prompt = false := by
  obtain ⟨later, split, ahead⟩ := along.due
  rw [split, Window.heldAt_append_of_later fun arrival member =>
    Nat.lt_of_lt_of_le before (ahead arrival member)]
  exact along.passes.unseen attentive begun before

end Schedules

theorem Passes.of_ended {seen : Bool} (passes : Passes waiting events reached)
    (ended : waiting.stage = .ended seen) : events = [] ∧ reached = waiting := by
  cases passes with
  | nil waiting => exact ⟨rfl, rfl⟩
  | cons change later =>
      cases change with
      | written chunk going => exact absurd ended (going seen)
      | sees stage | givesUp stage | rests stage | notices stage | wakes stage | idles stage =>
          rw [stage] at ended
          cases ended

/-- A wait that has no time left looks just once. -/
theorem Passes.single {seen : Bool} (passes : Passes waiting events reached)
    (looking : waiting.stage = .looking) (late : waiting.deadline ≤ waiting.now)
    (ended : reached.stage = .ended seen) :
    ∃ chunks : List (List UInt8), events = chunks.map .written ++ [.look] ∧
      seen = reached.window.shows reached.prompt := by
  induction passes with
  | nil waiting =>
      rw [looking] at ended
      cases ended
  | cons change later ih =>
      cases change with
      | written chunk going =>
          obtain ⟨chunks, rfl, answer⟩ := ih looking late ended
          exact ⟨chunk :: chunks, rfl, answer⟩
      | sees stage shown =>
          obtain ⟨rfl, rfl⟩ := later.of_ended rfl
          cases ended
          exact ⟨[], rfl, shown.symm⟩
      | givesUp stage hidden =>
          obtain ⟨rfl, rfl⟩ := later.of_ended rfl
          cases ended
          exact ⟨[], rfl, hidden.symm⟩
      | rests stage hidden early => exact absurd late (Nat.not_le.mpr early)
      | notices stage | wakes stage | idles stage =>
          rw [looking] at stage
          cases stage

section Outcome

variable {window : Window} {hasNote : Bool} {prompt : Prompt} {now limit time : Nat}
  {schedule : Schedule now}

theorem Along.seen
    (along : Along schedule (start window hasNote prompt now limit) events reached)
    (ended : reached.stage = .ended true) :
    reached.now ≤ now + limit ∧ reached.window.shows prompt = true := by
  have attentive := along.passes.attentive (attentive_start window hasNote prompt now limit)
  simp only [Attentive, ended, along.passes.deadline, along.passes.prompt] at attentive
  exact attentive

theorem Along.missed
    (along : Along schedule (start window hasNote prompt now limit) events reached)
    (ended : reached.stage = .ended false) :
    reached.now = now + limit ∧ reached.window.shows prompt = false := by
  have attentive := along.passes.attentive (attentive_start window hasNote prompt now limit)
  simp only [Attentive, ended, along.passes.deadline, along.passes.prompt] at attentive
  exact attentive

/-- A wait does not go on behind an instant that ends with the prompt there. -/
theorem Along.now_le_of_shown
    (along : Along schedule (start window hasNote prompt now limit) events reached)
    (begun : now ≤ time) (shown : (window.heldAt schedule.arrivals time).shows prompt = true) :
    reached.now ≤ time := by
  refine Nat.le_of_not_lt fun before => ?_
  have hidden := along.unseen (attentive_start window hasNote prompt now limit) begun before
  exact Bool.noConfusion (hidden.symm.trans shown)

theorem Along.in_time
    (along : Along schedule (start window hasNote prompt now limit) events reached)
    (begun : now ≤ time) (early : time < now + limit)
    (shown : (window.heldAt schedule.arrivals time).shows prompt = true) :
    reached.now ≤ time ∧ reached.stage ≠ .ended false := by
  have soon := along.now_le_of_shown begun shown
  refine ⟨soon, fun ended => ?_⟩
  have late := (along.missed ended).1
  omega

/-- A wait along a schedule always comes to an end, and within a bounded number of events.  If it
ends with the prompt seen, the prompt is there and the time of the wait is not over.  If it ends
without, just the time of the wait is over, and the prompt was there at the end of no instant
before.  So it ends no later than the first instant that ends with the prompt there.  A wait
for no time at all is a single look. -/
theorem prompt_awaited (window : Window) (hasNote : Bool) (prompt : Prompt) (now limit : Nat)
    (schedule : Schedule now) :
    Along schedule (start window hasNote prompt now limit) []
      (start window hasNote prompt now limit) ∧
    ∀ events reached, Along schedule (start window hasNote prompt now limit) events reached →
      (∃ more last seen,
        Along schedule (start window hasNote prompt now limit) (events ++ more) last ∧
        last.stage = .ended seen) ∧
      events.length ≤ 4 + 2 * restsIn limit + limit + 3 * schedule.arrivals.length ∧
      reached.window = window.receive (arrivals now events) ∧
      (reached.stage = .ended true →
        reached.now ≤ now + limit ∧ reached.window.shows prompt = true) ∧
      (reached.stage = .ended false →
        reached.now = now + limit ∧ reached.window.shows prompt = false ∧
        ∀ time, now ≤ time → time < now + limit →
          (window.heldAt schedule.arrivals time).shows prompt = false) ∧
      (∀ time, now ≤ time → time < now + limit →
        (window.heldAt schedule.arrivals time).shows prompt = true →
        reached.now ≤ time ∧ reached.stage ≠ .ended false) ∧
      (limit = 0 → ∀ seen, reached.stage = .ended seen →
        ∃ chunks : List (List UInt8), events = chunks.map .written ++ [.look] ∧
          seen = reached.window.shows prompt) := by
  have attentive := attentive_start window hasNote prompt now limit
  refine ⟨.refl (start window hasNote prompt now limit) schedule, fun events reached along =>
    ⟨along.finish attentive, ?_, along.passes.window, along.seen, fun ended => ?_,
    fun time begun early shown => along.in_time begun early shown, ?_⟩⟩
  · have bound := along.length_le attentive
    have note := hasNote.toNat_le
    simp only [effort, start, Nat.add_sub_cancel_left] at bound
    omega
  · obtain ⟨late, hidden⟩ := along.missed ended
    exact ⟨late, hidden, fun time begun early => along.unseen attentive begun (late ▸ early)⟩
  · rintro rfl seen ended
    obtain ⟨chunks, spelled, answer⟩ := along.passes.single rfl (Nat.le_refl now) ended
    rw [along.passes.prompt] at answer
    exact ⟨chunks, spelled, answer⟩

/-- A prompt that comes between two polls is seen when it comes. -/
theorem prompt_awaited_between_polls :
    ∃ (schedule : Schedule 0) (events : List Event) (reached : Waiting),
      schedule.arrivals = [⟨300, [63]⟩] ∧
      Along schedule (start .empty false (.text "?") 0 1000) events reached ∧
      reached.stage = .ended true ∧ reached.now = 300 ∧
      reached.window.shows (.text "?") = true := by
  let schedule : Schedule 0 :=
    { arrivals := [⟨300, [63]⟩], ordered := List.pairwise_singleton _ _, begins := by decide }
  let events : List Event :=
    [.look, .clock 250, .wake, .look, .clock 300, .written [63], .notice, .look]
  have along : Along schedule (start .empty false (.text "?") 0 1000) events
      { start .empty false (.text "?") 0 1000 with
        now := 300, window := ⟨[63]⟩, stage := .ended true } :=
    ⟨by rfl, [], rfl, fun arrival member => absurd member List.not_mem_nil⟩
  have outcome := (prompt_awaited .empty false (.text "?") 0 1000 schedule).2 events _ along
  exact ⟨schedule, events, _, rfl, along, rfl, rfl, (outcome.2.2.2.1 rfl).2⟩

/-- If nothing is written, a wait ends as `Window.await` says. -/
theorem Along.await {seen : Bool}
    (along : Along schedule (start window hasNote prompt now limit) events reached)
    (silent : schedule.arrivals = []) (ended : reached.stage = .ended seen) :
    (seen, reached.now - now) = window.await prompt limit := by
  have kept : reached.window = window := by
    obtain ⟨later, split, -⟩ := along.due
    rw [along.passes.window]
    rw [silent] at split
    rw [(List.append_eq_nil_iff.mp split.symm).1]
    rfl
  cases seen with
  | true =>
      obtain ⟨early, shown⟩ := along.seen ended
      rw [kept] at shown
      have soon : reached.now ≤ now := along.now_le_of_shown (Nat.le_refl now) (by rwa [silent])
      rw [Window.await, if_pos shown, Nat.sub_eq_zero_of_le soon]
  | false =>
      obtain ⟨late, hidden⟩ := along.missed ended
      rw [kept] at hidden
      rw [Window.await, if_neg (Bool.eq_false_iff.mp hidden), late, Nat.add_sub_cancel_left]

/-- A wait ends when its gate lets an answer through. -/
theorem Along.lets {seen : Bool}
    (along : Along schedule (start window hasNote prompt now limit) events reached)
    (ended : reached.stage = .ended seen) :
    (Gate.prompt prompt limit).lets reached.window (reached.now - now) = true := by
  cases seen with
  | true => simp only [Gate.lets, (along.seen ended).2, Bool.or_true]
  | false =>
      simp only [Gate.lets, (along.missed ended).1, Nat.add_sub_cancel_left, Nat.le_refl,
        decide_true, Bool.true_or]

theorem Along.holds
    (along : Along schedule (start window hasNote prompt now limit) events reached)
    (begun : now ≤ time) (before : time < reached.now) :
    (Gate.prompt prompt limit).lets (window.heldAt schedule.arrivals time) (time - now) = false := by
  have attentive := attentive_start window hasNote prompt now limit
  have inside := (along.passes.attentive attentive).now_le
  have hidden := along.unseen attentive begun before
  rw [along.passes.deadline] at inside
  have early : ¬ limit ≤ time - now := by
    simp only [start] at inside
    omega
  simp only [Gate.lets, early, decide_false, Bool.false_or]
  exact hidden

end Outcome

end Waiting

end Rollout.Terminal
