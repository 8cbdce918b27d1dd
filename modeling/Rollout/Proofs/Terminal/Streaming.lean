import Rollout.Proofs.Progress.Reading
import Rollout.Proofs.Terminal.Session

namespace Rollout.Terminal

/-! The output of a terminal, from its two streams to all who are shown it.

Each stream is read until a read fails or gives nothing.  A chunk that was read goes to the
window, to the progress and to the other sinks before anything else is read, so all of them
see the chunks of both streams in one and the same order.
-/

section Interleaving

/-- A list made of two others, each in its own order. -/
inductive Interleaves {Item : Type} : (front back whole : List Item) → Prop where
  | nil : Interleaves [] [] []
  | left {item : Item} {front back whole : List Item} (later : Interleaves front back whole) :
      Interleaves (item :: front) back (item :: whole)
  | right {item : Item} {front back whole : List Item} (later : Interleaves front back whole) :
      Interleaves front (item :: back) (item :: whole)

variable {Item : Type} {front back whole front' back' whole' : List Item}

theorem Interleaves.append_left (items : List Item) (later : Interleaves front back whole) :
    Interleaves (items ++ front) back (items ++ whole) := by
  induction items with
  | nil => exact later
  | cons item items ih => exact .left ih

theorem Interleaves.append_right (items : List Item) (later : Interleaves front back whole) :
    Interleaves front (items ++ back) (items ++ whole) := by
  induction items with
  | nil => exact later
  | cons item items ih => exact .right ih

theorem Interleaves.flatten {front back whole : List (List Item)}
    (interleaves : Interleaves front back whole) :
    Interleaves front.flatten back.flatten whole.flatten := by
  induction interleaves with
  | nil => exact .nil
  | left later ih => exact ih.append_left _
  | right later ih => exact ih.append_right _

end Interleaving

section Reads

/-- The chunks that the reads of a stream give, up to its end. -/
def chunksOf : List (Except String (List UInt8)) → List (List UInt8)
  | .ok (byte :: bytes) :: later => (byte :: bytes) :: chunksOf later
  | _ => []

/-- How the reads of a stream end. -/
def endOf? : List (Except String (List UInt8)) → Option (Except Error Unit)
  | [] => none
  | .error reason :: _ => some (.error (.reading reason))
  | .ok [] :: _ => some (.ok ())
  | .ok (_ :: _) :: later => endOf? later

def Event.readOf? (source : Source) : Event → Option (Except String (List UInt8))
  | .read other outcome => if other = source then some outcome else none
  | _ => none

end Reads

namespace Session

section Views

variable {View : Type}

/-- What a live session sees of an event. -/
def heard? (view : Event → Option View) (session : Session) (event : Event) : Option View :=
  if session.stage = .live then view event else none

def heard (view : Event → Option View) : Session → List Event → List View
  | _, [] => []
  | session, event :: rest =>
      (session.heard? view event).toList ++ heard view (session.step event) rest

end Views

/-- What the reads of a stream give while a session is live. -/
def reads (source : Source) (session : Session) (events : List Event) :
    List (Except String (List UInt8)) :=
  session.heard (Event.readOf? source) events

/-- The chunk that a stream gives, if it has not ended and does not end now. -/
def chunk? (session : Session) (source : Source) (outcome : Except String (List UInt8)) :
    Option (List UInt8) :=
  match session.ending? source, outcome with
  | none, .ok (byte :: bytes) => some (byte :: bytes)
  | _, _ => none

/-- The chunk that a step gets, and where from. -/
def gain? (session : Session) (event : Event) : Option (Source × List UInt8) :=
  match event with
  | .read source outcome =>
      if session.stage = .live then (session.chunk? source outcome).map (source, ·) else none
  | _ => none

def fromSource? (source : Source) (gain : Source × List UInt8) : Option (List UInt8) :=
  if gain.1 = source then some gain.2 else none

def gains : Session → List Event → List (Source × List UInt8)
  | _, [] => []
  | session, event :: rest => (session.gain? event).toList ++ (session.step event).gains rest

/-- Two sessions in which the same has been read and shown. -/
structure Quiet (session next : Session) : Prop where
  window : next.window = session.window
  outputs : next.lines.filterMap Progress.Line.output? = session.lines.filterMap Progress.Line.output?
  sinks : next.sinks = session.sinks
  stdout : next.stdout = session.stdout
  stderr : next.stderr = session.stderr

/-- A session goes on to another by showing chunks to everyone. -/
structure Shows (session : Session) (chunks : List (List UInt8)) (next : Session) : Prop where
  window : next.window = chunks.foldl Window.append session.window
  outputs : next.lines.filterMap Progress.Line.output? =
    session.lines.filterMap Progress.Line.output? ++ chunks
  sinks : next.sinks = session.sinks.map fun sink =>
    { chunks := sink.chunks ++ chunks.map (session.id, ·) }

variable {session next : Session} {event : Event} {source : Source}

section Quiet

theorem quiet_refl : Quiet session session := ⟨rfl, rfl, rfl, rfl, rfl⟩

theorem Quiet.shows (quiet : Quiet session next) : Shows session [] next where
  window := quiet.window
  outputs := by rw [quiet.outputs, List.append_nil]
  sinks := by simp [quiet.sinks]

theorem settled_quiet (quiet : Quiet session next) : Quiet session next.settled := by
  unfold settled
  cases next.result? with
  | none => exact quiet
  | some result => exact ⟨quiet.window, quiet.outputs, quiet.sinks, quiet.stdout, quiet.stderr⟩

theorem exited_quiet {outcome : Except Remote.Error (Option Int)} :
    Quiet session (session.exited outcome) := by
  unfold exited
  split
  · exact quiet_refl
  · exact settled_quiet ⟨rfl, rfl, rfl, rfl, rfl⟩

theorem TypesOnly.quiet (types : TypesOnly session next) : Quiet session next := by
  obtain ⟨handles, automation, rfl⟩ := types
  exact ⟨rfl, rfl, rfl, rfl, rfl⟩

theorem announce_quiet : Quiet session session.announce :=
  ⟨rfl, by simp [announce, Progress.Line.output?], rfl, rfl, rfl⟩

theorem announceEnd_quiet : Quiet session session.announceEnd :=
  ⟨rfl, by simp [announceEnd, Progress.Line.output?], rfl, rfl, rfl⟩

theorem shutDown_quiet {handle : Option Nat} : Quiet session (session.shutDown handle).leave := by
  cases handle <;> exact ⟨rfl, rfl, rfl, rfl, rfl⟩

/-- Only the reads of a live session get anything. -/
theorem Stepped.quiet (stepped : Stepped session event next)
    (unread : ∀ source outcome, event = .read source outcome → session.stage ≠ .live) :
    Quiet session next := by
  cases stepped with
  | announced before => exact announce_quiet
  | pumped source outcome live => exact absurd live (unread source outcome rfl)
  | exited outcome live => exact exited_quiet
  | shut handle before free => exact shutDown_quiet
  | ended before => exact announceEnd_quiet
  | automated => exact (automate_typesOnly session event).quiet
  | _ => exact ⟨rfl, rfl, rfl, rfl, rfl⟩

theorem step_quiet
    (unread : ∀ source outcome, event = .read source outcome → session.stage ≠ .live) :
    Quiet session (session.step event) :=
  (step_stepped session event).quiet unread

theorem step_of_live {outcome : Except String (List UInt8)} (live : session.stage = .live) :
    session.step (.read source outcome) = session.pump source outcome := by
  simp only [step, live]

end Quiet

section Pumps

variable {outcome : Except String (List UInt8)}

theorem Quiet.ending (quiet : Quiet session next) (source : Source) :
    next.ending? source = session.ending? source := by
  cases source with
  | stdout => exact quiet.stdout
  | stderr => exact quiet.stderr

theorem settled_ending (session : Session) (source : Source) :
    session.settled.ending? source = session.ending? source :=
  (settled_quiet quiet_refl).ending source

theorem endStream_shows {ending : Except Error Unit} :
    Shows session [] (session.endStream source ending) := by
  have shows (next : Session) (same : Shows session [] next) : Shows session [] next.settled := by
    have quiet : Quiet next next.settled := settled_quiet quiet_refl
    exact ⟨quiet.window.trans same.window, quiet.outputs.trans same.outputs, quiet.sinks.trans same.sinks⟩
  have unchanged : Shows session [] session := quiet_refl.shows
  cases source with
  | stdout => exact shows _ ⟨unchanged.window, unchanged.outputs, unchanged.sinks⟩
  | stderr => exact shows _ ⟨unchanged.window, unchanged.outputs, unchanged.sinks⟩

theorem endStream_ending (ending : Except Error Unit) (other : Source) :
    (session.endStream source ending).ending? other =
      if source = other then some ending else session.ending? other := by
  cases source with
  | stdout => cases other <;> exact settled_ending _ _
  | stderr => cases other <;> exact settled_ending _ _

-- In the proofs about reading the session is taken apart, so that no window has to be compared
-- with the one before.
theorem read_shows {bytes : List UInt8} : Shows session [bytes] (session.read bytes) := by
  cases session
  exact ⟨rfl, List.filterMap_append, rfl⟩

theorem read_stage (bytes : List UInt8) : (session.read bytes).stage = session.stage := by
  cases session
  rfl

theorem read_ending (bytes : List UInt8) (other : Source) :
    (session.read bytes).ending? other = session.ending? other := by
  have stdout : (session.read bytes).stdout = session.stdout := by
    cases session
    rfl
  have stderr : (session.read bytes).stderr = session.stderr := by
    cases session
    rfl
  cases other with
  | stdout => exact stdout
  | stderr => exact stderr

theorem pump_shows :
    Shows session (session.chunk? source outcome).toList (session.pump source outcome) := by
  unfold chunk? pump
  cases session.ending? source with
  | some ending => exact quiet_refl.shows
  | none =>
      cases outcome with
      | error reason => exact endStream_shows
      | ok bytes =>
          cases bytes with
          | nil => exact endStream_shows
          | cons byte bytes => exact read_shows

/-- A stream ends with the first read that ends it. -/
theorem pump_ending (other : Source) :
    (session.pump source outcome).ending? other =
      (session.ending? other).or (if source = other then endOf? [outcome] else none) := by
  unfold pump
  cases ended : session.ending? source with
  | some ending =>
      by_cases same : source = other
      · rw [← same, ended, Option.some_or]
      · rw [if_neg same, Option.or_none]
  | none =>
      by_cases same : source = other
      · rw [if_pos same, ← same, ended, Option.none_or]
        cases outcome with
        | error reason => exact (endStream_ending _ _).trans (if_pos rfl)
        | ok bytes =>
            cases bytes with
            | nil => exact (endStream_ending _ _).trans (if_pos rfl)
            | cons byte bytes => exact (read_ending _ _).trans ended
      · rw [if_neg same, Option.or_none]
        cases outcome with
        | error reason => exact (endStream_ending _ _).trans (if_neg same)
        | ok bytes =>
            cases bytes with
            | nil => exact (endStream_ending _ _).trans (if_neg same)
            | cons byte bytes => exact read_ending _ _

end Pumps

section Steps

/-- An event is a read of a live session, or nothing is read. -/
theorem read_cases (session : Session) (event : Event) :
    (session.stage = .live ∧ ∃ source outcome, event = .read source outcome) ∨
      ∀ source outcome, event = .read source outcome → session.stage ≠ .live := by
  by_cases live : session.stage = .live
  · cases event with
    | read source outcome => exact .inl ⟨live, source, outcome, rfl⟩
    | _ => exact .inr nofun
  · exact .inr fun _ _ _ => live

theorem gain?_of_live {outcome : Except String (List UInt8)} (live : session.stage = .live) :
    session.gain? (.read source outcome) = (session.chunk? source outcome).map (source, ·) :=
  if_pos live

theorem gain?_of_unread
    (unread : ∀ source outcome, event = .read source outcome → session.stage ≠ .live) :
    session.gain? event = none := by
  cases event with
  | read source outcome => exact if_neg (unread source outcome rfl)
  | _ => rfl

theorem heard?_of_live {other : Source} {outcome : Except String (List UInt8)}
    (live : session.stage = .live) :
    session.heard? (Event.readOf? other) (.read source outcome) =
      if source = other then some outcome else none :=
  if_pos live

theorem heard?_of_unread
    (unread : ∀ source outcome, event = .read source outcome → session.stage ≠ .live) :
    session.heard? (Event.readOf? source) event = none := by
  unfold heard?
  split
  · rename_i live
    cases event with
    | read other outcome => exact absurd live (unread other outcome rfl)
    | _ => rfl
  · rfl

theorem step_shows (session : Session) (event : Event) :
    Shows session ((session.gain? event).toList.map Prod.snd) (session.step event) := by
  rcases read_cases session event with ⟨live, source, outcome, rfl⟩ | unread
  · have chunk : ((session.chunk? source outcome).map (source, ·)).toList.map Prod.snd =
        (session.chunk? source outcome).toList := by
      cases session.chunk? source outcome <;> rfl
    rw [gain?_of_live live, chunk, step_of_live live]
    exact pump_shows
  · rw [gain?_of_unread unread]
    exact (step_quiet unread).shows

theorem step_ending (session : Session) (event : Event) (other : Source) :
    (session.step event).ending? other =
      (session.ending? other).or (endOf? (session.heard? (Event.readOf? other) event).toList) := by
  rcases read_cases session event with ⟨live, source, outcome, rfl⟩ | unread
  · rw [step_of_live live, pump_ending, heard?_of_live live]
    by_cases same : source = other
    · rw [if_pos same, if_pos same]
      rfl
    · rw [if_neg same, if_neg same]
      rfl
  · rw [heard?_of_unread unread, (step_quiet unread).ending other]
    exact (Option.or_none).symm

end Steps

section Runs

theorem Shows.trans {front back : List (List UInt8)} {last : Session} (id : next.id = session.id)
    (first : Shows session front next) (second : Shows next back last) :
    Shows session (front ++ back) last where
  window := by rw [second.window, first.window, List.foldl_append]
  outputs := by rw [second.outputs, first.outputs, List.append_assoc]
  sinks := by
    rw [second.sinks, first.sinks, List.map_map]
    simp [Function.comp_def, id]

/-- Everyone is shown the chunks that a run gets. -/
theorem run_shows (session : Session) (events : List Event) :
    Shows session ((session.gains events).map Prod.snd) (session.run events) := by
  induction events generalizing session with
  | nil => exact quiet_refl.shows
  | cons event rest ih =>
      rw [gains, List.map_append]
      exact (step_shows session event).trans (step_id session event) (ih (session.step event))

theorem endOf?_append (front back : List (Except String (List UInt8))) :
    endOf? (front ++ back) = (endOf? front).or (endOf? back) := by
  fun_induction endOf? front with
  | case1 => rfl
  | case2 reason later => rfl
  | case3 later => rfl
  | case4 byte bytes later ih => exact ih

theorem reads_cons (session : Session) (event : Event) (rest : List Event) (source : Source) :
    session.reads source (event :: rest) =
      (session.heard? (Event.readOf? source) event).toList ++ (session.step event).reads source rest :=
  rfl

theorem run_ending (session : Session) (events : List Event) (source : Source) :
    (session.run events).ending? source =
      (session.ending? source).or (endOf? (session.reads source events)) := by
  induction events generalizing session with
  | nil => simp [run, reads, heard, endOf?]
  | cons event rest ih =>
      rw [reads_cons, endOf?_append, ← Option.or_assoc, ← step_ending]
      exact ih (session.step event)

theorem chunksOf_append (front back : List (Except String (List UInt8))) :
    chunksOf (front ++ back) =
      chunksOf front ++ if (endOf? front).isSome then [] else chunksOf back := by
  fun_induction endOf? front with
  | case1 => rfl
  | case2 reason later => rfl
  | case3 later => rfl
  | case4 byte bytes later ih => exact congrArg ((byte :: bytes) :: ·) ih

theorem gain?_of_source (session : Session) (event : Event) (source : Source) :
    (session.gain? event).toList.filterMap (fromSource? source) =
      if (session.ending? source).isSome then []
      else chunksOf (session.heard? (Event.readOf? source) event).toList := by
  rcases read_cases session event with ⟨live, other, outcome, rfl⟩ | unread
  · rw [gain?_of_live live, heard?_of_live live]
    by_cases same : other = source
    · subst same
      unfold chunk?
      cases session.ending? other with
      | some ending => rfl
      | none =>
          rw [if_pos rfl]
          cases outcome with
          | error reason => rfl
          | ok bytes =>
              cases bytes with
              | nil => rfl
              | cons byte bytes => simp [chunksOf, fromSource?]
    · rw [if_neg same]
      cases session.chunk? other outcome with
      | none => simp [chunksOf]
      | some bytes => simp [chunksOf, fromSource?, same]
  · rw [gain?_of_unread unread, heard?_of_unread unread]
    simp [chunksOf]

/-- From each stream a run gets the chunks that its reads give, up to its end. -/
theorem gains_of_source (session : Session) (events : List Event) (source : Source) :
    (session.gains events).filterMap (fromSource? source) =
      if (session.ending? source).isSome then [] else chunksOf (session.reads source events) := by
  induction events generalizing session with
  | nil => simp [gains, reads, heard, chunksOf]
  | cons event rest ih =>
      rw [gains, List.filterMap_append, gain?_of_source, ih, step_ending, reads_cons,
        chunksOf_append]
      cases session.ending? source with
      | some ending => rfl
      | none => rfl

theorem interleaves_gains (gains : List (Source × List UInt8)) :
    Interleaves (gains.filterMap (fromSource? .stdout)) (gains.filterMap (fromSource? .stderr))
      (gains.map Prod.snd) := by
  induction gains with
  | nil => exact .nil
  | cons gain gains ih =>
      obtain ⟨source, bytes⟩ := gain
      cases source with
      | stdout => exact .left ih
      | stderr => exact .right ih

end Runs

theorem foldl_withSink (session : Session) (sinks : List Sink) :
    sinks.foldl withSink session = { session with sinks := session.sinks ++ sinks } := by
  induction sinks generalizing session with
  | nil => simp
  | cons sink sinks ih => simp [ih, withSink]

end Session

end Rollout.Terminal
