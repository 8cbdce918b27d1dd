import Rollout.Proofs.Deployment.Stages
import Rollout.Proofs.Procedure.Upholds

namespace Rollout.Deployment

open Procedure

/-! How often and how long a new server is tried for SSH.

The attempts of a wait are counted by the time that each takes and the pause behind it.
They end with one that succeeds, or with one behind which a pause would not end before the
deadline.  Where the clock cannot show the deadline, or when a pause would end, the wait
breaks off instead.
-/

variable {Backend : Type}

/-- An attempt to connect within the limit that it was given. -/
structure Dial where
  limit : Nat
  tried : Attempt limit

namespace Dial

def event (host : Address) (port : UInt16) (dial : Dial) : Event Backend :=
  ⟨.dial host port dial.limit, dial.tried⟩

/-- The time that attempts take with the pauses behind them. -/
def spent (retry : Nat) : List Dial → Nat
  | [] => 0
  | dial :: later => dial.tried.time + retry + spent retry later

/-- Attempts and the pauses behind them. -/
def failures (host : Address) (port : UInt16) (retry : Nat) (dials : List Dial) : Story Backend :=
  dials.flatMap fun dial => [dial.event host port, ⟨.pause retry, ()⟩]

theorem spent_snoc (retry : Nat) (dials : List Dial) (last : Dial) :
    spent retry (dials ++ [last]) = spent retry dials + last.tried.time + retry := by
  induction dials with
  | nil => simp [spent]
  | cons dial dials ih =>
      simp only [List.cons_append, spent, ih]
      omega

theorem pauses_le (retry : Nat) (dials : List Dial) : dials.length * retry ≤ spent retry dials := by
  induction dials with
  | nil => simp
  | cons dial dials ih =>
      simp only [List.length_cons, spent, Nat.succ_mul]
      omega

end Dial

/-- Attempts of a wait that all failed, each with a pause that ended before the deadline. -/
structure Failures (retry time : Nat) (dials : List Dial) : Prop where
  failed : ∀ dial ∈ dials, dial.tried.isConnected = false
  limits : ∀ front dial back, dials = front ++ dial :: back →
    dial.limit = min (time - Dial.spent retry front) attemptLimit
  pauses : ∀ front dial back, dials = front ++ dial :: back →
    Dial.spent retry (front ++ [dial]) < time
  count : dials = [] ∨ dials.length * retry < time

/-- Attempts of a wait up to one that may be the last. -/
structure Knocks (retry time : Nat) (before : List Dial) (last : Dial) : Prop extends
    Failures retry time before where
  limit : last.limit = min (time - Dial.spent retry before) attemptLimit

section Attempts

variable {retry time : Nat} {dials before : List Dial} {last : Dial}

theorem Failures.none : Failures retry time [] where
  failed := nofun
  limits := by simp
  pauses := by simp
  count := .inl rfl

theorem Failures.spent_le (failures : Failures retry time dials) : Dial.spent retry dials ≤ time := by
  rcases List.eq_nil_or_concat dials with rfl | ⟨front, last, rfl⟩
  · exact Nat.zero_le _
  · rw [List.concat_eq_append] at failures ⊢
    exact Nat.le_of_lt (failures.pauses front last [] rfl)

/-- No attempt outlives the wait. -/
theorem Knocks.within (knocks : Knocks retry time before last) :
    Dial.spent retry before + last.tried.time ≤ time := by
  have early := knocks.spent_le
  have limit := knocks.limit
  have short := last.tried.time_le
  omega

/-- An attempt among several is the last, or one of those before it. -/
theorem snoc_parts {front back : List Dial} {dial : Dial}
    (parts : before ++ [last] = front ++ dial :: back) :
    (before = front ∧ last = dial) ∨ ∃ rest, before = front ++ dial :: rest := by
  rcases List.eq_nil_or_concat back with rfl | ⟨rest, other, rfl⟩
  · obtain ⟨same, ends⟩ := List.append_inj' parts rfl
    exact .inl ⟨same, List.singleton_inj.mp ends⟩
  · rw [List.concat_eq_append, ← List.cons_append, ← List.append_assoc] at parts
    exact .inr ⟨rest, (List.append_inj' parts rfl).1⟩

/-- One more attempt failed, and the pause behind it ends before the deadline. -/
theorem Knocks.fails (knocks : Knocks retry time before last)
    (failed : last.tried.isConnected = false)
    (early : Dial.spent retry before + last.tried.time + retry < time) :
    Failures retry time (before ++ [last]) where
  failed := by
    intro dial member
    rcases List.mem_append.mp member with among | same
    · exact knocks.failed dial among
    · rwa [List.mem_singleton.mp same]
  limits := by
    intro front dial back parts
    rcases snoc_parts parts with ⟨rfl, rfl⟩ | ⟨back, among⟩
    · exact knocks.limit
    · exact knocks.limits front dial back among
  pauses := by
    intro front dial back parts
    rcases snoc_parts parts with ⟨rfl, rfl⟩ | ⟨back, among⟩
    · rwa [Dial.spent_snoc]
    · exact knocks.pauses front dial back among
  count := by
    have pauses := Dial.pauses_le retry (before ++ [last])
    rw [Dial.spent_snoc] at pauses
    exact .inr (Nat.lt_of_le_of_lt pauses early)

end Attempts

/-- The announcement of a wait, the moment that it starts at, and attempts that failed. -/
def waited (host : Address) (port : UInt16) (retry start : Nat) (dials : List Dial) : Story Backend :=
  [⟨.emit (.plain s!"Waiting for SSH on {endpoint host port}"), ()⟩, ⟨.now, start⟩] ++
    Dial.failures host port retry dials

def Patience.settling (patience : Patience) : Story Backend :=
  if patience.settle = 0 then [] else [⟨.pause patience.settle, ()⟩]

/-- How a wait ends: a while after an attempt that succeeds, or right after one that fails when
there is no time for another. -/
inductive Ended (host : Address) (port : UInt16) (patience : Patience) (start : Nat)
    (before : List Dial) (last : Dial) : Story Backend → Except Unready Unit → Prop where
  | reached (connected : last.tried.isConnected = true) :
      Ended host port patience start before last
        (waited host port patience.retry start before ++ [last.event host port] ++
          patience.settling ++ [⟨.emit (.plain "SSH is ready"), ()⟩]) (.ok ())
  | givenUp (failed : last.tried.isConnected = false)
      (least : patience.timeout ≤
        Dial.spent patience.retry before + last.tried.time + patience.retry)
      (most : Dial.spent patience.retry before + last.tried.time ≤ patience.timeout) :
      Ended host port patience start before last
        (waited host port patience.retry start before ++ [last.event host port])
        (.error (.ssh (endpoint host port) (patience.timeout / 1000)))

/-- Where a wait breaks off: at a moment that the clock cannot show. -/
inductive BreaksOff (host : Address) (port : UInt16) (patience : Patience) :
    Story Backend → Prop where
  | deadline {start : Nat} (beyond : Clock.later? start patience.timeout = none) :
      BreaksOff host port patience (waited host port patience.retry start [])
  | retry {start : Nat} {before : List Dial} {last : Dial}
      (knocks : Knocks patience.retry patience.timeout before last)
      (failed : last.tried.isConnected = false)
      (beyond : Clock.later? (start + (Dial.spent patience.retry before + last.tried.time))
        patience.retry = none) :
      BreaksOff host port patience
        (waited host port patience.retry start before ++ [last.event host port])

section Waits

variable {host : Address} {port : UInt16} {patience : Patience} {story past : Story Backend}

/-- A wait halts only where it breaks off. -/
def HaltsAtEnd (host : Address) (port : UInt16) (patience : Patience) (past : Story Backend)
    (action : Action Backend) : Prop :=
  action = .halt → BreaksOff host port patience past

/-- What the attempts of a wait come to. -/
def Tried (host : Address) (port : UInt16) (patience : Patience) (start : Nat) (failure : Unready)
    (past : Story Backend) (outcome : Except Unready Unit) : Prop :=
  ∃ before last, Knocks patience.retry patience.timeout before last ∧
    past = waited host port patience.retry start before ++ [last.event host port] ∧
    ((last.tried.isConnected = true ∧ outcome = .ok ()) ∨
      (last.tried.isConnected = false ∧ outcome = .error failure ∧ patience.timeout ≤
        Dial.spent patience.retry before + last.tried.time + patience.retry))

theorem waited_snoc {retry start : Nat} {before : List Dial} {dial : Dial} :
    waited host port retry start before ++ [dial.event host port] ++ [⟨.pause retry, ()⟩] =
      (waited host port retry start (before ++ [dial]) : Story Backend) := by
  simp [waited, Dial.failures]

theorem laterOrHalt_upholds {moment time : Nat} {right : Story Backend → Except Unready Nat → Prop}
    (beyond : Clock.later? moment time = none → BreaksOff host port patience past)
    (isRight : right past (.ok (moment + time))) :
    (laterOrHalt moment time : Stage Backend Unready Nat).run.Upholds
      (HaltsAtEnd host port patience) right past := by
  unfold laterOrHalt
  cases later : Clock.later? moment time with
  | none =>
      apply upholds_run_bind
      exact upholds_run_lift (upholds_query _ (fun _ => beyond later) fun never => nomatch never)
  | some next =>
      obtain rfl := later?_eq_some later
      exact upholds_run_pure isRight

theorem ask_upholds (action : Action Backend)
    {right : Story Backend → Except Unready action.Result → Prop} (other : action ≠ .halt)
    (isRight : ∀ answer, right (past ++ [⟨action, answer⟩]) (.ok answer)) :
    (ask action : Stage Backend Unready _).run.Upholds (HaltsAtEnd host port patience) right past :=
  upholds_run_lift (upholds_query _ (fun halts => absurd halts other) isRight)

theorem say_upholds {text : String} {right : Story Backend → Except Unready Unit → Prop}
    (isRight : right (past ++ [⟨.emit (.plain text), ()⟩]) (.ok ())) :
    (say text : Stage Backend Unready Unit).run.Upholds (HaltsAtEnd host port patience) right past :=
  ask_upholds (.emit (.plain text)) nofun fun _ => isRight

/-- The induction is on the attempts that are left, of which there are enough for the time that
is left. -/
theorem attempt_upholds {start attempts : Nat} {before : List Dial} {failure : Unready}
    (failures : Failures patience.retry patience.timeout before)
    (enough : patience.timeout < Dial.spent patience.retry before + attempts * patience.retry) :
    (attempt host port patience (start + patience.timeout) failure attempts
        (start + Dial.spent patience.retry before) : Stage Backend Unready Unit).run.Upholds
      (HaltsAtEnd host port patience) (Tried host port patience start failure)
      (waited host port patience.retry start before) := by
  induction attempts generalizing before with
  | zero =>
      have within := failures.spent_le
      omega
  | succ attempts ih =>
      unfold attempt
      rw [Nat.add_sub_add_left]
      apply upholds_run_bind
      refine ask_upholds _ nofun fun tried => ?_
      let dial : Dial := { limit := min (patience.timeout - _) attemptLimit, tried }
      have knocks : Knocks patience.retry patience.timeout before dial := { failures with limit := rfl }
      cases connected : tried.isConnected with
      | true =>
          simp only [connected, if_true]
          exact upholds_run_pure ⟨before, dial, knocks, rfl, .inl ⟨connected, rfl⟩⟩
      | false =>
          simp only [connected, Bool.false_eq_true, if_false]
          apply upholds_run_bind
          apply laterOrHalt_upholds
          · intro beyond
            rw [Nat.add_assoc] at beyond
            exact .retry knocks connected beyond
          have next : start + Dial.spent patience.retry before + tried.time + patience.retry =
              start + Dial.spent patience.retry (before ++ [dial]) := by
            rw [Dial.spent_snoc, Nat.add_assoc, Nat.add_assoc, ← Nat.add_assoc (Dial.spent ..)]
          rw [next]
          dsimp only
          by_cases late : patience.timeout ≤ Dial.spent patience.retry (before ++ [dial])
          · rw [if_pos (Nat.add_le_add_left late start)]
            rw [Dial.spent_snoc] at late
            exact upholds_run_throw ⟨before, dial, knocks, rfl, .inr ⟨connected, rfl, late⟩⟩
          · rw [if_neg (by omega)]
            have fewer : patience.timeout <
                Dial.spent patience.retry (before ++ [dial]) + attempts * patience.retry := by
              rw [Dial.spent_snoc]
              rw [Nat.succ_mul] at enough
              omega
            rw [Dial.spent_snoc] at late
            have again := ih (knocks.fails connected (Nat.lt_of_not_le late)) fewer
            rw [← waited_snoc] at again
            apply upholds_run_bind
            exact ask_upholds (.pause patience.retry) nofun fun _ => again

theorem traces_rest {outcome : Except Unready Unit}
    (traced : Traces (patience.rest : Stage Backend Unready Unit).run story outcome) :
    story = patience.settling ∧ outcome = .ok () := by
  unfold Patience.rest at traced
  unfold Patience.settling
  by_cases none : patience.settle = 0
  · rw [if_pos none] at traced ⊢
    exact traces_run_pure_iff.mp traced
  · rw [if_neg none] at traced ⊢
    obtain ⟨⟨⟩, rfl, rfl⟩ := traces_run_ask_iff.mp traced
    exact ⟨rfl, rfl⟩

/-- There are enough attempts for all the time of a wait. -/
theorem Patience.attempts_enough (positive : 0 < patience.retry) :
    patience.timeout < patience.attempts * patience.retry := by
  rw [Patience.attempts, Nat.max_eq_left positive, ← Nat.div_lt_iff_lt_mul positive]
  exact Nat.lt_succ_self _

theorem reach_upholds (positive : 0 < patience.retry) :
    (reach host port patience : Stage Backend Unready Unit).run.Upholds (HaltsAtEnd host port patience)
      (fun past outcome => ∃ start before last,
        Knocks patience.retry patience.timeout before last ∧
          Ended host port patience start before last past outcome) [] := by
  apply upholds_run_bind
  apply say_upholds
  apply upholds_run_bind
  refine ask_upholds _ nofun fun start => ?_
  apply upholds_run_bind
  apply laterOrHalt_upholds .deadline
  apply upholds_run_bind
  have enough : patience.timeout < Dial.spent patience.retry [] + patience.attempts * patience.retry := by
    rw [Dial.spent, Nat.zero_add]
    exact Patience.attempts_enough positive
  apply (attempt_upholds .none enough).mono
  rintro past outcome ⟨before, last, knocks, rfl, ⟨connected, rfl⟩ | ⟨failed, rfl, late⟩⟩
  · have keeps : KeepsTo [.rest, .people]
        (patience.rest >>= fun _ => say "SSH is ready" : Stage Backend Unready Unit).run :=
      ((rest_keepsTo patience).mono (by simp)).then fun _ => keepsTo_say (by simp)
    apply keeps.asks.upholds
    · rintro later _ minds rfl
      simp [Action.concern] at minds
    · intro later outcome traced
      rcases traces_run_bind_iff.mp traced with ⟨error, -, stops⟩ | ⟨front, back, ⟨⟩, rfl, settles, tells⟩
      · cases (traces_rest stops).2
      obtain ⟨rfl, -⟩ := traces_rest settles
      obtain ⟨⟨⟩, rfl, rfl⟩ := traces_run_ask_iff.mp tells
      rw [← List.append_assoc]
      exact ⟨start, before, last, knocks, .reached connected⟩
  · exact ⟨start, before, last, knocks, .givenUp failed late knocks.within⟩

end Waits

/-- Surroundings that tell the start of a wait and how each of its attempts goes. -/
def answers (start : Nat) (knock : Nat → (limit : Nat) → Attempt limit) (count : Nat) :
    (action : Action Backend) → Option (action.Result × Nat)
  | .emit _ => some ((), count)
  | .now => some (start, count)
  | .pause _ => some ((), count)
  | .dial _ _ limit => some (knock count limit, count + 1)
  | _ => none

section Totality

variable {host : Address} {port : UInt16} {patience : Patience} {story : Story Backend}

theorem beyond_of_later? {moment time : Nat} (beyond : Clock.later? moment time = none) :
    Clock.limitSeconds ≤ (moment + time) / 1000 := by
  unfold Clock.later? at beyond
  split at beyond
  case isTrue shown => cases beyond
  case isFalse hidden => exact Nat.le_of_not_lt hidden

theorem start_of_met {start shown retry count final : Nat} {dials : List Dial}
    {knock : Nat → (limit : Nat) → Attempt limit}
    (met : Met (answers start knock) count (waited host port retry shown dials ++ story) final) :
    shown = start := by
  obtain _ | ⟨said, met⟩ := met
  obtain _ | ⟨told, -⟩ := met
  exact congrArg Prod.fst (Option.some.inj told).symm

theorem beyond_of_breaksOff {start count : Nat} {knock : Nat → (limit : Nat) → Attempt limit}
    (met : Met (answers start knock) 0 story count) (breaks : BreaksOff host port patience story) :
    Clock.limitSeconds ≤ (start + patience.timeout + patience.retry) / 1000 := by
  cases breaks with
  | deadline beyond =>
      rw [← List.append_nil (waited ..)] at met
      obtain rfl := start_of_met met
      have least := beyond_of_later? beyond
      omega
  | retry knocks failed beyond =>
      obtain rfl := start_of_met met
      have least := beyond_of_later? beyond
      have within := knocks.within
      omega

/-- However the attempts go, a wait has an outcome, unless it halts. -/
theorem reach_goesOn (host : Address) (port : UInt16) (patience : Patience) (start : Nat)
    (knock : Nat → (limit : Nat) → Attempt limit) :
    ∃ story count, Met (answers start knock) 0 story count ∧
      ((∃ outcome, Traces (reach host port patience : Stage Backend Unready Unit).run story outcome) ∨
        Raises (reach host port patience : Stage Backend Unready Unit).run story .halt) := by
  obtain ⟨story, count, met, ends | ⟨raised, raises, unanswered⟩⟩ :=
    exists_met (answers start knock) (reach host port patience : Stage Backend Unready Unit).run 0
  · exact ⟨story, count, met, .inl ends⟩
  · have minds := (reach_keepsTo host port patience).asks.of_raises raises
    -- All that a wait asks is answered, but for a halt.
    have halts : raised = .halt := by
      cases raised with
      | halt => rfl
      | provider backend call => cases call <;> simp [Action.concern] at minds
      | emit line => cases unanswered
      | now => cases unanswered
      | pause time => cases unanswered
      | dial host port limit => cases unanswered
      | _ => simp [Action.concern] at minds
    exact ⟨story, count, met, .inr (halts ▸ raises)⟩

end Totality

/-- Every wait that ends is bounded by its time and ends as its last attempt does.  However the
attempts go, there is such an end, but for a wait beyond what the clock can show. -/
theorem ssh_awaited (host : Address) (port : UInt16) (patience : Patience)
    (positive : 0 < patience.retry) :
    let wait : Course Backend (Except Unready Unit) := (reach host port patience).run
    (∀ story outcome, Traces wait story outcome →
      ∃ start before last, Knocks patience.retry patience.timeout before last ∧
        Ended host port patience start before last story outcome) ∧
    (∀ story, Raises wait story .halt → BreaksOff host port patience story) ∧
    ∀ start knock, ∃ story count, Met (answers start knock) 0 story count ∧
      ((∃ outcome, Traces wait story outcome) ∨
        Raises wait story .halt ∧
          Clock.limitSeconds ≤ (start + patience.timeout + patience.retry) / 1000) := by
  intro wait
  have upholds : wait.Upholds _ _ _ := reach_upholds positive
  have breaksOff : ∀ story, Raises wait story .halt → BreaksOff host port patience story :=
    fun _ raises => upholds.of_raises raises rfl
  refine ⟨fun _ _ => upholds.of_traces, breaksOff, ?_⟩
  intro start knock
  obtain ⟨story, count, met, ends | raises⟩ := reach_goesOn host port patience start knock
  · exact ⟨story, count, met, .inl ends⟩
  · have beyond := beyond_of_breaksOff met (breaksOff story raises)
    exact ⟨story, count, met, .inr ⟨raises, beyond⟩⟩

/-- A wait whose first attempt is refused and whose second is taken. -/
theorem ssh_awaited_after_refusal :
    let host := Address.localhost
    let patience : Patience := { timeout := 5000, retry := 1000, settle := 500 }
    let wait : Course Unit (Except Unready Unit) := (reach host 22 patience).run
    let refused : Dial := ⟨5000, { isConnected := false, time := 20, time_le := by decide }⟩
    let taken : Dial := ⟨3980, { isConnected := true, time := 3, time_le := by decide }⟩
    let story := waited host 22 1000 5 [refused] ++ [taken.event host 22] ++
      patience.settling ++ [⟨.emit (.plain "SSH is ready"), ()⟩]
    0 < patience.retry ∧ Traces wait story (.ok ()) ∧ ∃ start before last,
      Knocks patience.retry patience.timeout before last ∧
        Ended host 22 patience start before last story (.ok ()) := by
  intro host patience wait refused taken story
  have positive : 0 < patience.retry := by decide
  have deadline : (laterOrHalt 5 5000 : Stage Unit Unready Nat) = pure 5005 := rfl
  have next : (laterOrHalt (5 + 20) 1000 : Stage Unit Unready Nat) = pure 1025 := rfl
  let knocks : Story Unit := Dial.failures host 22 1000 [refused] ++ [taken.event host 22]
  have second (failure : Unready) : Traces
      (attempt host 22 patience 5005 failure 5 1025 : Stage Unit Unready Unit).run
      [taken.event host 22] (.ok ()) :=
    traces_run_ask_bind_iff.mpr ⟨taken.tried, [], rfl, traces_run_pure_iff.mpr ⟨rfl, rfl⟩⟩
  have first (failure : Unready) : Traces
      (attempt host 22 patience 5005 failure patience.attempts 5 : Stage Unit Unready Unit).run
      knocks (.ok ()) := by
    refine traces_run_ask_bind_iff.mpr ⟨refused.tried, _, rfl, ?_⟩
    rw [if_neg (by decide), next, pure_bind, if_neg (by decide)]
    refine traces_run_ask_bind_iff.mpr ⟨(), _, rfl, ?_⟩
    have remaining : patience.timeout / max patience.retry 1 = 5 := by decide
    rw [remaining]
    exact second failure
  have traced : Traces wait story (.ok ()) := by
    refine traces_run_ask_bind_iff.mpr ⟨(), _, rfl, traces_run_ask_bind_iff.mpr ⟨5, _, rfl, ?_⟩⟩
    rw [deadline, pure_bind]
    refine traces_run_bind_iff.mpr (.inr ⟨knocks, _, (), rfl, first _, ?_⟩)
    refine traces_run_ask_bind_iff.mpr ⟨(), _, rfl, ?_⟩
    exact traces_run_ask_iff.mpr ⟨(), rfl, rfl⟩
  exact ⟨positive, traced, (ssh_awaited host 22 patience positive).1 story _ traced⟩

end Rollout.Deployment
