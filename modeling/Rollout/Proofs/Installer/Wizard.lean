import Rollout.Installer.Document
import Rollout.Installer.Wizard

namespace Rollout.Installer

/-! What the defaults of a document make of the answers.

An answer depends on the defaults of the questions with its id alone: the first default
that is not blank is taken, and the last one if all of them are blank.  An answer that is not
blank stays.  The questions are gone through up to a required one that has no default and no
answer yet.
-/

section Entries

variable {given : Option String} {defaults front back : List String} {value : String}

/-- There is an answer, and it is not blank. -/
def isGiven (given : Option String) : Bool := given.any (!Text.isBlankText ·)

/-- What defaults make of an answer. -/
def settled (given : Option String) (defaults : List String) : Option String :=
  if isGiven given then given
  else ((defaults.find? (!Text.isBlankText ·)).or defaults.getLast?).or given

theorem isGiven_some : isGiven (some value) = !Text.isBlankText value := rfl

theorem settled_of_isGiven (answered : isGiven given = true) : settled given defaults = given :=
  if_pos answered

theorem settled_of_not_isGiven (open_ : isGiven given = false) :
    settled given defaults =
      ((defaults.find? (!Text.isBlankText ·)).or defaults.getLast?).or given :=
  if_neg (by simp [open_])

theorem settled_nil : settled given [] = given := by
  unfold settled
  split <;> rfl

theorem settled_cons_of_not_isGiven (open_ : isGiven given = false) :
    settled given (value :: defaults) = settled (some value) defaults := by
  rw [settled_of_not_isGiven open_]
  cases blank : Text.isBlankText value with
  | false =>
      rw [settled_of_isGiven (by rw [isGiven_some, blank]; rfl)]
      simp [blank]
  | true =>
      rw [settled_of_not_isGiven (by rw [isGiven_some, blank]; rfl), List.getLast?_cons]
      cases last : defaults.getLast? <;> simp [blank]

theorem settled_append : settled given (front ++ back) = settled (settled given front) back := by
  induction front generalizing given with
  | nil => rw [settled_nil, List.nil_append]
  | cons value front ih =>
      cases answered : isGiven given with
      | true => simp only [settled_of_isGiven answered]
      | false =>
          rw [settled_cons_of_not_isGiven answered, List.cons_append,
            settled_cons_of_not_isGiven answered, ih]

theorem isGiven_settled_iff :
    isGiven (settled given defaults) = true ↔
      isGiven given = true ∨ ∃ value ∈ defaults, Text.isBlankText value = false := by
  induction defaults generalizing given with
  | nil => simp [settled_nil]
  | cons value defaults ih =>
      cases answered : isGiven given with
      | true => simp [settled_of_isGiven answered, answered]
      | false =>
          rw [settled_cons_of_not_isGiven answered, ih, isGiven_some]
          simp

theorem settled_cases :
    settled given defaults = given ∨
      isGiven given = false ∧ ∃ value ∈ defaults, settled given defaults = some value := by
  cases answered : isGiven given with
  | true => exact .inl (settled_of_isGiven answered)
  | false =>
      rw [settled_of_not_isGiven answered]
      cases found : defaults.find? (!Text.isBlankText ·) with
      | some value => exact .inr ⟨rfl, value, List.mem_of_find?_eq_some found, rfl⟩
      | none =>
          cases last : defaults.getLast? with
          | some value => exact .inr ⟨rfl, value, List.mem_of_getLast? last, rfl⟩
          | none => exact .inl rfl

theorem not_isGiven_of_settled (unanswered : isGiven (settled given defaults) = false) :
    isGiven given = false := by
  rw [Bool.eq_false_iff] at unanswered ⊢
  exact fun answered => unanswered (isGiven_settled_iff.mpr (.inl answered))

/-- Where nothing was given, some default is taken. -/
theorem settled_mem (unanswered : isGiven given = false) (nonempty : defaults ≠ []) :
    ∃ value ∈ defaults, settled given defaults = some value := by
  cases defaults with
  | nil => exact absurd rfl nonempty
  | cons value defaults =>
      rw [settled_cons_of_not_isGiven unanswered]
      rcases settled_cases with same | ⟨-, later, member, taken⟩
      · exact ⟨value, List.mem_cons_self, same⟩
      · exact ⟨later, List.mem_cons_of_mem value member, taken⟩

theorem settled_settled : settled (settled given defaults) defaults = settled given defaults := by
  cases before : isGiven given with
  | true => simp only [settled_of_isGiven before]
  | false =>
      cases behind : isGiven (settled given defaults) with
      | true => exact settled_of_isGiven behind
      | false =>
          rw [settled_of_not_isGiven behind, settled_of_not_isGiven before]
          cases (defaults.find? (!Text.isBlankText ·)).or defaults.getLast? <;> rfl

end Entries

variable {questions front back : List Question} {question : Question} {answers after : Answers}
  {missing : MissingAnswer} {key : String}

/-- The defaults of the questions with an id, in order. -/
def defaultsOf (questions : List Question) (key : String) : List String :=
  (questions.filter (·.id = key)).filterMap (·.defaultAnswer)

theorem defaultsOf_append :
    defaultsOf (front ++ back) key = defaultsOf front key ++ defaultsOf back key := by
  simp [defaultsOf]

theorem mem_defaultsOf_iff {value : String} :
    value ∈ defaultsOf questions key ↔
      ∃ question ∈ questions, question.id = key ∧ question.defaultAnswer = some value := by
  simp [defaultsOf, and_assoc]

theorem defaultsOf_own (question : Question) :
    defaultsOf [question] question.id = question.defaultAnswer.toList := by
  cases given : question.defaultAnswer <;> simp [defaultsOf, given]

theorem defaultsOf_other (apart : question.id ≠ key) : defaultsOf [question] key = [] := by
  simp [defaultsOf, apart]

def MissingAnswer.ofQuestion (question : Question) : MissingAnswer where
  id := question.id
  name := question.name

namespace Question

/-- The question is required, and neither an answer nor a default answers it. -/
def Lacks (question : Question) (given : Option String) : Prop :=
  question.required = true ∧ question.defaultAnswer = none ∧ isGiven given = false

/-- The answers behind a question that does not end the matter. -/
def fill (question : Question) (answers : Answers) : Answers :=
  match question.defaultAnswer with
  | some value => if isAnswered answers question.id then answers else answers.insert question.id value
  | none => answers

theorem fill_own (question : Question) (answers : Answers) :
    (question.fill answers)[question.id]? =
      settled answers[question.id]? question.defaultAnswer.toList := by
  unfold fill
  cases question.defaultAnswer with
  | none => exact settled_nil.symm
  | some value =>
      cases answered : isGiven answers[question.id]? with
      | true =>
          have given : isAnswered answers question.id = true := answered
          simp [given, settled_of_isGiven answered]
      | false =>
          have asked : isAnswered answers question.id = false := answered
          simp [asked, settled_cons_of_not_isGiven answered, settled_nil]

theorem fill_other (apart : question.id ≠ key) : (question.fill answers)[key]? = answers[key]? := by
  unfold fill
  split
  · split
    · rfl
    · simp [Std.ExtTreeMap.getElem?_insert, apart]
  · rfl

theorem fill_getElem? :
    (question.fill answers)[key]? = settled answers[key]? (defaultsOf [question] key) := by
  by_cases same : question.id = key
  · subst same
    rw [fill_own, defaultsOf_own]
  · rw [fill_other same, defaultsOf_other same, settled_nil]

end Question

section Turns

theorem fillDefaults_of_lacks (lacks : question.Lacks answers[question.id]?) :
    fillDefaults (question :: back) answers = (answers, some (.ofQuestion question)) := by
  obtain ⟨required, bare, unanswered⟩ := lacks
  have asked : isAnswered answers question.id = false := unanswered
  simp [fillDefaults, asked, bare, required, MissingAnswer.ofQuestion]

theorem fillDefaults_of_not_lacks (settles : ¬ question.Lacks answers[question.id]?) :
    fillDefaults (question :: back) answers = fillDefaults back (question.fill answers) := by
  cases answered : isAnswered answers question.id with
  | true =>
      have stays : question.fill answers = answers := by
        unfold Question.fill
        split <;> simp [answered]
      simp [fillDefaults, answered, stays]
  | false =>
      cases given : question.defaultAnswer with
      | some value => simp [fillDefaults, Question.fill, answered, given]
      | none =>
          have free : question.required = false :=
            Bool.eq_false_iff.mpr fun required => settles ⟨required, given, answered⟩
          simp [fillDefaults, Question.fill, answered, given, free]

/-- Behind the questions before it, a question lacks an answer. -/
def LeftOpen (answers : Answers) (before : List Question) (question : Question) : Prop :=
  question.Lacks (settled answers[question.id]? (defaultsOf before question.id))

/-- None of the questions lacks an answer at its turn. -/
def GoesThrough (answers : Answers) (questions : List Question) : Prop :=
  ∀ front question back, questions = front ++ question :: back → ¬ LeftOpen answers front question

theorem leftOpen_nil : LeftOpen answers [] question ↔ question.Lacks answers[question.id]? := by
  unfold LeftOpen
  rw [defaultsOf, List.filter_nil, List.filterMap_nil, settled_nil]

theorem leftOpen_cons {first : Question} :
    LeftOpen answers (first :: front) question ↔ LeftOpen (first.fill answers) front question := by
  unfold LeftOpen
  rw [Question.fill_getElem?, ← settled_append, ← defaultsOf_append, List.singleton_append]

theorem goesThrough_nil : GoesThrough answers [] := by
  intro front question back split
  simp at split

theorem goesThrough_cons :
    GoesThrough answers (question :: questions) ↔
      ¬ question.Lacks answers[question.id]? ∧ GoesThrough (question.fill answers) questions := by
  constructor
  · intro through
    refine ⟨fun lacks => through [] question questions rfl (leftOpen_nil.mpr lacks), ?_⟩
    intro front other back split leftOpen
    exact through (question :: front) other back (by rw [split]; rfl) (leftOpen_cons.mpr leftOpen)
  · rintro ⟨settles, through⟩ front other back split leftOpen
    cases front with
    | nil =>
        obtain ⟨rfl, -⟩ := List.cons.inj split
        exact settles (leftOpen_nil.mp leftOpen)
    | cons first front =>
        obtain ⟨rfl, rest⟩ := List.cons.inj split
        exact through front other back rest (leftOpen_cons.mp leftOpen)

/-- Questions that are gone through leave their defaults. -/
theorem fillDefaults_of_goesThrough (through : GoesThrough answers questions) :
    ∃ after, fillDefaults questions answers = (after, none) ∧
      ∀ key, after[key]? = settled answers[key]? (defaultsOf questions key) := by
  induction questions generalizing answers with
  | nil => exact ⟨answers, rfl, fun key => settled_nil.symm⟩
  | cons question questions ih =>
      obtain ⟨settles, through⟩ := goesThrough_cons.mp through
      obtain ⟨after, filled, entries⟩ := ih through
      refine ⟨after, by rw [fillDefaults_of_not_lacks settles, filled], fun key => ?_⟩
      rw [entries, Question.fill_getElem?, ← settled_append, ← defaultsOf_append,
        List.singleton_append]

theorem fillDefaults_append (through : GoesThrough answers front)
    (filled : fillDefaults front answers = (after, none)) :
    fillDefaults (front ++ back) answers = fillDefaults back after := by
  induction front generalizing answers with
  | nil =>
      cases filled
      rfl
  | cons question front ih =>
      obtain ⟨settles, through⟩ := goesThrough_cons.mp through
      rw [fillDefaults_of_not_lacks settles] at filled
      rw [List.cons_append, fillDefaults_of_not_lacks settles]
      exact ih through filled

/-- The first question that is left open ends the matter. -/
theorem fillDefaults_of_leftOpen (back : List Question) (through : GoesThrough answers front)
    (leftOpen : LeftOpen answers front question) :
    ∃ after, fillDefaults (front ++ question :: back) answers = (after, some (.ofQuestion question)) ∧
      ∀ key, after[key]? = settled answers[key]? (defaultsOf front key) := by
  obtain ⟨after, filled, entries⟩ := fillDefaults_of_goesThrough through
  refine ⟨after, ?_, entries⟩
  rw [fillDefaults_append through filled, fillDefaults_of_lacks]
  rw [entries]
  exact leftOpen

/-- Questions are gone through, or a first one is left open. -/
theorem goesThrough_or (answers : Answers) (questions : List Question) :
    GoesThrough answers questions ∨ ∃ front question back, questions = front ++ question :: back ∧
      GoesThrough answers front ∧ LeftOpen answers front question := by
  induction questions generalizing answers with
  | nil => exact .inl goesThrough_nil
  | cons question questions ih =>
      by_cases lacks : question.Lacks answers[question.id]?
      · exact .inr ⟨[], question, questions, rfl, goesThrough_nil, leftOpen_nil.mpr lacks⟩
      · rcases ih (question.fill answers) with through | ⟨front, other, back, rfl, through, leftOpen⟩
        · exact .inl (goesThrough_cons.mpr ⟨lacks, through⟩)
        · exact .inr ⟨question :: front, other, back, rfl, goesThrough_cons.mpr ⟨lacks, through⟩,
            leftOpen_cons.mpr leftOpen⟩

theorem fillDefaults_eq_none_iff :
    (fillDefaults questions answers).2 = none ↔ GoesThrough answers questions := by
  constructor
  · intro succeeds
    rcases goesThrough_or answers questions with through | ⟨front, question, back, rfl, through, leftOpen⟩
    · exact through
    · obtain ⟨after, filled, -⟩ := fillDefaults_of_leftOpen back through leftOpen
      rw [filled] at succeeds
      cases succeeds
  · intro through
    obtain ⟨after, filled, -⟩ := fillDefaults_of_goesThrough through
    rw [filled]

theorem fillDefaults_eq_some_iff :
    (fillDefaults questions answers).2 = some missing ↔
      ∃ front question back, questions = front ++ question :: back ∧ missing = .ofQuestion question ∧
        GoesThrough answers front ∧ LeftOpen answers front question ∧
        ∀ key, (fillDefaults questions answers).1[key]? =
          settled answers[key]? (defaultsOf front key) := by
  constructor
  · intro fails
    rcases goesThrough_or answers questions with through | ⟨front, question, back, rfl, through, leftOpen⟩
    · rw [fillDefaults_eq_none_iff.mpr through] at fails
      cases fails
    · obtain ⟨after, filled, entries⟩ := fillDefaults_of_leftOpen back through leftOpen
      rw [filled] at fails ⊢
      exact ⟨front, question, back, rfl, (Option.some.inj fails).symm, through, leftOpen, entries⟩
  · rintro ⟨front, question, back, rfl, rfl, through, leftOpen, -⟩
    obtain ⟨after, filled, -⟩ := fillDefaults_of_leftOpen back through leftOpen
    rw [filled]

theorem entries_of_none (succeeds : (fillDefaults questions answers).2 = none) (key : String) :
    (fillDefaults questions answers).1[key]? = settled answers[key]? (defaultsOf questions key) := by
  obtain ⟨after, filled, entries⟩ :=
    fillDefaults_of_goesThrough (fillDefaults_eq_none_iff.mp succeeds)
  rw [filled]
  exact entries key

/-- In any case the defaults of the first questions were taken. -/
theorem exists_entries (answers : Answers) (questions : List Question) :
    ∃ front back, questions = front ++ back ∧ ∀ key,
      (fillDefaults questions answers).1[key]? = settled answers[key]? (defaultsOf front key) := by
  cases ended : (fillDefaults questions answers).2 with
  | none => exact ⟨questions, [], (List.append_nil _).symm, entries_of_none ended⟩
  | some missing =>
      obtain ⟨front, question, back, split, -, -, -, entries⟩ := fillDefaults_eq_some_iff.mp ended
      exact ⟨front, question :: back, split, entries⟩

end Turns

section Completion

/-- Answers are completed by defaults: those that are not blank stay, no entry is lost, and an
entry that changes was no answer and becomes the default of a question with its id. -/
structure Completes (questions : List Question) (answers after : Answers) : Prop where
  keeps : ∀ key value : String, answers[key]? = some value → Text.isBlankText value = false →
    after[key]? = some value
  spares : ∀ key : String, (∀ question ∈ questions, question.id ≠ key) → after[key]? = answers[key]?
  retains : ∀ key : String, key ∈ answers → key ∈ after
  changes : ∀ key : String, after[key]? ≠ answers[key]? → isAnswered answers key = false ∧
    ∃ question ∈ questions, question.id = key ∧ ∃ value, question.defaultAnswer = some value ∧
      after[key]? = some value

theorem completes_of_settled
    (entries : ∀ key, after[key]? = settled answers[key]? (defaultsOf front key)) :
    Completes (front ++ back) answers after where
  keeps := by
    intro key value held solid
    have answered : isGiven answers[key]? = true := by
      rw [held, isGiven_some, solid]
      rfl
    rw [entries, settled_of_isGiven answered, held]
  spares := by
    intro key foreign
    have none : defaultsOf front key = [] := by
      rw [defaultsOf, List.filter_eq_nil_iff.mpr, List.filterMap_nil]
      intro question member
      simpa using foreign question (List.mem_append_left back member)
    rw [entries, none, settled_nil]
  retains := by
    intro key member
    rw [Std.ExtTreeMap.mem_iff_isSome_getElem?] at member ⊢
    rw [entries]
    rcases settled_cases with same | ⟨-, value, -, taken⟩
    · rwa [same]
    · rw [taken]
      rfl
  changes := by
    intro key differs
    rw [entries] at differs ⊢
    rcases settled_cases with same | ⟨unanswered, value, member, taken⟩
    · exact absurd same differs
    · obtain ⟨question, asked, named, default⟩ := mem_defaultsOf_iff.mp member
      exact ⟨unanswered, question, List.mem_append_left back asked, named, value, default, taken⟩

theorem fillDefaults_fillDefaults (succeeds : (fillDefaults questions answers).2 = none) :
    fillDefaults questions (fillDefaults questions answers).1 =
      ((fillDefaults questions answers).1, none) := by
  have entries := entries_of_none succeeds
  have through : GoesThrough (fillDefaults questions answers).1 questions := by
    rintro front question back split ⟨required, bare, unanswered⟩
    -- What is answered in the first run is still so at the same turn of the second.
    refine fillDefaults_eq_none_iff.mp succeeds front question back split ⟨required, bare, ?_⟩
    rw [entries, split, defaultsOf_append, settled_append] at unanswered
    exact not_isGiven_of_settled (not_isGiven_of_settled unanswered)
  obtain ⟨again, filled, settledAgain⟩ := fillDefaults_of_goesThrough through
  have same : again = (fillDefaults questions answers).1 := by
    apply Std.ExtTreeMap.ext_getElem?
    intro key
    rw [settledAgain, entries, settled_settled]
  rw [filled, same]

/-- Filling in defaults completes the answers, also where it fails.  A success has taken the
defaults of all questions, and a second time changes nothing.  It fails at the first required question that has no default and
no answer at its turn, and then just the defaults of the questions before have been taken. -/
theorem defaults_completed (spec : Spec) (answers : Answers) :
    Completes spec.questions answers (spec.withDefaults answers).1 ∧
    ((spec.withDefaults answers).2 = none →
      (∀ key, (spec.withDefaults answers).1[key]? =
        settled answers[key]? (defaultsOf spec.questions key)) ∧
      spec.withDefaults (spec.withDefaults answers).1 = ((spec.withDefaults answers).1, none)) ∧
    ∀ missing, (spec.withDefaults answers).2 = some missing ↔
      ∃ front question back, spec.questions = front ++ question :: back ∧
        missing = .ofQuestion question ∧ GoesThrough answers front ∧ LeftOpen answers front question ∧
        ∀ key, (spec.withDefaults answers).1[key]? =
          settled answers[key]? (defaultsOf front key) := by
  refine ⟨?_, fun succeeds => ⟨entries_of_none succeeds, fillDefaults_fillDefaults succeeds⟩,
    fun missing => fillDefaults_eq_some_iff⟩
  obtain ⟨front, back, split, entries⟩ := exists_entries answers spec.questions
  rw [split]
  exact completes_of_settled entries

end Completion

section Required

/-- For every document there are answers that leave no question open. -/
theorem exists_answers (spec : Spec) : ∃ answers, (spec.withDefaults answers).2 = none := by
  have all (questions : List Question) : ∃ answers : Answers, ∀ question ∈ questions,
      isGiven answers[question.id]? = true := by
    induction questions with
    | nil => exact ⟨∅, nofun⟩
    | cons first questions ih =>
        obtain ⟨answers, given⟩ := ih
        refine ⟨answers.insert first.id "yes", fun question member => ?_⟩
        rw [Std.ExtTreeMap.getElem?_insert]
        split
        · decide
        · rcases List.mem_cons.mp member with rfl | later
          · exact absurd (Std.ReflCmp.compare_self) ‹_›
          · exact given question later
  obtain ⟨answers, given⟩ := all spec.questions
  refine ⟨answers, fillDefaults_eq_none_iff.mpr ?_⟩
  rintro front question back split ⟨-, -, unanswered⟩
  have answered : isGiven answers[question.id]? = true := given question (by simp [split])
  rw [settled_of_isGiven answered, answered] at unanswered
  cases unanswered

/-- A required question that a run passes without an answer has a default. -/
theorem defaultsOf_ne_nil (through : GoesThrough answers questions) (asked : question ∈ questions)
    (required : question.required = true)
    (unanswered : isGiven (settled answers[question.id]? (defaultsOf questions question.id)) = false) :
    defaultsOf questions question.id ≠ [] := by
  intro none
  obtain ⟨front, back, rfl⟩ := List.append_of_mem asked
  cases given : question.defaultAnswer with
  | some value =>
      have member : value ∈ defaultsOf (front ++ question :: back) question.id :=
        mem_defaultsOf_iff.mpr ⟨question, asked, rfl, given⟩
      rw [none] at member
      cases member
  | none =>
      refine through front question back rfl ⟨required, given, ?_⟩
      rw [defaultsOf_append, settled_append] at unanswered
      exact not_isGiven_of_settled unanswered

/-- A blank default is taken for an answer.  Filling in defaults fails exactly if a required
question has no default and no answer at its turn.  Where it succeeds, a required question is
answered exactly if it was before or if a default for its id is not blank.  Otherwise it has
a blank default for an answer. -/
theorem required_answered_iff (spec : Spec) (answers : Answers) :
    ((spec.withDefaults answers).2 = none ↔ GoesThrough answers spec.questions) ∧
    (∀ missing, (spec.withDefaults answers).2 = some missing →
      ∃ question ∈ spec.questions, missing = .ofQuestion question ∧ question.required = true ∧
        question.defaultAnswer = none ∧
        isAnswered (spec.withDefaults answers).1 question.id = false) ∧
    ((spec.withDefaults answers).2 = none →
      ∀ question ∈ spec.questions, question.required = true →
        (isAnswered (spec.withDefaults answers).1 question.id = true ↔
          isAnswered answers question.id = true ∨
            ∃ value ∈ defaultsOf spec.questions question.id, Text.isBlankText value = false) ∧
        (isAnswered (spec.withDefaults answers).1 question.id = false →
          ∃ value ∈ defaultsOf spec.questions question.id, Text.isBlankText value = true ∧
            (spec.withDefaults answers).1[question.id]? = some value)) := by
  refine ⟨fillDefaults_eq_none_iff, fun missing fails => ?_, fun succeeds question asked required => ?_⟩
  · obtain ⟨front, question, back, split, named, -, ⟨required, bare, unanswered⟩, entries⟩ :=
      fillDefaults_eq_some_iff.mp fails
    refine ⟨question, by simp [split], named, required, bare, ?_⟩
    show isGiven (fillDefaults spec.questions answers).1[question.id]? = false
    rwa [entries]
  · have entry := entries_of_none succeeds question.id
    have given : isAnswered (spec.withDefaults answers).1 question.id =
        isGiven (settled answers[question.id]? (defaultsOf spec.questions question.id)) :=
      congrArg isGiven entry
    refine ⟨by rw [given, isGiven_settled_iff]; rfl, fun unanswered => ?_⟩
    rw [given] at unanswered
    have through : GoesThrough answers spec.questions := fillDefaults_eq_none_iff.mp succeeds
    obtain ⟨value, member, taken⟩ := settled_mem (not_isGiven_of_settled unanswered)
      (defaultsOf_ne_nil through asked required unanswered)
    refine ⟨value, member, ?_, entry.trans taken⟩
    rw [taken, isGiven_some] at unanswered
    simpa using unanswered

def blankDefault : String :=
  "app: notes
wizard:
  steps:
    application:
      custom_questions:
        - id: admin
          name: Admin user
          type: text
          required: true
          default: \"\"
"

def administrator : Question where
  id := "admin"
  name := "Admin user"
  kind := .text
  required := true
  default := some ""
  choices := []

theorem questions_blankDefault :
    (Spec.ofText blankDefault).toOption.map (·.questions) = some [administrator] := by
  decide +kernel

/-- A required question whose default is blank is left with a blank answer. -/
theorem blank_default_taken :
    ∃ spec, Spec.ofText blankDefault = .ok spec ∧ (spec.withDefaults ∅).2 = none ∧
      ∃ question ∈ spec.questions, question.required = true ∧
        isAnswered (spec.withDefaults ∅).1 question.id = false := by
  have asked := questions_blankDefault
  cases read : Spec.ofText blankDefault with
  | error cause =>
      rw [read] at asked
      cases asked
  | ok spec =>
      rw [read] at asked
      have questions : spec.questions = [administrator] := Option.some.inj asked
      have succeeds : (spec.withDefaults ∅).2 = none := by
        rw [Spec.withDefaults, questions]
        decide +kernel
      have member : administrator ∈ spec.questions := by simp [questions]
      refine ⟨spec, rfl, succeeds, administrator, member, rfl, ?_⟩
      have answered := ((required_answered_iff spec ∅).2.2 succeeds administrator member rfl).1
      rw [Bool.eq_false_iff, ne_eq, answered, questions]
      decide +kernel

end Required

end Rollout.Installer
