import Rollout.Proofs.Deployment.ControlLines
import Rollout.Proofs.Provider.Choice
import Rollout.Proofs.Text.Blank

namespace Rollout.Deployment

open Procedure

/-! The size of the server that is ordered.

Options that leave the size open have it recommended by the provider's catalogue.  The
order names the trimmed region.  Whether the size is open, and for which region the
catalogue is asked, is read off the options as they are.
-/

variable {Backend : Type} {site : Site Backend} {options : Options} {plan : Plan Backend}
  {past story : Story Backend} {seen : Story Backend} {size region : String}

def catalogueOf (story : Story Backend) : Story Backend :=
  story.filter (·.1.concern = .catalogue)

/-- The catalogue was asked once, for all sizes or for those of a region, and recommends
a size. -/
inductive Recommended (plan : Plan Backend) : String → Story Backend → String → Prop where
  | overall {size : String} :
      Recommended plan ""
        [⟨.provider plan.provider.backend (.chooseSize plan.spec.requirement), .ok size⟩] size
  | offered {region size : String} {sizes : List Provider.Size} (named : region ≠ "")
      (recommends : Provider.Recommends sizes plan.spec.requirement size) :
      Recommended plan region
        [⟨.provider plan.provider.backend (.listSizesIn region), .ok sizes⟩] size

/-- An open size is recommended for a region.  Any other is the trimmed option, and
the catalogue is not asked. -/
def Chosen (plan : Plan Backend) (options : Options) (isOpen : Bool) (region : String)
    (seen : Story Backend) (size : String) : Prop :=
  if isOpen then Recommended plan region seen size
  else seen = [] ∧ size = Text.trimmed options.size

namespace Options

/-- The trimmed size is empty or `auto` in any mixture of cases. -/
def leavesSizeOpen (options : Options) : Bool :=
  Text.trimmed options.size = "" || Text.sameLetters (Text.trimmed options.size) "auto"

/-- The region for which the catalogue is asked; an empty one stands for all. -/
def listedRegion (options : Options) : String :=
  if Text.isBlankText options.region then "" else options.region

end Options

/-- A text has no blanks around it, unless it has nothing else. -/
def Unpadded (text : String) : Prop :=
  Text.trimmed text = "" ∨ Text.trimmed text = text

theorem tight_auto : Text.Tight (Text.lower "auto").toList := by
  have spelled : (Text.lower "auto").toList = ['a', 'u', 't', 'o'] := by decide
  rw [spelled]
  constructor
  · intro char first
    cases first
    rfl
  · intro char last
    cases last
    rfl

theorem wantsAnySize_iff :
    options.wantsAnySize = true ↔ options.leavesSizeOpen = true ∧ Unpadded options.size := by
  simp only [Options.wantsAnySize, Options.leavesSizeOpen, Unpadded, Bool.or_eq_true,
    decide_eq_true_eq, Text.isBlankText_iff]
  constructor
  · rintro (nothing | same)
    · exact ⟨.inl nothing, .inl nothing⟩
    · have tight := Text.trimmed_of_sameLetters same tight_auto
      exact ⟨.inr (by rwa [tight]), .inr tight⟩
  · rintro ⟨nothing | same, empty | tight⟩
    · exact .inl nothing
    · exact .inl nothing
    · exact .inl empty
    · exact .inr (by rwa [tight] at same)

theorem listedRegion_iff :
    options.listedRegion = Text.trimmed options.region ↔ Unpadded options.region := by
  unfold Options.listedRegion Unpadded
  split
  case isTrue blank =>
    have nothing := (Text.isBlankText_iff _).mp blank
    simp [nothing]
  case isFalse solid =>
    have something : Text.trimmed options.region ≠ "" := mt (Text.isBlankText_iff _).mpr solid
    simp [something, eq_comm]

theorem Recommended.asked (recommended : Recommended plan region seen size) : seen ≠ [] := by
  cases recommended <;> exact List.cons_ne_nil _ _

/-- One answer of the catalogue recommends a size for one region. -/
theorem Recommended.region_unique {other : String} (recommended : Recommended plan region seen size)
    (also : Recommended plan other seen size) : region = other := by
  cases recommended with
  | overall => cases also; rfl
  | offered named recommends => cases also; rfl

/-- The size that was chosen suits the trimmed options unless blanks in the options
hid that it is open, or for which region. -/
theorem chosen_trimmed_iff
    (chosen : Chosen plan options options.wantsAnySize options.listedRegion seen size) :
    Chosen plan options options.leavesSizeOpen (Text.trimmed options.region) seen size ↔
      (options.leavesSizeOpen = true → Unpadded options.size ∧ Unpadded options.region) := by
  unfold Chosen at chosen ⊢
  by_cases isOpen : options.leavesSizeOpen = true
  case neg =>
    have given : ¬ options.wantsAnySize = true := fun wants => isOpen (wantsAnySize_iff.mp wants).1
    rw [if_neg given] at chosen
    simp [isOpen, chosen]
  case pos =>
    simp only [isOpen, if_true, forall_const]
    by_cases unpadded : Unpadded options.size
    · rw [if_pos (wantsAnySize_iff.mpr ⟨isOpen, unpadded⟩)] at chosen
      constructor
      · intro suits
        exact ⟨unpadded, listedRegion_iff.mp (chosen.region_unique suits)⟩
      · rintro ⟨-, plain⟩
        rwa [← listedRegion_iff.mpr plain]
    · have hidden : ¬ options.wantsAnySize = true := fun wants => unpadded (wantsAnySize_iff.mp wants).2
      rw [if_neg hidden] at chosen
      obtain ⟨rfl, -⟩ := chosen
      constructor
      · exact fun suits => absurd rfl suits.asked
      · exact fun both => absurd both.1 unpadded

/-- An `auto` between blanks is taken for a size. -/
theorem chosen_padded (chosen : Chosen plan options options.wantsAnySize options.listedRegion seen size)
    (isOpen : options.leavesSizeOpen = true) (padded : ¬ Unpadded options.size) :
    seen = [] ∧ Text.sameLetters size "auto" = true := by
  have hidden : ¬ options.wantsAnySize = true := fun wants => padded (wantsAnySize_iff.mp wants).2
  rw [Chosen, if_neg hidden] at chosen
  obtain ⟨unasked, rfl⟩ := chosen
  have something : Text.trimmed options.size ≠ "" := fun nothing => padded (.inl nothing)
  exact ⟨unasked, by simpa [Options.leavesSizeOpen, something] using isOpen⟩

section Choosing

theorem catalogueOf_append (front back : Story Backend) :
    catalogueOf (front ++ back) = catalogueOf front ++ catalogueOf back := List.filter_append ..

theorem Lacks.catalogueOf (lacks : Lacks .catalogue story) : catalogueOf story = [] := by
  apply List.filter_eq_nil_iff.mpr
  intro event member
  simpa using lacks event member

theorem catalogueOf_append_of_lacks (lacks : Lacks .catalogue story) :
    catalogueOf (past ++ story) = catalogueOf past := by
  rw [catalogueOf_append, lacks.catalogueOf, List.append_nil]

theorem lacks_plain (text : String) :
    Lacks .catalogue ([⟨.emit (.plain text), ()⟩] : Story Backend) := by
  simp [Lacks, Action.concern]

theorem traces_recommendSize
    (traced : Traces (Provider.recommendSize (perform plan.provider) plan.spec.requirement
      options.region).run story (.ok size)) :
    Recommended plan options.listedRegion (catalogueOf story) size := by
  unfold Provider.recommendSize at traced
  unfold Options.listedRegion
  split at traced
  case isTrue blank =>
    rw [if_pos blank, traces_perform_iff.mp traced]
    exact .overall
  case isFalse solid =>
    have named : options.region ≠ "" := by
      intro empty
      exact solid (by rw [empty]; rfl)
    rw [if_neg solid]
    obtain ⟨_, _, sizes, rfl, lists, chooses⟩ := traces_run_bind_ok_iff.mp traced
    obtain ⟨rfl, chosen⟩ := traces_pure_iff.mp chooses
    rw [traces_perform_iff.mp lists]
    exact .offered named (Provider.recommends_of_chooseSize chosen.symm)

theorem traces_chooseSize (traced : Traces (chooseSize plan options).run story (.ok size)) :
    Chosen plan options options.wantsAnySize options.listedRegion (catalogueOf story) size := by
  unfold chooseSize at traced
  unfold Chosen
  split at traced
  case isTrue isOpen =>
    rw [if_pos isOpen]
    obtain ⟨front, _, found, rfl, recommends, later⟩ := traces_run_bind_ok_iff.mp traced
    obtain ⟨-, back, rfl, ends⟩ := traces_run_ask_bind_iff.mp later
    obtain ⟨rfl, same⟩ := traces_run_pure_iff.mp ends
    obtain rfl := Except.ok.inj same
    rw [catalogueOf_append_of_lacks (lacks_plain _)]
    exact traces_recommendSize (traces_run_adapt_ok_iff.mp recommends)
  case isFalse given =>
    rw [if_neg given]
    obtain ⟨rfl, same⟩ := traces_run_pure_iff.mp traced
    exact ⟨rfl, Except.ok.inj same⟩

end Choosing

section Ordering

/-- The order of a plan for a size that was chosen. -/
def Ordered (site : Site Backend) (options : Options) (past : Story Backend)
    (action : Action Backend) : Prop :=
  ∃ plan size name, Deployment.plan site options = .ok plan ∧
    action = .provider plan.provider.backend (.createServer (orderOf plan options size name)) ∧
    Chosen plan options options.wantsAnySize options.listedRegion (catalogueOf past) size

/-- What is ordered is ordered for a size that was chosen. -/
def Measured {α : Type} (site : Site Backend) (options : Options) (course : Course Backend α)
    (past : Story Backend) : Prop :=
  course.Upholds (fun past action => action.concern = .order → Ordered site options past action)
    (fun _ _ => True) past

theorem KeepsTo.measured {α : Type} {concerns : List Concern} {course : Course Backend α}
    (keeps : KeepsTo concerns course) (apart : .order ∉ concerns) :
    Measured site options course past :=
  keeps.upholds_about apart fun _ _ _ _ => trivial

theorem Measured.then {α β : Type} {first : Stage Backend Error α}
    {second : α → Stage Backend Error β} (measured : Measured site options first.run past)
    (goesOn : ∀ later value, Traces first.run later (.ok value) →
      Measured site options (second value).run (past ++ later)) :
    Measured site options (first >>= second).run past := by
  apply upholds_run_bind
  apply (Upholds.traced measured).mono
  rintro present result ⟨-, later, rfl, traced⟩
  cases result with
  | error cause => trivial
  | ok value => exact goesOn later value traced

theorem provision_measured (planned : Deployment.plan site options = .ok plan)
    (chosen : Chosen plan options options.wantsAnySize options.listedRegion (catalogueOf past) size) :
    Measured site options (provision plan options size).run past := by
  unfold provision
  apply ((chooseName_keepsTo plan options).measured (by simp)).then
  intro naming name named
  have unlisted : Lacks .catalogue naming :=
    lacks_of_keeps ((chooseName_keepsTo plan options).of_mem named) (by simp)
  have telling (text : String) : KeepsTo [.people] (say text : Stage Backend Error Unit).run :=
    keepsTo_say (by simp)
  apply ((telling _).measured (by simp)).then
  intro told _ tells
  have silent : Lacks .catalogue told := lacks_of_keeps ((telling _).of_mem tells) (by simp)
  -- From the choice of the size to the order the catalogue is not asked again.
  have still : catalogueOf (past ++ naming ++ told) = catalogueOf past := by
    rw [catalogueOf_append_of_lacks silent, catalogueOf_append_of_lacks unlisted]
  have orders : Measured site options
      ((perform plan.provider (.createServer (orderOf plan options size name))).adapt
        Error.provisioning).run (past ++ naming ++ told) := by
    apply upholds_run_adapt
    have ordered : Ordered site options (past ++ naming ++ told)
        (.provider plan.provider.backend (.createServer (orderOf plan options size name))) :=
      ⟨plan, size, name, planned, rfl, by rwa [still]⟩
    exact upholds_perform (fun _ => ordered) fun _ => trivial
  apply orders.then
  intro ordering created _
  apply ((telling _).measured (by simp)).then
  intro waiting _ _
  have waits : KeepsTo [.arrival] (perform plan.provider (.awaitServer created.id)).run :=
    keepsTo_perform (by simp [Action.concern])
  apply ((waits.adapt Error.ofWait).measured (by simp)).then
  intro arriving server _
  apply ((announce_keepsTo server).measured (by simp)).then
  intro announcing _ _
  have ends : KeepsTo [] (pure server : Stage Backend Error Provider.Server).run := keepsTo_pure server
  exact ends.measured (by simp)

theorem installed_measured : Measured site options (installed site options).run [] := by
  unfold installed
  apply upholds_run_bind
  apply upholds_pure.mpr
  cases planned : Deployment.plan site options with
  | error cause => trivial
  | ok plan =>
      apply ((chooseSize_keepsTo plan options).measured (by simp)).then
      intro sizing size sized
      have provisions : Measured site options (provision plan options size).run ([] ++ sizing) :=
        provision_measured planned (traces_chooseSize sized)
      apply provisions.then
      intro providing server _
      cases server.address with
      | none => exact upholds_run_throw trivial
      | some address =>
          exact (install_keepsTo site plan options size server address).measured (by simp)

theorem run_measured : Measured site options (run site options) [] := by
  unfold run deploy
  have deploys : Measured site options (do
      let installation ← installed site options
      ExceptT.lift (installation.conclude options) : Stage Backend Error Summary).run [] := by
    apply installed_measured.then
    intro later installation _
    exact (conclude_keepsTo installation options).lift.measured (by simp)
  apply Upholds.bind
  apply Upholds.mono deploys
  intro past outcome _
  have tells : KeepsTo [.people, .client] (query (Action.emit (outcomeLine outcome)) : Course Backend _) :=
    keepsTo_query (by cases outcome <;> simp [outcomeLine, Action.concern])
  apply Upholds.bind
  apply Upholds.mono (tells.measured (by simp))
  intro past _ _
  exact upholds_pure.mpr trivial

end Ordering

/-- Every order names the trimmed region and a size that was chosen.  An open size is the
one that the catalogue recommends for the region of the order, and any other the trimmed
option, exactly if no blanks stand around the options where the size is open: an `auto`
between blanks is ordered as it is, and a region between blanks is not the one that is
listed.  Both providers recommend from the catalogue that they list. -/
theorem ordered_size_suits_iff (site : Site Backend) (options : Options) :
    (∀ past backend order,
      Raises (run site options) past (.provider backend (.createServer order)) →
      ∃ plan, Deployment.plan site options = .ok plan ∧ plan.provider.backend = backend ∧
        order.region = Text.trimmed options.region ∧
        Chosen plan options options.wantsAnySize options.listedRegion (catalogueOf past) order.size ∧
        (Chosen plan options options.leavesSizeOpen order.region (catalogueOf past) order.size ↔
          (options.leavesSizeOpen = true → Unpadded options.size ∧ Unpadded options.region)) ∧
        (options.leavesSizeOpen = true → ¬ Unpadded options.size →
          catalogueOf past = [] ∧ Text.sameLetters order.size "auto" = true)) ∧
    (∀ account, Provider.ChoosesFromCatalogue (Provider.DigitalOcean.service account)) ∧
    ∀ account, Provider.ChoosesFromCatalogue (Provider.Scaleway.service account) := by
  refine ⟨?_, Provider.DigitalOcean.choosesFromCatalogue, Provider.Scaleway.choosesFromCatalogue⟩
  intro past backend order raises
  obtain ⟨plan, size, name, planned, same, chosen⟩ := run_measured.of_raises raises rfl
  cases same
  exact ⟨plan, planned, rfl, rfl, chosen, chosen_trimmed_iff chosen, chosen_padded chosen⟩

section Padding

instance (text : String) : Decidable (Unpadded text) := inferInstanceAs (Decidable (_ ∨ _))

def paddedOptions : Options := { loneOptions with size := " auto " }

def Action.order? : Action Backend → Option Provider.Order
  | .provider _ (.createServer order) => some order
  | _ => none

theorem action_of_order? {action : Action Unit} {order : Provider.Order}
    (orders : action.order? = some order) : action = .provider () (.createServer order) := by
  unfold Action.order? at orders
  split at orders
  · cases orders
    rfl
  · cases orders

def paddedRun : Option (Except Error Summary × Story Unit) :=
  (run loneSite paddedOptions).run? (noting (loneAnswer "")) []

theorem paddedRun_isSome : paddedRun.isSome = true := by decide +kernel

/-- Blanks around `auto` make a server of the size `auto` be ordered. -/
theorem padded_auto_ordered :
    ∃ plan past order, Deployment.plan loneSite paddedOptions = .ok plan ∧
      Raises (run loneSite paddedOptions) past (.provider () (.createServer order)) ∧
      order.size = "auto" ∧
      ¬ Chosen plan paddedOptions paddedOptions.leavesSizeOpen order.region (catalogueOf past)
        order.size := by
  have sizes : ((paddedRun.get paddedRun_isSome).2.filterMap (·.1.order?)).map (·.size) = ["auto"] := by
    decide +kernel
  have ran : paddedRun = some (paddedRun.get paddedRun_isSome) := (Option.some_get _).symm
  -- The run is evaluated only for the size; from here on it stands for any run.
  generalize paddedRun.get paddedRun_isSome = result at sizes ran
  obtain ⟨outcome, story⟩ := result
  obtain ⟨trace, rfl, traced⟩ := traces_run?_noting ran
  obtain ⟨order, ordered, named⟩ : ∃ order ∈ story.filterMap (·.1.order?), order.size = "auto" :=
    List.mem_map.mp (by rw [sizes]; exact List.mem_singleton_self _)
  obtain ⟨⟨action, answer⟩, member, orders⟩ := List.mem_filterMap.mp ordered
  obtain ⟨past, later, rfl⟩ := List.append_of_mem member
  obtain rfl : action = .provider () (.createServer order) := action_of_order? orders
  have raises := Raises.of_traces traced
  obtain ⟨plan, planned, -, -, -, suits, -⟩ :=
    (ordered_size_suits_iff loneSite paddedOptions).1 past () order raises
  refine ⟨plan, past, order, planned, raises, named, fun chosen => ?_⟩
  have unpadded := (suits.mp chosen (by decide)).1
  revert unpadded
  decide

end Padding

end Rollout.Deployment
