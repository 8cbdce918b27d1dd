import Mathlib.Data.String.Basic
import Rollout.Proofs.Foremost
import Rollout.Proofs.Provider.Looking

namespace Rollout.Provider.Scaleway

open Procedure

/-! Which image a new server starts from.

Of the images that are listed under a name it is the one created last among those that are
available for the architecture of the account, and the first of them if several were created
last.
-/

namespace Image

variable {images others : List Image} {image : Image} {architecture : String}

def Suits (image : Image) (architecture : String) : Prop :=
  image.architecture = architecture ∧ image.state = "available"

instance : Decidable (image.Suits architecture) := inferInstanceAs (Decidable (_ ∧ _))

/-- The images that suit, in the order of the list. -/
def suiting (images : List Image) (architecture : String) : List Image :=
  images.filter fun image => image.Suits architecture

/-- Of the images that suit, those listed before it are older, and those listed after it no
younger. -/
def Newest (images : List Image) (architecture : String) (image : Image) : Prop :=
  image.Suits architecture ∧ ∃ front back, images = front ++ image :: back ∧
    (∀ other ∈ front, other.Suits architecture → other.created < image.created) ∧
    ∀ other ∈ back, other.Suits architecture → other.created ≤ image.created

/-- The images in the order of their dates, the last one first.  Those of one date stay in the
order that they have. -/
def newestFirst (images : List Image) : List Image :=
  images.mergeSort fun left right => right.created ≤ left.created

/-- The date of an image, where later dates are less. -/
def recency (image : Image) : OrderDual String := OrderDual.toDual image.created

theorem newestFirst_eq_byKey (images : List Image) : newestFirst images = byKey recency images := rfl

theorem newest_iff_foremost :
    Newest images architecture image ↔ Foremost recency (suiting images architecture) image := by
  simp only [suiting, foremost_filter_iff, decide_eq_true_eq]
  rfl

theorem newest?_eq_foldl (images : List Image) (architecture : String) :
    newest? images architecture = match suiting images architecture with
      | [] => none
      | first :: rest => some
          (rest.foldl (fun best next => if recency next < recency best then next else best) first) := rfl

theorem newest?_eq_none_iff :
    newest? images architecture = none ↔ ∀ image ∈ images, ¬ image.Suits architecture := by
  have nothing : suiting images architecture = [] ↔ ∀ image ∈ images, ¬ image.Suits architecture := by
    simp [suiting, List.filter_eq_nil_iff]
  rw [newest?_eq_foldl, ← nothing]
  cases suiting images architecture <;> simp

/-- The fold over the images that suit finds the newest one and no other. -/
theorem newest?_eq_some_iff : newest? images architecture = some image ↔ Newest images architecture image := by
  rw [newest?_eq_foldl, newest_iff_foremost]
  cases suiting images architecture with
  | nil =>
      constructor
      · exact nofun
      · intro foremost
        cases foremost.mem
  | cons first rest =>
      have alone : Foremost recency [first] first := Foremost.head nofun
      have found := alone.foldl rest
      rw [Option.some.injEq]
      constructor
      · intro same
        exact same ▸ found
      · exact found.unique

/-- Of two that are as young the first is taken, and a younger one that is not available yet
does not count. -/
example :
    newest? [⟨"older", "x86_64", "available", "2023-05-02"⟩, ⟨"first", "x86_64", "available", "2024-01-09"⟩,
      ⟨"same day", "x86_64", "available", "2024-01-09"⟩, ⟨"unfinished", "x86_64", "creating", "2024-03-01"⟩]
      "x86_64" = some ⟨"first", "x86_64", "available", "2024-01-09"⟩ := by
  decide

theorem newest?_eq_head?_newestFirst :
    newest? images architecture = (newestFirst (suiting images architecture)).head? := by
  apply Option.ext
  intro image
  rw [newestFirst_eq_byKey, head?_byKey_eq_some_iff, newest?_eq_some_iff, newest_iff_foremost]

end Image

section Listing

variable {account : Account} {zone name : String} {images : List Image}
  {exchange : Trace Network.Action Network.Action.Result} {outcome : Except Error String}

def listingRequest (account : Account) (zone name key : String) : Http.Request :=
  { method := .get
    url := zoneUrl zone ++ "/images"
    query := [("public", "true"), ("name", name), ("arch", account.architecture)]
    headers := [keyHeader key] }

/-- The images of a name were asked for in a zone, and the answer lists some. -/
inductive ListsImages (account : Account) (zone name : String) (images : List Image) :
    Trace Network.Action Network.Action.Result → Prop where
  | intro {key : String} {response : Http.Response} (known : account.clientKey? = .ok key)
      (accepted : ¬ (400 ≤ response.status ∧ response.status < 600))
      (decoded : response.decode? (list? "images" Image.ofJson?) = some images) :
      ListsImages account zone name images [⟨.send (listingRequest account zone name key), .ok response⟩]

theorem traces_ask_of_accepted {method : Http.Method} {url key : String} {query : List (String × String)}
    {body : Http.Body} {response : Http.Response} (known : account.clientKey? = .ok key)
    (accepted : ¬ (400 ≤ response.status ∧ response.status < 600)) :
    Traces (ask account method url query body).run
      [⟨.send { method, url, query, headers := [keyHeader key], body }, .ok response⟩] (.ok response) := by
  have served : ¬ (400 ≤ response.status ∧ response.status < 500) := by omega
  have sound : ¬ (500 ≤ response.status ∧ response.status < 600) := by omega
  unfold ask
  simp only [known, Network.lift_ok, pure_bind]
  refine traces_run_bind_iff.mpr (.inr ⟨[_], [], response, rfl, Network.traces_send_ok_iff.mpr rfl, ?_⟩)
  rw [if_neg served, if_neg sound]
  exact traces_run_pure_iff.mpr ⟨rfl, rfl⟩

/-- What is said of a name under which no image suits. -/
def missing (account : Account) (zone name : String) : Error :=
  failed s!"image '{name}' ({account.architecture}) not found in zone {zone}"

/-- What becomes of a name once images are listed under it. -/
def resolved (account : Account) (zone name : String) (images : List Image) : Except Error String :=
  ((Image.newest? images account.architecture).map Image.id).elim (.error (missing account zone name)) .ok

theorem resolved_eq_ok_iff {id : String} : resolved account zone name images = .ok id ↔
    ∃ image, Image.Newest images account.architecture image ∧ image.id = id := by
  simp only [← Image.newest?_eq_some_iff, resolved]
  cases Image.newest? images account.architecture <;> simp

theorem resolved_eq_error_iff {error : Error} : resolved account zone name images = .error error ↔
    error = missing account zone name ∧ ∀ image ∈ images, ¬ image.Suits account.architecture := by
  rw [← Image.newest?_eq_none_iff, resolved]
  cases Image.newest? images account.architecture <;> simp [eq_comm]

/-- A name is resolved by what is listed under it. -/
theorem traces_imageId_iff (unresolved : Image.isId name = false)
    (lists : ListsImages account zone name images exchange) :
    Traces (imageId account zone name).run exchange outcome ↔ outcome = resolved account zone name images := by
  obtain @⟨key, response, known, accepted, decoded⟩ := lists
  have resolves : Traces (imageId account zone name).run
      [⟨.send (listingRequest account zone name key), .ok response⟩] (resolved account zone name images) := by
    rw [imageId, if_neg (by simp [unresolved])]
    refine traces_run_bind_iff.mpr (.inr ⟨[_], [], _, rfl, traces_ask_of_accepted known accepted, ?_⟩)
    refine traces_run_bind_iff.mpr (.inr ⟨[], [], images, rfl, ?_, ?_⟩)
    · exact Network.traces_decode_ok_iff.mpr ⟨rfl, decoded⟩
    · unfold resolved
      cases Image.newest? images account.architecture with
      | some newest => exact traces_run_pure_iff.mpr ⟨rfl, rfl⟩
      | none => exact traces_run_throw_iff.mpr ⟨rfl, rfl⟩
  constructor
  · intro traced
    exact traced.unique resolves
  · intro same
    exact same ▸ resolves

end Listing

/-- No image is chosen exactly if none suits, and otherwise the newest that suits, which is the
first when those that suit are put in the order of their dates.  Images that do not suit have no
part in it.  A name that is no id becomes the id of the image that is chosen from what is listed
under it, and it fails exactly if none is. -/
theorem newest_suiting_image_chosen :
    (∀ images architecture,
      (Image.newest? images architecture = none ↔ ∀ image ∈ images, ¬ image.Suits architecture) ∧
      (∀ image, Image.newest? images architecture = some image ↔ Image.Newest images architecture image) ∧
      Image.newest? images architecture = (Image.newestFirst (Image.suiting images architecture)).head? ∧
      ∀ others, Image.suiting others architecture = Image.suiting images architecture →
        Image.newest? others architecture = Image.newest? images architecture) ∧
    ∀ account zone name images exchange, Image.isId name = false →
      ListsImages account zone name images exchange →
      (∀ id, Traces (imageId account zone name).run exchange (.ok id) ↔
        ∃ image, Image.Newest images account.architecture image ∧ image.id = id) ∧
      ∀ error, Traces (imageId account zone name).run exchange (.error error) ↔
        error = missing account zone name ∧ ∀ image ∈ images, ¬ image.Suits account.architecture := by
  constructor
  · intro images architecture
    refine ⟨Image.newest?_eq_none_iff, fun _ => Image.newest?_eq_some_iff,
      Image.newest?_eq_head?_newestFirst, ?_⟩
    intro others same
    rw [Image.newest?_eq_head?_newestFirst, same, Image.newest?_eq_head?_newestFirst]
  · intro account zone name images exchange unresolved lists
    constructor
    · intro id
      rw [traces_imageId_iff unresolved lists, eq_comm, resolved_eq_ok_iff]
    · intro error
      rw [traces_imageId_iff unresolved lists, eq_comm, resolved_eq_error_iff]

end Rollout.Provider.Scaleway
