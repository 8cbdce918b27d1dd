import Rollout.Proofs.Json.Fields
import Rollout.Proofs.Provider.Choice
import Rollout.Proofs.Provider.Requests

namespace Rollout.Provider

open Procedure

/-! How much of a catalogue is listed.

Interfaces answer with one page of their catalogue at a time, and with a further one if it is
asked for.  Both providers ask once, so the sizes on later pages are neither listed nor
recommended.
-/

/-- A catalogue in pages, none of which has more entries than the limit. -/
structure Paged (Entry : Type) (limit : Nat) where
  first : List Entry
  later : List (List Entry)
  short : ∀ page ∈ first :: later, page.length ≤ limit

namespace Paged

variable {Entry : Type} {limit : Nat}

/-- Pages are counted from 1. -/
def page (catalogue : Paged Entry limit) (number : Nat) : List Entry :=
  (catalogue.first :: catalogue.later).getD (number - 1) []

def rest (catalogue : Paged Entry limit) : List Entry := catalogue.later.flatten

def whole (catalogue : Paged Entry limit) : List Entry := catalogue.first ++ catalogue.rest

end Paged

/-- A request asks for the first page unless it has the number of another. -/
def AsksFor (request : Http.Request) (number : Nat) : Prop :=
  request.query = [] ∧ number = 1 ∨ request.query = [("page", toString number)]

/-- The answers of an interface that shows its catalogue under an address. -/
inductive Pages {Entry : Type} {limit : Nat} (address : String)
    (shows : List Entry → Json → Bool) (catalogue : Paged Entry limit) (request : Http.Request) :
    Except String Http.Response → Prop where
  | page {number : Nat} {response : Http.Response} {json : Json} (got : request.method = .get)
      (url : request.url = address) (asked : AsksFor request number)
      (succeeds : response.isSuccess = true) (body : Json.ofBytes? response.body = some json)
      (shown : shows (catalogue.page number) json = true) :
      Pages address shows catalogue request (.ok response)
  | fails {answer : Except String Http.Response}
      (refused : ∀ response, answer = .ok response → response.isSuccess = false) :
      Pages address shows catalogue request answer

/-- All requests of a trace are answered from the catalogue. -/
def Served {Entry : Type} {limit : Nat} (address : String) (shows : List Entry → Json → Bool)
    (catalogue : Paged Entry limit) (trace : Trace Network.Action Network.Action.Result) : Prop :=
  ∀ request answer, ⟨.send request, answer⟩ ∈ trace → Pages address shows catalogue request answer

/-- Of the sizes of a catalogue, those in front are listed and chosen from.  That is all of them,
or the cheapest of them, exactly if the rest has nothing more, or nothing cheaper. -/
structure ListsFront (service : Service) (trace : Trace Network.Action Network.Action.Result)
    (front rest : List Size) : Prop where
  listed : ∀ sizes, Traces (service .listSizes).run trace (.ok sizes) →
    (∀ size, size ∈ sizes ↔ size ∈ front) ∧
      ((∀ size ∈ front ++ rest, size ∈ sizes) ↔ ∀ size ∈ rest, size ∈ front)
  chosen : ∀ requirement id, Traces (service (.chooseSize requirement)).run trace (.ok id) →
    ∃ best ∈ front, best.id = id ∧ best.meets requirement = true ∧
      ((∀ size ∈ front ++ rest, size.meets requirement = true → best.price ≤ size.price) ↔
        ∀ size ∈ rest, size.meets requirement = true → best.price ≤ size.price)

section Listing

variable {Entry : Type} {limit : Nat} {catalogue : Paged Entry limit} {address : String}
  {shows : List Entry → Json → Bool} {request : Http.Request} {response : Http.Response}
  {trace : Trace Network.Action Network.Action.Result}

/-- A request that names no page is shown the first. -/
theorem Pages.first (pages : Pages address shows catalogue request (.ok response))
    (unnumbered : request.query = []) (succeeds : response.isSuccess = true) :
    ∃ json, Json.ofBytes? response.body = some json ∧ shows catalogue.first json = true := by
  cases pages with
  | @page number _ json _ _ asked _ body shown =>
      rcases asked with ⟨-, rfl⟩ | named
      · exact ⟨json, body, shown⟩
      · rw [unnumbered] at named
        cases named
  | fails refused => simp [refused response rfl] at succeeds

theorem decode?_of_body {α : Type} {read : Json → Option α} {json : Json}
    (body : Json.ofBytes? response.body = some json) : response.decode? read = read json := by
  simp [Http.Response.decode?, body]

theorem listsFront {service : Service} {front rest : List Size}
    (chooses : ChoosesFromCatalogue service)
    (lists : ∀ sizes, Traces (service .listSizes).run trace (.ok sizes) →
      ∀ size, size ∈ sizes ↔ size ∈ front) : ListsFront service trace front rest where
  listed sizes traced := by
    have same := lists sizes traced
    refine ⟨same, ?_⟩
    simp only [same, List.mem_append]
    constructor
    · intro all size later
      exact all size (.inr later)
    · intro again size member
      exact member.elim id (again size)
  chosen requirement id traced := by
    obtain ⟨sizes, listed, best, cheapest, named⟩ := chooses requirement trace id traced
    have same := lists sizes listed
    have member : best ∈ sizes.filter (·.meets requirement) := by
      obtain ⟨before, after, parts, -⟩ := cheapest
      simp [parts]
    obtain ⟨among, meets⟩ := List.mem_filter.mp member
    refine ⟨best, (same best).mp among, named, meets, ?_⟩
    constructor
    · intro all size later
      exact all size (List.mem_append_right _ later)
    · intro behind size member suits
      rcases List.mem_append.mp member with ahead | later
      · exact cheapest.le (List.mem_filter.mpr ⟨(same size).mpr ahead, suits⟩)
      · exact behind size later suits

end Listing

namespace DigitalOcean

structure Offer where
  size : Size
  isAvailable : Bool
deriving Repr, DecidableEq

def Offer.sold? (offer : Offer) : Option Size := if offer.isAvailable then some offer.size else none

/-- The sizes that can be had. -/
def sold (offers : List Offer) : List Size := offers.filterMap Offer.sold?

/-- The JSON of an offer.  One without regions is offered everywhere, and one that is not said to
be unavailable is available. -/
def Offer.isShown (offer : Offer) (json : Json) : Bool :=
  json.isUnrepeated && (json.find? "slug").bind Json.text? = some offer.size.id &&
    (json.find? "vcpus").bind smallWord? = some offer.size.vcpus &&
    (json.find? "memory").bind word? = some offer.size.memoryMb &&
    (json.find? "disk").bind word? = some offer.size.diskGb &&
    (json.find? "price_monthly").bind Json.number? = some offer.size.price &&
    ((json.find? "regions").elim (some []) (Json.list? Json.text?) = some offer.size.regions &&
      (json.find? "available").elim (some true) Json.bool? = some offer.isAvailable)

def showsPage (offers : List Offer) (json : Json) : Bool :=
  json.isUnrepeated && ((json.find? "sizes").bind Json.items?).any fun items =>
    items.length = offers.length && (offers.zip items).all fun (offer, item) => offer.isShown item

def sizesUrl : String := base ++ "/sizes?per_page=200"

theorem size?_of_isShown {offer : Offer} {json : Json} (shown : offer.isShown json = true) :
    size? json = some offer.sold? := by
  simp only [Offer.isShown, Bool.and_eq_true, decide_eq_true_eq] at shown
  obtain ⟨⟨⟨⟨⟨⟨clean, slug⟩, vcpus⟩, memory⟩, disk⟩, price⟩, regions, available⟩ := shown
  obtain ⟨fields, read, -, values⟩ := Json.fields?_of_unrepeated clean
    ["slug", "memory", "vcpus", "disk", "price_monthly", "regions", "available"]
  simp only [List.mem_cons, List.not_mem_nil, or_false, forall_eq_or_imp, forall_eq] at values
  obtain ⟨id, memories, cpus, disks, prices, places, has⟩ := values
  simp only [size?, read, Json.required_eq id, Json.required_eq memories, Json.required_eq cpus,
    Json.required_eq disks, Json.required_eq prices, Json.orElse_eq places, Json.orElse_eq has,
    slug, vcpus, memory, disk, price, regions, available, Option.bind_eq_bind, Option.bind_some,
    Offer.sold?]

/-- From a page are read the sizes that can be had. -/
theorem sizes_of_showsPage {offers : List Offer} {json : Json} (shown : showsPage offers json = true) :
    available? "sizes" size? json = some (sold offers) := by
  simp only [showsPage, Bool.and_eq_true, Option.any_eq_true] at shown
  obtain ⟨clean, items, listed, shown⟩ := shown
  obtain ⟨fields, read, -, values⟩ := Json.fields?_of_unrepeated clean ["sizes"]
  have reads : items.mapM size? = some (offers.map Offer.sold?) := by
    apply Json.mapM_of_forall₂
    simp only [decide_eq_true_eq, List.all_eq_true] at shown
    apply List.forall₂_iff_zip.mpr
    refine ⟨shown.1.symm, ?_⟩
    intro offer item member
    exact size?_of_isShown (shown.2 (offer, item) member)
  obtain ⟨value, found, opened⟩ := Option.bind_eq_some_iff.mp listed
  have taken : fields.required "sizes" (Json.list? size?) = some (offers.map Offer.sold?) := by
    rw [Json.required_eq (values "sizes" List.mem_cons_self), found]
    simp [Json.list?, opened, reads]
  simp only [available?, read, taken, Option.bind_eq_bind, Option.bind_some]
  rw [List.filterMap_map]
  rfl

section Listing

variable {account : Account} {catalogue : Paged Offer 200}
  {trace : Trace Network.Action Network.Action.Result}

def listRequest (token : String) : Http.Request where
  method := .get
  url := sizesUrl
  headers := [Http.bearer token]

theorem traces_listSizes_ok_iff {sizes : List Size} :
    Traces (listSizes account).run trace (.ok sizes) ↔
      ∃ token response, account.token? = .ok token ∧ response.isSuccess = true ∧
        response.decode? (available? "sizes" size?) = some sizes ∧
        trace = [⟨.send (listRequest token), .ok response⟩] := by
  unfold listSizes DigitalOcean.get
  rw [traces_run_bind_ok_iff]
  constructor
  · intro traced
    obtain ⟨front, back, response, rfl, calls, decodes⟩ := traced
    obtain ⟨rfl, read⟩ := Network.traces_decode_ok_iff.mp decodes
    obtain ⟨succeeds, requests⟩ := traces_call_ok_iff.mp calls
    obtain ⟨token, known, rfl⟩ := traces_request_ok_iff.mp requests
    exact ⟨token, response, known, succeeds, read, rfl⟩
  · intro sent
    obtain ⟨token, response, known, succeeds, read, rfl⟩ := sent
    exact ⟨[_], [], response, rfl,
      traces_call_ok_iff.mpr ⟨succeeds, traces_request_ok_iff.mpr ⟨token, known, rfl⟩⟩,
      Network.traces_decode_ok_iff.mpr ⟨rfl, read⟩⟩

theorem sizes_listed {sizes : List Size} (served : Served sizesUrl showsPage catalogue trace)
    (traced : Traces (service account .listSizes).run trace (.ok sizes)) :
    sizes = sold catalogue.first := by
  obtain ⟨token, response, -, succeeds, read, rfl⟩ := traces_listSizes_ok_iff.mp traced
  have pages := served (listRequest token) (.ok response) List.mem_cons_self
  obtain ⟨json, body, shown⟩ := pages.first rfl succeeds
  rw [decode?_of_body body, sizes_of_showsPage shown] at read
  exact (Option.some.inj read).symm

/-- Once the first page is shown, its sizes are listed. -/
theorem listSizes_succeeds {token : String} {response : Http.Response} {json : Json}
    (known : account.token? = .ok token) (succeeds : response.isSuccess = true)
    (body : Json.ofBytes? response.body = some json) (shown : showsPage catalogue.first json = true) :
    ∃ trace, Served sizesUrl showsPage catalogue trace ∧
      Traces (service account .listSizes).run trace (.ok (sold catalogue.first)) := by
  refine ⟨[⟨.send (listRequest token), .ok response⟩], ?_, ?_⟩
  · intro request answer member
    cases List.mem_singleton.mp member
    exact .page rfl rfl (.inl ⟨rfl, rfl⟩) succeeds body shown
  · apply traces_listSizes_ok_iff.mpr
    refine ⟨token, response, known, succeeds, ?_, rfl⟩
    rw [decode?_of_body body, sizes_of_showsPage shown]

end Listing

end DigitalOcean

namespace Scaleway

/-- A product with its price for a month, if it has one, and with its sizes in bytes. -/
structure Product where
  id : String
  vcpus : Nat
  ramBytes : Nat
  volumeBytes : Nat
  price : Option Rat
deriving Repr, DecidableEq

/-- The size that a product is in a zone, if it has a price. -/
def Product.sold? (zone : String) (product : Product) : Option Size :=
  product.price.map fun price => {
    id := product.id
    vcpus := product.vcpus
    memoryMb := product.ramBytes / bytesPerMb
    diskGb := product.volumeBytes / bytesPerGb
    price
    regions := [zone] }

def sold (zone : String) (products : List Product) : List Size :=
  products.filterMap (Product.sold? zone)

def Product.showsVolume (product : Product) : Option Json → Bool
  | none | some .null => product.volumeBytes = 0
  | some json => json.isUnrepeated &&
      (json.find? "max_size").elim (some 0) (Json.below? Text.wordLimit) = some product.volumeBytes

/-- The JSON of a product, in which the price and the volume may be missing or null. -/
def Product.isShown (product : Product) (json : Json) : Bool :=
  json.isUnrepeated &&
    (json.find? "ncpus").bind (Json.below? Text.smallWordLimit) = some product.vcpus &&
    (json.find? "ram").bind (Json.below? Text.wordLimit) = some product.ramBytes &&
    (json.find? "monthly_price").elim (some none) (Json.nullable? Json.number?) =
      some product.price &&
    product.showsVolume (json.find? "volumes_constraint")

def showsPage (products : List Product) (json : Json) : Bool :=
  json.isUnrepeated && ((json.find? "servers").bind Json.entries?).any fun entries =>
    entries.length = products.length && (products.zip entries).all fun (product, id, item) =>
      id = product.id && product.isShown item

def productsUrl (zone : String) : String := zoneUrl zone ++ "/products/servers?per_page=100"

variable {zone : String}

theorem volume_of_shown {product : Product} {found : Option Json}
    (shown : product.showsVolume found = true) :
    ∃ volume, found.elim (some none) (Json.nullable? maxVolume?) = some volume ∧
      volume.getD 0 = product.volumeBytes := by
  have absent : product.volumeBytes = 0 → (none : Option Nat).getD 0 = product.volumeBytes := Eq.symm
  cases found with
  | none => exact ⟨none, rfl, absent (by simpa [Product.showsVolume] using shown)⟩
  | some json =>
      by_cases null : json = .null
      · subst null
        exact ⟨none, rfl, absent (by simpa [Product.showsVolume] using shown)⟩
      · have present : json.isUnrepeated = true ∧
            (json.find? "max_size").elim (some 0) (Json.below? Text.wordLimit) =
              some product.volumeBytes := by
          cases json <;> first | exact absurd rfl null | simpa [Product.showsVolume] using shown
        obtain ⟨fields, opened, -, values⟩ := Json.fields?_of_unrepeated present.1 ["max_size"]
        have volume : maxVolume? json = some product.volumeBytes := by
          simp only [maxVolume?, opened, Option.bind_eq_bind, Option.bind_some,
            Json.orElse_eq (values "max_size" List.mem_cons_self), present.2]
        refine ⟨some product.volumeBytes, ?_, rfl⟩
        cases json <;> first | exact absurd rfl null | simp [Json.nullable?, volume]

theorem size?_of_isShown {product : Product} {json : Json} (shown : product.isShown json = true) :
    size? zone product.id json = some (product.sold? zone) := by
  simp only [Product.isShown, Bool.and_eq_true, decide_eq_true_eq] at shown
  obtain ⟨⟨⟨⟨clean, vcpus⟩, ram⟩, price⟩, constraint⟩ := shown
  obtain ⟨volume, read, same⟩ := volume_of_shown constraint
  obtain ⟨fields, opened, -, values⟩ := Json.fields?_of_unrepeated clean
    ["monthly_price", "ncpus", "ram", "volumes_constraint"]
  simp only [List.mem_cons, List.not_mem_nil, or_false, forall_eq_or_imp, forall_eq] at values
  obtain ⟨prices, cpus, rams, volumes⟩ := values
  simp only [size?, opened, Json.orElse_eq prices, Json.required_eq cpus, Json.required_eq rams,
    Json.orElse_eq volumes, vcpus, ram, price, read, same, Option.bind_eq_bind, Option.bind_some,
    Product.sold?]

/-- Without repetitions, a map has just the entries that it is made of. -/
theorem mem_toList_ofList {α : Type} {entries : List (String × α)} {key : String} {value : α}
    (distinct : (entries.map (·.1)).Nodup) :
    (key, value) ∈ (Std.ExtTreeMap.ofList entries compare).toList ↔ (key, value) ∈ entries := by
  have apart : entries.Pairwise fun one other => ¬ compare one.1 other.1 = .eq := by
    have keys := List.pairwise_map.mp distinct
    apply keys.imp
    intro one other differs same
    exact differs (Std.compare_eq_iff_eq.mp same)
  have found {value : α} (member : (key, value) ∈ entries) :
      (Std.ExtTreeMap.ofList entries compare)[key]? = some value :=
    Std.ExtTreeMap.getElem?_ofList_of_mem (Std.compare_eq_iff_eq.mpr rfl) apart member
  rw [Std.ExtTreeMap.mem_toList_iff_getElem?_eq_some]
  constructor
  · intro held
    by_cases named : key ∈ entries.map (·.1)
    · obtain ⟨⟨_, other⟩, member, rfl⟩ := List.mem_map.mp named
      obtain rfl := Option.some.inj ((found member).symm.trans held)
      exact member
    · have missing : (Std.ExtTreeMap.ofList entries compare)[key]? = none :=
        Std.ExtTreeMap.getElem?_ofList_of_contains_eq_false (by simpa using named)
      rw [missing] at held
      cases held
  · exact found

/-- From a page are read the products that have a price, in the order of their names. -/
theorem sizes_of_showsPage {products : List Product} {json : Json}
    (distinct : (products.map (·.id)).Nodup) (shown : showsPage products json = true) :
    ∃ sizes, sizes? zone json = some sizes ∧ ∀ size, size ∈ sizes ↔ size ∈ sold zone products := by
  simp only [showsPage, Bool.and_eq_true, Option.any_eq_true] at shown
  obtain ⟨clean, entries, listed, shown⟩ := shown
  obtain ⟨fields, opened, -, values⟩ := Json.fields?_of_unrepeated clean ["servers"]
  obtain ⟨value, found, entered⟩ := Option.bind_eq_some_iff.mp listed
  let pairs := products.map fun product => (product.id, product.sold? zone)
  have reads : entries.mapM (fun entry =>
      (size? zone entry.1 entry.2).bind fun size => some (entry.1, size)) = some pairs := by
    apply Json.mapM_of_forall₂
    simp only [decide_eq_true_eq, List.all_eq_true, Bool.and_eq_true] at shown
    apply List.forall₂_iff_zip.mpr
    refine ⟨shown.1.symm, ?_⟩
    intro product entry member
    obtain ⟨id, item⟩ := entry
    obtain ⟨named, isShown⟩ := shown.2 (product, id, item) member
    obtain rfl : id = product.id := named
    simp [size?_of_isShown isShown]
  refine ⟨(Std.ExtTreeMap.ofList pairs compare).toList.filterMap (·.2), ?_, ?_⟩
  · simp only [sizes?, opened, Json.orElse_eq (values "servers" List.mem_cons_self), found,
      Option.elim_some, entered, reads, Option.bind_eq_bind, Option.bind_some]
  · intro size
    have keys : (pairs.map (·.1)).Nodup := by
      rw [List.map_map]
      exact distinct
    simp only [List.mem_filterMap, Prod.exists, mem_toList_ofList keys, sold, pairs, List.mem_map,
      Prod.mk.injEq]
    constructor
    · intro held
      obtain ⟨_, _, ⟨product, member, -, rfl⟩, size⟩ := held
      exact ⟨product, member, size⟩
    · intro held
      obtain ⟨product, member, size⟩ := held
      exact ⟨_, _, ⟨product, member, rfl, rfl⟩, size⟩

section Listing

variable {account : Account} {catalogue : Paged Product 100} {key : String}
  {response : Http.Response} {json : Json} {trace : Trace Network.Action Network.Action.Result}

def listRequest (zone key : String) : Http.Request where
  method := .get
  url := productsUrl zone
  headers := [keyHeader key]

theorem traces_listSizes_ok_iff {sizes : List Size} :
    Traces (listSizes account zone).run trace (.ok sizes) ↔
      ∃ key response, account.secretKey? = .ok key ∧ response.isSuccess = true ∧
        response.decode? (sizes? zone) = some sizes ∧
        trace = [⟨.send (listRequest zone key), .ok response⟩] := by
  unfold listSizes
  rw [traces_run_bind_ok_iff]
  constructor
  · intro traced
    obtain ⟨front, _, response, rfl, requests, later⟩ := traced
    obtain ⟨middle, back, received, rfl, accepts, decodes⟩ := traces_run_bind_ok_iff.mp later
    obtain ⟨rfl, rfl, succeeds⟩ := traces_accept_ok_iff.mp accepts
    obtain ⟨rfl, read⟩ := Network.traces_decode_ok_iff.mp decodes
    obtain ⟨key, known, rfl⟩ := traces_request_ok_iff.mp requests
    exact ⟨key, received, known, succeeds, read, rfl⟩
  · intro sent
    obtain ⟨key, response, known, succeeds, read, rfl⟩ := sent
    refine ⟨[_], [], response, rfl, traces_request_ok_iff.mpr ⟨key, known, rfl⟩, ?_⟩
    exact traces_run_bind_ok_iff.mpr ⟨[], [], response, rfl,
      traces_accept_ok_iff.mpr ⟨rfl, rfl, succeeds⟩, Network.traces_decode_ok_iff.mpr ⟨rfl, read⟩⟩

variable (distinct : (catalogue.first.map (·.id)).Nodup)
include distinct

theorem sizes_listed {sizes : List Size}
    (served : Served (productsUrl account.zone) showsPage catalogue trace)
    (traced : Traces (service account .listSizes).run trace (.ok sizes)) (size : Size) :
    size ∈ sizes ↔ size ∈ sold account.zone catalogue.first := by
  obtain ⟨key, response, -, succeeds, read, rfl⟩ := traces_listSizes_ok_iff.mp traced
  have pages := served (listRequest account.zone key) (.ok response) List.mem_cons_self
  obtain ⟨json, body, shown⟩ := pages.first rfl succeeds
  obtain ⟨found, decoded, same⟩ := sizes_of_showsPage distinct shown
  rw [decode?_of_body body, decoded] at read
  obtain rfl := Option.some.inj read
  exact same size

/-- Once the first page is shown, its sizes are listed. -/
theorem listSizes_succeeds (known : account.secretKey? = .ok key)
    (succeeds : response.isSuccess = true) (body : Json.ofBytes? response.body = some json)
    (shown : showsPage catalogue.first json = true) :
    ∃ trace sizes, Served (productsUrl account.zone) showsPage catalogue trace ∧
      Traces (service account .listSizes).run trace (.ok sizes) := by
  obtain ⟨sizes, decoded, -⟩ := sizes_of_showsPage distinct shown
  refine ⟨[⟨.send (listRequest account.zone key), .ok response⟩], sizes, ?_, ?_⟩
  · intro request answer member
    cases List.mem_singleton.mp member
    exact .page rfl rfl (.inl ⟨rfl, rfl⟩) succeeds body shown
  · apply traces_listSizes_ok_iff.mpr
    refine ⟨key, response, known, succeeds, ?_, rfl⟩
    rw [decode?_of_body body, decoded]

end Listing

end Scaleway

/-- How much of a catalogue is listed and chosen from.

Both providers list what is sold on the first page of their catalogue, however many pages there
are, and recommend the cheapest of that.  It is all that is sold, and the cheapest of all, exactly
if the later pages sell nothing else, or nothing cheaper that would do.  The names of Scaleway's
products are distinct. -/
theorem catalogue_listed_iff (digitalOcean : DigitalOcean.Account) (offers : Paged DigitalOcean.Offer 200)
    (scaleway : Scaleway.Account) (products : Paged Scaleway.Product 100) :
    (∀ trace, Served DigitalOcean.sizesUrl DigitalOcean.showsPage offers trace →
      ListsFront (DigitalOcean.service digitalOcean) trace (DigitalOcean.sold offers.first)
        (DigitalOcean.sold offers.rest)) ∧
    (∀ trace, (products.whole.map (·.id)).Nodup →
      Served (Scaleway.productsUrl scaleway.zone) Scaleway.showsPage products trace →
      ListsFront (Scaleway.service scaleway) trace (Scaleway.sold scaleway.zone products.first)
        (Scaleway.sold scaleway.zone products.rest)) ∧
    (∀ token (response : Http.Response) json, digitalOcean.token? = .ok token →
      response.isSuccess = true → Json.ofBytes? response.body = some json →
      DigitalOcean.showsPage offers.first json = true →
      ∃ trace, Served DigitalOcean.sizesUrl DigitalOcean.showsPage offers trace ∧
        Traces (DigitalOcean.service digitalOcean .listSizes).run trace
          (.ok (DigitalOcean.sold offers.first))) ∧
    ∀ key (response : Http.Response) json, (products.whole.map (·.id)).Nodup →
      scaleway.secretKey? = .ok key → response.isSuccess = true →
      Json.ofBytes? response.body = some json → Scaleway.showsPage products.first json = true →
      ∃ trace sizes, Served (Scaleway.productsUrl scaleway.zone) Scaleway.showsPage products trace ∧
        Traces (Scaleway.service scaleway .listSizes).run trace (.ok sizes) := by
  have front (distinct : (products.whole.map (·.id)).Nodup) : (products.first.map (·.id)).Nodup := by
    rw [Paged.whole, List.map_append] at distinct
    exact distinct.of_append_left
  refine ⟨?_, ?_, ?_, ?_⟩
  · intro trace served
    apply listsFront (DigitalOcean.choosesFromCatalogue digitalOcean)
    intro sizes traced size
    rw [DigitalOcean.sizes_listed served traced]
  · intro trace distinct served
    apply listsFront (Scaleway.choosesFromCatalogue scaleway)
    intro sizes traced
    exact Scaleway.sizes_listed (front distinct) served traced
  · intro token response json known succeeds body shown
    exact DigitalOcean.listSizes_succeeds known succeeds body shown
  · intro key response json distinct known succeeds body shown
    exact Scaleway.listSizes_succeeds (front distinct) known succeeds body shown

section Truncating

open DigitalOcean

def dearOffer : Offer where
  size := { id := "s-2", vcpus := 2, memoryMb := 4096, diskGb := 60, price := 24, regions := [] }
  isAvailable := true

def cheapOffer : Offer where
  size := { id := "s-1", vcpus := 2, memoryMb := 4096, diskGb := 60, price := 12, regions := [] }
  isAvailable := true

def twoPages : Paged Offer 200 where
  first := [dearOffer]
  later := [[cheapOffer]]
  short := by decide

def firstPage : Http.Response where
  status := 200
  body := Text.Utf8.bytesOf
    "\x7b\"sizes\":[\x7b\"slug\":\"s-2\",\"vcpus\":2,\"memory\":4096,\"disk\":60,\"price_monthly\":24\x7d]\x7d"

theorem firstPage_shown :
    (Json.ofBytes? firstPage.body).any (showsPage twoPages.first) = true := by
  decide +kernel

def noProducts : Paged Scaleway.Product 100 where
  first := []
  later := []
  short := by decide

/-- A cheaper size on the second page is not listed. -/
theorem cheaper_size_missed :
    let account : Account := { token := some "token" }
    ∃ trace sizes, Served sizesUrl showsPage twoPages trace ∧
      Traces (service account .listSizes).run trace (.ok sizes) ∧
      cheapOffer.size ∈ sold twoPages.whole ∧ cheapOffer.size ∉ sizes := by
  obtain ⟨json, body, shown⟩ : ∃ json, Json.ofBytes? firstPage.body = some json ∧
      showsPage twoPages.first json = true := by
    simpa [Option.any_eq_true] using firstPage_shown
  have parts := catalogue_listed_iff { token := some "token" } twoPages {} noProducts
  obtain ⟨trace, served, traced⟩ := parts.2.2.1 "token" firstPage json rfl rfl body shown
  obtain ⟨listed, -⟩ := (parts.1 trace served).listed _ traced
  refine ⟨trace, _, served, traced, by decide, ?_⟩
  rw [listed]
  decide

end Truncating

end Rollout.Provider
