import Rollout.Proofs.Procedure.Network
import Rollout.Provider.Scaleway.Service

namespace Rollout.Provider.Scaleway

open Procedure Network

/-! How a server is created at Scaleway.

The image is resolved, a stopped server is ordered with it, the server is handed its user
data, and then it is started.  Each of these needs what the one before it was answered, so a
server that was not handed its user data is never started.
-/

abbrev Exchanges := Trace Network.Action Network.Action.Result

abbrev Answer := Except String Http.Response

section Requests

variable (account : Account) (order : Order)

def orderZone : String := if order.region.isEmpty then account.zone else order.region

def orderImage : String := order.image.getD account.image

def imagesRequest (key : String) : Http.Request :=
  { method := .get
    url := zoneUrl (orderZone account order) ++ "/images"
    query := [("public", "true"), ("name", orderImage account order), ("arch", account.architecture)]
    headers := [keyHeader key] }

def orderRequest (key image project : String) : Http.Request :=
  { method := .post
    url := zoneUrl (orderZone account order) ++ "/servers"
    headers := [keyHeader key]
    body := .json (orderJson account order image project) }

def userDataRequest (key : String) (server : Reference) (text : String) : Http.Request :=
  { method := .patch
    url := serverUrl server ++ "/user_data/cloud-init"
    headers := [keyHeader key, ("content-type", "text/plain")]
    body := .text text }

def powerOnRequest (key : String) (server : Reference) : Http.Request :=
  { method := .post
    url := serverUrl server ++ "/action"
    headers := [keyHeader key]
    body := .json (.object [("action", .text "poweron")]) }

end Requests

section Answers

def isGranted : Answer → Bool
  | .ok response => !(400 ≤ response.status && response.status < 600)
  | .error _ => false

def isAccepted : Answer → Bool
  | .ok response => response.isSuccess
  | .error _ => false

/-- The image to use, if an answer lists one that suits. -/
def toldImage? (architecture : String) : Answer → Option Image
  | .ok response =>
      if isGranted (.ok response) then
        (response.decode? (list? "images" Image.ofJson?)).bind (Image.newest? · architecture)
      else none
  | .error _ => none

/-- The server that was created, if an answer tells of it. -/
def toldInstance? : Answer → Option Instance
  | .ok response => if response.isSuccess then response.decode? instance? else none
  | .error _ => none

end Answers

section Progress

variable (account : Account) (order : Order)

/-- The image of an order was resolved to an id. -/
inductive Resolved : Exchanges → String → Prop where
  | given (isId : Image.isId (orderImage account order) = true) :
      Resolved [] (orderImage account order)
  | listed {key : String} {answer : Answer} {image : Image}
      (told : toldImage? account.architecture answer = some image) :
      Resolved [⟨.send (imagesRequest account order key), answer⟩] image.id

/-- A stopped server was created with the resolved image. -/
inductive Ordered : Exchanges → Reference → Prop where
  | intro {past : Exchanges} {image key project : String} {answer : Answer} {created : Instance}
      (resolved : Resolved account order past image) (told : toldInstance? answer = some created) :
      Ordered (past ++ [⟨.send (orderRequest account order key image project), answer⟩])
        { zone := orderZone account order, id := created.id }

/-- A server was created and has the user data of its order, if there are any. -/
inductive Prepared : Exchanges → Reference → Prop where
  | bare {past : Exchanges} {server : Reference} (ordered : Ordered account order past server)
      (absent : order.userData = none) : Prepared past server
  | handed {past : Exchanges} {server : Reference} {key text : String} {answer : Answer}
      (ordered : Ordered account order past server) (given : order.userData = some text)
      (accepted : isAccepted answer = true) :
      Prepared (past ++ [⟨.send (userDataRequest key server text), answer⟩]) server

/-- A prepared server was started. -/
inductive Started : Exchanges → Reference → Prop where
  | intro {past : Exchanges} {server : Reference} {key : String} {answer : Answer}
      (prepared : Prepared account order past server) (granted : isGranted answer = true) :
      Started (past ++ [⟨.send (powerOnRequest key server), answer⟩]) server

/-- A request with an answer that it takes to go on. -/
inductive Fulfilled : ((action : Network.Action) × action.Result) → Prop where
  | images {key : String} {answer : Answer} {image : Image}
      (told : toldImage? account.architecture answer = some image) :
      Fulfilled ⟨.send (imagesRequest account order key), answer⟩
  | order {key image project : String} {answer : Answer} {created : Instance}
      (told : toldInstance? answer = some created) :
      Fulfilled ⟨.send (orderRequest account order key image project), answer⟩
  | userData {key text : String} {server : Reference} {answer : Answer}
      (accepted : isAccepted answer = true) :
      Fulfilled ⟨.send (userDataRequest key server text), answer⟩

/-- What may be sent next. -/
inductive Due : Exchanges → Network.Action → Prop where
  | images {key : String} : Due [] (.send (imagesRequest account order key))
  | order {past : Exchanges} {key image project : String}
      (resolved : Resolved account order past image) :
      Due past (.send (orderRequest account order key image project))
  | userData {past : Exchanges} {server : Reference} {key text : String}
      (ordered : Ordered account order past server) (given : order.userData = some text) :
      Due past (.send (userDataRequest key server text))
  | powerOn {past : Exchanges} {server : Reference} {key : String}
      (prepared : Prepared account order past server) :
      Due past (.send (powerOnRequest key server))

end Progress

section Stages

variable {account : Account} {order : Order} {past : Exchanges}
  {fit : Exchanges → Network.Action → Prop}

theorem request_yields {method : Http.Method} {url : String} {body : Http.Body}
    {headers : List (String × String)}
    (isFit : ∀ key, fit past (.send { method, url, headers := keyHeader key :: headers, body })) :
    (request account method url body headers).run.Upholds fit (Yields fun later response => ∃ key,
      later = past ++ [⟨.send { method, url, headers := keyHeader key :: headers, body }, .ok response⟩])
      past := by
  apply upholds_bind_yields (given_yields _)
  intro _ key known
  obtain ⟨rfl, -⟩ := known
  exact (send_yields (isFit key)).mono fun _ _ yields response same => ⟨key, yields response same⟩

theorem accept_yields (response : Http.Response) : (accept response).run.Upholds fit
    (Yields fun later received => later = past ∧ received = response ∧ response.isSuccess = true)
    past := by
  unfold accept
  split
  · rename_i succeeds
    exact upholds_run_pure (yields_ok ⟨rfl, rfl, succeeds⟩)
  · exact upholds_run_throw nofun

theorem ask_yields {method : Http.Method} {url : String} {query : List (String × String)}
    {body : Http.Body}
    (isFit : ∀ key, fit past (.send { method, url, query, headers := [keyHeader key], body })) :
    (ask account method url query body).run.Upholds fit (Yields fun later response =>
      isGranted (.ok response) = true ∧ ∃ key,
        later = past ++ [⟨.send { method, url, query, headers := [keyHeader key], body }, .ok response⟩])
      past := by
  apply upholds_bind_yields (given_yields _)
  intro _ key known
  obtain ⟨rfl, -⟩ := known
  apply upholds_bind_yields (send_yields (isFit key))
  rintro _ response rfl
  split
  · apply upholds_bind_yields (decode_yields _)
    exact fun _ _ _ => upholds_run_throw nofun
  · split
    · exact upholds_run_throw nofun
    · exact upholds_run_pure (yields_ok ⟨by simp [isGranted]; omega, key, rfl⟩)

theorem imageId_yields : (imageId account (orderZone account order) (orderImage account order)).run.Upholds
    (Due account order) (Yields (Resolved account order)) [] := by
  unfold imageId
  split
  · rename_i isId
    exact upholds_run_pure (yields_ok (.given isId))
  · apply upholds_bind_yields (ask_yields fun _ => .images)
    rintro _ response ⟨granted, key, rfl⟩
    apply upholds_bind_yields (decode_yields _)
    rintro _ images ⟨rfl, listed⟩
    split
    · rename_i newest found
      have told : toldImage? account.architecture (.ok response) = some newest := by
        simp [toldImage?, granted, listed, found]
      exact upholds_run_pure (yields_ok (.listed told))
    · exact upholds_run_throw nofun

theorem createStopped_yields {image : String} (resolved : Resolved account order past image) :
    (createStopped account (orderZone account order) image order).run.Upholds (Due account order)
      (Yields fun later created =>
        Ordered account order later { zone := orderZone account order, id := created.id }) past := by
  unfold createStopped
  apply upholds_bind_yields (given_yields _)
  rintro _ project ⟨rfl, -⟩
  apply upholds_bind_yields (request_yields fun _ => .order resolved)
  rintro _ response ⟨key, rfl⟩
  dsimp only
  split
  · exact upholds_run_throw nofun
  · apply upholds_bind_yields (accept_yields response)
    rintro _ _ ⟨rfl, rfl, succeeds⟩
    apply (decode_yields _).mono
    intro later result yields created same
    obtain ⟨rfl, decoded⟩ := yields created same
    exact .intro resolved (by simp [toldInstance?, succeeds, decoded])

theorem start_yields {server : Reference} (prepared : Prepared account order past server)
    (status : String) :
    (do
      act account server "poweron"
      pure { id := server.toText, name := order.name, address := none, status }
        : Network Error Server).run.Upholds (Due account order)
      (Yields fun later started => ∃ server, Started account order later server ∧
        started.id = server.toText) past := by
  apply upholds_bind_yields (discard_yields (ask_yields fun _ => .powerOn prepared))
  rintro _ _ ⟨response, granted, key, rfl⟩
  exact upholds_run_pure (yields_ok ⟨server, .intro prepared granted, rfl⟩)

theorem createServer_yields (account : Account) (order : Order) :
    (createServer account order).run.Upholds (Due account order)
      (Yields fun later started => ∃ server, Started account order later server ∧
        started.id = server.toText) [] := by
  apply upholds_bind_yields imageId_yields
  intro past image resolved
  apply upholds_bind_yields (createStopped_yields resolved)
  intro past created ordered
  cases given : order.userData with
  | none => exact start_yields (.bare ordered given) created.state
  | some text =>
      apply upholds_bind_yields (request_yields fun _ => .userData ordered given)
      rintro _ response ⟨key, rfl⟩
      apply upholds_bind_yields (discard_yields (accept_yields response))
      rintro _ _ ⟨_, rfl, rfl, succeeds⟩
      refine start_yields (.handed ordered given ?_) created.state
      exact succeeds

end Stages

/-- A request for a new server. -/
inductive Orders : Network.Action → Prop where
  | intro {request : Http.Request} {zone : String} (posts : request.method = .post)
      (url : request.url = zoneUrl zone ++ "/servers") : Orders (.send request)

/-- A request for an action on a server. -/
inductive ActsOn : Network.Action → Prop where
  | intro {request : Http.Request} {server : Reference} (posts : request.method = .post)
      (url : request.url = serverUrl server ++ "/action") : ActsOn (.send request)

section Once

variable {account : Account} {order : Order} {past : Exchanges} {request : Http.Request}
  {image : String} {server : Reference} {action : Network.Action}

theorem method_of_orders (orders : Orders (.send request)) : request.method = .post := by
  cases orders with
  | intro posts url => exact posts

theorem method_of_actsOn (acts : ActsOn (.send request)) : request.method = .post := by
  cases acts with
  | intro posts url => exact posts

theorem servers_ne_action (front back : String) : front ++ "/servers" ≠ back ++ "/action" := by
  intro same
  have ends := congrArg (fun url => url.toList.getLast?) same
  simp at ends

theorem not_actsOn_of_orders (orders : Orders action) : ¬ ActsOn action := by
  intro acts
  obtain ⟨_, url⟩ := orders
  obtain ⟨_, actionUrl⟩ := acts
  exact servers_ne_action _ _ (url.symm.trans actionUrl)

theorem orders_orderRequest (key image project : String) :
    Orders (.send (orderRequest account order key image project)) := .intro rfl rfl

theorem actsOn_powerOnRequest (key : String) (server : Reference) :
    ActsOn (.send (powerOnRequest key server)) := .intro rfl rfl

/-- What was exchanged let the creation go on, and no action was asked for. -/
theorem Resolved.fulfilled (resolved : Resolved account order past image) :
    ∀ event ∈ past, Fulfilled account order event ∧ ¬ Orders event.1 ∧ ¬ ActsOn event.1 := by
  cases resolved with
  | given isId => simp
  | listed told =>
      intro event member
      rw [List.mem_singleton.mp member]
      refine ⟨.images told, ?_, ?_⟩
      · intro orders
        cases method_of_orders orders
      · intro acts
        cases method_of_actsOn acts

theorem Ordered.fulfilled (ordered : Ordered account order past server) :
    ∀ event ∈ past, Fulfilled account order event ∧ ¬ ActsOn event.1 := by
  obtain ⟨resolved, told⟩ := ordered
  intro event member
  rcases List.mem_append.mp member with earlier | last
  · obtain ⟨fulfilled, -, passive⟩ := resolved.fulfilled event earlier
    exact ⟨fulfilled, passive⟩
  · rw [List.mem_singleton.mp last]
    exact ⟨.order told, not_actsOn_of_orders (orders_orderRequest _ _ _)⟩

theorem Prepared.fulfilled (prepared : Prepared account order past server) :
    ∀ event ∈ past, Fulfilled account order event ∧ ¬ ActsOn event.1 := by
  cases prepared with
  | bare ordered absent => exact ordered.fulfilled
  | handed ordered given accepted =>
      intro event member
      rcases List.mem_append.mp member with earlier | last
      · exact ordered.fulfilled event earlier
      · rw [List.mem_singleton.mp last]
        refine ⟨.userData accepted, ?_⟩
        intro acts
        cases method_of_actsOn acts

theorem Due.fulfilled (due : Due account order past action) : ∀ event ∈ past, Fulfilled account order event := by
  cases due with
  | images => simp
  | order resolved => exact fun event member => (resolved.fulfilled event member).1
  | userData ordered given => exact fun event member => (ordered.fulfilled event member).1
  | powerOn prepared => exact fun event member => (prepared.fulfilled event member).1

theorem Due.orders (due : Due account order past action) (orders : Orders action) :
    (∀ event ∈ past, ¬ Orders event.1) ∧ ∃ key image project, Resolved account order past image ∧
      action = .send (orderRequest account order key image project) := by
  cases due with
  | images => cases method_of_orders orders
  | order resolved =>
      exact ⟨fun event member => (resolved.fulfilled event member).2.1, _, _, _, resolved, rfl⟩
  | userData ordered given => cases method_of_orders orders
  | powerOn prepared => exact absurd (actsOn_powerOnRequest _ _) (not_actsOn_of_orders orders)

theorem Due.actsOn (due : Due account order past action) (acts : ActsOn action) :
    (∀ event ∈ past, ¬ ActsOn event.1) ∧ ∃ key server, Prepared account order past server ∧
      action = .send (powerOnRequest key server) := by
  cases due with
  | images => cases method_of_actsOn acts
  | order resolved => exact absurd acts (not_actsOn_of_orders (orders_orderRequest _ _ _))
  | userData ordered given => cases method_of_actsOn acts
  | powerOn prepared =>
      exact ⟨fun event member => (prepared.fulfilled event member).2, _, _, prepared, rfl⟩

end Once

/-- A server is started with its user data or not at all.  Nothing is sent behind an answer
that the creation cannot go on with.  One server is ordered at most, with the image that was
resolved before, and at most one action is asked for: to start that server, once it has the
user data of the order.  A creation that succeeds has started the server that it names. -/
theorem started_with_user_data (account : Account) (order : Order) :
    (∀ past action, Raises (service account (.createServer order)).run past action →
      (∀ event ∈ past, Fulfilled account order event) ∧
      (Orders action → (∀ event ∈ past, ¬ Orders event.1) ∧
        ∃ key image project, Resolved account order past image ∧
          action = .send (orderRequest account order key image project)) ∧
      (ActsOn action → (∀ event ∈ past, ¬ ActsOn event.1) ∧
        ∃ key server, Prepared account order past server ∧
          action = .send (powerOnRequest key server))) ∧
    ∀ trace started, Traces (service account (.createServer order)).run trace (.ok started) →
      ∃ server, Started account order trace server ∧ started.id = server.toText := by
  have upholds := createServer_yields account order
  constructor
  · intro past action raises
    have due := upholds.of_raises raises
    exact ⟨due.fulfilled, due.orders, due.actsOn⟩
  · intro trace started traced
    exact upholds.of_traces traced started rfl

end Rollout.Provider.Scaleway
