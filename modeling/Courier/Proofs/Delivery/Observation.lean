import Courier.Delivery.Router

/-!
# The router observed

A router is used for one message after another. It is observed through collaborators that note what
they are asked and what they answer, and through callbacks that note when they are called; apart
from that they behave as the given ones. A path calls the callback that it got from the router in
its given form, so that a noted callback is one that the router itself has called. What is observed
of any number of requests is accounted for request by request.
-/

namespace Courier.Delivery

variable {σ : Type}

/-- What a router can be asked: to send a message or to hand it over again. -/
structure Request (σ : Type) where
  mode : DeliveryMode
  message : Outgoing
  callback : Option (Callback σ)

/-- Something that a router does. -/
inductive Observation (σ : Type)
  /-- It looks up whether a chat is a group. -/
  | lookup (chatId : String) (answer : Except StoreError Bool)
  /-- It calls the path for groups or the one for direct chats. -/
  | delivery (isGroup : Bool) (request : Request σ) (answer : Except DeliveryError Unit)
  /-- It calls a callback. -/
  | callback (success : Bool)

/-- A state together with all that was observed so far. -/
abbrev Observed (σ : Type) :=
  σ × List (Observation σ)

/-- An action that is noted once it has answered. -/
def observed {α : Type} (note : α → Observation σ) (action : StateM σ α) :
    StateM (Observed σ) α :=
  fun (state, seen) =>
    let (answer, after) := action state
    (answer, after, seen ++ [note answer])

namespace Callback

/-- A callback that notes its calls. -/
def observed (callback : Callback σ) : Callback (Observed σ) :=
  fun success => Delivery.observed (fun _ => .callback success) (callback success)

/-- What a callback does apart from notes. -/
def plain (callback : Callback (Observed σ)) : Callback σ :=
  fun success state => ((), (callback success (state, [])).2.1)

theorem map_plain_observed (callback : Option (Callback σ)) :
    (callback.map observed).map plain = callback := by
  cases callback <;> rfl

end Callback

/-- A request with a callback that notes its calls. -/
def Request.observed (request : Request σ) : Request (Observed σ) where
  mode := request.mode
  message := request.message
  callback := request.callback.map Callback.observed

/-- A path that notes its calls with all that it was given. -/
def DeliveryPath.observed (path : DeliveryPath σ) (isGroup : Bool) : DeliveryPath (Observed σ) :=
  fun mode message callback =>
    let request : Request σ := ⟨mode, message, callback.map Callback.plain⟩
    Delivery.observed (.delivery isGroup request) (path mode message request.callback)

namespace Router

/-- The router over the same collaborators, with all that it asks of them noted. -/
def observed (router : Router σ) : Router (Observed σ) where
  isGroup chatId := Delivery.observed (.lookup chatId) (router.isGroup chatId)
  direct := router.direct.observed false
  group := router.group.observed true
  record event := fun (state, seen) => ((), (router.record event state).2, seen)

theorem path_observed (router : Router σ) (isGroup : Bool) :
    router.observed.path isGroup = (router.path isGroup).observed isGroup := by
  cases isGroup <;> rfl

/-- Carries out a request. -/
def handle (router : Router σ) (request : Request σ) : StateM σ (Except RouteError Unit) :=
  router.dispatch request.mode request.message request.callback

/-- Carries out requests one after another. -/
def handleAll (router : Router σ) (requests : List (Request σ)) :
    StateM σ (List (Except RouteError Unit)) :=
  requests.mapM router.handle

end Router

/-! ## Accounts -/

/-- What became of a request: the failure of the lookup, or the kind of the chat and the answer of
the path. -/
structure Account (σ : Type) where
  request : Request σ
  outcome : Except StoreError (Bool × Except DeliveryError Unit)

namespace Account

/-- What the router does for the request: one lookup, and if that succeeds one call of the path for
the kind of the chat, with the request as it is. -/
def observations (account : Account σ) : List (Observation σ) :=
  match account.outcome with
  | .error error => [.lookup account.request.message.chatId (.error error)]
  | .ok (isGroup, answer) =>
    [.lookup account.request.message.chatId (.ok isGroup),
      .delivery isGroup account.request answer]

/-- What the router answers to the request: the failure of the lookup, or the answer of the path. -/
def result (account : Account σ) : Except RouteError Unit :=
  match account.outcome with
  | .error error => .error (.chatLookup error)
  | .ok (_, answer) => answer.mapError .delivery

theorem not_mem_observations (account : Account σ) (success : Bool) :
    .callback success ∉ account.observations := by
  unfold observations
  cases account.outcome <;> simp

end Account

/-! ## One request -/

section

variable {router : Router σ} {request : Request σ} {state looked after : σ}

theorem Router.handle_of_error {error : StoreError}
    (hlookup : router.isGroup request.message.chatId state = (.error error, looked)) :
    router.handle request state = (.error (.chatLookup error), looked) := by
  simp only [handle, dispatch, bind, StateT.bind, hlookup]
  rfl

/-- The path acts on the state that the lookup and the log have left. -/
theorem Router.handle_of_ok {isGroup : Bool} {answer : Except DeliveryError Unit}
    (hlookup : router.isGroup request.message.chatId state = (.ok isGroup, looked))
    (hpath : router.path isGroup request.mode request.message request.callback
      (router.record (routedEvent request.mode request.message isGroup) looked).2 =
        (answer, after)) :
    router.handle request state = (answer.mapError .delivery, after) := by
  simp only [handle, dispatch, bind, StateT.bind, hlookup]
  cases hrecord : router.record (routedEvent request.mode request.message isGroup) looked with
  | mk _ logged =>
      rw [hrecord] at hpath
      simp only [hpath]
      cases answer <;> rfl

theorem DeliveryPath.observed_eq (path : DeliveryPath σ) (isGroup : Bool)
    {answer : Except DeliveryError Unit}
    (h : path request.mode request.message request.callback state = (answer, after))
    (seen : List (Observation σ)) :
    path.observed isGroup request.mode request.message request.observed.callback (state, seen) =
      (answer, after, seen ++ [.delivery isGroup request answer]) := by
  unfold DeliveryPath.observed Delivery.observed
  simp only [Request.observed, Callback.map_plain_observed, h]

end

/-- A request is carried out as it is accounted for, whether it is observed or not. -/
theorem Router.exists_account (router : Router σ) (request : Request σ) (state : σ)
    (seen : List (Observation σ)) :
    ∃ (account : Account σ) (after : σ), account.request = request ∧
      router.handle request state = (account.result, after) ∧
      router.observed.handle request.observed (state, seen) =
        (account.result, after, seen ++ account.observations) := by
  cases hlookup : router.isGroup request.message.chatId state with
  | mk answer looked =>
      have hobserved : router.observed.isGroup request.message.chatId (state, seen) =
          (answer, looked, seen ++ [.lookup request.message.chatId answer]) := by
        simp only [Router.observed, Delivery.observed, hlookup]
      cases answer with
      | error error =>
          exact ⟨⟨request, .error error⟩, looked, rfl, handle_of_error hlookup,
            handle_of_error hobserved⟩
      | ok isGroup =>
          cases hpath : router.path isGroup request.mode request.message request.callback
              (router.record (routedEvent request.mode request.message isGroup) looked).2 with
          | mk answer after =>
              have hseen := (router.path isGroup).observed_eq isGroup hpath
                (seen ++ [.lookup request.message.chatId (.ok isGroup)])
              rw [← path_observed, List.append_assoc] at hseen
              exact ⟨⟨request, .ok (isGroup, answer)⟩, after, rfl, handle_of_ok hlookup hpath,
                handle_of_ok hobserved hseen⟩

/-! ## Many requests -/

theorem Router.handleAll_cons (router : Router σ) (request : Request σ)
    (requests : List (Request σ)) {state middle after : σ} {result : Except RouteError Unit}
    {results : List (Except RouteError Unit)}
    (hfirst : router.handle request state = (result, middle))
    (hrest : router.handleAll requests middle = (results, after)) :
    router.handleAll (request :: requests) state = (result :: results, after) := by
  rw [handleAll] at hrest
  simp only [handleAll, List.mapM_cons, bind, StateT.bind, hfirst, hrest]
  rfl

theorem Router.exists_accounts (router : Router σ) (requests : List (Request σ)) (state : σ)
    (seen : List (Observation σ)) :
    ∃ (accounts : List (Account σ)) (after : σ), accounts.map Account.request = requests ∧
      router.handleAll requests state = (accounts.map Account.result, after) ∧
      router.observed.handleAll (requests.map Request.observed) (state, seen) =
        (accounts.map Account.result, after, seen ++ accounts.flatMap Account.observations) := by
  induction requests generalizing state seen with
  | nil =>
      refine ⟨[], state, rfl, rfl, ?_⟩
      rw [List.flatMap_nil, List.append_nil]
      rfl
  | cons request requests ih =>
      obtain ⟨account, middle, rfl, hhandle, hobserved⟩ :=
        router.exists_account request state seen
      obtain ⟨accounts, after, rfl, hrest, hobservedRest⟩ :=
        ih middle (seen ++ account.observations)
      rw [List.append_assoc] at hobservedRest
      exact ⟨account :: accounts, after, rfl, handleAll_cons router _ _ hhandle hrest,
        handleAll_cons router.observed _ _ hobserved hobservedRest⟩

/-- Whatever its collaborators answer and remember, a router accounts for all that it is asked. For
each request in turn it looks up the chat; if that fails it answers with the failure and does
nothing else, and if not it calls the path for the kind of the chat, once and with the request as it
is, and passes on the answer. It does nothing besides, so it never calls a callback, and observing
it changes nothing. -/
theorem handleAll_accountedFor (router : Router σ) (requests : List (Request σ)) (state : σ) :
    ∃ (accounts : List (Account σ)) (after : σ) (seen : List (Observation σ)),
      router.handleAll requests state = (accounts.map Account.result, after) ∧
      router.observed.handleAll (requests.map Request.observed) (state, []) =
        (accounts.map Account.result, after, seen) ∧
      accounts.map Account.request = requests ∧
      seen = accounts.flatMap Account.observations ∧
      ∀ success, .callback success ∉ seen := by
  obtain ⟨accounts, after, hrequests, hplain, hobserved⟩ :=
    router.exists_accounts requests state []
  refine ⟨accounts, after, _, hplain, hobserved, hrequests, rfl, ?_⟩
  intro success hmem
  obtain ⟨account, -, hcalled⟩ := List.mem_flatMap.mp hmem
  exact account.not_mem_observations success hcalled

end Courier.Delivery
