import Courier.Inbox.Receive

/-!
# The calls of receiving

Receiving is a protocol between the message and its collaborators, whatever these are: each may
answer anything, fail, and remember all that was asked of any of them before. The calls are observed
by collaborators that note each call with its answer and otherwise behave as the given ones. Which
lists of calls there can be, and with which result, is said along the functions of receiving. Each
rule of the protocol is read off from that in as many steps: what holds of the calls that announce a
message is carried over to those that keep it, and then to all.
-/

namespace Courier.Inbox

variable {σ : Type}

/-! ## Calls and their notes -/

/-- A call to a collaborator with its answer. -/
inductive Call
  | connection (chatId : String) (answer : Except StoreError Connection)
  | permissions (chatId : String) (kind : ChatKind) (answer : Except StoreError Permissions)
  | isReceived (chatId messageId : String) (answer : Except StoreError Bool)
  | save (message : Inbound) (answer : Except StoreError Bool)
  | update (update : SummaryUpdate) (change : UnreadChange) (answer : Except StoreError Unit)
  | discard (chatId messageId : String) (answer : Except StoreError Unit)
  | notify (notice : Notice)

/-- The calls there are, without arguments and answers. -/
inductive Step
  | connection
  | permissions
  | isReceived
  | save
  | update
  | discard
  | notify
  deriving DecidableEq

namespace Call

/-- Which call it is. -/
def step : Call → Step
  | connection _ _ => .connection
  | permissions _ _ _ => .permissions
  | isReceived _ _ _ => .isReceived
  | save _ _ => .save
  | update _ _ _ => .update
  | discard _ _ _ => .discard
  | notify _ => .notify

/-- A call names the chat of a message and, where it names a message, this one. -/
def IsAbout (message : Inbound) : Call → Prop
  | connection chatId _ | permissions chatId _ _ => chatId = message.chatId
  | isReceived chatId messageId _ | discard chatId messageId _ =>
    chatId = message.chatId ∧ messageId = message.messageId
  | save saved _ => saved = message
  | update entered _ _ =>
    entered.chatId = message.chatId ∧ entered.latestMessageId = message.messageId
  | notify shown => shown.chatId = message.chatId

/-- The failure that a call ends receiving with, if it does. A message that cannot be taken back is
none. -/
def failure? : Call → Option ReceiveError
  | connection _ (.error error) => some (.connection error)
  | connection chatId (.ok found) =>
    if found.kind = .direct then none else some (.notDirectChat chatId found.kind)
  | permissions _ _ (.error error) => some (.permissions error)
  | isReceived _ _ (.error error) => some (.guard error)
  | save _ (.error error) => some (.persist error)
  | update _ _ (.error error) => some (.connectionUpdate error)
  | _ => none

end Call

/-- An action that is noted as a call once it has answered. -/
def noted {α : Type} (call : α → Call) (action : StateM σ α) : StateM (σ × List Call) α :=
  fun (state, calls) =>
    let (answer, after) := action state
    (answer, after, calls ++ [call answer])

/-- The same collaborators, with all calls noted. Events of the log are not calls. -/
def Services.noted (services : Services σ) : Services (σ × List Call) where
  connection chatId := Inbox.noted (.connection chatId) (services.connection chatId)
  permissions chatId kind :=
    Inbox.noted (.permissions chatId kind) (services.permissions chatId kind)
  isReceived chatId messageId :=
    Inbox.noted (.isReceived chatId messageId) (services.isReceived chatId messageId)
  save message := Inbox.noted (.save message) (services.save message)
  update update change := Inbox.noted (.update update change) (services.update update change)
  discard chatId messageId :=
    Inbox.noted (.discard chatId messageId) (services.discard chatId messageId)
  notify notice := Inbox.noted (fun _ => .notify notice) (services.notify notice)
  record event := fun (state, calls) => ((), (services.record event state).2, calls)

/-- An action over the noting collaborators answers as the one over the given collaborators, leaves
them in the same state, and adds calls to the notes that it allows with its answer. -/
def Notes {α : Type} (action : StateM σ α) (observed : StateM (σ × List Call) α)
    (Allowed : List Call → α → Prop) : Prop :=
  ∀ state calls, ∃ made answer after, action state = (answer, after) ∧
    observed (state, calls) = (answer, after, calls ++ made) ∧ Allowed made answer

namespace Notes

variable {α β : Type} {action : StateM σ α} {observed : StateM (σ × List Call) α}
  {next : α → StateM σ β} {observedNext : α → StateM (σ × List Call) β}
  {Allowed : List Call → β → Prop}

theorem pure {Allowed : List Call → α → Prop} {answer : α} (h : Allowed [] answer) :
    Notes (σ := σ) (Pure.pure answer) (Pure.pure answer) Allowed := by
  intro state calls
  exact ⟨[], answer, state, rfl, by rw [List.append_nil]; rfl, h⟩

/-- A noted call stands before the calls that follow its answer. -/
theorem call (call : α → Call)
    (h : ∀ answer, Notes (next answer) (observedNext answer)
      fun made => Allowed (call answer :: made)) :
    Notes (action >>= next) (noted call action >>= observedNext) Allowed := by
  intro state calls
  obtain ⟨made, result, after, hplain, hobserved, hallowed⟩ :=
    h (action state).1 (action state).2 (calls ++ [call (action state).1])
  refine ⟨_, result, after, hplain, ?_, hallowed⟩
  rw [List.append_assoc] at hobserved
  exact hobserved

/-- An event of the log is no call. -/
theorem event {services : Services σ} {event : Log.Event}
    {next : Unit → StateM σ β} {observedNext : Unit → StateM (σ × List Call) β}
    (h : Notes (next ()) (observedNext ()) Allowed) :
    Notes (services.record event >>= next) (services.noted.record event >>= observedNext)
      Allowed := by
  intro state calls
  exact h (services.record event state).2 calls

theorem mono {Allowed Other : List Call → α → Prop} (h : Notes action observed Allowed)
    (himp : ∀ made answer, Allowed made answer → Other made answer) :
    Notes action observed Other := by
  intro state calls
  obtain ⟨made, answer, after, hplain, hobserved, hallowed⟩ := h state calls
  exact ⟨made, answer, after, hplain, hobserved, himp _ _ hallowed⟩

end Notes

/-! ## The lists of calls -/

/-- The calls after a message was saved. -/
inductive Announcing (connection : Connection) (permissions : Permissions) (message : Inbound) :
    List Call → Except ReceiveError Outcome → Prop
  | takenBack (error : StoreError) (answer : Except StoreError Unit) :
    Announcing connection permissions message
      [.update (summaryUpdate message) .increment (.error error),
        .discard message.chatId message.messageId answer]
      (.error (.connectionUpdate error))
  | shown (hallowed : permissions.notifications = true) :
    Announcing connection permissions message
      [.update (summaryUpdate message) .increment (.ok ()), .notify (notice connection message)]
      (.ok (.processed true))
  | silent (hallowed : permissions.notifications = false) :
    Announcing connection permissions message
      [.update (summaryUpdate message) .increment (.ok ())] (.ok (.processed false))

/-- The calls once a message may be kept. -/
inductive Keeping (connection : Connection) (permissions : Permissions) (message : Inbound) :
    List Call → Except ReceiveError Outcome → Prop
  | unguarded (error : StoreError) :
    Keeping connection permissions message
      [.isReceived message.chatId message.messageId (.error error)] (.error (.guard error))
  | received :
    Keeping connection permissions message
      [.isReceived message.chatId message.messageId (.ok true)] (.ok .duplicate)
  | unsaved (error : StoreError) :
    Keeping connection permissions message
      [.isReceived message.chatId message.messageId (.ok false), .save message (.error error)]
      (.error (.persist error))
  | savedBefore :
    Keeping connection permissions message
      [.isReceived message.chatId message.messageId (.ok false), .save message (.ok false)]
      (.ok .duplicate)
  | saved {made : List Call} {result : Except ReceiveError Outcome}
      (hrest : Announcing connection permissions message made result) :
    Keeping connection permissions message
      (.isReceived message.chatId message.messageId (.ok false) :: .save message (.ok true) :: made)
      result

/-- The calls for a received message. -/
inductive Receiving (message : Inbound) : List Call → Except ReceiveError Outcome → Prop
  | unknown (error : StoreError) :
    Receiving message [.connection message.chatId (.error error)] (.error (.connection error))
  | notDirect {connection : Connection} (hkind : connection.kind ≠ .direct) :
    Receiving message [.connection message.chatId (.ok connection)]
      (.error (.notDirectChat message.chatId connection.kind))
  | unpermitted {connection : Connection} (hkind : connection.kind = .direct)
      (error : StoreError) :
    Receiving message
      [.connection message.chatId (.ok connection),
        .permissions message.chatId .direct (.error error)]
      (.error (.permissions error))
  | direct {connection : Connection} (hkind : connection.kind = .direct)
      {permissions : Permissions} {made : List Call} {result : Except ReceiveError Outcome}
      (hrest : Keeping connection permissions message made result) :
    Receiving message
      (.connection message.chatId (.ok connection) ::
        .permissions message.chatId .direct (.ok permissions) :: made) result

section

variable (services : Services σ) (message : Inbound)

theorem notes_skip {Allowed : List Call → Except ReceiveError Outcome → Prop}
    (h : Allowed [] (.ok .duplicate)) :
    Notes (skip services message) (skip services.noted message) Allowed :=
  .event (.pure h)

theorem notes_rollBack (error : StoreError) :
    Notes (rollBack services message error) (rollBack services.noted message error)
      fun made result => ∃ answer, made = [.discard message.chatId message.messageId answer] ∧
        result = .error (.connectionUpdate error) := by
  refine .call _ fun answer => ?_
  cases answer with
  | error failure => exact .event (.pure ⟨_, rfl, rfl⟩)
  | ok _ => exact .pure ⟨_, rfl, rfl⟩

theorem notes_announce (connection : Connection) (permissions : Permissions) :
    Notes (announce services connection permissions message)
      (announce services.noted connection permissions message)
      (Announcing connection permissions message) := by
  refine .call _ fun answer => ?_
  cases answer with
  | error error =>
      refine (notes_rollBack services message error).mono ?_
      rintro made result ⟨answer, rfl, rfl⟩
      exact .takenBack error answer
  | ok _ =>
      by_cases hallowed : permissions.notifications = true
      · simp only [hallowed, if_true]
        refine .call (fun _ => .notify (notice connection message)) fun _ => ?_
        exact .event (.pure (.shown hallowed))
      · simp only [hallowed, if_false, Bool.false_eq_true]
        exact .event (.pure (.silent (Bool.eq_false_iff.mpr hallowed)))

theorem notes_keep (connection : Connection) (permissions : Permissions) :
    Notes (keep services connection permissions message)
      (keep services.noted connection permissions message)
      (Keeping connection permissions message) := by
  refine .call _ fun answer => ?_
  match answer with
  | .error error => exact .pure (.unguarded error)
  | .ok true => exact notes_skip services message .received
  | .ok false =>
      refine .call _ fun answer => ?_
      match answer with
      | .error error => exact .pure (.unsaved error)
      | .ok false => exact notes_skip services message .savedBefore
      | .ok true =>
          exact (notes_announce services message connection permissions).mono
            fun _ _ h => .saved h

/-- The calls for a received message are among the listed ones. -/
theorem notes_receive :
    Notes (receive services message) (receive services.noted message) (Receiving message) := by
  refine .call _ fun answer => ?_
  match answer with
  | .error error => exact .pure (.unknown error)
  | .ok connection =>
      by_cases hkind : connection.kind = .direct
      · simp only [hkind, ne_eq, not_true_eq_false, if_false]
        refine .call _ fun answer => ?_
        match answer with
        | .error error => exact .pure (.unpermitted hkind error)
        | .ok permissions =>
            exact (notes_keep services message connection permissions).mono
              fun _ _ h => .direct hkind h
      · simp only [ne_eq, hkind, not_false_eq_true, if_true]
        exact .pure (.notDirect hkind)

end

/-! ## The order of the calls -/

/-- The calls that come one after the other as long as nothing ends receiving. -/
def Step.inOrder : List Step := [.connection, .permissions, .isReceived, .save, .update]

/-- Whether calls come in this order and break off anywhere, or go through all of it and end with
the message taken back or shown. -/
def KeepsOrder (order : List Step) (calls : List Call) : Prop :=
  calls.map Call.step <+: order ∨
    calls.map Call.step = order ++ [.discard] ∨
    calls.map Call.step = order ++ [.notify]

namespace KeepsOrder

variable {order : List Step} {calls : List Call}

theorem cons (call : Call) (h : KeepsOrder order calls) :
    KeepsOrder (call.step :: order) (call :: calls) := by
  rcases h with h | h | h
  · exact .inl (List.cons_prefix_cons.mpr ⟨rfl, h⟩)
  · exact .inr (.inl (congrArg (call.step :: ·) h))
  · exact .inr (.inr (congrArg (call.step :: ·) h))

theorem sublist (h : KeepsOrder order calls) :
    (calls.map Call.step).Sublist (order ++ [.discard, .notify]) := by
  rcases h with h | h | h
  · exact h.sublist.trans (List.sublist_append_left _ _)
  · rw [h]
    exact (List.Sublist.refl order).append (by decide)
  · rw [h]
    exact (List.Sublist.refl order).append (by decide)

/-- Calls in order are not made twice. -/
theorem nodup (h : KeepsOrder order calls) (horder : (order ++ [Step.discard, Step.notify]).Nodup) :
    (calls.map Call.step).Nodup :=
  h.sublist.nodup horder

theorem notMem (h : KeepsOrder order calls) {call : Call}
    (hcall : call.step ∉ order ++ [Step.discard, Step.notify]) : call ∉ calls :=
  fun hmem => hcall (h.sublist.subset (List.mem_map_of_mem hmem))

end KeepsOrder

section

variable {connection : Connection} {permissions : Permissions} {message : Inbound}
  {calls made : List Call} {result : Except ReceiveError Outcome}

theorem Announcing.keepsOrder (h : Announcing connection permissions message made result) :
    KeepsOrder [.update] made := by
  cases h with
  | takenBack error answer => exact .inr (.inl rfl)
  | shown hallowed => exact .inr (.inr rfl)
  | silent hallowed => exact .inl (List.prefix_refl _)

theorem Keeping.keepsOrder (h : Keeping connection permissions message made result) :
    KeepsOrder [.isReceived, .save, .update] made := by
  cases h with
  | unguarded error | received => exact .inl ⟨[.save, .update], rfl⟩
  | unsaved error | savedBefore => exact .inl ⟨[.update], rfl⟩
  | saved hrest => exact (hrest.keepsOrder.cons _).cons _

theorem Receiving.keepsOrder (h : Receiving message calls result) :
    KeepsOrder Step.inOrder calls := by
  cases h with
  | unknown error | notDirect hkind =>
      exact .inl ⟨[.permissions, .isReceived, .save, .update], rfl⟩
  | unpermitted hkind error => exact .inl ⟨[.isReceived, .save, .update], rfl⟩
  | direct hkind hrest => exact (hrest.keepsOrder.cons _).cons _

/-! ## What the calls are about -/

theorem Announcing.isAbout (h : Announcing connection permissions message made result) :
    ∀ call ∈ made, call.IsAbout message := by
  cases h with
  | takenBack error answer => simp [Call.IsAbout, summaryUpdate]
  | shown hallowed => simp [Call.IsAbout, summaryUpdate, notice]
  | silent hallowed => simp [Call.IsAbout, summaryUpdate]

theorem Keeping.isAbout (h : Keeping connection permissions message made result) :
    ∀ call ∈ made, call.IsAbout message := by
  cases h with
  | unguarded error | received | unsaved error | savedBefore => simp [Call.IsAbout]
  | saved hrest => simpa [Call.IsAbout] using hrest.isAbout

theorem Receiving.isAbout (h : Receiving message calls result) :
    ∀ call ∈ calls, call.IsAbout message := by
  cases h with
  | unknown error | notDirect hkind | unpermitted hkind error => simp [Call.IsAbout]
  | direct hkind hrest => simpa [Call.IsAbout] using hrest.isAbout

/-! ## Looking up -/

theorem Keeping.connection_notMem (h : Keeping connection permissions message made result)
    (chatId : String) (answer : Except StoreError Connection) :
    .connection chatId answer ∉ made :=
  h.keepsOrder.notMem (by simp [Call.step])

theorem Keeping.permissions_notMem (h : Keeping connection permissions message made result)
    (chatId : String) (kind : ChatKind) (answer : Except StoreError Permissions) :
    .permissions chatId kind answer ∉ made :=
  h.keepsOrder.notMem (by simp [Call.step])

theorem Receiving.looksUp (h : Receiving message calls result) :
    ∃ answer, calls.head? = some (.connection message.chatId answer) := by
  cases h with
  | unknown error | notDirect hkind => exact ⟨_, rfl⟩
  | unpermitted hkind error | direct hkind hrest => exact ⟨_, rfl⟩

theorem Receiving.onlyDirect (h : Receiving message calls result) (hmore : 1 < calls.length) :
    ∃ connection, .connection message.chatId (.ok connection) ∈ calls ∧
      connection.kind = .direct := by
  cases h with
  | unknown error | notDirect hkind => exact absurd hmore (Nat.lt_irrefl 1)
  | unpermitted hkind error | direct hkind hrest => exact ⟨_, List.mem_cons_self, hkind⟩

theorem Receiving.asks_iff (h : Receiving message calls result) :
    .permissions ∈ calls.map Call.step ↔ ∃ connection,
      .connection message.chatId (.ok connection) ∈ calls ∧ connection.kind = .direct := by
  cases h with
  | unknown error => simp [Call.step]
  | notDirect hkind | unpermitted hkind error => simpa [Call.step] using hkind
  | direct hkind hrest => simpa [Call.step, hrest.connection_notMem] using hkind

theorem Receiving.asksForDirect (h : Receiving message calls result) {chatId : String}
    {kind : ChatKind} {answer : Except StoreError Permissions}
    (hmem : .permissions chatId kind answer ∈ calls) : kind = .direct := by
  cases h with
  | unknown error | notDirect hkind => simp at hmem
  | unpermitted hkind error =>
      rcases hmem with _ | ⟨_, _ | ⟨_, ⟨⟩⟩⟩
      rfl
  | direct hkind hrest =>
      rcases hmem with _ | ⟨_, _ | ⟨_, hmem⟩⟩
      · rfl
      · exact absurd hmem (hrest.permissions_notMem _ _ _)

/-! ## Keeping -/

theorem Keeping.checks (h : Keeping connection permissions message made result) :
    .isReceived ∈ made.map Call.step := by
  cases h with
  | unguarded error | received | unsaved error | savedBefore => simp [Call.step]
  | saved hrest => simp [Call.step]

theorem Receiving.checks_iff (h : Receiving message calls result) :
    .isReceived ∈ calls.map Call.step ↔ ∃ permissions,
      .permissions message.chatId .direct (.ok permissions) ∈ calls := by
  cases h with
  | unknown error | notDirect hkind | unpermitted hkind error => simp [Call.step]
  | direct hkind hrest => simp [hrest.checks, hrest.permissions_notMem]

theorem Keeping.saves_iff (h : Keeping connection permissions message made result) :
    .save ∈ made.map Call.step ↔
      .isReceived message.chatId message.messageId (.ok false) ∈ made := by
  cases h with
  | unguarded error | received | unsaved error | savedBefore => simp [Call.step]
  | saved hrest => simp [Call.step]

theorem Receiving.saves_iff (h : Receiving message calls result) :
    .save ∈ calls.map Call.step ↔ ∃ connection permissions,
      .connection message.chatId (.ok connection) ∈ calls ∧
      .permissions message.chatId .direct (.ok permissions) ∈ calls ∧
      .isReceived message.chatId message.messageId (.ok false) ∈ calls := by
  cases h with
  | unknown error | notDirect hkind | unpermitted hkind error => simp [Call.step]
  | direct hkind hrest =>
      simp [Call.step, hrest.saves_iff, hrest.connection_notMem, hrest.permissions_notMem]

/-! ## Changing the summary -/

theorem Announcing.updates (h : Announcing connection permissions message made result) :
    .update ∈ made.map Call.step := by
  cases h with
  | takenBack error answer | shown hallowed | silent hallowed => simp [Call.step]

theorem Keeping.updates_iff (h : Keeping connection permissions message made result) :
    .update ∈ made.map Call.step ↔ .save message (.ok true) ∈ made := by
  cases h with
  | unguarded error | received | unsaved error | savedBefore => simp [Call.step]
  | saved hrest => simp [hrest.updates]

theorem Receiving.updates_iff (h : Receiving message calls result) :
    .update ∈ calls.map Call.step ↔ .save message (.ok true) ∈ calls := by
  cases h with
  | unknown error | notDirect hkind | unpermitted hkind error => simp [Call.step]
  | direct hkind hrest => simp [Call.step, hrest.updates_iff]

section

variable {update : SummaryUpdate} {change : UnreadChange} {answer : Except StoreError Unit}

theorem Announcing.updatesTo (h : Announcing connection permissions message made result)
    (hmem : .update update change answer ∈ made) :
    change = .increment ∧ update = summaryUpdate message := by
  cases h with
  | takenBack error answer | shown hallowed =>
      rcases hmem with _ | ⟨_, _ | ⟨_, ⟨⟩⟩⟩
      exact ⟨rfl, rfl⟩
  | silent hallowed =>
      rcases hmem with _ | ⟨_, ⟨⟩⟩
      exact ⟨rfl, rfl⟩

theorem Keeping.updatesTo (h : Keeping connection permissions message made result)
    (hmem : .update update change answer ∈ made) :
    change = .increment ∧ update = summaryUpdate message := by
  cases h with
  | unguarded error | received | unsaved error | savedBefore => simp at hmem
  | saved hrest => exact hrest.updatesTo (by simpa using hmem)

theorem Receiving.updatesTo (h : Receiving message calls result)
    (hmem : .update update change answer ∈ calls) :
    change = .increment ∧ update = summaryUpdate message := by
  cases h with
  | unknown error | notDirect hkind | unpermitted hkind error => simp at hmem
  | direct hkind hrest => exact hrest.updatesTo (by simpa using hmem)

end

/-! ## Taking back and showing -/

theorem Announcing.discards_iff (h : Announcing connection permissions message made result) :
    .discard ∈ made.map Call.step ↔
      ∃ update change error, .update update change (.error error) ∈ made := by
  cases h with
  | takenBack error answer | shown hallowed | silent hallowed => simp [Call.step]

theorem Keeping.discards_iff (h : Keeping connection permissions message made result) :
    .discard ∈ made.map Call.step ↔
      ∃ update change error, .update update change (.error error) ∈ made := by
  cases h with
  | unguarded error | received | unsaved error | savedBefore => simp [Call.step]
  | saved hrest => simp [Call.step, hrest.discards_iff]

theorem Receiving.discards_iff (h : Receiving message calls result) :
    .discard ∈ calls.map Call.step ↔
      ∃ update change error, .update update change (.error error) ∈ calls := by
  cases h with
  | unknown error | notDirect hkind | unpermitted hkind error => simp [Call.step]
  | direct hkind hrest => simp [Call.step, hrest.discards_iff]

theorem Announcing.notifies_iff (h : Announcing connection permissions message made result)
    (shown : Notice) : .notify shown ∈ made ↔
      (∃ update change, .update update change (.ok ()) ∈ made) ∧
        permissions.notifications = true ∧ shown = notice connection message := by
  cases h with
  | takenBack error answer => simp
  | shown hallowed | silent hallowed => simp [hallowed]

theorem Keeping.notifies_iff (h : Keeping connection permissions message made result)
    (shown : Notice) : .notify shown ∈ made ↔
      (∃ update change, .update update change (.ok ()) ∈ made) ∧
        permissions.notifications = true ∧ shown = notice connection message := by
  cases h with
  | unguarded error | received | unsaved error | savedBefore => simp
  | saved hrest => simp [hrest.notifies_iff]

theorem Receiving.notifies_iff (h : Receiving message calls result) (shown : Notice) :
    .notify shown ∈ calls ↔ ∃ connection permissions update change,
      .connection message.chatId (.ok connection) ∈ calls ∧
      .permissions message.chatId .direct (.ok permissions) ∈ calls ∧
      .update update change (.ok ()) ∈ calls ∧
      permissions.notifications = true ∧ shown = notice connection message := by
  cases h with
  | unknown error | notDirect hkind | unpermitted hkind error => simp
  | direct hkind hrest =>
      simp [hrest.notifies_iff, hrest.connection_notMem, hrest.permissions_notMem]

/-! ## Results -/

theorem Announcing.fails_iff (h : Announcing connection permissions message made result)
    (failure : ReceiveError) :
    result = .error failure ↔ ∃ call ∈ made, call.failure? = some failure := by
  cases h with
  | takenBack error answer | shown hallowed | silent hallowed => simp [Call.failure?]

theorem Keeping.fails_iff (h : Keeping connection permissions message made result)
    (failure : ReceiveError) :
    result = .error failure ↔ ∃ call ∈ made, call.failure? = some failure := by
  cases h with
  | unguarded error | received | unsaved error | savedBefore => simp [Call.failure?]
  | saved hrest => simp [Call.failure?, hrest.fails_iff]

theorem Receiving.fails_iff (h : Receiving message calls result) (failure : ReceiveError) :
    result = .error failure ↔ ∃ call ∈ calls, call.failure? = some failure := by
  cases h with
  | unknown error => simp [Call.failure?]
  | notDirect hkind | unpermitted hkind error => simp [Call.failure?, hkind]
  | direct hkind hrest => simp [Call.failure?, hkind, hrest.fails_iff]

theorem Announcing.not_duplicate (h : Announcing connection permissions message made result) :
    result ≠ .ok .duplicate := by
  cases h with
  | takenBack error answer | shown hallowed | silent hallowed => simp

theorem Announcing.isReceived_notMem (h : Announcing connection permissions message made result)
    (chatId messageId : String) (answer : Except StoreError Bool) :
    .isReceived chatId messageId answer ∉ made :=
  h.keepsOrder.notMem (by simp [Call.step])

theorem Announcing.save_notMem (h : Announcing connection permissions message made result)
    (saved : Inbound) (answer : Except StoreError Bool) : .save saved answer ∉ made :=
  h.keepsOrder.notMem (by simp [Call.step])

theorem Keeping.repeats_iff (h : Keeping connection permissions message made result) :
    result = .ok .duplicate ↔
      .isReceived message.chatId message.messageId (.ok true) ∈ made ∨
        .save message (.ok false) ∈ made := by
  cases h with
  | unguarded error | received | unsaved error | savedBefore => simp
  | saved hrest => simp [hrest.not_duplicate, hrest.isReceived_notMem, hrest.save_notMem]

theorem Receiving.repeats_iff (h : Receiving message calls result) :
    result = .ok .duplicate ↔
      .isReceived message.chatId message.messageId (.ok true) ∈ calls ∨
        .save message (.ok false) ∈ calls := by
  cases h with
  | unknown error | notDirect hkind | unpermitted hkind error => simp
  | direct hkind hrest => simp [hrest.repeats_iff]

theorem Announcing.processes_iff (h : Announcing connection permissions message made result)
    (notified : Bool) : result = .ok (.processed notified) ↔
      (∃ update change, .update update change (.ok ()) ∈ made) ∧
        (notified = true ↔ .notify ∈ made.map Call.step) := by
  cases h with
  | takenBack error answer => simp
  | shown hallowed | silent hallowed => simp [Call.step, eq_comm]

theorem Keeping.processes_iff (h : Keeping connection permissions message made result)
    (notified : Bool) : result = .ok (.processed notified) ↔
      (∃ update change, .update update change (.ok ()) ∈ made) ∧
        (notified = true ↔ .notify ∈ made.map Call.step) := by
  cases h with
  | unguarded error | received | unsaved error | savedBefore => simp
  | saved hrest => simp [Call.step, hrest.processes_iff]

theorem Receiving.processes_iff (h : Receiving message calls result) (notified : Bool) :
    result = .ok (.processed notified) ↔
      (∃ update change, .update update change (.ok ()) ∈ calls) ∧
        (notified = true ↔ .notify ∈ calls.map Call.step) := by
  cases h with
  | unknown error | notDirect hkind | unpermitted hkind error => simp
  | direct hkind hrest => simp [Call.step, hrest.processes_iff]

end

/-! ## The protocol -/

/-- The rules for the calls that a received message leads to, and for what comes of them. -/
structure FollowsProtocol (message : Inbound) (calls : List Call)
    (result : Except ReceiveError Outcome) : Prop where
  /-- The calls come in order. Only a message that went through all of them is taken back or
  shown. -/
  keepsOrder : KeepsOrder Step.inOrder calls
  /-- No call is made twice. -/
  once : (calls.map Call.step).Nodup
  /-- All calls are about the message and its chat. -/
  isAbout : ∀ call ∈ calls, call.IsAbout message
  /-- The chat is always looked up. -/
  looksUp : ∃ answer, calls.head? = some (.connection message.chatId answer)
  /-- Only in a direct chat there are further calls. -/
  onlyDirect : 1 < calls.length → ∃ connection,
    .connection message.chatId (.ok connection) ∈ calls ∧ connection.kind = .direct
  /-- The permissions are asked for if the chat that was looked up is direct. -/
  asks_iff : .permissions ∈ calls.map Call.step ↔ ∃ connection,
    .connection message.chatId (.ok connection) ∈ calls ∧ connection.kind = .direct
  asksForDirect : ∀ chatId kind answer,
    .permissions chatId kind answer ∈ calls → kind = .direct
  /-- It is checked whether the message was received before once the permissions are there. -/
  checks_iff : .isReceived ∈ calls.map Call.step ↔ ∃ permissions,
    .permissions message.chatId .direct (.ok permissions) ∈ calls
  /-- A message is saved if the three lookups succeed and it was not received before. -/
  saves_iff : .save ∈ calls.map Call.step ↔ ∃ connection permissions,
    .connection message.chatId (.ok connection) ∈ calls ∧
    .permissions message.chatId .direct (.ok permissions) ∈ calls ∧
    .isReceived message.chatId message.messageId (.ok false) ∈ calls
  /-- The summary changes if the message was saved and was new. -/
  updates_iff : .update ∈ calls.map Call.step ↔ .save message (.ok true) ∈ calls
  updatesTo : ∀ update change answer, .update update change answer ∈ calls →
    change = .increment ∧
    update = {
      chatId := message.chatId
      text := message.payload.preview
      recentKind := message.payload.kind
      latestMessageId := message.messageId
      readStatus := .latest
      timestamp := message.receivedAt }
  /-- A saved message is taken back if its summary could not be changed. -/
  discards_iff : .discard ∈ calls.map Call.step ↔
    ∃ update change error, .update update change (.error error) ∈ calls
  /-- A message is shown if its summary was changed and its chat allows it. The chat is the one that
  was looked up at first. -/
  notifies_iff : ∀ shown, .notify shown ∈ calls ↔ ∃ connection permissions update change,
    .connection message.chatId (.ok connection) ∈ calls ∧
    .permissions message.chatId .direct (.ok permissions) ∈ calls ∧
    .update update change (.ok ()) ∈ calls ∧
    permissions.notifications = true ∧
    shown = {
      title := connection.name
      body := message.payload.notice
      alert := !connection.disconnected
      chatId := message.chatId }
  /-- Receiving fails by the call that fails. -/
  fails_iff : ∀ failure, result = .error failure ↔
    ∃ call ∈ calls, call.failure? = some failure
  /-- A message was received before if the check or the saving of it tells so. -/
  repeats_iff : result = .ok .duplicate ↔
    .isReceived message.chatId message.messageId (.ok true) ∈ calls ∨
      .save message (.ok false) ∈ calls
  /-- A message is processed if its summary was changed, and it is told whether it was shown. -/
  processes_iff : ∀ notified, result = .ok (.processed notified) ↔
    (∃ update change, .update update change (.ok ()) ∈ calls) ∧
      (notified = true ↔ .notify ∈ calls.map Call.step)

theorem Receiving.followsProtocol {message : Inbound} {calls : List Call}
    {result : Except ReceiveError Outcome} (h : Receiving message calls result) :
    FollowsProtocol message calls result where
  keepsOrder := h.keepsOrder
  once := h.keepsOrder.nodup (by decide)
  isAbout := h.isAbout
  looksUp := h.looksUp
  onlyDirect := h.onlyDirect
  asks_iff := h.asks_iff
  asksForDirect _ _ _ := h.asksForDirect
  checks_iff := h.checks_iff
  saves_iff := h.saves_iff
  updates_iff := h.updates_iff
  updatesTo _ _ _ := h.updatesTo
  discards_iff := h.discards_iff
  notifies_iff := h.notifies_iff
  fails_iff := h.fails_iff
  repeats_iff := h.repeats_iff
  processes_iff := h.processes_iff

/-- Whatever the collaborators answer, and whatever they remember, the calls of receiving and its
result are among the listed ones, and follow the protocol. Noting the calls changes nothing about
receiving. -/
theorem receive_followsProtocol (services : Services σ) (message : Inbound) (state : σ) :
    ∃ calls result after, receive services message state = (result, after) ∧
      receive services.noted message (state, []) = (result, after, calls) ∧
      Receiving message calls result ∧ FollowsProtocol message calls result := by
  obtain ⟨calls, result, after, hplain, hnoted, hcalls⟩ :=
    notes_receive services message state []
  exact ⟨calls, result, after, hplain, hnoted, hcalls, hcalls.followsProtocol⟩

end Courier.Inbox
