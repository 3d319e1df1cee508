import Courier.Proofs.Chat.Registry
import Courier.Store.Local

/-!
# What the registry tells of its requests

Chats are registered and new messages are entered, in any order. The registry tells of all of this:
its chats stand in the order in which they were first registered, each as it was last registered,
and with the summary that the messages entered since its first registration make.
-/

namespace Courier.Store

/-! ## Requests -/

/-- What is asked of the registry. -/
inductive Request
  | register (connection : Connection) (permissions : Permissions)
  | enter (update : SummaryUpdate) (change : UnreadChange)

namespace Request

/-- The answer where these chats are registered and everything can be written. -/
def answer (ids : List String) : Request → Except StoreError Unit
  | register connection _ => checkId connection.chatId
  | enter update _ =>
    if update.chatId ∈ ids then .ok () else .error (.chatNotFound update.chatId)

/-- The registry after a request. -/
def apply (known : Registry) : Request → Registry
  | register connection permissions =>
    if Identifier.isValid connection.chatId then known.register connection permissions else known
  | enter update change => known.applyUpdate update change

theorem answer_congr {ids others : List String} (h : ∀ id, id ∈ ids ↔ id ∈ others)
    (request : Request) : request.answer ids = request.answer others := by
  cases request with
  | register connection permissions => rfl
  | enter update change => simp only [answer, h]

end Request

/-- A request with its answer. -/
abbrev Answered := Request × Except StoreError Unit

/-- The chat that was registered, if the request was accepted. -/
def registered? : Answered → Option String
  | (.register connection _, .ok ()) => some connection.chatId
  | _ => none

/-- The chats that were registered, as often as they were. -/
def registeredIds (history : List Answered) : List String :=
  history.filterMap registered?

/-- What was to be entered for a chat. -/
def entered? (chatId : String) : Answered → Option (SummaryUpdate × UnreadChange)
  | (.enter update change, _) =>
    if update.chatId = chatId then some (update, change) else none
  | _ => none

/-- A summary after everything that was to be entered for its chat. -/
def enterAll (chatId : String) (summary : Summary) (history : List Answered) : Summary :=
  (history.filterMap (entered? chatId)).foldl (fun summary entry => summary.apply entry.1 entry.2)
    summary

/-- The requests without those that registered a chat again. -/
def withoutRepeats (seen : List String) : List Answered → List Request
  | [] => []
  | answered :: rest =>
    let later := withoutRepeats (seen ++ (registered? answered).toList) rest
    if (registered? answered).any (· ∈ seen) then later else answered.1 :: later

variable {history : List Answered} {answered : Answered} {connection : Connection}
  {permissions : Permissions} {known : Registry} {entry : Registration}

theorem registeredIds_concat (history : List Answered) (answered : Answered) :
    registeredIds (history ++ [answered]) =
      registeredIds history ++ (registered? answered).toList := by
  rw [registeredIds, List.filterMap_append, registeredIds]
  cases hchat : registered? answered with
  | none => simp [hchat]
  | some chatId => simp [hchat]

theorem enterAll_concat (chatId : String) (summary : Summary) (history : List Answered)
    (answered : Answered) :
    enterAll chatId summary (history ++ [answered]) =
      enterAll chatId (enterAll chatId summary history) [answered] := by
  simp only [enterAll, List.filterMap_append, List.foldl_append]

theorem withoutRepeats_concat (seen : List String) (history : List Answered)
    (answered : Answered) :
    withoutRepeats seen (history ++ [answered]) = withoutRepeats seen history ++
      if (registered? answered).any (· ∈ seen ++ registeredIds history) then []
      else [answered.1] := by
  induction history generalizing seen with
  | nil => simp [withoutRepeats, registeredIds]
  | cons first rest ih =>
      have hseen : seen ++ (registered? first).toList ++ registeredIds rest =
          seen ++ registeredIds (first :: rest) := by
        cases hchat : registered? first with
        | none => simp [registeredIds, hchat]
        | some chatId => simp [registeredIds, hchat]
      rw [List.cons_append, withoutRepeats, ih, hseen, withoutRepeats]
      split
      · rfl
      · rfl

/-! ## What is told of a chat -/

/-- Whether an accepted request to register a chat is the last one for it. -/
def IsLastRegistration (history : List Answered) (connection : Connection)
    (permissions : Permissions) : Prop :=
  ∃ earlier later, history = earlier ++ (.register connection permissions, .ok ()) :: later ∧
    connection.chatId ∉ registeredIds later

theorem isLastRegistration_concat (history : List Answered) (connection : Connection)
    (permissions : Permissions) :
    IsLastRegistration (history ++ [(.register connection permissions, .ok ())]) connection
      permissions :=
  ⟨history, [], rfl, List.not_mem_nil⟩

theorem IsLastRegistration.concat (h : IsLastRegistration history connection permissions)
    (hother : registered? answered ≠ some connection.chatId) :
    IsLastRegistration (history ++ [answered]) connection permissions := by
  obtain ⟨earlier, later, rfl, hlater⟩ := h
  refine ⟨earlier, later ++ [answered], by simp, ?_⟩
  rw [registeredIds_concat]
  simp [hlater, hother]

/-- Whether the entry of a chat is as the chat was last registered, except for its summary, which is
the one of its first registration with everything that was entered for the chat later. -/
structure Recalls (history : List Answered) (entry : Registration) : Prop where
  registration : ∃ connection permissions, IsLastRegistration history connection permissions ∧
    connection.chatId = entry.connection.chatId ∧ entry.connection.name = connection.name ∧
    entry.connection.kind = connection.kind ∧
    entry.connection.disconnected = connection.disconnected ∧ entry.permissions = permissions
  summary : ∃ earlier connection permissions later,
    history = earlier ++ (.register connection permissions, .ok ()) :: later ∧
      connection.chatId = entry.connection.chatId ∧
      connection.chatId ∉ registeredIds earlier ∧
      entry.connection.summary = enterAll connection.chatId connection.summary later

/-- An entry after what a request was to enter for its chat. -/
def remember (answered : Answered) (entry : Registration) : Registration :=
  { entry with connection := { entry.connection with
      summary := enterAll entry.connection.chatId entry.connection.summary [answered] } }

theorem Recalls.concat (h : Recalls history entry)
    (hother : registered? answered ≠ some entry.connection.chatId) :
    Recalls (history ++ [answered]) (remember answered entry) := by
  obtain ⟨⟨last, given, hlast, hid, hfields⟩, earlier, connection, permissions, later, hhistory,
    hchat, hfirst, hsummary⟩ := h
  constructor
  · rw [← hid] at hother
    exact ⟨last, given, hlast.concat hother, hid, hfields⟩
  · refine ⟨earlier, connection, permissions, later ++ [answered], ?_, hchat, hfirst, ?_⟩
    · rw [hhistory, List.append_assoc, List.cons_append]
    · rw [enterAll_concat, ← hsummary, hchat]
      rfl

/-- A chat that is registered again keeps its summary. -/
theorem Recalls.reregister (h : Recalls history entry)
    (hid : connection.chatId = entry.connection.chatId) (permissions : Permissions) :
    Recalls (history ++ [(.register connection permissions, .ok ())])
      (Registry.reregister connection permissions entry) := by
  obtain ⟨-, earlier, first, given, later, hhistory, hchat, hfirst, hsummary⟩ := h
  constructor
  · exact ⟨connection, permissions, isLastRegistration_concat _ _ _, hid, rfl, rfl, rfl, rfl⟩
  · refine ⟨earlier, first, given, later ++ [(.register connection permissions, .ok ())], ?_, hchat,
      hfirst, ?_⟩
    · rw [hhistory, List.append_assoc, List.cons_append]
    · rw [enterAll_concat, ← hsummary]
      rfl

theorem recalls_first (hnew : connection.chatId ∉ registeredIds history)
    (permissions : Permissions) :
    Recalls (history ++ [(.register connection permissions, .ok ())])
      ⟨connection, permissions⟩ where
  registration :=
    ⟨connection, permissions, isLastRegistration_concat _ _ _, rfl, rfl, rfl, rfl, rfl⟩
  summary := ⟨history, connection, permissions, [], rfl, rfl, hnew, rfl⟩

/-! ## What is told of all chats -/

/-- Whether a registry is what is left of the requests that made it from nothing. -/
structure Tells (history : List Answered) (known : Registry) : Prop where
  ids_eq : known.ids = (registeredIds history).eraseDups
  nodup : known.ids.Nodup
  recalls : ∀ entry ∈ known, Recalls history entry
  answers : ∀ earlier request answer later, history = earlier ++ (request, answer) :: later →
    answer = request.answer (registeredIds earlier)

theorem tells_nil : Tells [] [] := by
  refine ⟨rfl, List.nodup_nil, ?_, ?_⟩
  · intro entry hentry
    cases hentry
  · intro earlier request answer later hhistory
    simp at hhistory

theorem Tells.mem_ids_iff (h : Tells history known) (chatId : String) :
    chatId ∈ known.ids ↔ chatId ∈ registeredIds history := by
  rw [h.ids_eq, List.mem_eraseDups]

theorem Tells.answers_concat (h : Tells history known) (request : Request)
    {earlier later : List Answered} {other : Request} {answer : Except StoreError Unit}
    (hhistory : history ++ [(request, request.answer known.ids)] =
      earlier ++ (other, answer) :: later) :
    answer = other.answer (registeredIds earlier) := by
  rcases List.eq_nil_or_concat later with rfl | ⟨rest, last, rfl⟩
  · obtain ⟨rfl, hlast⟩ := List.append_inj' hhistory rfl
    cases hlast
    exact request.answer_congr h.mem_ids_iff
  · rw [List.concat_eq_append, ← List.cons_append, ← List.append_assoc] at hhistory
    obtain ⟨hfront, -⟩ := List.append_inj' hhistory rfl
    exact h.answers earlier other answer rest hfront

/-- A new message is entered at one chat, and nothing is done to others. -/
theorem applyUpdate_eq_map (hnodup : known.ids.Nodup) (update : SummaryUpdate)
    (change : UnreadChange) (answer : Except StoreError Unit) :
    known.applyUpdate update change = known.map (remember (.enter update change, answer)) := by
  rw [Registry.applyUpdate, Registry.modify_eq_map hnodup]
  apply List.map_congr_left
  intro entry hentry
  by_cases hown : entry.connection.chatId = update.chatId
  · simp [remember, enterAll, entered?, hown]
  · simp [remember, enterAll, entered?, hown, Ne.symm hown]

/-- Where nothing is registered every entry is remembered. -/
theorem Tells.concat_map (h : Tells history known) {request : Request}
    (hnone : registered? (request, request.answer known.ids) = none)
    (happly : request.apply known = known.map (remember (request, request.answer known.ids))) :
    Tells (history ++ [(request, request.answer known.ids)]) (request.apply known) := by
  have hids : (request.apply known).ids = known.ids := by
    rw [happly, Registry.ids, List.map_map]
    rfl
  refine ⟨?_, ?_, ?_, ?_⟩
  · rw [hids, registeredIds_concat, hnone, Option.toList_none, List.append_nil]
    exact h.ids_eq
  · rw [hids]
    exact h.nodup
  · intro changed hchanged
    rw [happly] at hchanged
    obtain ⟨entry, hentry, rfl⟩ := List.mem_map.mp hchanged
    apply (h.recalls entry hentry).concat
    rw [hnone]
    exact (Option.some_ne_none _).symm
  · intro earlier other answer later hhistory
    exact h.answers_concat request hhistory

/-- A chat that is registered again keeps its place. -/
theorem Tells.ids_register (h : Tells history known) (connection : Connection)
    (permissions : Permissions) :
    (known.register connection permissions).ids =
      (registeredIds (history ++ [(.register connection permissions, .ok ())])).eraseDups := by
  have hregistered : registered? (.register connection permissions, .ok ()) =
    some connection.chatId := rfl
  rw [registeredIds_concat, hregistered, Option.toList_some, List.eraseDups_append, ← h.ids_eq,
    Registry.ids_register]
  by_cases hknown : connection.chatId ∈ known.ids
  · have hseen := (h.mem_ids_iff connection.chatId).mp hknown
    simp [hknown, hseen, List.removeAll]
  · have hseen := mt (h.mem_ids_iff connection.chatId).mpr hknown
    simp [hknown, hseen, List.removeAll, List.eraseDups_cons]

theorem Tells.recalls_register (h : Tells history known) (connection : Connection)
    (permissions : Permissions) :
    ∀ entry ∈ known.register connection permissions,
      Recalls (history ++ [(.register connection permissions, .ok ())]) entry := by
  intro changed hchanged
  have hother : ∀ entry ∈ known, entry.connection.chatId ≠ connection.chatId →
      Recalls (history ++ [(.register connection permissions, .ok ())]) entry := by
    intro entry hentry hne
    exact (h.recalls entry hentry).concat fun heq => hne (Option.some.inj heq).symm
  rw [Registry.register] at hchanged
  cases hfind : known.find? connection.chatId with
  | none =>
      have hnew := Registry.not_mem_ids_of_find? hfind
      rw [hfind] at hchanged
      rcases List.mem_append.mp hchanged with hold | hlast
      · refine hother changed hold fun heq => hnew ?_
        rw [← heq]
        exact List.mem_map_of_mem hold
      · rw [List.mem_singleton.mp hlast]
        exact recalls_first (mt (h.mem_ids_iff connection.chatId).mpr hnew) permissions
  | some found =>
      rw [hfind] at hchanged
      dsimp only at hchanged
      rw [Registry.modify_eq_map h.nodup] at hchanged
      obtain ⟨entry, hentry, rfl⟩ := List.mem_map.mp hchanged
      split
      next hown => exact (h.recalls entry hentry).reregister hown.symm permissions
      next hne => exact hother entry hentry hne

/-- The registry tells of a request once it was made. -/
theorem Tells.concat (h : Tells history known) (request : Request) :
    Tells (history ++ [(request, request.answer known.ids)]) (request.apply known) := by
  cases request with
  | register connection permissions =>
      by_cases hvalid : Identifier.isValid connection.chatId = true
      · have hanswer : (Request.register connection permissions).answer known.ids = .ok () :=
          if_pos hvalid
        have happly : (Request.register connection permissions).apply known =
          known.register connection permissions := if_pos hvalid
        have hextended := Registry.isExtendedBy_register known hvalid permissions
        refine ⟨?_, ?_, ?_, fun _ _ _ _ hhistory => h.answers_concat _ hhistory⟩
        · rw [hanswer, happly]
          exact h.ids_register connection permissions
        · rw [happly]
          exact hextended.nodup h.nodup
        · rw [hanswer, happly]
          exact h.recalls_register connection permissions
      · have hanswer : (Request.register connection permissions).answer known.ids =
          .error (.invalidId connection.chatId) := if_neg hvalid
        apply h.concat_map
        · rw [hanswer]
          rfl
        · rw [Request.apply, if_neg hvalid]
          exact (List.map_id _).symm
  | enter update change =>
      apply h.concat_map
      · rfl
      · exact applyUpdate_eq_map h.nodup update change _

/-! ## Requests that register a chat again -/

/-- The chats and their summaries, in order. -/
def summaries (known : Registry) : List (String × Summary) :=
  known.map fun entry => (entry.connection.chatId, entry.connection.summary)

theorem map_fst_summaries (known : Registry) : (summaries known).map Prod.fst = known.ids := by
  rw [summaries, List.map_map]
  rfl

/-- To register a chat again touches no summary. -/
theorem summaries_register_of_mem (hnodup : known.ids.Nodup)
    (hknown : connection.chatId ∈ known.ids) (permissions : Permissions) :
    summaries (known.register connection permissions) = summaries known := by
  obtain ⟨found, hfind⟩ := Option.ne_none_iff_exists'.mp (Registry.find?_ne_none_iff.mpr hknown)
  rw [Registry.register, hfind]
  dsimp only
  rw [Registry.modify_eq_map hnodup, summaries, List.map_map]
  apply List.map_congr_left
  intro entry hentry
  rw [Function.comp]
  split
  · rfl
  · rfl

theorem summaries_register_of_not_mem (hnew : connection.chatId ∉ known.ids)
    (permissions : Permissions) :
    summaries (known.register connection permissions) =
      summaries known ++ [(connection.chatId, connection.summary)] := by
  have hfind : known.find? connection.chatId = none :=
    Decidable.not_not.mp (mt Registry.find?_ne_none_iff.mp hnew)
  rw [Registry.register, hfind]
  simp [summaries]

/-- What becomes of the summaries depends on nothing but the summaries. -/
theorem summaries_apply {other : Registry} (hnodup : known.ids.Nodup)
    (hsame : summaries known = summaries other) (request : Request) :
    summaries (request.apply known) = summaries (request.apply other) := by
  have hids : known.ids = other.ids := by
    rw [← map_fst_summaries, hsame, map_fst_summaries]
  have hnodupOther : other.ids.Nodup := hids ▸ hnodup
  cases request with
  | register connection permissions =>
      rw [Request.apply, Request.apply]
      split
      next hvalid =>
        by_cases hknown : connection.chatId ∈ known.ids
        · rw [summaries_register_of_mem hnodup hknown,
            summaries_register_of_mem hnodupOther (hids ▸ hknown), hsame]
        · rw [summaries_register_of_not_mem hknown,
            summaries_register_of_not_mem (hids ▸ hknown), hsame]
      next hinvalid => exact hsame
  | enter update change =>
      have hmap : ∀ known : Registry,
          summaries (known.map (remember (.enter update change, .ok ()))) =
            (summaries known).map fun chat =>
              (chat.1, enterAll chat.1 chat.2 [(.enter update change, .ok ())]) := by
        intro known
        rw [summaries, summaries, List.map_map, List.map_map]
        rfl
      rw [Request.apply, Request.apply, applyUpdate_eq_map hnodup update change (.ok ()),
        applyUpdate_eq_map hnodupOther update change (.ok ()), hmap, hmap, hsame]

theorem summaries_apply_of_registered (hnodup : known.ids.Nodup) {request : Request}
    {answer : Except StoreError Unit} (hanswer : answer = request.answer known.ids)
    {chatId : String} (hchat : registered? (request, answer) = some chatId)
    (hknown : chatId ∈ known.ids) : summaries (request.apply known) = summaries known := by
  cases request with
  | register connection permissions =>
      rw [Request.apply]
      split
      next hvalid =>
        obtain rfl : answer = .ok () := hanswer.trans (if_pos hvalid)
        obtain rfl : connection.chatId = chatId := Option.some.inj hchat
        exact summaries_register_of_mem hnodup hknown permissions
      next hinvalid => rfl
  | enter update change => cases hchat

end Courier.Store
