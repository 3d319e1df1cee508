import Courier.Proofs.Chat.Line
import Courier.Proofs.Command.Media
import Courier.Proofs.Command.Origin

/-!
# The lines of the chat list

The chat list has one line for each chat and one more for each line feed in a name or in a latest
text. Every name on it was given when the chat was registered, and every text is the preview of a
message that was composed for the chat or received in it, so nothing else brings a line feed in.
-/

namespace Courier.Command

open DataFolder (IsFileless IsSameFolder freshHost)
open Store (registryIn registryNode)
open Text (breaks lines printed)

variable {layout : Layout} {turn : Turn} {turns : List Turn} {first d : Disk} {host : Host}
  {connection : Connection} {listed : List Connection}

/-! ## Where names and texts come from -/

/-- Whether a chat was registered with the name it has, and its latest text is the preview of a
message that was brought into it, if it has any. -/
structure IsToldBy (turns : List Turn) (connection : Connection) : Prop where
  name : ∃ turn ∈ turns, ∃ arguments, turn.command = .addChat arguments ∧
    arguments.chat = connection.chatId ∧ arguments.name = connection.name
  text : connection.summary.text = "" ∨ ∃ payload, IsBroughtBy turns connection.chatId payload ∧
    payload.preview = connection.summary.text

theorem IsToldBy.concat (h : IsToldBy turns connection) (turn : Turn) :
    IsToldBy (turns ++ [turn]) connection := by
  constructor
  · obtain ⟨naming, hmem, hnaming⟩ := h.name
    exact ⟨naming, List.mem_append_left _ hmem, hnaming⟩
  · apply h.text.imp_right
    rintro ⟨payload, hbrought, hpreview⟩
    exact ⟨payload, hbrought.concat turn, hpreview⟩

/-- Whether all entries of the registry come from the commands. -/
def IsRegistryToldBy (layout : Layout) (turns : List Turn) (d : Disk) : Prop :=
  ∀ known, registryIn (registryNode layout d) = some known →
    ∀ entry ∈ known, IsToldBy turns entry.connection

theorem IsRegistryToldBy.congr {held : Disk} (h : IsRegistryToldBy layout turns d)
    (hnode : registryNode layout held = registryNode layout d) :
    IsRegistryToldBy layout turns held := by
  rw [IsRegistryToldBy, hnode]
  exact h

theorem IsRegistryToldBy.of_rewrites {known changed : Registry} {after : Disk}
    (h : IsRegistryToldBy layout turns d)
    (hrewrites : Store.Rewrites layout d known changed after) :
    ∀ entry ∈ known, IsToldBy turns entry.connection := by
  rcases hrewrites.known_eq with hknown | ⟨rfl, -⟩
  · exact h known hknown
  · simp

/-- Every command leaves a registry whose entries come from the commands up to it. -/
theorem IsRegistryToldBy.after (h : IsRegistryToldBy layout turns turn.before.disk)
    (houtboxes : AreOutboxesFilledBy layout turns turn.before.disk) :
    IsRegistryToldBy layout (turns ++ [turn]) (turn.after layout).disk := by
  have hturn : turn ∈ turns ++ [turn] := List.mem_append_right _ List.mem_cons_self
  cases turn.alters with
  | kept hnode =>
      intro known hknown entry hentry
      rw [hnode] at hknown
      exact (h known hknown entry hentry).concat turn
  | @registered arguments known hcommand hrewrites =>
      rw [IsRegistryToldBy, hrewrites.registryIn_eq]
      rintro _ ⟨rfl⟩ entry hentry
      have htold := h.of_rewrites hrewrites
      rcases Registry.mem_register hentry with hkept | rfl | ⟨old, hold, hchat, rfl⟩
      · exact (htold entry hkept).concat turn
      · exact ⟨⟨turn, hturn, arguments, hcommand, rfl, rfl⟩, .inl rfl⟩
      -- A chat that is registered again has a new name, but its text stays.
      · exact ⟨⟨turn, hturn, arguments, hcommand, hchat.symm, rfl⟩,
          ((htold old hold).concat turn).text⟩
  | @entered exchange held known hexchange hheld hrewrites =>
      rw [IsRegistryToldBy, hrewrites.registryIn_eq]
      rintro _ ⟨rfl⟩ entry hentry
      have htold := (h.congr hheld).of_rewrites hrewrites
      rcases Registry.mem_modify hentry with hkept | ⟨old, hold, hchat, rfl⟩
      · exact (htold entry hkept).concat turn
      · exact ⟨((htold old hold).concat turn).name,
          .inr ⟨exchange.payload, hchat.symm ▸ houtboxes.exchanged hexchange, rfl⟩⟩

/-- From a data folder without files on, the registry comes from the commands. -/
theorem Session.isRegistryToldBy (hsession : Session layout first turns d)
    (hempty : IsFileless (layout.place first) first.look) : IsRegistryToldBy layout turns d := by
  induction hsession with
  | start =>
      intro known hknown
      cases hnode : registryNode layout first with
      | none =>
          rw [hnode] at hknown
          cases hknown
      | some node =>
          cases node with
          | folder =>
              rw [hnode] at hknown
              cases hknown
          | file content => exact absurd hnode (hempty _ content (List.prefix_append _ _))
  | turn hsession turn hfolder ih =>
      have houtboxes := (hsession.areOutboxesFilledBy hempty).of_isSameFolder hfolder
      exact (ih.congr (registryNode_of_isSameFolder hfolder)).after houtboxes

theorem mem_of_listed {chats : List Connection} {limit : Nat}
    (h : connection ∈ Listing.top limit chats) : connection ∈ chats :=
  List.mem_mergeSort.mp (List.mem_of_mem_take h)

/-- Every chat on the list comes from the commands. -/
theorem IsRegistryToldBy.of_listed {limit : Nat} (h : IsRegistryToldBy layout turns d)
    (hlisted : Listing.ofSource (Store.connections layout d) limit = .ok listed) :
    ∀ connection ∈ listed, IsToldBy turns connection := by
  intro connection hconnection
  rw [Store.connections] at hlisted
  cases hknown : Store.registry layout d with
  | error error =>
      rw [hknown] at hlisted
      cases hlisted
  | ok known =>
      rw [hknown] at hlisted
      cases hlisted
      obtain ⟨entry, hentry, rfl⟩ := List.mem_map.mp (mem_of_listed hconnection)
      obtain ⟨-, hin⟩ := Store.registry_eq_ok hknown (List.ne_nil_of_mem hentry)
      exact h known hin entry hentry

/-! ## What is printed -/

/-- How chats are shown. Each makes lines of its own, one chat after another: one, and one more for
each line feed in its name or its latest text. -/
structure Shows (listed : List Connection) (text : String) : Prop where
  lines_eq : lines text = listed.flatMap fun connection => lines (connection.line ++ "\n")
  length_eq : (lines text).length = listed.length +
    (listed.map fun connection => breaks connection.name + breaks connection.summary.text).sum
  length_eq_iff : (lines text).length = listed.length ↔
    ∀ connection ∈ listed, breaks connection.name = 0 ∧ breaks connection.summary.text = 0
  lines_eq_iff : lines text = listed.map Connection.line ↔
    ∀ connection ∈ listed, breaks connection.name = 0 ∧ breaks connection.summary.text = 0

theorem shows_printed (listed : List Connection) :
    Shows listed (printed (listed.map Connection.line)) := by
  have hbreaks : (∀ text ∈ listed.map Connection.line, breaks text = 0) ↔
      ∀ connection ∈ listed, breaks connection.name = 0 ∧ breaks connection.summary.text = 0 := by
    simp [Connection.breaks_line]
  constructor
  · rw [Text.lines_printed, List.flatMap_map]
  · rw [Text.length_lines_printed, List.length_map, List.map_map]
    simp only [Function.comp_def, Connection.breaks_line]
  · have hlength := Text.length_lines_printed_eq_iff (listed.map Connection.line)
    rw [List.length_map] at hlength
    exact hlength.trans hbreaks
  · exact (Text.lines_printed_eq_iff _).trans hbreaks

/-! ## Where no line feed comes in -/

theorem breaks_fileName? {p : Path} {name : String} (h : p.fileName? = some name)
    (hp : breaks p.text = 0) : breaks name = 0 := by
  by_cases hempty : p.text = ""
  · rw [Path.fileName?, Path.splitName?, hempty] at h
    cases h
  · rcases Path.endsIn_or_isNameless hempty with ⟨last, hlast, hends⟩ | hnameless
    · obtain rfl : last = name := Option.some.inj ((hlast.fileName?_eq hends).symm.trans h)
      cases hends with
      | intro =>
          rw [Text.breaks_append, Text.breaks_append] at hp
          omega
    · rw [Path.fileName?, hnameless.splitName?_eq] at h
      cases h

theorem breaks_getD {text : Option String} (h : ∀ t ∈ text, breaks t = 0) :
    breaks (text.getD "") = 0 := by
  cases text with
  | none => rfl
  | some t => exact h t rfl

theorem ofPath_eq_ok {folder p : Path} {caption : Option String} {make : Media → Payload}
    {payload : Payload} (h : (Media.ofPath folder p caption).map make = .ok payload) :
    ∃ media, payload = make media ∧ media.caption = caption ∧
      p.fileName? = some media.fileName := by
  unfold Media.ofPath at h
  cases hname : p.fileName? with
  | none =>
      rw [hname] at h
      cases h
  | some fileName =>
      rw [hname] at h
      cases h
      exact ⟨_, rfl, rfl, rfl⟩

/-- Whether nothing that a message is composed from holds a line feed. Of a path only the name of a
file that is no image, no video and no recording is shown. -/
structure HasNoBreaks (arguments : SendArguments) : Prop where
  text : ∀ text ∈ arguments.text, breaks text = 0
  link : ∀ url ∈ arguments.link, breaks url = 0
  file : ∀ p ∈ arguments.file, breaks p.text = 0
  contact : ∀ name ∈ arguments.contact, breaks name = 0
  caption : ∀ caption ∈ arguments.caption, breaks caption = 0

theorem HasNoBreaks.texts {arguments : SendArguments} {folder : Path} {bundleId : String}
    {payload : Payload} (h : HasNoBreaks arguments)
    (hpayload : arguments.payload folder bundleId = .ok payload) :
    ∀ text ∈ payload.texts, breaks text = 0 := by
  obtain ⟨htext, hlink, hfile, hcontact, hcaption⟩ := h
  unfold SendArguments.payload at hpayload
  split at hpayload
  -- A text, which is trimmed.
  next =>
    split at hpayload
    next => cases hpayload
    next =>
      cases hpayload
      simpa [Payload.texts] using breaks_trim (htext _ rfl)
  -- A link, whose caption is its text.
  next =>
    cases hpayload
    have hurl := hlink _ rfl
    simpa [Payload.texts, hurl] using breaks_getD hcaption
  -- An image, a video or another file.
  next =>
    obtain ⟨media, rfl, hshown, -⟩ := ofPath_eq_ok hpayload
    simpa [Payload.texts, hshown] using hcaption
  next =>
    obtain ⟨media, rfl, hshown, -⟩ := ofPath_eq_ok hpayload
    simpa [Payload.texts, hshown] using hcaption
  next =>
    obtain ⟨media, rfl, hshown, hname⟩ := ofPath_eq_ok hpayload
    have hfileName := breaks_fileName? hname (hfile _ rfl)
    simpa [Payload.texts, hshown, hfileName] using hcaption
  -- A recording, whose preview tells its length only.
  next =>
    split at hpayload
    next =>
      cases hpayload
      simp [Payload.texts]
    next => cases hpayload
  -- A contact.
  next =>
    cases hpayload
    simpa [Payload.texts] using hcontact _ rfl
  next => cases hpayload

/-- Whether a command brings in no line feed: not in the name of a chat, not in what a message is
composed from, and not in the texts of a message that is received. -/
structure Turn.IsUnbroken (turn : Turn) : Prop where
  name : ∀ arguments, turn.command = .addChat arguments → breaks arguments.name = 0
  composed : ∀ arguments, turn.command = .send arguments → HasNoBreaks arguments
  received : ∀ p message, turn.command = .receive p → (readInbound p turn.before).1 = .ok message →
    ∀ text ∈ message.payload.texts, breaks text = 0

theorem Turn.IsUnbroken.texts {chatId : String} {payload : Payload} (h : turn.IsUnbroken)
    (hbrings : turn.Brings chatId payload) : ∀ text ∈ payload.texts, breaks text = 0 := by
  cases hbrings with
  | composed hcommand hpayload => exact (h.composed _ hcommand).texts hpayload
  | received hcommand hread => exact h.received _ _ hcommand hread

theorem Turn.isUnbroken_of_addChat {arguments : AddChatArguments} (notifications : Bool)
    (hname : breaks arguments.name = 0) :
    Turn.IsUnbroken ⟨host, notifications, .addChat arguments⟩ := by
  constructor
  · rintro _ ⟨rfl⟩
    exact hname
  · rintro _ ⟨⟩
  · rintro _ _ ⟨⟩

theorem Turn.isUnbroken_of_receivedBy {p : Path} {notifications : Bool} {message : Inbound}
    {result : Except Inbox.ReceiveError Inbox.Outcome}
    (hreceived : receivedBy ⟨layout, notifications⟩ (.receive p) host = some (message, result))
    (htexts : ∀ text ∈ message.payload.texts, breaks text = 0) :
    Turn.IsUnbroken ⟨host, notifications, .receive p⟩ := by
  obtain ⟨_, ⟨rfl⟩, hread⟩ := receivedBy_eq_some hreceived
  constructor
  · rintro _ ⟨⟩
  · rintro _ ⟨⟩
  · rintro _ received ⟨rfl⟩ hreceived
    obtain rfl : message = received := Except.ok.inj (hread.symm.trans hreceived)
    exact htexts

theorem IsToldBy.unbroken (h : IsToldBy turns connection)
    (hturns : ∀ turn ∈ turns, turn.IsUnbroken) :
    breaks connection.name = 0 ∧ breaks connection.summary.text = 0 := by
  constructor
  · obtain ⟨turn, hturn, arguments, hcommand, -, hname⟩ := h.name
    rw [← hname]
    exact (hturns turn hturn).name arguments hcommand
  · rcases h.text with hnone | ⟨payload, ⟨turn, hturn, hbrings⟩, hpreview⟩
    · rw [hnone]
      rfl
    · rw [← hpreview]
      exact Payload.breaks_preview ((hturns turn hturn).texts hbrings)

/-- In a data folder that held no files at first and is only used by commands, the chat list shows
the chats it is made of, each with a line of its own and one more line for each line feed in its
name or in its latest text. The name was given when the chat was registered, and the text is the
preview of a message that was composed for the chat or received in it; as long as no line feed comes
in with any of these there is one line for each chat. Where the chats cannot be listed nothing is
printed. -/
theorem chats_shown (hempty : IsFileless (layout.place first) first.look)
    (hsession : Session layout first turns d) (hfolder : IsSameFolder layout d host.disk)
    (notifications : Bool) (limit : Nat) :
    (∀ error, Listing.ofSource (Store.connections layout host.disk) limit = .error error →
      execute ⟨layout, notifications⟩ (.chats limit) host = (.error (.listing error), host)) ∧
    ∀ listed, Listing.ofSource (Store.connections layout host.disk) limit = .ok listed →
      ∃ text, execute ⟨layout, notifications⟩ (.chats limit) host =
          (.ok (), { host with output := host.output ++ text }) ∧
        Shows listed text ∧ (∀ connection ∈ listed, IsToldBy turns connection) ∧
        ((∀ turn ∈ turns, turn.IsUnbroken) → lines text = listed.map Connection.line) := by
  have htold : IsRegistryToldBy layout turns host.disk :=
    (hsession.isRegistryToldBy hempty).congr (registryNode_of_isSameFolder hfolder)
  refine ⟨fun error hlisted => printChats_of_error hlisted notifications, ?_⟩
  intro listed hlisted
  have hshows := shows_printed listed
  have hconnections := htold.of_listed hlisted
  refine ⟨_, printChats_of_ok hlisted notifications, hshows, hconnections, ?_⟩
  intro hturns
  exact hshows.lines_eq_iff.mpr fun connection hconnection =>
    (hconnections connection hconnection).unbroken hturns

/-! ## A list of two chats -/

/-- A host with no file but a text, which stands next to the data folder. -/
def letterHost : Host where
  disk :=
    { root := .folder
        [("data", .folder
          [("messages", .folder [("a", .empty)]),
           ("outbox", .folder [("direct", .empty), ("group", .empty)])]),
         ("i.toml", .file (incomingText "i" "hey?").toUTF8)]
      current := [] }
  clock _ := .ofEpoch 0 0
  random n := n

/-- A chat is registered. -/
def named : Turn where
  before := letterHost
  command := .addChat { chat := "b", name := "B" }

/-- The chat of the text is registered. -/
def namedToo : Turn where
  before := named.after ⟨⟨"/data"⟩⟩
  command := .addChat { chat := "a", name := "A" }

/-- The text is received. -/
def lettered : Turn where
  before := namedToo.after ⟨⟨"/data"⟩⟩
  command := .receive (incomingFile "i")

theorem isReady_letterHost : IsReady ⟨⟨"/data"⟩⟩ "m" letterHost.disk :=
  isReady_of_placeOfFile (by decide) (by decide +kernel) (by decide +kernel)
    fun kind => by cases kind <;> decide +kernel

theorem awaits_letterHost : Awaits "i" "hey?" letterHost :=
  .of_placeOfFile (by decide) (by decide +kernel) (by decide +kernel) (by decide +kernel)
    (by decide +kernel) rfl

/-- A folder whose entries hold no files holds none. -/
theorem look_folder_ne_file {entries : List (String × FileTree)}
    (h : ∀ entry ∈ entries, ∀ place content, entry.2.look place ≠ some (.file content))
    (place : List String) (content : ByteArray) :
    (FileTree.folder entries).look place ≠ some (.file content) := by
  cases place with
  | nil => simp [FileTree.look, FileTree.at?, FileTree.node]
  | cons name place =>
      rw [FileTree.look_cons, FileTree.child?]
      cases hfound : entries.lookup name with
      | none => simp
      | some sub =>
          obtain ⟨before, after, rfl, -⟩ := List.lookup_eq_some_iff.mp hfound
          exact h (name, sub) (by simp) place content

theorem isFileless_letterHost :
    IsFileless (Layout.place ⟨⟨"/data"⟩⟩ letterHost.disk) letterHost.disk.look := by
  have hplace : Layout.place ⟨⟨"/data"⟩⟩ letterHost.disk = ["data"] := by decide +kernel
  have hempty : ∀ place content, FileTree.empty.look place ≠ some (.file content) :=
    look_folder_ne_file (by simp)
  rw [hplace]
  rintro _ content ⟨more, rfl⟩
  change FileTree.look (.folder _) more ≠ _
  apply look_folder_ne_file
  simp [look_folder_ne_file, hempty]

/-- What is known of the two chats before the text. -/
def namedChats : Registry :=
  [⟨{ chatId := "b", name := "B" }, {}⟩, ⟨{ chatId := "a", name := "A" }, {}⟩]

theorem register_named :
    (Registry.register [] { chatId := "b", name := "B" } {}).register
      { chatId := "a", name := "A" } {} = namedChats := by
  rfl

theorem registryIn_namedToo :
    registryIn (registryNode ⟨⟨"/data"⟩⟩ (namedToo.after ⟨⟨"/data"⟩⟩).disk) = some namedChats ∧
      IsReady ⟨⟨"/data"⟩⟩ "m" (namedToo.after ⟨⟨"/data"⟩⟩).disk := by
  have hvalid : Identifier.isValid "b" = true ∧ Identifier.isValid "a" = true := by decide
  obtain ⟨-, hrewrites⟩ := @registers_of_isReady ⟨⟨"/data"⟩⟩ "m" letterHost
    { chat := "b", name := "B" } [] isReady_letterHost hvalid.1 (.inr ⟨rfl, rfl⟩) true
  have hready : IsReady ⟨⟨"/data"⟩⟩ "m" (named.after ⟨⟨"/data"⟩⟩).disk := by
    rw [named, Turn.after_mk]
    exact isReady_of_execute isReady_letterHost (by simp) true
  have hknown := hrewrites.registryIn_eq
  rw [← Turn.after_mk] at hknown
  obtain ⟨-, hrewrites'⟩ := @registers_of_isReady ⟨⟨"/data"⟩⟩ "m" (named.after ⟨⟨"/data"⟩⟩)
    { chat := "a", name := "A" } _ hready hvalid.2 (.inl hknown) true
  rw [namedToo, Turn.after_mk, hrewrites'.registryIn_eq]
  exact ⟨congrArg some register_named, isReady_of_execute hready (by simp) true⟩

theorem receivedBy_lettered : ∃ notified,
    receivedBy ⟨⟨⟨"/data"⟩⟩, true⟩ (.receive (incomingFile "i")) (namedToo.after ⟨⟨"/data"⟩⟩) =
      some (incoming "i" "hey?", .ok (.processed notified)) := by
  obtain ⟨hknown, hready⟩ := registryIn_namedToo
  have hused : IsInUse (namedToo.after ⟨⟨"/data"⟩⟩) := by
    refine ⟨hready, ⟨{ chatId := "a", name := "A" }, {}⟩, ?_, rfl⟩
    rw [registered, hknown]
    rfl
  have hawaits : Awaits "i" "hey?" (namedToo.after ⟨⟨"/data"⟩⟩) := by
    rw [namedToo, named, Turn.after_mk, Turn.after_mk]
    exact (awaits_letterHost.execute (by simp)).execute (by simp)
  exact hawaits.receivedBy_eq hused (by decide) (by decide +kernel) (by decide +kernel)

/-- The chats on the list. -/
def letteredChats : List Connection :=
  [{ chatId := "a", name := "A", summary := Exchange.enter {} (.ofInbound (incoming "i" "hey?")) },
   { chatId := "b", name := "B" }]

/-- Of two chats the first comes last if it may not stand before the second. -/
theorem top_pair {a b : Connection} (hprecedes : Listing.mayPrecede b a = false) :
    Listing.top 0 [b, a] = [a, b] := by
  simp [Listing.top, Listing.effectiveLimit, Listing.defaultLimit, List.mergeSort,
    List.MergeSort.Internal.splitInTwo, hprecedes]

theorem connections_lettered : Store.connections ⟨⟨"/data"⟩⟩ (lettered.after ⟨⟨"/data"⟩⟩).disk =
    .ok letteredChats.reverse := by
  obtain ⟨notified, hreceived⟩ := receivedBy_lettered
  obtain ⟨hknown, hready⟩ := registryIn_namedToo
  have hopens : (lettered.after ⟨⟨"/data"⟩⟩).disk.Opens ⟨"/data"⟩ "connections.toml" := by
    have hready := isReady_of_receivedBy hreceived hready
    rw [lettered, Turn.after_mk]
    exact hready.registryDraft.toOpens.of_draft Layout.isPiece_connections
  have hregistry := registryIn_of_receivedBy hreceived hknown
  rw [← Turn.after_mk] at hregistry
  rw [Store.connections, Store.registry_of_registryIn hopens hregistry]
  rfl

theorem listed_lettered :
    Listing.ofSource (Store.connections ⟨⟨"/data"⟩⟩ (lettered.after ⟨⟨"/data"⟩⟩).disk) 0 =
      .ok letteredChats := by
  rw [connections_lettered, Listing.ofSource, letteredChats]
  exact congrArg Except.ok (top_pair (by decide))

theorem isUnbroken_lettered : ∀ turn ∈ [named, namedToo, lettered], turn.IsUnbroken := by
  obtain ⟨notified, hreceived⟩ := receivedBy_lettered
  have htexts : ∀ text ∈ (incoming "i" "hey?").payload.texts, breaks text = 0 :=
    List.forall_mem_singleton.mpr rfl
  simp only [List.forall_mem_cons, List.not_mem_nil, false_imp_iff, implies_true, and_true]
  exact ⟨Turn.isUnbroken_of_addChat true rfl, Turn.isUnbroken_of_addChat true rfl,
    Turn.isUnbroken_of_receivedBy hreceived htexts⟩

theorem chats_shown_named :
    Session ⟨⟨"/data"⟩⟩ letterHost.disk [named, namedToo, lettered]
      (lettered.after ⟨⟨"/data"⟩⟩).disk ∧
    ∃ text, execute ⟨⟨⟨"/data"⟩⟩, true⟩ (.chats 0) (lettered.after ⟨⟨"/data"⟩⟩) =
        (.ok (), { lettered.after ⟨⟨"/data"⟩⟩ with
          output := (lettered.after ⟨⟨"/data"⟩⟩).output ++ text }) ∧
      lines text = ["1970-01-01 00:00  A (1) [direct]  hey?", "-  B [direct]  "] := by
  have hsession : Session ⟨⟨"/data"⟩⟩ letterHost.disk [named, namedToo, lettered]
      (lettered.after ⟨⟨"/data"⟩⟩).disk :=
    ((Session.start.turn named (.refl _ _)).turn namedToo (.refl _ _)).turn lettered (.refl _ _)
  obtain ⟨-, hshown⟩ := chats_shown isFileless_letterHost hsession (.refl _ _) true 0
  obtain ⟨text, hprinted, -, -, hlines⟩ := hshown _ listed_lettered
  refine ⟨hsession, text, hprinted, ?_⟩
  rw [hlines isUnbroken_lettered]
  decide +kernel

/-! ## A list of one chat, whose name has a line feed -/

/-- A chat is registered in a fresh data folder. -/
def namingTurn (name : String) : Turn where
  before := freshHost
  command := .addChat { chat := "a", name }

/-- The host on which it was. -/
def namedHost (name : String) : Host :=
  (namingTurn name).after ⟨⟨"/data"⟩⟩

theorem session_namingTurn (name : String) :
    Session ⟨⟨"/data"⟩⟩ freshHost.disk [namingTurn name] (namedHost name).disk :=
  .turn .start (namingTurn name) (.refl _ _)

theorem listed_namedHost (name : String) :
    Listing.ofSource (Store.connections ⟨⟨"/data"⟩⟩ (namedHost name).disk) 0 =
      .ok [{ chatId := "a", name }] := by
  have hid : Identifier.isValid "a" = true := by decide
  have hregisters : ∀ p, Command.addChat { chat := "a", name } ≠ .receive p := by simp
  obtain ⟨-, hrewrites⟩ := @registers_of_isReady ⟨⟨"/data"⟩⟩ "m" freshHost
    { chat := "a", name } [] isReady_freshHost hid (.inr ⟨rfl, rfl⟩) true
  have hready : IsReady ⟨⟨"/data"⟩⟩ "m" (namedHost name).disk :=
    isReady_of_execute isReady_freshHost hregisters true
  have hopens := hready.registryDraft.toOpens.of_draft Layout.isPiece_connections
  have hknown := Store.registry_of_registryIn hopens hrewrites.registryIn_eq
  have hconnections : Store.connections ⟨⟨"/data"⟩⟩ (namedHost name).disk =
      .ok [{ chatId := "a", name }] := by
    rw [Store.connections, hknown]
    rfl
  rw [hconnections, Listing.ofSource, Listing.top, List.mergeSort_singleton]
  rfl

/-- A name with a line feed makes a second line, which looks like the one of another chat. -/
theorem chats_forged : Session ⟨⟨"/data"⟩⟩ freshHost.disk [namingTurn "A\n-  B [direct]  "]
      (namedHost "A\n-  B [direct]  ").disk ∧
    IsFileless (Layout.place ⟨⟨"/data"⟩⟩ freshHost.disk) freshHost.disk.look ∧
    ∃ connection text,
      Listing.ofSource (Store.connections ⟨⟨"/data"⟩⟩ (namedHost "A\n-  B [direct]  ").disk) 0 =
        .ok [connection] ∧
      execute ⟨⟨⟨"/data"⟩⟩, true⟩ (.chats 0) (namedHost "A\n-  B [direct]  ") =
        (.ok (), { namedHost "A\n-  B [direct]  " with
          output := (namedHost "A\n-  B [direct]  ").output ++ text }) ∧
      lines text = ["-  A", "-  B [direct]   [direct]  "] := by
  have hlisted := listed_namedHost "A\n-  B [direct]  "
  exact ⟨session_namingTurn _, isEmpty_freshHost.fileless, _, _, hlisted,
    printChats_of_ok hlisted true, by decide⟩

end Courier.Command
