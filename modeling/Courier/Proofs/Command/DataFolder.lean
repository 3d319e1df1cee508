import Courier.Proofs.Command.Execute

/-!
# The data folder in order

Commands are carried out one after another, each in any way, on a data folder that was opened and
that nobody else touches. Then every file in it is in its place and reads as what it should hold:
the registry, the lock, a received message of a registered chat, or a message to a registered chat
that waits in an outbox. No draft is left.
-/

namespace Courier.DataFolder

open Store (Locks Prepares Saves Discards Rewrites registryIn registryNode)

variable {layout : Layout} {root : List String} {opened view changed : View} {d after : Disk}

/-! ## Order -/

/-- The identifiers of the chats in the registry. -/
def knownIds (root : List String) (view : View) : List String :=
  match registryIn (view (Place.registry root)) with
  | some known => known.ids
  | none => []

/-- What a file in the data folder may be. -/
inductive IsInPlace (root : List String) (view : View) (q : List String) (content : ByteArray) :
    Prop
  | registry (hq : q = Place.registry root)
  | lock (hq : q = Place.lock root)
  /-- A received message of a registered chat. -/
  | received {message : Inbound}
      (hq : q = Place.message root message.chatId message.messageId)
      (hchat : message.chatId ∈ knownIds root view)
      (hreads : ∀ now, ((String.fromUTF8? content).bind Toml.read?).bind (Stored.inbound? now) =
        some message)
  /-- A message to a registered chat, handed over at least once. One to a direct chat is meant for
  no single member. -/
  | spooled {kind : ChatKind} {spooled : Spooled}
      (hq : q = Place.spooled root kind spooled.message.messageId)
      (hchat : spooled.message.chatId ∈ knownIds root view) (hattempts : spooled.attempts ≠ 0)
      (hrecipient : kind = .direct → spooled.message.singleRecipient = none)
      (hreads : ((String.fromUTF8? content).bind Toml.read?).bind Stored.spooled? = some spooled)

/-- Whether a registry can be read, with distinct and valid identifiers. -/
def HasRegistry (node : Option Node) : Prop :=
  ∃ known, registryIn node = some known ∧ known.ids.Nodup ∧
    ∀ id ∈ known.ids, Identifier.isValid id = true

/-- A data folder in order: the registry is as it was when the folder was opened or can be read, and
all files are in their places. -/
structure IsOrderly (root : List String) (opened view : View) : Prop where
  registry : view (Place.registry root) = opened (Place.registry root) ∨
    HasRegistry (view (Place.registry root))
  files : ∀ q content, root <+: q → view q = some (.file content) → IsInPlace root view q content

theorem IsInPlace.mono (hids : ∀ id ∈ knownIds root view, id ∈ knownIds root changed)
    {q : List String} {content : ByteArray} (h : IsInPlace root view q content) :
    IsInPlace root changed q content := by
  cases h with
  | registry hq => exact .registry hq
  | lock hq => exact .lock hq
  | received hq hchat hreads => exact .received hq (hids _ hchat) hreads
  | spooled hq hchat hattempts hrecipient hreads =>
      exact .spooled hq (hids _ hchat) hattempts hrecipient hreads

/-- A change keeps the order if it loses no chat and puts new files in their places. -/
theorem IsOrderly.change (h : IsOrderly root opened view)
    (hregistry : changed (Place.registry root) = view (Place.registry root) ∨
      HasRegistry (changed (Place.registry root)))
    (hids : ∀ id ∈ knownIds root view, id ∈ knownIds root changed)
    (hfiles : ∀ q content, root <+: q → changed q = some (.file content) →
      view q = some (.file content) ∨ IsInPlace root changed q content) :
    IsOrderly root opened changed := by
  constructor
  · rcases hregistry with hsame | hnew
    · rw [hsame]
      exact h.registry
    · exact .inr hnew
  · intro q content hq hfile
    rcases hfiles q content hq hfile with hold | hnew
    · exact (h.files q content hq hold).mono hids
    · exact hnew

/-- A change that does not touch the registry keeps the order if it puts new files in their
places. -/
theorem IsOrderly.change_files (h : IsOrderly root opened view)
    (hsame : changed (Place.registry root) = view (Place.registry root))
    (hfiles : ∀ q content, root <+: q → changed q = some (.file content) →
      view q = some (.file content) ∨ IsInPlace root changed q content) :
    IsOrderly root opened changed := by
  apply h.change (.inl hsame) _ hfiles
  intro id hid
  rw [knownIds, hsame]
  exact hid

/-- A folder that looks the same is in the same order. -/
theorem IsOrderly.congr (h : IsOrderly root opened view)
    (hsame : ∀ q, root <+: q → changed q = view q) : IsOrderly root opened changed := by
  apply h.change_files (hsame _ (List.prefix_append _ _))
  intro q content hq hfile
  exact .inl ((hsame q hq).symm.trans hfile)

/-- The registry is not one of the files that were there from the start, so it is only read where it
was written. -/
theorem IsOrderly.hasRegistry (h : IsOrderly root opened view)
    (hopened : ∀ content, opened (Place.registry root) ≠ some (.file content)) {known : Registry}
    (hknown : registryIn (view (Place.registry root)) = some known) :
    known.ids.Nodup ∧ ∀ id ∈ known.ids, Identifier.isValid id = true := by
  rcases h.registry with hsame | ⟨other, hother, hids⟩
  · rw [hsame] at hknown
    cases hnode : opened (Place.registry root) with
    | none =>
        rw [hnode] at hknown
        cases hknown
    | some node =>
        rw [hnode] at hknown
        cases node with
        | file content => exact absurd hnode (hopened content)
        | folder => cases hknown
  · obtain rfl : known = other := Option.some.inj (hknown.symm.trans hother)
    exact hids

/-! ## Changes -/

theorem isOrderly_of_locks (h : IsOrderly (layout.place d) opened d.look)
    (hlocks : Locks layout d after) : IsOrderly (layout.place d) opened after.look := by
  apply h.change_files (hlocks.look_of_ne (Place.registry_ne_lock _))
  intro q content _ hfile
  by_cases hlock : q = Place.lock (layout.place d)
  · exact .inr (.lock hlock)
  · exact .inl ((hlocks.look_of_ne hlock).symm.trans hfile)

theorem isOrderly_of_prepares (h : IsOrderly (layout.place d) opened d.look) {chatId : String}
    (hprepares : Prepares layout d chatId after) :
    IsOrderly (layout.place d) opened after.look := by
  obtain ⟨held, hlocks, hmakes⟩ := hprepares
  have hheld := isOrderly_of_locks h hlocks
  have hmade : held.MakesSome after := ⟨_, hmakes⟩
  apply hheld.change_files
  · rcases hmakes.look_eq (Place.registry (layout.place d)) with hsame | ⟨hmem, -, -⟩
    · exact hsame
    · simp [Store.chatFolders, Place.registry, Place.chat, Place.messages] at hmem
  · intro q content _ hfile
    exact .inl (hmade.look_file hfile)

theorem isOrderly_of_saves (h : IsOrderly (layout.place d) opened d.look) {message : Inbound}
    (hsaves : Saves layout d message after) : IsOrderly (layout.place d) opened after.look := by
  have hregistry : after.look (Place.registry (layout.place d)) =
      d.look (Place.registry (layout.place d)) := hsaves.look_outside (by decide) (by decide) []
  obtain ⟨known, hknown, hfind⟩ := hsaves.known
  have hchat : message.chatId ∈ knownIds (layout.place d) after.look := by
    rw [knownIds, hregistry, ← registryNode, hknown]
    exact Registry.find?_ne_none_iff.mp hfind
  apply h.change_files hregistry
  intro q content _ hfile
  by_cases hlock : q = Place.lock (layout.place d)
  · exact .inr (.lock hlock)
  by_cases hmessage : q = Place.message (layout.place d) message.chatId message.messageId
  · obtain ⟨t, htable, hwritten⟩ := hsaves.written
    rw [hmessage, hwritten] at hfile
    cases hfile
    refine .inr (.received hmessage hchat ?_)
    intro now
    rw [fromUTF8?_toUTF8]
    exact (Stored.inbound_isReadBack now).decode_eq htable
  by_cases hdraft : q = Place.messageDraft (layout.place d) message.chatId message.messageId
  · rw [hdraft, hsaves.draft_eq] at hfile
    cases hfile
  by_cases hfolder : q ∈ Store.chatFolders (layout.place d) message.chatId
  · rcases hsaves.look_folder q hfolder with hsame | ⟨-, hmade⟩
    · exact .inl (hsame.symm.trans hfile)
    · cases hmade.symm.trans hfile
  · exact .inl ((hsaves.look_of_ne q hlock hfolder hdraft hmessage).symm.trans hfile)

theorem isOrderly_of_discards (h : IsOrderly (layout.place d) opened d.look)
    {chatId messageId : String} (hdiscards : Discards layout d chatId messageId after) :
    IsOrderly (layout.place d) opened after.look := by
  apply h.change_files
  · apply hdiscards.look_of_ne
    · exact Place.registry_ne_lock _
    · exact Place.registry_ne_message _ _ _
  · intro q content _ hfile
    by_cases hlock : q = Place.lock (layout.place d)
    · exact .inr (.lock hlock)
    by_cases hmessage : q = Place.message (layout.place d) chatId messageId
    · rw [hmessage, hdiscards.look_eq] at hfile
      cases hfile
    · exact .inl ((hdiscards.look_of_ne q hlock hmessage).symm.trans hfile)

theorem isOrderly_of_rewrites (h : IsOrderly (layout.place d) opened d.look)
    (hopened : ∀ content, opened (Place.registry (layout.place d)) ≠ some (.file content))
    {known updated : Registry} (hextended : known.IsExtendedBy updated)
    (hrewrites : Rewrites layout d known updated after) :
    IsOrderly (layout.place d) opened after.look := by
  have hafter : registryIn (after.look (Place.registry (layout.place d))) = some updated := by
    rw [← hrewrites.place_eq]
    exact hrewrites.registryIn_eq
  have hknown : known.ids.Nodup ∧ ∀ id ∈ known.ids, Identifier.isValid id = true := by
    rcases hrewrites.known_eq with hin | ⟨rfl, -⟩
    · exact h.hasRegistry hopened hin
    · exact ⟨List.nodup_nil, fun id hid => absurd hid List.not_mem_nil⟩
  apply h.change
  · exact .inr ⟨updated, hafter, hextended.nodup hknown.1, hextended.valid hknown.2⟩
  -- What was known was read from the registry, or there was none to know a chat from.
  · intro id hid
    rw [knownIds, hafter]
    apply hextended.mem_ids
    rcases hrewrites.known_eq with hin | ⟨-, hnone⟩
    · rw [knownIds, ← registryNode, hin] at hid
      exact hid
    · rw [knownIds, ← registryNode, hnone] at hid
      exact absurd hid List.not_mem_nil
  · intro q content _ hfile
    by_cases hlock : q = Place.lock (layout.place d)
    · exact .inr (.lock hlock)
    by_cases hregistry : q = Place.registry (layout.place d)
    · exact .inr (.registry hregistry)
    by_cases hdraft : q = Place.registryDraft (layout.place d)
    · rw [hdraft, hrewrites.draft_eq] at hfile
      cases hfile
    · exact .inl ((hrewrites.look_of_ne q hlock hdraft hregistry).symm.trans hfile)

theorem isOrderly_of_spools (h : IsOrderly (layout.place d) opened d.look) {kind : ChatKind}
    {message : Outgoing} {known : Registry}
    (hknown : registryIn (registryNode layout d) = some known)
    (hchat : message.chatId ∈ known.ids) (hspools : Outbox.Spools layout kind message d after) :
    IsOrderly (layout.place d) opened after.look := by
  have hregistry : after.look (Place.registry (layout.place d)) =
      d.look (Place.registry (layout.place d)) := hspools.look_outside (by decide) []
  apply h.change_files hregistry
  intro q content _ hfile
  by_cases hdraft : q = Place.spooledDraft (layout.place d) kind message.messageId
  · rw [hdraft, hspools.draft_eq] at hfile
    cases hfile
  by_cases hspooled : q = Place.spooled (layout.place d) kind message.messageId
  · obtain ⟨spooled, t, htable, hattempts, hmessage, hwritten⟩ := hspools.written
    rw [hspooled, hwritten] at hfile
    cases hfile
    have hname : q = Place.spooled (layout.place d) kind spooled.message.messageId := by
      rw [hmessage, Outbox.prepared_messageId]
      exact hspooled
    refine .inr (.spooled hname ?_ hattempts ?_ ?_)
    · rw [knownIds, hregistry, ← registryNode, hknown, hmessage, Outbox.prepared_chatId]
      exact hchat
    · rintro rfl
      rw [hmessage]
      exact Outbox.prepared_singleRecipient message
    · rw [fromUTF8?_toUTF8]
      exact Stored.spooled_isReadBack.decode_eq htable
  · exact .inl ((hspools.look_of_ne hspooled hdraft).symm.trans hfile)

/-! ## Commands -/

/-- A data folder at a place on a disk, in order since it was opened. -/
structure IsKept (layout : Layout) (root : List String) (opened : View) (d : Disk) : Prop where
  place_eq : layout.place d = root
  isOrderly : IsOrderly root opened d.look

variable (hopened : ∀ content, opened (Place.registry root) ≠ some (.file content))
include hopened

theorem isKept_of_change (h : IsKept layout root opened d)
    (hchange : Command.Change layout d after) :
    IsKept layout root opened after := by
  obtain ⟨rfl, horderly⟩ := h
  cases hchange with
  | locked hlocks =>
      exact ⟨layout.place_of_keeps hlocks.keeps, isOrderly_of_locks horderly hlocks⟩
  | rewritten hextended hrewrites =>
      exact ⟨hrewrites.place_eq, isOrderly_of_rewrites horderly hopened hextended hrewrites⟩
  | spooled hknown hchat hspools =>
      exact ⟨layout.place_of_keeps hspools.keeps,
        isOrderly_of_spools horderly hknown hchat hspools⟩

theorem isKept_of_changes (h : IsKept layout root opened d)
    (hchanges : Command.Changes layout d after) : IsKept layout root opened after := by
  induction hchanges with
  | refl => exact h
  | tail _ hchange ih => exact isKept_of_change hopened ih hchange

theorem isKept_of_course {message : Inbound} {read received : Host}
    {result : Except Inbox.ReceiveError Inbox.Outcome} (h : IsKept layout root opened read.disk)
    (hcourse : Inbox.Course layout message read result received) :
    IsKept layout root opened received.disk := by
  obtain ⟨rfl, horderly⟩ := h
  cases hcourse with
  | refused => exact ⟨rfl, horderly⟩
  | duplicate hdisk =>
      exact ⟨layout.place_of_keeps hdisk.keeps, isOrderly_of_prepares horderly hdisk⟩
  | unsaved hdisk =>
      exact ⟨layout.place_of_keeps hdisk.keeps, isOrderly_of_prepares horderly hdisk⟩
  -- Each of the three steps is taken on the disk that the one before left.
  | takenBack _ hsaves hlocks _ _ hdiscards =>
      have hsavedPlace := layout.place_of_keeps hsaves.keeps
      have hfailedPlace := (layout.place_of_keeps hlocks.keeps).trans hsavedPlace
      refine ⟨(layout.place_of_keeps hdiscards.keeps).trans hfailedPlace, ?_⟩
      have hsaved := isOrderly_of_saves horderly hsaves
      rw [← hsavedPlace] at hsaved
      have hfailed := isOrderly_of_locks hsaved hlocks
      rw [hsavedPlace, ← hfailedPlace] at hfailed
      rw [← hfailedPlace]
      exact isOrderly_of_discards hfailed hdiscards
  | processed hsaves hknown hrewrites =>
      have hsavedPlace := layout.place_of_keeps hsaves.keeps
      refine ⟨hrewrites.place_eq.trans hsavedPlace, ?_⟩
      have hsaved := isOrderly_of_saves horderly hsaves
      rw [← hsavedPlace] at hsaved hopened ⊢
      exact isOrderly_of_rewrites hsaved hopened (Registry.isExtendedBy_applyUpdate _ _ _) hrewrites

/-- Every command keeps the data folder in order, however it ends. -/
theorem isKept_of_execute (notifications : Bool) (command : Command) (host : Host)
    (h : IsKept layout root opened host.disk) :
    IsKept layout root opened (Command.execute ⟨layout, notifications⟩ command host).2.disk := by
  by_cases hcommand : ∀ p, command ≠ .receive p
  · exact isKept_of_changes hopened h (Command.acts_execute notifications command host hcommand)
  · obtain ⟨p, hp⟩ := Classical.not_forall.mp hcommand
    obtain rfl := Classical.not_not.mp hp
    rw [Command.execute]
    rcases Command.receiveFile_cases layout notifications p host with
      ⟨-, hdisk⟩ | ⟨message, result, read, received, -, hread, hcourse, hdisk⟩
    · rw [hdisk]
      exact h
    · rw [hdisk]
      rw [← hread] at h
      exact isKept_of_course hopened h hcourse

omit hopened

/-! ## Opening -/

theorem makeAll_makesSome (d : Disk) (folders : List Path) :
    d.MakesSome (Layout.makeAll d folders).1 := by
  induction folders generalizing d with
  | nil => exact .refl d
  | cons folder folders ih =>
      have hfirst := d.makeFolders_makesSome folder
      rw [Layout.makeAll]
      cases hmake : d.makeFolders folder with
      | mk made answer =>
          rw [hmake] at hfirst
          cases answer with
          | error e => exact hfirst
          | ok _ => exact hfirst.trans (ih made)

theorem prepare_makesSome (layout : Layout) (d : Disk) : d.MakesSome (layout.prepare d).1 :=
  makeAll_makesSome d layout.folders

theorem place_prepare (layout : Layout) (d : Disk) :
    layout.place (layout.prepare d).1 = layout.place d := by
  obtain ⟨places, hmakes⟩ := prepare_makesSome layout d
  exact layout.place_of_keeps hmakes.keeps

/-- Whether there is no file in a folder. -/
def IsFileless (root : List String) (view : View) : Prop :=
  ∀ q content, root <+: q → view q ≠ some (.file content)

theorem isFileless_prepare (layout : Layout) (h : IsFileless root d.look) :
    IsFileless root (layout.prepare d).1.look := by
  intro q content hq hfile
  exact h q content hq ((prepare_makesSome layout d).look_file hfile)

theorem IsFileless.isOrderly (h : IsFileless root view) : IsOrderly root view view := by
  constructor
  · exact .inl rfl
  · intro q content hq hfile
    exact absurd hfile (h q content hq)

/-! ## Runs -/

/-- Whether the data folder is at the same place of two disks and looks the same. -/
structure IsSameFolder (layout : Layout) (d after : Disk) : Prop where
  place_eq : layout.place after = layout.place d
  look_eq : ∀ q, layout.place d <+: q → after.look q = d.look q

theorem IsSameFolder.refl (layout : Layout) (d : Disk) : IsSameFolder layout d d :=
  ⟨rfl, fun _ _ => rfl⟩

/-- The disks after some commands. Between the commands everything outside of the data folder may
become another: other files, the clock, and the random numbers. -/
inductive Run (layout : Layout) (first : Disk) : Disk → Prop
  | start : Run layout first first
  | command {d : Disk} (hrun : Run layout first d) (host : Host)
      (hfolder : IsSameFolder layout d host.disk) (notifications : Bool) (command : Command) :
      Run layout first (Command.execute ⟨layout, notifications⟩ command host).2.disk

theorem Run.isKept {first : Disk} (hfirst : IsFileless (layout.place first) first.look)
    (h : Run layout first d) : IsKept layout (layout.place first) first.look d := by
  induction h with
  | start => exact ⟨rfl, hfirst.isOrderly⟩
  | @command d _ host hfolder notifications command ih =>
      apply isKept_of_execute
      · intro content
        exact hfirst _ content (List.prefix_append _ _)
      · refine ⟨hfolder.place_eq.trans ih.place_eq, ?_⟩
        apply ih.isOrderly.congr
        intro q hq
        rw [← ih.place_eq] at hq
        exact hfolder.look_eq q hq

theorem IsOrderly.received (h : IsOrderly root opened view) {more : List String}
    {content : ByteArray} (hfile : view (Place.messages root ++ more) = some (.file content)) :
    ∃ message : Inbound, more = [message.chatId, message.messageId ++ ".toml"] ∧
      message.chatId ∈ knownIds root view ∧
      ∀ now, ((String.fromUTF8? content).bind Toml.read?).bind (Stored.inbound? now) =
        some message := by
  have hbelow : root <+: Place.messages root ++ more := by
    rw [Place.messages, List.append_assoc]
    exact List.prefix_append _ _
  cases h.files _ content hbelow hfile with
  | registry hq => simp [Place.messages, Place.registry] at hq
  | lock hq => simp [Place.messages, Place.lock] at hq
  | @received message hq hchat hreads =>
      rw [Place.message, Place.chat, List.append_assoc] at hq
      exact ⟨message, List.append_cancel_left hq, hchat, hreads⟩
  | spooled hq => simp [Place.messages, Place.spooled, Place.outbox] at hq

theorem IsOrderly.spooled (h : IsOrderly root opened view) {kind : ChatKind} {more : List String}
    {content : ByteArray} (hfile : view (Place.outbox root kind ++ more) = some (.file content)) :
    ∃ spooled : Spooled, more = [spooled.message.messageId ++ ".toml"] ∧
      spooled.message.chatId ∈ knownIds root view ∧ 1 ≤ spooled.attempts.toNat ∧
      (kind = .direct → spooled.message.singleRecipient = none) ∧
      ((String.fromUTF8? content).bind Toml.read?).bind Stored.spooled? = some spooled := by
  have hbelow : root <+: Place.outbox root kind ++ more := by
    rw [Place.outbox, List.append_assoc, List.append_assoc]
    exact List.prefix_append _ _
  cases h.files _ content hbelow hfile with
  | registry hq => simp [Place.outbox, Place.registry] at hq
  | lock hq => simp [Place.outbox, Place.lock] at hq
  | received hq => simp [Place.outbox, Place.message_eq] at hq
  | @spooled other spooled hq hchat hattempts hrecipient hreads =>
      simp only [Place.spooled, Place.outbox, List.append_assoc] at hq
      obtain ⟨hword, hname⟩ := List.cons.inj (List.append_cancel_left (List.append_cancel_left hq))
      obtain rfl := ChatKind.word_injective hword
      have hcounted : spooled.attempts.toNat ≠ 0 := fun hzero =>
        hattempts (UInt32.toNat_inj.mp hzero)
      exact ⟨spooled, hname, hchat, Nat.one_le_iff_ne_zero.mpr hcounted, hrecipient, hreads⟩

/-- A message in an outbox has the identifier under which it is found, and was handed over. -/
theorem IsOrderly.of_spooledIn (h : IsOrderly root opened view) {kind : ChatKind}
    {messageId : String} {spooled : Spooled}
    (hspooled : Outbox.spooledIn (view (Place.spooled root kind messageId)) = some spooled) :
    spooled.message.messageId = messageId ∧ 1 ≤ spooled.attempts.toNat := by
  cases hnode : view (Place.spooled root kind messageId) with
  | none =>
      rw [hnode] at hspooled
      cases hspooled
  | some node =>
      rw [hnode] at hspooled
      cases node with
      | folder => cases hspooled
      | file content =>
          obtain ⟨found, hname, -, hattempts, -, hreads⟩ := h.spooled hnode
          obtain rfl : found = spooled := Option.some.inj (hreads.symm.trans hspooled)
          exact ⟨(Place.document_injective (List.singleton_inj.mp hname)).symm, hattempts⟩

/-- Without files there is no registry when the folder is opened. -/
theorem IsOrderly.registry_cases (h : IsOrderly root opened view)
    (hopened : IsFileless root opened) :
    view (Place.registry root) = none ∨ HasRegistry (view (Place.registry root)) ∨
      (opened (Place.registry root) = some .folder ∧
        view (Place.registry root) = some .folder) := by
  rcases h.registry with hsame | hnew
  · rw [hsame]
    cases hnode : opened (Place.registry root) with
    | none => exact .inl rfl
    | some node =>
        cases node with
        | file content => exact absurd hnode (hopened _ content (List.prefix_append _ _))
        | folder => exact .inr (.inr ⟨rfl, rfl⟩)
  · exact .inr (.inl hnew)

/-- A host with nothing on its disk but the data folder that was just opened. -/
def freshHost : Host where
  disk := (Layout.prepare ⟨⟨"/data"⟩⟩ { root := .empty, current := [] }).1
  clock _ := .ofEpoch 0 0
  random n := n

/-- A direct chat is registered. -/
def freshChat : Except Command.Failure Unit × Host :=
  Command.execute ⟨⟨⟨"/data"⟩⟩, true⟩
    (.addChat { chat := "a", name := "A" }) freshHost

end Courier.DataFolder
