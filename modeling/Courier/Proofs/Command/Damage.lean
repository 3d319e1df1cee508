import Courier.Proofs.Command.Lock
import Courier.Proofs.Command.Lookup

/-!
# Damaged registries

A registry that is there but cannot be read is never overwritten. Every command fails and changes
nothing but that the lock may be made. Once the registry is put back, all goes on as if these
commands had not been run, except that the lock itself can be received as a file, which fails.
-/

namespace Courier

namespace Store

variable {layout : Layout} {d : Disk}

/-- Whether the registry is there but cannot be read: it is a folder, its bytes are no text, the
text is no document, or the document is no registry. -/
structure IsDamaged (layout : Layout) (d : Disk) : Prop where
  isThere : d.exists? layout.registry = true
  registryIn_eq : registryIn (registryNode layout d) = none

namespace IsDamaged

theorem opens (h : IsDamaged layout d) : d.Opens layout.dataFolder "connections.toml" :=
  ((Disk.exists?_child_iff Layout.isName_registry).mp h.isThere).1

theorem registryNode_ne (h : IsDamaged layout d) : registryNode layout d ≠ none :=
  ((Disk.exists?_child_iff Layout.isName_registry).mp h.isThere).2

/-- No registry is taken for the empty one but a missing one. -/
theorem not_known (h : IsDamaged layout d) {known : Registry} :
    ¬ (registryIn (registryNode layout d) = some known ∨
      known = [] ∧ registryNode layout d = none) := by
  rintro (hknown | ⟨-, hnone⟩)
  · cases h.registryIn_eq.symm.trans hknown
  · exact h.registryNode_ne hnone

theorem registry_eq (h : IsDamaged layout d) : ∃ error, registry layout d = .error error := by
  cases hregistry : registry layout d with
  | error error => exact ⟨error, rfl⟩
  | ok known => exact absurd ((registry_eq_ok_iff h.opens).mp hregistry) h.not_known

theorem registration_eq (h : IsDamaged layout d) (chatId : String) :
    ∃ error, registration layout d chatId = .error error := by
  obtain ⟨error, hregistry⟩ := h.registry_eq
  exact ⟨error, by rw [registration, hregistry]; rfl⟩

theorem register_eq (h : IsDamaged layout d) (connection : Connection)
    (permissions : Permissions) :
    ∃ error after, register layout d connection permissions = (after, .error error) ∧
      Locks layout d after := by
  cases hregister : register layout d connection permissions with
  | mk after result =>
      rcases register_cases hregister with ⟨⟨error, rfl⟩, hlocks⟩ | ⟨-, -, known, hrewrites⟩
      · exact ⟨error, after, rfl, hlocks⟩
      · exact absurd hrewrites.known_eq h.not_known

/-- Making the lock repairs nothing. -/
theorem locks (h : IsDamaged layout d) {held : Disk} (hlocks : Locks layout d held) :
    IsDamaged layout held := by
  have hnode := hlocks.registryNode_eq
  refine ⟨?_, hnode ▸ h.registryIn_eq⟩
  refine (Disk.exists?_child_iff Layout.isName_registry).mpr ⟨hlocks.keeps.opens h.opens, ?_⟩
  exact fun hnone => h.registryNode_ne (hnode.symm.trans hnone)

end IsDamaged

theorem Locks.trans {held later : Disk} (hfirst : Locks layout d held)
    (hsecond : Locks layout held later) : Locks layout d later := by
  have hplace := layout.place_of_keeps hfirst.keeps
  refine ⟨hsecond.current_eq.trans hfirst.current_eq, ?_⟩
  rcases hsecond.look_eq with hsame | ⟨hnone, hset⟩
  · rw [hsame]
    exact hfirst.look_eq
  · rw [hplace] at hnone hset
    rcases hfirst.look_eq with hsame | ⟨-, hset'⟩
    · rw [hset, ← hsame]
      exact .inr ⟨hnone, rfl⟩
    · rw [hset', View.set_self] at hnone
      cases hnone

end Store

namespace Command

open DataFolder (freshHost)
open Store (IsDamaged Locks)

variable {layout : Layout} {host : Host}

/-! ## Commands that fail -/

/-- Whether nothing was printed, nobody was notified, and the disk is the same but for a lock. -/
structure IsQuiet (layout : Layout) (before after : Host) : Prop where
  output_eq : after.output = before.output
  notices_eq : after.notices = before.notices
  console_eq : after.console = before.console
  locks : Locks layout before.disk after.disk

theorem isQuiet_refl (layout : Layout) (host : Host) : IsQuiet layout host host :=
  ⟨rfl, rfl, rfl, .refl layout host.disk⟩

/-- Without a registry no recipient is known. -/
theorem sendMessage_of_isDamaged (h : IsDamaged layout host.disk) (notifications : Bool)
    (arguments : SendArguments) : ∃ failure after,
      sendMessage ⟨layout, notifications⟩ arguments host = (.error failure, after) ∧
        IsQuiet layout host after := by
  cases hrouted : routedBy layout (.send arguments) host with
  | none =>
      obtain ⟨error, hsend⟩ := sendMessage_of_not_routed notifications hrouted
      exact ⟨_, _, hsend, rfl, rfl, rfl, .refl layout _⟩
  | some routed =>
      obtain ⟨mode, message, start⟩ := routed
      obtain ⟨rfl, rfl, hsend⟩ := execute_send_of_routedBy notifications hrouted
      obtain ⟨error, hentry⟩ := h.registration_eq message.chatId
      have hunknown := @routeAndPrint_of_not_registered layout .send message
        (newId (newId host).2).2 error message.messageId hentry
      exact ⟨_, _, hsend.trans hunknown, rfl, rfl, rfl, .refl layout _⟩

theorem retryMessage_of_isDamaged (h : IsDamaged layout host.disk) (notifications : Bool)
    (messageId : String) : ∃ failure after,
      retryMessage ⟨layout, notifications⟩ messageId host = (.error failure, after) ∧
        IsQuiet layout host after := by
  cases hrouted : routedBy layout (.retry messageId) host with
  | none =>
      obtain ⟨failure, hretry⟩ := retryMessage_of_not_routed notifications hrouted
      exact ⟨failure, host, hretry, isQuiet_refl layout host⟩
  | some routed =>
      obtain ⟨found, hfind⟩ : ∃ found,
          Outbox.find layout host.disk messageId = .ok (some found) := by
        rw [routedBy] at hrouted
        split at hrouted
        next found hfind => exact ⟨found, hfind⟩
        next => cases hrouted
      obtain ⟨error, hentry⟩ := h.registration_eq found.message.chatId
      have hretry := execute_retry_of_find notifications hfind
      rw [routeAndPrint_of_not_registered hentry] at hretry
      exact ⟨_, _, hretry, rfl, rfl, rfl, .refl layout _⟩

theorem isQuiet_readInbound (layout : Layout) (p : Path) (host : Host) :
    IsQuiet layout host (readInbound p host).2 := by
  rcases readInbound_host p host with hsame | htime
  · rw [hsame]
    exact isQuiet_refl layout host
  · rw [htime]
    exact ⟨rfl, rfl, rfl, .refl layout _⟩

theorem receiveFile_of_error {failure : Failure} {read : Host} (notifications : Bool) {p : Path}
    (h : readInbound p host = (.error failure, read)) :
    receiveFile ⟨layout, notifications⟩ p host = (.error failure, read) := by
  unfold receiveFile
  simp only [bind, StateT.bind, h]
  rfl

theorem receiveFile_of_isDamaged (h : IsDamaged layout host.disk) (notifications : Bool)
    (p : Path) : ∃ failure after,
      receiveFile ⟨layout, notifications⟩ p host = (.error failure, after) ∧
        IsQuiet layout host after := by
  have hquiet := isQuiet_readInbound layout p host
  have hdisk := readInbound_disk p host
  cases hread : readInbound p host with
  | mk answer read =>
      rw [hread] at hquiet hdisk
      cases answer with
      | error failure => exact ⟨failure, read, receiveFile_of_error notifications hread, hquiet⟩
      | ok message =>
          rw [← hdisk] at h
          obtain ⟨error, hentry⟩ := h.registration_eq message.chatId
          obtain ⟨refusal, -, hrefused⟩ := @Inbox.receive_of_not_registered layout message
            notifications (fun chatId messageId =>
              Host.ask fun d => Store.isReceived layout d chatId messageId) read
            fun entry hok => by cases hentry.symm.trans hok
          refine ⟨.receive refusal, read, ?_, hquiet⟩
          unfold receiveFile
          simp only [bind, StateT.bind, hread, Host.services, hrefused]
          rfl

theorem printChats_of_isDamaged (h : IsDamaged layout host.disk) (notifications : Bool)
    (limit : Nat) : ∃ failure after,
      printChats ⟨layout, notifications⟩ limit host = (.error failure, after) ∧
        IsQuiet layout host after := by
  obtain ⟨error, hregistry⟩ := h.registry_eq
  refine ⟨.listing (.ofStoreError error), host, ?_, isQuiet_refl layout host⟩
  apply printChats_of_error
  rw [Store.connections, hregistry]
  rfl

theorem registerChat_of_isDamaged (h : IsDamaged layout host.disk) (notifications : Bool)
    (arguments : AddChatArguments) : ∃ failure after,
      registerChat ⟨layout, notifications⟩ arguments host = (.error failure, after) ∧
        IsQuiet layout host after := by
  obtain ⟨error, held, hregister, hlocks⟩ :=
    h.register_eq (describedChat arguments).1 (describedChat arguments).2
  refine ⟨.store error, { host with disk := held }, ?_, rfl, rfl, rfl, hlocks⟩
  unfold registerChat
  simp only [bind, StateT.bind, Host.alter, hregister]
  rfl

/-- Whether a command fails and is quiet about it. -/
structure Turn.FailsQuietly (layout : Layout) (turn : Turn) : Prop where
  failed : ∃ failure, turn.result layout = .error failure
  quiet : IsQuiet layout turn.before (turn.after layout)

/-- Every command fails quietly without a registry. -/
theorem Turn.failsQuietly_of_isDamaged {turn : Turn} (h : IsDamaged layout turn.before.disk) :
    turn.FailsQuietly layout := by
  obtain ⟨failure, after, hexecute, hquiet⟩ : ∃ failure after,
      execute ⟨layout, turn.notifications⟩ turn.command turn.before = (.error failure, after) ∧
        IsQuiet layout turn.before after := by
    cases turn.command with
    | send arguments => exact sendMessage_of_isDamaged h turn.notifications arguments
    | retry messageId => exact retryMessage_of_isDamaged h turn.notifications messageId
    | receive p => exact receiveFile_of_isDamaged h turn.notifications p
    | chats limit => exact printChats_of_isDamaged h turn.notifications limit
    | addChat arguments => exact registerChat_of_isDamaged h turn.notifications arguments
  constructor
  · exact ⟨failure, congrArg Prod.fst hexecute⟩
  · rw [Turn.after, hexecute]
    exact hquiet

/-- A damaged registry stays as it is, whatever commands are run. -/
theorem ClosedSession.locks_of_isDamaged {first d : Disk} {turns : List Turn}
    (hsession : ClosedSession layout first turns d) (h : IsDamaged layout first) :
    Locks layout first d ∧ ∀ turn ∈ turns, turn.FailsQuietly layout := by
  induction hsession with
  | start => exact ⟨.refl layout first, by simp⟩
  | turn _ turn hdisk ih =>
      obtain ⟨hlocks, hfailed⟩ := ih
      subst hdisk
      have hfails := Turn.failsQuietly_of_isDamaged (h.locks hlocks)
      refine ⟨hlocks.trans hfails.quiet.locks, ?_⟩
      intro other hother
      rcases List.mem_append.mp hother with hbefore | hlast
      · exact hfailed other hbefore
      · rw [List.mem_singleton.mp hlast]
        exact hfails

/-! ## Going on with the registry put back -/

/-- The same command on another disk. -/
def Turn.on (turn : Turn) (d : Disk) : Turn :=
  { turn with before := turn.before.on d }

/-- Whether commands that are run one after another behave on a copy of a disk as on the disk
itself: they give the same results and leave the same host, and in the end the disk is the same but
for a lock. Where the lock is missing on the disk, a file that is received by way of its place is
received neither there nor on the copy, and nothing is changed. -/
inductive BehavesAlike (layout : Layout) : List Turn → Disk → Disk → Prop
  | done {d copy : Disk} (h : Locks layout d copy) : BehavesAlike layout [] d copy
  | alike {turn : Turn} {turns : List Turn} {d copy : Disk}
      (hresult : (turn.on copy).result layout = (turn.on d).result layout)
      (hafter : (turn.on copy).after layout =
        ((turn.on d).after layout).on ((turn.on copy).after layout).disk)
      (hrest : BehavesAlike layout turns ((turn.on d).after layout).disk
        ((turn.on copy).after layout).disk) : BehavesAlike layout (turn :: turns) d copy
  | lock {turn : Turn} {turns : List Turn} {d copy : Disk} {p : Path}
      (hcommand : turn.command = .receive p)
      (hplace : Place.lock (layout.place d) ∈ Disk.trail (d.start p) p.steps)
      (hmissing : d.look (Place.lock (layout.place d)) = none)
      (hfails : (turn.on d).FailsQuietly layout) (hdisk : ((turn.on d).after layout).disk = d)
      (hfails' : (turn.on copy).FailsQuietly layout)
      (hdisk' : ((turn.on copy).after layout).disk = copy)
      (hrest : BehavesAlike layout turns d copy) : BehavesAlike layout (turn :: turns) d copy

theorem fails_of_not_read (layout : Layout) {turn : Turn} {p : Path}
    (hcommand : turn.command = .receive p)
    (h : (∃ error, turn.before.disk.readText p = .error error) ∨
      turn.before.disk.readText p = .ok "") :
    turn.FailsQuietly layout ∧ (turn.after layout).disk = turn.before.disk := by
  obtain ⟨failure, hfailed⟩ := readInbound_of_not_read h
  have hexecute : execute ⟨layout, turn.notifications⟩ turn.command turn.before =
      (.error failure, (readInbound p turn.before).2) := by
    rw [hcommand, execute]
    exact receiveFile_of_error turn.notifications (Prod.ext hfailed rfl)
  refine ⟨⟨⟨failure, congrArg Prod.fst hexecute⟩, ?_⟩, ?_⟩
  · rw [Turn.after, hexecute]
    exact isQuiet_readInbound layout p turn.before
  · rw [Turn.after, hexecute]
    exact readInbound_disk p turn.before

/-- Only the lock can stand between two disks that match, and then it is not there on the first. -/
theorem readText_of_not_agreesOn {d copy : Disk} (h : Store.Matches layout d copy) {p : Path}
    (hp : ¬ d.AgreesOn p copy) :
    Place.lock (layout.place d) ∈ Disk.trail (d.start p) p.steps ∧
      d.look (Place.lock (layout.place d)) = none ∧
      (∃ error, d.readText p = .error error) ∧
      ((∃ error, copy.readText p = .error error) ∨ copy.readText p = .ok "") := by
  have hdiffers : ∃ q ∈ Disk.trail (d.start p) p.steps, copy.look q ≠ d.look q := by
    by_contra hsame
    simp only [not_exists, not_and, ne_eq, not_not] at hsame
    exact hp ⟨h.current_eq, hsame⟩
  obtain ⟨q, hq, hne⟩ := hdiffers
  have hlock : q = Place.lock (layout.place d) := by
    by_contra hother
    exact hne (h.look_of_ne hother)
  subst hlock
  rcases h.look_eq with hsame | ⟨hnone, hset⟩
  · exact absurd (congrFun hsame _) hne
  · have hmade : copy.look (Place.lock (layout.place d)) = some (.file ByteArray.empty) := by
      rw [hset, View.set_self]
    have hstart : copy.start p = d.start p := by rw [Disk.start, Disk.start, h.current_eq]
    exact ⟨hq, hnone, Disk.readText_of_missing hq hnone,
      Disk.readText_of_empty (hstart.symm ▸ hq) hmade⟩

theorem goesAlike_execute {d copy : Disk} (h : Store.Matches layout d copy) (turn : Turn)
    (hcommand : ∀ p, turn.command = .receive p → d.AgreesOn p copy) :
    GoesAlike layout (execute ⟨layout, turn.notifications⟩ turn.command) (turn.before.on d)
      (turn.before.on copy) := by
  have hmatches : Matches layout (turn.before.on d) (turn.before.on copy) := ⟨rfl, h⟩
  cases hturn : turn.command with
  | send arguments => exact ignoresLock_sendMessage turn.notifications arguments _ _ hmatches
  | retry messageId => exact ignoresLock_retryMessage turn.notifications messageId _ _ hmatches
  | receive p => exact goesAlike_receiveFile hmatches turn.notifications (hcommand p hturn)
  | chats limit => exact ignoresLock_printChats turn.notifications limit _ _ hmatches
  | addChat arguments =>
      exact ignoresLock_registerChat turn.notifications arguments _ _ hmatches

theorem behavesAlike_of_matches {d copy : Disk} (h : Store.Matches layout d copy)
    (turns : List Turn) : BehavesAlike layout turns d copy := by
  induction turns generalizing d copy with
  | nil => exact .done h.toLocks
  | cons turn turns ih =>
      by_cases hturn : ∀ p, turn.command = .receive p → d.AgreesOn p copy
      · obtain ⟨hanswer, hmatched⟩ := goesAlike_execute h turn hturn
        exact .alike hanswer hmatched.rest_eq (ih hmatched.disks)
      -- The one command that can tell fails on both disks and changes neither.
      · simp only [not_forall] at hturn
        obtain ⟨p, hcommand, hp⟩ := hturn
        obtain ⟨hplace, hmissing, hunread, hunread'⟩ := readText_of_not_agreesOn h hp
        obtain ⟨hfails, hdisk⟩ :=
          @fails_of_not_read layout (turn.on d) p hcommand (.inl hunread)
        obtain ⟨hfails', hdisk'⟩ :=
          @fails_of_not_read layout (turn.on copy) p hcommand hunread'
        exact .lock hcommand hplace hmissing hfails hdisk hfails' hdisk' (ih h)

/-- A disk that is another one but for what stands at a place and below it. -/
structure IsSameOutside (place : List String) (d other : Disk) : Prop where
  current_eq : other.current = d.current
  look_eq : ∀ q, ¬ place <+: q → other.look q = d.look q

/-- A disk with the registry put back as it is on an original. -/
structure PutsBack (layout : Layout) (original d restored : Disk) : Prop
    extends IsSameOutside (Place.registry (layout.place d)) d restored where
  registry_eq : ∀ q, Place.registry (layout.place d) <+: q → restored.look q = original.look q

theorem registry_not_prefix_lock (root : List String) :
    ¬ Place.registry root <+: Place.lock root := by
  intro hprefix
  have heq := hprefix.eq_of_length (by simp [Place.registry, Place.lock])
  exact Place.registry_ne_lock root heq

/-- Once the registry is put back only the lock is left of the commands that were run before. -/
theorem locks_of_putsBack {original d failed restored : Disk}
    (hdamaged : IsSameOutside (Place.registry (layout.place d)) original d)
    (hlocks : Locks layout d failed) (hback : PutsBack layout original failed restored) :
    Locks layout original restored := by
  have hlock := registry_not_prefix_lock (layout.place d)
  have hoff := hback.look_eq
  have hon := hback.registry_eq
  rw [layout.place_of_keeps hlocks.keeps] at hoff hon
  refine ⟨(hback.current_eq.trans hlocks.current_eq).trans hdamaged.current_eq, ?_⟩
  rw [← Store.place_of_current hdamaged.current_eq, ← hdamaged.look_eq _ hlock]
  rcases hlocks.look_eq with hsame | ⟨hnone, hset⟩
  · left
    funext q
    by_cases hq : Place.registry (layout.place d) <+: q
    · exact hon q hq
    · rw [hoff q hq, hsame, hdamaged.look_eq q hq]
  · refine .inr ⟨hnone, ?_⟩
    funext q
    by_cases hq : Place.registry (layout.place d) <+: q
    · rw [hon q hq, View.set_of_ne]
      rintro rfl
      exact hlock hq
    · rw [hoff q hq, hset, View.set, View.set, hdamaged.look_eq q hq]

theorem matches_of_putsBack {original d failed restored : Disk} (h : IsDamaged layout d)
    (hdamaged : IsSameOutside (Place.registry (layout.place d)) original d)
    (hlocks : Locks layout d failed) (hback : PutsBack layout original failed restored) :
    Store.Matches layout original restored := by
  have hlocked := locks_of_putsBack hdamaged hlocks hback
  refine ⟨hlocked, hlocked.current_eq, fun q hq => ?_⟩
  -- The way to the data folder was passed without the registry, so it was not by way of a lock.
  rcases hlocked.look_eq with hsame | ⟨hnone, hset⟩
  · rw [hsame]
  · rw [hset, View.set_of_ne]
    rintro rfl
    have hstart : d.start layout.dataFolder = original.start layout.dataFolder := by
      rw [Disk.start, Disk.start, hdamaged.current_eq]
    rw [← hstart] at hq
    have hfolder := h.opens.passes.look_trail hq
    rw [← Store.place_of_current hdamaged.current_eq] at hfolder hnone
    rw [hdamaged.look_eq _ (registry_not_prefix_lock _), hnone] at hfolder
    cases hfolder

/-- A damaged registry is never overwritten. Whatever commands are run, each of them fails, prints
nothing, notifies nobody and changes nothing but that the lock may be made. Once the registry is put
back as it was, all commands behave as if these had not been run, except that the lock is there: a
file that is received by way of its place is not received in any case. -/
theorem damaged_registry_kept {d : Disk} (h : IsDamaged layout d) :
    (∀ turn : Turn, turn.before.disk = d → turn.FailsQuietly layout) ∧
    ∀ turns failed, ClosedSession layout d turns failed →
      Locks layout d failed ∧ (∀ turn ∈ turns, turn.FailsQuietly layout) ∧
      ∀ original restored, IsSameOutside (Place.registry (layout.place d)) original d →
        PutsBack layout original failed restored →
        ∀ later, BehavesAlike layout later original restored := by
  constructor
  · rintro turn rfl
    exact Turn.failsQuietly_of_isDamaged h
  · intro turns failed hsession
    obtain ⟨hlocks, hfails⟩ := hsession.locks_of_isDamaged h
    refine ⟨hlocks, hfails, fun original restored hdamaged hback later => ?_⟩
    exact behavesAlike_of_matches (matches_of_putsBack h hdamaged hlocks hback) later

/-- An open data folder with something in the place of the registry. -/
def diskWith (registry : FileTree) : Disk :=
  { freshHost.disk with root := freshHost.disk.root.put ["data", "connections.toml"] registry }

/-- A registry with one chat, as it may be written by hand. -/
def handWritten : FileTree :=
  .file "[[connection]]\nchat_id = \"a\"\nname = \"A\"\n".toUTF8

/-- A chat is to be registered while a folder is in the place of the registry. -/
def refusedTurn : Turn where
  before := freshHost.on (diskWith .empty)
  command := .addChat { chat := "b", name := "B" }

/-- The disk after that, with the registry put back. -/
def restoredDisk : Disk :=
  let failed := (refusedTurn.after ⟨⟨"/data"⟩⟩).disk
  { failed with root := failed.root.put ["data", "connections.toml"] handWritten }

theorem isDamaged_diskWith : IsDamaged ⟨⟨"/data"⟩⟩ (diskWith .empty) := by
  have hplace : Layout.place ⟨⟨"/data"⟩⟩ (diskWith .empty) = ["data"] := by decide +kernel
  refine ⟨by decide +kernel, ?_⟩
  rw [Store.registryNode, hplace]
  rfl

theorem closedSession_refusedTurn : ClosedSession ⟨⟨"/data"⟩⟩ (diskWith .empty) [refusedTurn]
    (refusedTurn.after ⟨⟨"/data"⟩⟩).disk :=
  ClosedSession.start.turn refusedTurn rfl

theorem isSameOutside_put {d : Disk} {parent : List String} {name : String}
    (hparent : d.look parent = some .folder) (new : FileTree) :
    IsSameOutside (parent ++ [name]) d { d with root := d.root.put (parent ++ [name]) new } :=
  ⟨rfl, fun _ hq => (FileTree.look_put hparent name new _).trans (if_neg hq)⟩

theorem isSameOutside_diskWith : IsSameOutside
    (Place.registry (Layout.place ⟨⟨"/data"⟩⟩ (diskWith .empty))) (diskWith handWritten)
    (diskWith .empty) := by
  have hplace : Layout.place ⟨⟨"/data"⟩⟩ (diskWith .empty) = ["data"] := by decide +kernel
  have hput (new : FileTree) : IsSameOutside ["data", "connections.toml"] freshHost.disk
      (diskWith new) := @isSameOutside_put _ ["data"] "connections.toml" rfl new
  rw [hplace]
  refine ⟨rfl, fun q hq => ?_⟩
  rw [(hput _).look_eq q hq, (hput _).look_eq q hq]

theorem putsBack_restoredDisk : PutsBack ⟨⟨"/data"⟩⟩ (diskWith handWritten)
    (refusedTurn.after ⟨⟨"/data"⟩⟩).disk restoredDisk := by
  obtain ⟨hlocks, -⟩ := closedSession_refusedTurn.locks_of_isDamaged isDamaged_diskWith
  have hplace : Layout.place ⟨⟨"/data"⟩⟩ (refusedTurn.after ⟨⟨"/data"⟩⟩).disk = ["data"] := by
    rw [Layout.place_of_keeps _ hlocks.keeps]
    decide +kernel
  have hfolder : (diskWith .empty).look ["data"] = some .folder := rfl
  have hparent : freshHost.disk.look ["data"] = some .folder := rfl
  have hfailed := hlocks.keeps.folders _ hfolder
  refine ⟨?_, ?_⟩
  · rw [hplace]
    exact @isSameOutside_put _ ["data"] "connections.toml" hfailed handWritten
  · rw [hplace]
    rintro _ ⟨more, rfl⟩
    have hrestored :=
      @FileTree.look_put_below _ ["data"] hfailed "connections.toml" handWritten more
    have horiginal :=
      @FileTree.look_put_below _ ["data"] hparent "connections.toml" handWritten more
    exact hrestored.trans horiginal.symm

/-- A chat is refused while the registry is damaged, and then two commands behave as if it had not
been tried. -/
theorem damaged_registry_kept_refused :
    IsDamaged ⟨⟨"/data"⟩⟩ (diskWith .empty) ∧
    ClosedSession ⟨⟨"/data"⟩⟩ (diskWith .empty) [refusedTurn]
      (refusedTurn.after ⟨⟨"/data"⟩⟩).disk ∧
    refusedTurn.FailsQuietly ⟨⟨"/data"⟩⟩ ∧
    BehavesAlike ⟨⟨"/data"⟩⟩ [refusedTurn, { before := freshHost, command := .chats 0 }]
      (diskWith handWritten) restoredDisk := by
  obtain ⟨hturn, hsession⟩ := damaged_registry_kept isDamaged_diskWith
  obtain ⟨-, -, hlater⟩ := hsession _ _ closedSession_refusedTurn
  exact ⟨isDamaged_diskWith, closedSession_refusedTurn, hturn refusedTurn rfl,
    hlater _ _ isSameOutside_diskWith putsBack_restoredDisk _⟩

/-- The lock is to be received as a file. -/
def lockTurn : Turn where
  before := freshHost
  command := .receive ⟨"/data/store.lock"⟩

theorem result_eq_error {turn : Turn} {failure : Failure}
    (h : (match turn.result layout with
      | .error found => decide (found = failure)
      | .ok () => false) = true) : turn.result layout = .error failure := by
  cases hresult : turn.result layout with
  | ok _ =>
      rw [hresult] at h
      cases h
  | error found =>
      rw [hresult] at h
      rw [of_decide_eq_true h]

/-- The command that was refused shows: it left the lock, which is read in vain where there would be
nothing to read. -/
theorem damaged_registry_shows_lock :
    IsDamaged ⟨⟨"/data"⟩⟩ (diskWith .empty) ∧
    ClosedSession ⟨⟨"/data"⟩⟩ (diskWith .empty) [refusedTurn]
      (refusedTurn.after ⟨⟨"/data"⟩⟩).disk ∧
    IsSameOutside (Place.registry (Layout.place ⟨⟨"/data"⟩⟩ (diskWith .empty)))
      (diskWith handWritten) (diskWith .empty) ∧
    PutsBack ⟨⟨"/data"⟩⟩ (diskWith handWritten) (refusedTurn.after ⟨⟨"/data"⟩⟩).disk
      restoredDisk ∧
    (lockTurn.on (diskWith handWritten)).result ⟨⟨"/data"⟩⟩ =
      .error (.unreadable ⟨"/data/store.lock"⟩ .notFound) ∧
    (lockTurn.on restoredDisk).result ⟨⟨"/data"⟩⟩ = .error (.malformed ⟨"/data/store.lock"⟩) :=
  ⟨isDamaged_diskWith, closedSession_refusedTurn, isSameOutside_diskWith, putsBack_restoredDisk,
    result_eq_error (by decide +kernel), result_eq_error (by decide +kernel)⟩

end Command

end Courier
