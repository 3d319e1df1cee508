import Courier.Proofs.Store.Place
import Courier.Proofs.Stored.RoundTrip
import Courier.Store.Local

/-!
# What the store does

Each change of the store told by what stands where afterwards. A change that fails touches nothing
but the lock and the folders on the way; a change that succeeds shows what was there before.
-/

namespace Courier

theorem fromUTF8?_toUTF8 (s : String) : String.fromUTF8? s.toUTF8 = some s := by
  have hvalid : s.toUTF8.IsValidUTF8 := s.isValidUTF8
  rw [String.fromUTF8?, dif_pos hvalid]
  rfl

namespace Store

open Disk (Passes Opens Admits Keeps Makes Replaces)

variable {layout : Layout} {d : Disk}

/-! ## Reading the registry -/

/-- The registry in a file. -/
def registryIn : Option Node → Option Registry
  | some (.file content) =>
    (String.fromUTF8? content).bind fun text => (Toml.read? text).bind Stored.registry?
  | _ => none

/-- What stands at the place of the registry. -/
def registryNode (layout : Layout) (d : Disk) : Option Node :=
  d.look (Place.registry (layout.place d))

theorem registry_of_opens (hopens : d.Opens layout.dataFolder "connections.toml") :
    d.readText layout.registry = Disk.textOf (registryNode layout d) :=
  Disk.readText_child Layout.isName_registry hopens

/-- Written registries are found again. -/
theorem registryIn_write (known : Registry) :
    registryIn (some (.file (Toml.write (Stored.registryTable known)).toUTF8)) = some known := by
  rw [registryIn, fromUTF8?_toUTF8]
  exact Stored.registry_isReadBack.decode_eq rfl

/-- The registry is the one at its place, and an empty one where nothing is. -/
theorem registry_eq_ok_iff (hopens : d.Opens layout.dataFolder "connections.toml")
    {known : Registry} :
    registry layout d = .ok known ↔
      registryIn (registryNode layout d) = some known ∨
        known = [] ∧ registryNode layout d = none := by
  unfold registry
  rw [registry_of_opens hopens]
  cases registryNode layout d with
  | none => simp [Disk.textOf, registryIn, eq_comm]
  | some node =>
      cases node with
      | folder => simp [Disk.textOf, registryIn]
      | file content =>
          rw [Disk.textOf, registryIn]
          cases String.fromUTF8? content with
          | none => simp
          | some text =>
              rw [Option.bind_some]
              cases hread : (Toml.read? text).bind Stored.registry? <;> simp [hread]

theorem registry_of_registryIn (hopens : d.Opens layout.dataFolder "connections.toml")
    {known : Registry} (hknown : registryIn (registryNode layout d) = some known) :
    registry layout d = .ok known :=
  (registry_eq_ok_iff hopens).mpr (.inl hknown)

/-- A registry with chats in it is the one at its place. -/
theorem registry_eq_ok {known : Registry} (h : registry layout d = .ok known) (hne : known ≠ []) :
    d.Opens layout.dataFolder "connections.toml" ∧
      registryIn (registryNode layout d) = some known := by
  have hopens : d.Opens layout.dataFolder "connections.toml" := by
    unfold registry at h
    cases htext : d.readText layout.registry with
    | ok text => exact Disk.readText_child_eq_ok Layout.isName_registry htext
    | error e =>
        rw [htext] at h
        cases e with
        | notFound => exact absurd (Except.ok.inj h).symm hne
        | _ => cases h
  rcases (registry_eq_ok_iff hopens).mp h with hin | ⟨hempty, -⟩
  · exact ⟨hopens, hin⟩
  · exact absurd hempty hne

theorem registryNode_ne_folder (hopens : d.Opens layout.dataFolder "connections.toml")
    {known : Registry} (h : registry layout d = .ok known) :
    registryNode layout d ≠ some .folder := by
  intro hfolder
  rcases (registry_eq_ok_iff hopens).mp h with hin | ⟨-, hnone⟩
  · rw [hfolder] at hin
    cases hin
  · cases hfolder.symm.trans hnone

theorem opens_of_registry_eq_ok {known : Registry} (h : registry layout d = .ok known)
    (hpasses : Passes d.look (d.start layout.dataFolder) layout.dataFolder.steps) :
    d.Opens layout.dataFolder "connections.toml" := by
  by_cases hopens : d.Opens layout.dataFolder "connections.toml"
  · exact hopens
  · rcases Disk.readText_child_of_not_opens Layout.isName_registry hpasses (by decide) hopens with
      herror | herror
    · unfold registry at h
      rw [Layout.registry, herror] at h
      cases h
    · unfold registry at h
      rw [Layout.registry, herror] at h
      cases h

theorem registration_eq_ok {chatId : String} {entry : Registration}
    (h : registration layout d chatId = .ok entry) :
    ∃ known, d.Opens layout.dataFolder "connections.toml" ∧
      registryIn (registryNode layout d) = some known ∧ known.find? chatId = some entry := by
  rw [registration] at h
  obtain ⟨known, hknown, hfound⟩ := bind_eq_ok h
  cases hfind : known.find? chatId with
  | none =>
      rw [hfind] at hfound
      cases hfound
  | some found =>
      rw [hfind] at hfound
      cases hfound
      have hne : known ≠ [] := by
        intro hempty
        rw [hempty] at hfind
        cases hfind
      obtain ⟨hopens, hin⟩ := registry_eq_ok hknown hne
      exact ⟨known, hopens, hin, hfind⟩

theorem registration_of_registryIn (hopens : d.Opens layout.dataFolder "connections.toml")
    {known : Registry} (hknown : registryIn (registryNode layout d) = some known)
    {chatId : String} {entry : Registration} (hfind : known.find? chatId = some entry) :
    registration layout d chatId = .ok entry := by
  rw [registration, registry_of_registryIn hopens hknown]
  simp only [bind, Except.bind, hfind]
  rfl

/-! ## The lock -/

/-- A disk that is another one but for a lock that was made. -/
structure Locks (layout : Layout) (d held : Disk) : Prop where
  current_eq : held.current = d.current
  look_eq : held.look = d.look ∨ d.look (Place.lock (layout.place d)) = none ∧
    held.look = d.look.set (Place.lock (layout.place d)) (some (.file ByteArray.empty))

theorem Locks.refl (layout : Layout) (d : Disk) : Locks layout d d :=
  ⟨rfl, .inl rfl⟩

theorem Locks.look_of_ne {held : Disk} (h : Locks layout d held) {q : List String}
    (hq : q ≠ Place.lock (layout.place d)) : held.look q = d.look q := by
  rcases h.look_eq with hsame | ⟨-, hset⟩
  · rw [hsame]
  · rw [hset, View.set_of_ne _ hq]

/-- The lock stands as before, or it was made where nothing was. -/
def KeepsLock (layout : Layout) (d after : Disk) : Prop :=
  after.look (Place.lock (layout.place d)) = d.look (Place.lock (layout.place d)) ∨
    d.look (Place.lock (layout.place d)) = none ∧
      after.look (Place.lock (layout.place d)) = some (.file ByteArray.empty)

theorem KeepsLock.trans {held after : Disk} (hfirst : KeepsLock layout d held)
    (hplace : layout.place held = layout.place d) (hsecond : KeepsLock layout held after) :
    KeepsLock layout d after := by
  rw [KeepsLock, hplace] at hsecond
  rcases hsecond with hsame | ⟨hnone, hmade⟩
  · rw [KeepsLock, hsame]
    exact hfirst
  · rcases hfirst with hsame | ⟨-, hfile⟩
    · exact .inr ⟨hsame.symm.trans hnone, hmade⟩
    · cases hfile.symm.trans hnone

theorem KeepsLock.admits {after : Disk} (h : KeepsLock layout d after) (hkeeps : d.Keeps after)
    (hlock : d.Admits layout.dataFolder "store.lock") :
    after.Admits layout.dataFolder "store.lock" := by
  refine ⟨hkeeps.opens hlock.toOpens, ?_⟩
  rw [hkeeps.placeOf_eq]
  rcases h with hsame | ⟨-, hmade⟩
  · have hne := hlock.ne_folder
    exact fun hfolder => hne (hsame.symm.trans hfolder)
  · exact fun hfolder => by cases hmade.symm.trans hfolder

theorem Locks.keepsLock {held : Disk} (h : Locks layout d held) : KeepsLock layout d held := by
  rcases h.look_eq with hsame | ⟨hnone, hset⟩
  · exact .inl (congrFun hsame _)
  · exact .inr ⟨hnone, by rw [hset, View.set_self]⟩

theorem Locks.keeps {held : Disk} (h : Locks layout d held) : d.Keeps held := by
  rcases h.look_eq with hsame | ⟨hnone, hset⟩
  · exact ⟨h.current_eq, fun q hq => hsame ▸ hq⟩
  · exact .of_set h.current_eq hset (by simp [hnone])

/-- Apart from the lock itself, holding it keeps no file from being written. -/
theorem Locks.admits {held : Disk} (h : Locks layout d held) {folder : Path} {name : String}
    (hadmits : d.Admits folder name)
    (hne : d.placeOf folder ++ [name] ≠ Place.lock (layout.place d)) : held.Admits folder name :=
  hadmits.keeps h.keeps (.inl (h.look_of_ne hne))

variable {α : Type}

theorem locked_cases {change : Disk → Disk × Except StoreError α} {changed : Disk}
    {result : Except StoreError α} (h : locked layout d change = (changed, result)) :
    changed = d ∧ (∃ error, result = .error error) ∨
      ∃ held, Locks layout d held ∧ d.Admits layout.dataFolder "store.lock" ∧
        change held = (changed, result) := by
  unfold locked at h
  cases happend : d.append layout.lock ByteArray.empty with
  | error e =>
      rw [happend] at h
      cases h
      exact .inl ⟨rfl, _, rfl⟩
  | ok held =>
      obtain ⟨hadmits, hcurrent, hlook⟩ :=
        Disk.append_empty_child_eq_ok Layout.isName_lock happend
      rw [happend] at h
      exact .inr ⟨held, ⟨hcurrent, hlook⟩, hadmits, h⟩

theorem locked_of_admits (h : d.Admits layout.dataFolder "store.lock") :
    ∃ held, Locks layout d held ∧ ∀ change : Disk → Disk × Except StoreError α,
      locked layout d change = change held := by
  obtain ⟨held, happend, -⟩ := Disk.append_empty_child Layout.isName_lock h
  obtain ⟨-, hcurrent, hlook⟩ := Disk.append_empty_child_eq_ok Layout.isName_lock happend
  refine ⟨held, ⟨hcurrent, hlook⟩, fun change => ?_⟩
  unfold locked
  rw [Layout.lock, happend]

/-! ## Changing the registry -/

theorem writeDocument_eq (p : Path) (t : Toml.Table) :
    writeDocument d p t = ((d.replace p (Toml.write t)).1,
      (d.replace p (Toml.write t)).2.mapError fun failure => unavailable failure.1 failure.2) := by
  unfold writeDocument
  rcases d.replace p (Toml.write t) with ⟨changed, failure | done⟩ <;> rfl

/-- What changing the registry did if it succeeded: the registry is another one, and apart from it
only its draft is gone and a lock may have been made. -/
structure Rewrites (layout : Layout) (d : Disk) (known changed : Registry) (after : Disk) :
    Prop where
  known_eq : registryIn (registryNode layout d) = some known ∨
    known = [] ∧ registryNode layout d = none
  keeps : d.Keeps after
  node_eq : registryNode layout after =
    some (.file (Toml.write (Stored.registryTable changed)).toUTF8)
  draft_eq : after.look (Place.registryDraft (layout.place d)) = none
  look_of_ne : ∀ q, q ≠ Place.lock (layout.place d) → q ≠ Place.registryDraft (layout.place d) →
    q ≠ Place.registry (layout.place d) → after.look q = d.look q
  keepsLock : KeepsLock layout d after

theorem Rewrites.place_eq {known changed : Registry} {after : Disk}
    (h : Rewrites layout d known changed after) : layout.place after = layout.place d :=
  layout.place_of_keeps h.keeps

theorem Rewrites.registryIn_eq {known changed : Registry} {after : Disk}
    (h : Rewrites layout d known changed after) :
    registryIn (registryNode layout after) = some changed := by
  rw [h.node_eq]
  exact registryIn_write changed

theorem Locks.registryNode_eq {held : Disk} (h : Locks layout d held) :
    registryNode layout held = registryNode layout d := by
  rw [registryNode, registryNode, layout.place_of_keeps h.keeps]
  exact h.look_of_ne (Place.registry_ne_lock _)

theorem rewrites_of_replaces {held after : Disk} {known changed : Registry}
    (hlocks : Locks layout d held) (hopens : held.Opens layout.dataFolder "connections.toml")
    (hknown : registry layout held = .ok known)
    (hreplaces : held.Replaces layout.dataFolder "connections"
      (Toml.write (Stored.registryTable changed)) after) :
    Rewrites layout d known changed after := by
  have hplace : held.placeOf layout.dataFolder = layout.place d :=
    layout.place_of_keeps hlocks.keeps
  have hkeeps := hlocks.keeps.trans hreplaces.keeps
  have hlook : after.look = (held.look.set (Place.registryDraft (layout.place d)) none).set
      (Place.registry (layout.place d))
      (some (.file (Toml.write (Stored.registryTable changed)).toUTF8)) := by
    rw [Place.registryDraft_eq, Place.registry_eq, ← hplace]
    exact hreplaces.look_eq
  constructor
  · rw [← hlocks.registryNode_eq]
    exact (registry_eq_ok_iff hopens).mp hknown
  · exact hkeeps
  · rw [registryNode, layout.place_of_keeps hkeeps, hlook, View.set_self]
  · rw [hlook, View.set_of_ne _ (Place.registry_ne_draft _).symm, View.set_self]
  · intro q hlock hdraft hregistry
    rw [hlook, View.set_of_ne _ hregistry, View.set_of_ne _ hdraft, hlocks.look_of_ne hlock]
  · rw [KeepsLock, hlook, View.set_of_ne _ (Place.registry_ne_lock _).symm,
      View.set_of_ne _ (Place.registryDraft_ne_lock _).symm]
    exact hlocks.keepsLock

/-- Changing the registry works or leaves it. -/
theorem changeRegistry_cases {change : Registry → Except StoreError Registry} {after : Disk}
    {result : Except StoreError Unit} (h : changeRegistry layout d change = (after, result)) :
    (∃ error, result = .error error) ∧ Locks layout d after ∨
      result = .ok () ∧ ∃ known changed, change known = .ok changed ∧
        Rewrites layout d known changed after := by
  rcases locked_cases h with ⟨hsame, herror⟩ | ⟨held, hlocks, hlock, hchange⟩
  · exact .inl ⟨herror, hsame ▸ .refl layout d⟩
  · cases hknown : registry layout held with
    | error e =>
        rw [hknown] at hchange
        cases hchange
        exact .inl ⟨⟨e, rfl⟩, hlocks⟩
    | ok known =>
        have hopens := opens_of_registry_eq_ok hknown (hlocks.keeps.opens hlock.toOpens).passes
        rw [hknown] at hchange
        cases hchanged : change known with
        | error e =>
            simp only [Except.bind, hchanged] at hchange
            cases hchange
            exact .inl ⟨⟨e, rfl⟩, hlocks⟩
        | ok changed =>
            simp only [Except.bind, hchanged, writeDocument_eq] at hchange
            cases hreplace : held.replace layout.registry
                (Toml.write (Stored.registryTable changed)) with
            | mk written answer =>
                rw [hreplace] at hchange
                cases hchange
                rcases Disk.replace_child_cases Layout.isPiece_connections _ hreplace with
                  ⟨rfl, hreplaces⟩ | ⟨⟨e, rfl⟩, rfl | ⟨hfolder, -, -⟩⟩
                · exact .inr ⟨rfl, known, changed, hchanged,
                    rewrites_of_replaces hlocks hopens hknown hreplaces⟩
                · exact .inl ⟨⟨_, rfl⟩, hlocks⟩
                -- A folder in its place would have kept the registry from being read.
                · exact absurd hfolder (registryNode_ne_folder hopens hknown)

/-- A registry that can be rewritten is rewritten. -/
theorem changeRegistry_of_admits {change : Registry → Except StoreError Registry}
    {known changed : Registry} (hlock : d.Admits layout.dataFolder "store.lock")
    (hdraft : d.Admits layout.dataFolder "connections.toml.tmp")
    (hknown : registryIn (registryNode layout d) = some known ∨
      known = [] ∧ registryNode layout d = none)
    (hchange : change known = .ok changed) :
    ∃ after, changeRegistry layout d change = (after, .ok ()) := by
  obtain ⟨held, hlocks, hheld⟩ := @locked_of_admits _ _ Unit hlock
  have hdraftHeld : held.Admits layout.dataFolder "connections.toml.tmp" :=
    hlocks.admits hdraft (Place.registryDraft_ne_lock (layout.place d))
  have hopens : held.Opens layout.dataFolder "connections.toml" :=
    hdraftHeld.toOpens.of_draft Layout.isPiece_connections
  have hread : registry layout held = .ok known := by
    rw [← hlocks.registryNode_eq] at hknown
    exact (registry_eq_ok_iff hopens).mpr hknown
  obtain ⟨after, hreplace, -⟩ := Disk.replace_child Layout.isPiece_connections
    (Toml.write (Stored.registryTable changed)) hdraftHeld (registryNode_ne_folder hopens hread)
  refine ⟨after, ?_⟩
  rw [changeRegistry, hheld, hread]
  simp only [Except.bind, hchange, writeDocument_eq, Layout.registry_eq, hreplace]
  rfl

/-! ## Registering chats and changing summaries -/

theorem register_cases {connection : Connection} {permissions : Permissions} {after : Disk}
    {result : Except StoreError Unit}
    (h : register layout d connection permissions = (after, result)) :
    (∃ error, result = .error error) ∧ Locks layout d after ∨
      result = .ok () ∧ Identifier.isValid connection.chatId = true ∧
        ∃ known, Rewrites layout d known (known.register connection permissions) after := by
  unfold register checkId at h
  by_cases hid : Identifier.isValid connection.chatId = true
  · rw [if_pos hid] at h
    rcases changeRegistry_cases h with hfail | ⟨hok, known, changed, hchanged, hrewrites⟩
    · exact .inl hfail
    · cases hchanged
      exact .inr ⟨hok, hid, known, hrewrites⟩
  · rw [if_neg hid] at h
    cases h
    exact .inl ⟨⟨_, rfl⟩, .refl layout d⟩

/-- A chat is registered in a registry that can be rewritten, also where none is yet. -/
theorem register_of_admits {connection : Connection} {known : Registry}
    (hid : Identifier.isValid connection.chatId = true)
    (hlock : d.Admits layout.dataFolder "store.lock")
    (hdraft : d.Admits layout.dataFolder "connections.toml.tmp")
    (hknown : registryIn (registryNode layout d) = some known ∨
      known = [] ∧ registryNode layout d = none) (permissions : Permissions) :
    ∃ after, register layout d connection permissions = (after, .ok ()) := by
  unfold register checkId
  rw [if_pos hid]
  exact changeRegistry_of_admits hlock hdraft hknown rfl

theorem updateSummary_cases {update : SummaryUpdate} {change : UnreadChange} {after : Disk}
    {result : Except StoreError Unit}
    (h : updateSummary layout d update change = (after, result)) :
    (∃ error, result = .error error) ∧ Locks layout d after ∨
      result = .ok () ∧ ∃ known, registryIn (registryNode layout d) = some known ∧
        known.find? update.chatId ≠ none ∧
        Rewrites layout d known (known.applyUpdate update change) after := by
  unfold updateSummary at h
  rcases changeRegistry_cases h with hfail | ⟨hok, known, changed, hchanged, hrewrites⟩
  · exact .inl hfail
  · cases hfind : known.find? update.chatId with
    | none =>
        simp only [hfind] at hchanged
        cases hchanged
    | some entry =>
        simp only [hfind] at hchanged
        cases hchanged
        refine .inr ⟨hok, known, ?_, by simp [hfind], hrewrites⟩
        rcases hrewrites.known_eq with hin | ⟨rfl, -⟩
        · exact hin
        · cases hfind

theorem updateSummary_of_admits {update : SummaryUpdate} {known : Registry} {entry : Registration}
    (hlock : d.Admits layout.dataFolder "store.lock")
    (hdraft : d.Admits layout.dataFolder "connections.toml.tmp")
    (hknown : registryIn (registryNode layout d) = some known)
    (hfind : known.find? update.chatId = some entry) (change : UnreadChange) :
    ∃ after, updateSummary layout d update change = (after, .ok ()) := by
  unfold updateSummary
  apply changeRegistry_of_admits hlock hdraft (.inl hknown)
  rw [hfind]

end Store

end Courier
