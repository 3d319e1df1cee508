import Courier.Proofs.Store.Refusal
import Courier.Proofs.Store.Requests

/-!
# Registering chats again

Chats are registered and new messages are entered in a data folder that has no registry yet. As long
as its files can be used, the registry tells of all that was asked, and the summaries would be the
same had no chat been registered again.
-/

namespace Courier.Store

variable {layout : Layout} {first d other after : Disk} {known : Registry}

/-- Does what is asked. -/
def Request.perform (layout : Layout) (d : Disk) : Request → Disk × Except StoreError Unit
  | register connection permissions => Store.register layout d connection permissions
  | enter update change => updateSummary layout d update change

/-! ## One request -/

/-- What a request does where a registry was read and files can be used. -/
structure Performs (layout : Layout) (d : Disk) (known : Registry) (request : Request)
    (after : Disk) (answer : Except StoreError Unit) : Prop where
  answer_eq : answer = request.answer known.ids
  registry_eq : registry layout after = .ok (request.apply known)
  isWritable : IsWritable layout d → IsWritable layout after
  registered : registered? (request, answer) ≠ none → IsWritable layout d

theorem performs_register (hknown : registry layout d = .ok known) {connection : Connection}
    {permissions : Permissions} {answer : Except StoreError Unit}
    (h : Store.register layout d connection permissions = (after, answer)) :
    (∃ error, answer = .error error ∧ error.IsUnavailable) ∨
      Performs layout d known (.register connection permissions) after answer := by
  unfold Store.register at h
  by_cases hvalid : Identifier.isValid connection.chatId = true
  · rw [checkId, if_pos hvalid] at h
    rcases changeRegistry_of_registry hknown h with
      hunavailable | ⟨error, ⟨⟩, -⟩ | ⟨changed, ⟨⟩, rfl, hwritable, hrewrites⟩
    · exact .inl hunavailable
    · refine .inr ⟨(if_pos hvalid).symm, ?_, fun h => h.rewrites hrewrites, fun _ => hwritable⟩
      rw [Request.apply, if_pos hvalid]
      exact registry_of_rewrites hwritable hrewrites
  · rw [checkId, if_neg hvalid] at h
    cases h
    refine .inr ⟨(if_neg hvalid).symm, ?_, id, fun h => absurd rfl h⟩
    rw [Request.apply, if_neg hvalid]
    exact hknown

theorem performs_enter (hknown : registry layout d = .ok known) {update : SummaryUpdate}
    {change : UnreadChange} {answer : Except StoreError Unit}
    (h : updateSummary layout d update change = (after, answer)) :
    (∃ error, answer = .error error ∧ error.IsUnavailable) ∨
      Performs layout d known (.enter update change) after answer := by
  rcases changeRegistry_of_registry hknown h with
    hunavailable | ⟨error, hchange, rfl, hlock, hlocks⟩ |
      ⟨changed, hchange, rfl, hwritable, hrewrites⟩
  · exact .inl hunavailable
  · cases hfind : known.find? update.chatId with
    | some entry =>
        rw [hfind] at hchange
        cases hchange
    | none =>
        rw [hfind] at hchange
        cases hchange
        have hunknown := Registry.not_mem_ids_of_find? hfind
        refine .inr ⟨(if_neg hunknown).symm, ?_, fun h => h.locks hlocks, fun h => absurd rfl h⟩
        rw [Request.apply, Registry.applyUpdate, Registry.modify_of_not_mem hunknown]
        exact (registry_of_locks hlock hlocks hknown).2
  · cases hfind : known.find? update.chatId with
    | none =>
        rw [hfind] at hchange
        cases hchange
    | some entry =>
        rw [hfind] at hchange
        cases hchange
        have hmem := Registry.mem_ids_of_find? hfind
        exact .inr ⟨(if_pos hmem).symm, registry_of_rewrites hwritable hrewrites,
          fun h => h.rewrites hrewrites, fun _ => hwritable⟩

/-- Where the registry was read a request has its answer and its effect, unless a file could not be
used. -/
theorem performs_of_registry (hknown : registry layout d = .ok known) (request : Request)
    (hwritten : ∀ error, (request.perform layout d).2 = .error error → ¬ error.IsUnavailable) :
    Performs layout d known request (request.perform layout d).1 (request.perform layout d).2 := by
  have hperform : (∃ error, (request.perform layout d).2 = .error error ∧ error.IsUnavailable) ∨
      Performs layout d known request (request.perform layout d).1
        (request.perform layout d).2 := by
    cases request with
    | register connection permissions => exact performs_register hknown rfl
    | enter update change => exact performs_enter hknown rfl
  rcases hperform with ⟨error, herror, hunavailable⟩ | hperforms
  · exact absurd hunavailable (hwritten error herror)
  · exact hperforms

theorem not_isUnavailable_of_answer {ids : List String} {request : Request} {error : StoreError}
    (h : request.answer ids = .error error) : ¬ error.IsUnavailable := by
  rintro ⟨details, rfl⟩
  cases request with
  | register connection permissions =>
      rw [Request.answer, checkId] at h
      split at h <;> cases h
  | enter update change =>
      rw [Request.answer] at h
      split at h <;> cases h

/-- Where the registry can be written every request has its answer. -/
theorem perform_of_isWritable (hwritable : IsWritable layout d)
    (hknown : registry layout d = .ok known) (request : Request) :
    (request.perform layout d).2 = request.answer known.ids := by
  cases request with
  | register connection permissions =>
      rw [Request.perform, Store.register, Request.answer]
      cases checkId connection.chatId with
      | error error => rfl
      | ok valid => exact changeRegistry_of_isWritable hwritable hknown
  | enter update change =>
      rw [Request.perform, updateSummary, changeRegistry_of_isWritable hwritable hknown,
        Request.answer]
      cases hfind : known.find? update.chatId with
      | none =>
          rw [if_neg (Registry.not_mem_ids_of_find? hfind)]
          rfl
      | some entry =>
          rw [if_pos (Registry.mem_ids_of_find? hfind)]
          rfl

/-! ## All requests -/

/-- Requests with their answers, made one after another from the one disk to the other, none of
which failed since a file could not be used. -/
inductive Serves (layout : Layout) : Disk → List Answered → Disk → Prop
  | nil (d : Disk) : Serves layout d [] d
  | concat {first d : Disk} {history : List Answered} (hserves : Serves layout first history d)
      (request : Request)
      (hwritten : ∀ error, (request.perform layout d).2 = .error error → ¬ error.IsUnavailable) :
      Serves layout first (history ++ [(request, (request.perform layout d).2)])
        (request.perform layout d).1

theorem registry_of_notFound (hstart : d.readText layout.registry = .error .notFound) :
    registry layout d = .ok [] := by
  rw [registry, hstart]

theorem Serves.tells {history : List Answered} (h : Serves layout first history after)
    (hstart : registry layout first = .ok []) :
    ∃ known, registry layout after = .ok known ∧ Tells history known := by
  induction h with
  | nil => exact ⟨[], hstart, tells_nil⟩
  | concat hserves request hwritten ih =>
      obtain ⟨known, hknown, htells⟩ := ih
      have hperforms := performs_of_registry hknown request hwritten
      refine ⟨_, hperforms.registry_eq, ?_⟩
      rw [hperforms.answer_eq]
      exact htells.concat request

/-- Where the registry can be written, anything that is asked is answered. -/
theorem Serves.extend {history : List Answered} (h : Serves layout first history d)
    (hwritable : IsWritable layout d) (hknown : registry layout d = .ok known)
    (requests : List Request) :
    ∃ answered after, Serves layout first (history ++ answered) after ∧
      answered.map Prod.fst = requests := by
  induction requests generalizing history d known with
  | nil => exact ⟨[], d, by rwa [List.append_nil], rfl⟩
  | cons request requests ih =>
      have hanswer := perform_of_isWritable hwritable hknown request
      have hwritten : ∀ error, (request.perform layout d).2 = .error error →
          ¬ error.IsUnavailable := by
        intro error herror
        rw [hanswer] at herror
        exact not_isUnavailable_of_answer herror
      have hperforms := performs_of_registry hknown request hwritten
      obtain ⟨answered, after, hserves, hrequests⟩ :=
        ih (h.concat request hwritten) (hperforms.isWritable hwritable) hperforms.registry_eq
      rw [List.append_assoc] at hserves
      exact ⟨_, after, hserves, congrArg (List.cons request) hrequests⟩

/-! ## Not registering chats again -/

/-- Whether another disk has the same chats with the same summaries, and can be written if it is
another one at all. -/
structure Mirrors (layout : Layout) (d : Disk) (known : Registry) (other : Disk)
    (mirrored : Registry) : Prop where
  registry_eq : registry layout other = .ok mirrored
  summaries_eq : summaries mirrored = summaries known
  eq_or_isWritable : other = d ∨ IsWritable layout other

variable {mirrored : Registry} {request : Request}

theorem Mirrors.ids_eq (h : Mirrors layout d known other mirrored) : mirrored.ids = known.ids := by
  rw [← map_fst_summaries, h.summaries_eq, map_fst_summaries]

/-- A request has the same answer on the other disk. -/
theorem Mirrors.perform (h : Mirrors layout d known other mirrored)
    (hknown : registry layout d = .ok known) (hnodup : known.ids.Nodup)
    (hwritten : ∀ error, (request.perform layout d).2 = .error error → ¬ error.IsUnavailable) :
    (request.perform layout other).2 = (request.perform layout d).2 ∧
      Mirrors layout (request.perform layout d).1 (request.apply known)
        (request.perform layout other).1 (request.apply mirrored) := by
  have hperforms := performs_of_registry hknown request hwritten
  have hsummaries : summaries (request.apply mirrored) = summaries (request.apply known) :=
    summaries_apply (h.ids_eq ▸ hnodup) h.summaries_eq request
  rcases h.eq_or_isWritable with rfl | hwritable
  · have heq : mirrored = known := Except.ok.inj (h.registry_eq.symm.trans hknown)
    exact ⟨rfl, heq ▸ hperforms.registry_eq, hsummaries, .inl rfl⟩
  · have hanswer : (request.perform layout other).2 = (request.perform layout d).2 := by
      rw [perform_of_isWritable hwritable h.registry_eq, h.ids_eq, hperforms.answer_eq]
    have hother := performs_of_registry h.registry_eq request (hanswer ▸ hwritten)
    exact ⟨hanswer, hother.registry_eq, hsummaries, .inr (hother.isWritable hwritable)⟩

/-- Nothing is done on the other disk where a chat is registered again. -/
theorem Mirrors.spare (h : Mirrors layout d known other mirrored) (hnodup : known.ids.Nodup)
    {answer : Except StoreError Unit} (hperforms : Performs layout d known request after answer)
    {chatId : String} (hchat : registered? (request, answer) = some chatId)
    (hmem : chatId ∈ known.ids) : Mirrors layout after (request.apply known) other mirrored := by
  have hwritable : IsWritable layout d := hperforms.registered (by simp [hchat])
  refine ⟨h.registry_eq, ?_, .inr ?_⟩
  · rw [summaries_apply_of_registered hnodup hperforms.answer_eq hchat hmem, h.summaries_eq]
  · rcases h.eq_or_isWritable with rfl | hother
    · exact hwritable
    · exact hother

/-- The requests without those that register a chat again can be made as well. -/
theorem Serves.mirrors {history : List Answered} (h : Serves layout first history after)
    (hstart : registry layout first = .ok []) (hknown : registry layout after = .ok known) :
    ∃ fewer other mirrored, Serves layout first fewer other ∧
      fewer.map Prod.fst = withoutRepeats [] history ∧
      Mirrors layout after known other mirrored := by
  induction h generalizing known with
  | nil =>
      exact ⟨[], first, known, .nil first, rfl, hknown, rfl, .inl rfl⟩
  | concat hserves request hwritten ih =>
      obtain ⟨before, hbefore, htells⟩ := hserves.tells hstart
      obtain ⟨fewer, other, mirrored, hfewer, hrequests, hmirrors⟩ := ih hbefore
      have hperforms := performs_of_registry hbefore request hwritten
      obtain rfl : request.apply before = known :=
        Except.ok.inj (hperforms.registry_eq.symm.trans hknown)
      rw [withoutRepeats_concat, ← hrequests, List.nil_append]
      split
      next hagain =>
        obtain ⟨chatId, hchat, hmem⟩ := (Option.any_eq_true _ _).mp hagain
        have hseen := (htells.mem_ids_iff chatId).mpr (of_decide_eq_true hmem)
        exact ⟨fewer, other, mirrored, hfewer, (List.append_nil _).symm,
          hmirrors.spare htells.nodup hperforms hchat hseen⟩
      next hkept =>
        obtain ⟨hanswer, hnext⟩ := hmirrors.perform hbefore htells.nodup hwritten
        refine ⟨_, _, _, hfewer.concat request (hanswer ▸ hwritten), ?_, hnext⟩
        simp

/-- From a data folder without a registry: the registry tells of all that was asked, and the
summaries are those that would be there had no chat been registered again. -/
theorem registry_tells {history : List Answered}
    (hstart : first.readText layout.registry = .error .notFound)
    (hserves : Serves layout first history after) :
    ∃ known, registry layout after = .ok known ∧ Tells history known ∧
      ∃ fewer other mirrored, Serves layout first fewer other ∧
        fewer.map Prod.fst = withoutRepeats [] history ∧
        registry layout other = .ok mirrored ∧ summaries mirrored = summaries known := by
  have hempty := registry_of_notFound hstart
  obtain ⟨known, hknown, htells⟩ := hserves.tells hempty
  obtain ⟨fewer, other, mirrored, hfewer, hrequests, hmirrors⟩ := hserves.mirrors hempty hknown
  exact ⟨known, hknown, htells, fewer, other, mirrored, hfewer, hrequests, hmirrors.registry_eq,
    hmirrors.summaries_eq⟩

/-- A chat is registered, a message is entered, and the chat is registered again as a group. -/
def askedTwice : List Request :=
  [.register { chatId := "a", name := "A" } {},
    .enter ⟨"a", "hi", .text, "m", .latest, .ofEpoch 0 0⟩ .increment,
    .register { chatId := "a", name := "B", kind := .group } { notifications := false }]

/-- The disk after the data folder was opened. -/
def openedDisk : Disk :=
  (Layout.prepare ⟨⟨"/data"⟩⟩ { root := .empty, current := [] }).1

theorem registry_tells_askedTwice : ∃ history after, history.map Prod.fst = askedTwice ∧
    openedDisk.readText (Layout.registry ⟨⟨"/data"⟩⟩) = .error .notFound ∧
    Serves ⟨⟨"/data"⟩⟩ openedDisk history after ∧
    ∃ known, registry ⟨⟨"/data"⟩⟩ after = .ok known ∧ Tells history known := by
  have hstart : openedDisk.readText (Layout.registry ⟨⟨"/data"⟩⟩) = .error .notFound := by
    rfl
  have hwritable : IsWritable ⟨⟨"/data"⟩⟩ openedDisk := by
    constructor
    · exact Disk.admits_of_placeOfFile Layout.isName_lock (by decide +kernel)
    · exact Disk.admits_of_placeOfFile Layout.isName_registryDraft (by decide +kernel)
  obtain ⟨history, after, hserves, hrequests⟩ :=
    (Serves.nil openedDisk).extend hwritable (registry_of_notFound hstart) askedTwice
  obtain ⟨known, hknown, htells, -⟩ := registry_tells hstart hserves
  exact ⟨history, after, hrequests, hstart, hserves, known, hknown, htells⟩

end Courier.Store
