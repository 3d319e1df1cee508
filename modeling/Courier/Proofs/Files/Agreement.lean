import Courier.Proofs.Files.Document
import Courier.Proofs.Files.Folder

/-!
# Disks that agree along a path

What a path leads to only depends on the places that it goes through. Disks that look the same there
give the same answers, and the same operation on both fails for the same reason or changes the same
place in the same way.
-/

namespace Courier.Disk

/-- The places that steps go through, the first and the last one included. -/
def trail (place : List String) : List String → List (List String)
  | [] => [place]
  | name :: steps => place :: trail (nextPlace place name) steps

theorem start_mem_trail (place steps : List String) : place ∈ trail place steps := by
  cases steps <;> exact List.mem_cons_self

theorem walk_mem_trail (place steps : List String) : walk place steps ∈ trail place steps := by
  induction steps generalizing place with
  | nil => exact List.mem_cons_self
  | cons name steps ih => exact List.mem_cons_of_mem _ (ih (nextPlace place name))

theorem mem_trail_append {q place first second : List String} :
    q ∈ trail place (first ++ second) ↔
      q ∈ trail place first ∨ q ∈ trail (walk place first) second := by
  induction first generalizing place with
  | nil =>
      rw [List.nil_append, trail, List.mem_singleton]
      refine ⟨.inr, ?_⟩
      rintro (rfl | hq)
      · exact start_mem_trail _ _
      · exact hq
  | cons name first ih =>
      rw [List.cons_append, trail, trail, List.mem_cons, List.mem_cons, ih, or_assoc]
      rfl

/-- Only folders lie on the trail of steps that can be taken. -/
theorem Passes.look_trail {view : View} {place steps : List String} (h : Passes view place steps)
    {q : List String} (hq : q ∈ trail place steps) : view q = some .folder := by
  induction steps generalizing place with
  | nil =>
      rw [trail, List.mem_singleton] at hq
      rw [hq]
      exact h
  | cons name steps ih =>
      rw [trail, List.mem_cons] at hq
      rcases hq with rfl | hq
      · exact h.1
      · exact ih h.2.2 hq

theorem Passes.congr {view other : View} {place steps : List String} (h : Passes view place steps)
    (hsame : ∀ q ∈ trail place steps, other q = view q) : Passes other place steps := by
  induction steps generalizing place with
  | nil => exact (hsame place List.mem_cons_self).trans h
  | cons name steps ih =>
      obtain ⟨hfolder, hname, hrest⟩ := h
      refine ⟨(hsame place List.mem_cons_self).trans hfolder, hname, ih hrest ?_⟩
      intro q hq
      exact hsame q (List.mem_cons_of_mem _ hq)

/-! ## Following -/

theorem enter_congr {d e : Disk} {place steps : List String}
    (h : ∀ q ∈ trail place steps, e.look q = d.look q) :
    e.enter place steps = d.enter place steps := by
  induction steps generalizing place with
  | nil => rw [enter_nil, enter_nil, h place List.mem_cons_self]
  | cons name steps ih =>
      rw [trail, List.forall_mem_cons] at h
      obtain ⟨hplace, hrest⟩ := h
      have hstep : e.step place name = d.step place name := by
        have hnext := hrest _ (start_mem_trail _ _)
        rw [nextPlace] at hnext
        rw [step_eq, step_eq, hplace]
        by_cases hback : name = ".."
        · simp only [hback, if_true]
        · rw [if_neg hback] at hnext
          rw [hnext]
      rw [enter_cons, enter_cons, hstep]
      cases hgo : d.step place name with
      | error e => rfl
      | ok q =>
          obtain ⟨-, -, rfl⟩ := step_eq_ok hgo
          exact ih hrest

/-- Whether another disk has the same current folder and looks the same along a path. -/
structure AgreesOn (d : Disk) (p : Path) (e : Disk) : Prop where
  current_eq : e.current = d.current
  look_eq : ∀ q ∈ trail (d.start p) p.steps, e.look q = d.look q

theorem follow_congr_of_enter {d e : Disk} {p : Path} (hcurrent : e.current = d.current)
    (henter : e.enter (d.start p) (route p).1 = d.enter (d.start p) (route p).1) :
    e.follow p = d.follow p := by
  rw [start] at henter
  unfold follow
  simp only [hcurrent, henter]

/-- A path ends at its last step, or one name after the last but one. -/
theorem route_cases (p : Path) : route p = (p.steps, .here) ∨
    ∃ steps name slash, route p = (steps, .name name slash) ∧ name ≠ ".." ∧
      p.steps = steps ++ [name] := by
  rw [route]
  split
  · exact .inl rfl
  · exact .inl rfl
  · exact .inl rfl
  next last _ _ hlast =>
    by_cases hback : last = ".."
    · rw [if_pos hback]
      exact .inl rfl
    · rw [if_neg hback]
      refine .inr ⟨_, _, _, rfl, hback, ?_⟩
      obtain ⟨before, hsteps⟩ := List.getLast?_eq_some_iff.mp hlast
      rw [hsteps, List.dropLast_concat]

theorem AgreesOn.follow_eq {d e : Disk} {p : Path} (h : d.AgreesOn p e) :
    e.follow p = d.follow p := by
  refine follow_congr_of_enter h.current_eq (enter_congr fun q hq => ?_)
  rcases route_cases p with hroute | ⟨steps, name, slash, hroute, -, hsteps⟩
  · rw [hroute] at hq
    exact h.look_eq q hq
  · rw [hroute] at hq
    apply h.look_eq q
    rw [hsteps]
    exact mem_trail_append.mpr (.inl hq)

/-- A path that can be followed passes folders, up to its end or to the name that it ends in. -/
theorem follow_cases {d : Disk} {p : Path} {place : List String} {ending : Ending}
    (h : d.follow p = .ok (place, ending)) :
    (ending = .here ∧ Passes d.look (d.start p) p.steps ∧ place = walk (d.start p) p.steps) ∨
    ∃ steps name slash, ending = .name name slash ∧ name ≠ ".." ∧ p.steps = steps ++ [name] ∧
      Passes d.look (d.start p) steps ∧ place = walk (d.start p) steps := by
  rw [follow_of_isUsable d (isUsable_of_follow h)] at h
  cases henter : d.enter (d.start p) (route p).1 with
  | error e =>
      rw [henter] at h
      cases h
  | ok q =>
      rw [henter] at h
      cases h
      have hentered := enter_eq_ok_iff.mp henter
      rcases route_cases p with hroute | ⟨steps, name, slash, hroute, hback, hsteps⟩
      · rw [hroute] at hentered
        exact .inl ⟨congrArg Prod.snd hroute, hentered⟩
      · rw [hroute] at hentered
        exact .inr ⟨steps, name, slash, congrArg Prod.snd hroute, hback, hsteps, hentered⟩

/-! ## Looking -/

/-- What a path leads to, as it is seen from outside. -/
def findNode (d : Disk) (p : Path) : Except FileError Node :=
  (d.find p).map FileTree.node

/-- What is found where a path ends. -/
def nodeAt (view : View) (place : List String) : Ending → Except FileError Node
  | .here =>
    match view place with
    | none => .error .notFound
    | some node => .ok node
  | .name name slash =>
    if name.utf8ByteSize > maxNameLength then .error .nameTooLong
    else
      match view (place ++ [name]) with
      | none => .error .notFound
      | some (.file content) => if slash then .error .notFolder else .ok (.file content)
      | some .folder => .ok .folder

theorem findNode_eq (d : Disk) (p : Path) :
    d.findNode p = (d.follow p).bind fun (place, ending) => nodeAt d.look place ending := by
  rw [findNode, find]
  cases d.follow p with
  | error e => rfl
  | ok ended =>
      obtain ⟨place, ending⟩ := ended
      simp only [bind, Except.bind]
      cases ending with
      | here =>
          simp only [nodeAt, look, FileTree.look]
          cases d.root.at? place <;> rfl
      | name name slash =>
          simp only [nodeAt, look, FileTree.look]
          by_cases hsize : name.utf8ByteSize > maxNameLength
          · rw [if_pos hsize, if_pos hsize]
            rfl
          · rw [if_neg hsize, if_neg hsize]
            cases d.root.at? (place ++ [name]) with
            | none => rfl
            | some tree => cases tree <;> cases slash <;> rfl

theorem look_of_nodeAt {view : View} {place : List String} {name : String} {slash : Bool}
    {node : Node} (h : nodeAt view place (.name name slash) = .ok node) :
    view (place ++ [name]) = some node := by
  rw [nodeAt] at h
  split at h
  · cases h
  · cases hlook : view (place ++ [name]) with
    | none =>
        rw [hlook] at h
        cases h
    | some found =>
        rw [hlook] at h
        cases found with
        | folder => exact congrArg some (Except.ok.inj h)
        | file content =>
            cases slash with
            | true => cases h
            | false => exact congrArg some (Except.ok.inj h)

theorem mem_trail_concat {place steps : List String} {name : String} (hback : name ≠ "..") :
    walk place steps ++ [name] ∈ trail place (steps ++ [name]) := by
  have hnext : walk (walk place steps) [name] = walk place steps ++ [name] := if_neg hback
  rw [← hnext]
  exact mem_trail_append.mpr (.inr (walk_mem_trail _ _))

theorem AgreesOn.findNode_eq {d e : Disk} {p : Path} (h : d.AgreesOn p e) :
    e.findNode p = d.findNode p := by
  rw [Disk.findNode_eq, Disk.findNode_eq, h.follow_eq]
  cases hfollow : d.follow p with
  | error error => rfl
  | ok ended =>
      obtain ⟨place, ending⟩ := ended
      change nodeAt e.look place ending = nodeAt d.look place ending
      rcases follow_cases hfollow with
        ⟨rfl, -, rfl⟩ | ⟨steps, name, slash, rfl, hback, hsteps, -, rfl⟩
      · rw [nodeAt, nodeAt, h.look_eq _ (walk_mem_trail _ _)]
      · have hlook := h.look_eq (walk (d.start p) steps ++ [name])
        rw [hsteps] at hlook
        rw [nodeAt, nodeAt, hlook (mem_trail_concat hback)]

/-- What lies on the trail of a path that leads somewhere is a folder, or what is found. -/
theorem look_of_findNode {d : Disk} {p : Path} {node : Node} (h : d.findNode p = .ok node)
    {q : List String} (hq : q ∈ trail (d.start p) p.steps) :
    d.look q = some .folder ∨ d.look q = some node := by
  rw [Disk.findNode_eq] at h
  cases hfollow : d.follow p with
  | error error =>
      rw [hfollow] at h
      cases h
  | ok ended =>
      obtain ⟨place, ending⟩ := ended
      rw [hfollow] at h
      change nodeAt d.look place ending = .ok node at h
      rcases follow_cases hfollow with
        ⟨-, hpasses, -⟩ | ⟨steps, name, slash, rfl, hback, hsteps, hpasses, rfl⟩
      · exact .inl (hpasses.look_trail hq)
      · rw [hsteps, mem_trail_append] at hq
        rcases hq with hq | hq
        · exact .inl (hpasses.look_trail hq)
        · have hnext : nextPlace (walk (d.start p) steps) name = walk (d.start p) steps ++ [name] :=
            if_neg hback
          rw [trail, trail, hnext, List.mem_cons, List.mem_singleton] at hq
          rcases hq with rfl | rfl
          · exact .inl (hpasses.look_trail (walk_mem_trail _ _))
          · exact .inr (look_of_nodeAt h)

theorem exists?_eq_findNode (d : Disk) (p : Path) : d.exists? p = (d.findNode p).isOk := by
  rw [exists?, findNode]
  cases d.find p <;> rfl

theorem isFolder_eq_findNode (d : Disk) (p : Path) :
    d.isFolder p = match d.findNode p with
      | .ok .folder => true
      | _ => false := by
  rw [isFolder, findNode]
  cases d.find p with
  | error e => rfl
  | ok tree => cases tree <;> rfl

theorem readText_eq_findNode (d : Disk) (p : Path) :
    d.readText p = (d.findNode p).bind fun node => textOf (some node) := by
  cases hfind : d.find p with
  | error e =>
      rw [readText, findNode, hfind]
      rfl
  | ok tree =>
      rw [readText_of_find hfind, findNode, hfind]
      rfl

/-- Nothing is read through a place where nothing is. -/
theorem readText_of_missing {d : Disk} {p : Path} {q : List String}
    (hq : q ∈ trail (d.start p) p.steps) (hlook : d.look q = none) :
    ∃ error, d.readText p = .error error := by
  rw [readText_eq_findNode]
  cases hfind : d.findNode p with
  | error error => exact ⟨error, rfl⟩
  | ok node =>
      rcases look_of_findNode hfind hq with hfolder | hnode
      · cases hlook.symm.trans hfolder
      · cases hlook.symm.trans hnode

/-- What is read through the place of an empty file is the text of that file. -/
theorem readText_of_empty {d : Disk} {p : Path} {q : List String}
    (hq : q ∈ trail (d.start p) p.steps) (hlook : d.look q = some (.file ByteArray.empty)) :
    (∃ error, d.readText p = .error error) ∨ d.readText p = .ok "" := by
  rw [readText_eq_findNode]
  cases hfind : d.findNode p with
  | error error => exact .inl ⟨error, rfl⟩
  | ok node =>
      rcases look_of_findNode hfind hq with hfolder | hnode
      · cases hlook.symm.trans hfolder
      · obtain rfl := Option.some.inj (hlook.symm.trans hnode)
        exact .inr rfl

section Looking

variable {d e : Disk} {p : Path} (h : d.AgreesOn p e)
include h

theorem AgreesOn.exists?_eq : e.exists? p = d.exists? p := by
  rw [exists?_eq_findNode, exists?_eq_findNode, h.findNode_eq]

theorem AgreesOn.isFolder_eq : e.isFolder p = d.isFolder p := by
  rw [isFolder_eq_findNode, isFolder_eq_findNode, h.findNode_eq]

theorem AgreesOn.readText_eq : e.readText p = d.readText p := by
  rw [readText_eq_findNode, readText_eq_findNode, h.findNode_eq]

end Looking

/-! ## Changing -/

theorem AgreesOn.sets {d e d' e' : Disk} {p : Path} {q : List String} {node : Option Node}
    (h : d.AgreesOn p e) (hd : d.Sets q node d') (he : e.Sets q node e') : d'.AgreesOn p e' := by
  refine ⟨he.current_eq.trans (h.current_eq.trans hd.current_eq.symm), fun place hplace => ?_⟩
  have hsame := h.look_eq place
  rw [start, ← hd.current_eq] at hsame
  rw [hd.look_eq, he.look_eq, View.set, View.set, hsame hplace]

section Changing

variable {d e : Disk} {folder : Path} {name : String}

theorem AgreesOn.placeOf_eq (h : d.AgreesOn folder e) : e.placeOf folder = d.placeOf folder := by
  rw [placeOf, placeOf, start, start, h.current_eq]

theorem AgreesOn.plain (h : d.AgreesOn folder e) : d.AgreesOn folder.plain e := by
  refine ⟨h.current_eq, ?_⟩
  rw [start, Path.isAbsolute_plain, Path.steps_plain]
  exact h.look_eq

/-- The path of a name goes through its folder to its place. -/
theorem agreesOn_child_iff (hname : Path.IsName name) :
    d.AgreesOn (folder.child name) e ↔ d.AgreesOn folder e ∧
      e.look (d.placeOf folder ++ [name]) = d.look (d.placeOf folder ++ [name]) := by
  have hnext : nextPlace (d.placeOf folder) name = d.placeOf folder ++ [name] :=
    if_neg hname.ne_back
  have hmem (q : List String) : q ∈ trail (d.start (folder.child name)) (folder.child name).steps ↔
      q ∈ trail (d.start folder) folder.steps ∨ q = d.placeOf folder ++ [name] := by
    rw [start_child d folder hname, Path.steps_child folder hname.toIsPiece, mem_trail_append,
      trail, trail, ← placeOf, hnext, List.mem_cons, List.mem_singleton, ← or_assoc]
    apply or_congr_left
    refine ⟨fun hq => hq.elim id ?_, .inl⟩
    rintro rfl
    exact walk_mem_trail _ _
  constructor
  · rintro ⟨hcurrent, hlook⟩
    exact ⟨⟨hcurrent, fun q hq => hlook q ((hmem q).mpr (.inl hq))⟩,
      hlook _ ((hmem _).mpr (.inr rfl))⟩
  · rintro ⟨⟨hcurrent, hlook⟩, hplace⟩
    refine ⟨hcurrent, fun q hq => ?_⟩
    rcases (hmem q).mp hq with hq | rfl
    · exact hlook q hq
    · exact hplace

theorem AgreesOn.opens (h : d.AgreesOn folder e) (hopens : d.Opens folder name) :
    e.Opens folder name := by
  refine ⟨hopens.usable, ?_, hopens.size_le⟩
  rw [start, h.current_eq]
  exact hopens.passes.congr h.look_eq

theorem AgreesOn.follow_child (h : d.AgreesOn folder e) (hname : Path.IsName name) :
    e.follow (folder.child name) = d.follow (folder.child name) := by
  refine follow_congr_of_enter h.current_eq ?_
  rw [Path.route_child folder hname, start_child d folder hname]
  exact enter_congr h.look_eq

/-- What an operation did on two disks: it failed for the same reason or set one place alike. -/
inductive SetsAlike (d e : Disk) (place : List String) (node : Option Node) :
    Except FileError Disk → Except FileError Disk → Prop
  | failed (error : FileError) : SetsAlike d e place node (.error error) (.error error)
  | done {d' e' : Disk} (hd : d.Sets place node d') (he : e.Sets place node e') :
    SetsAlike d e place node (.ok d') (.ok e')

/-- Whether a file can be written is a matter of the way to it and of a folder in its place. -/
theorem AgreesOn.placeOfFile_child (h : d.AgreesOn folder e) (hname : Path.IsName name)
    (hfolder : hasFolder e.look (d.placeOf folder ++ [name]) =
      hasFolder d.look (d.placeOf folder ++ [name])) :
    e.placeOfFile (folder.child name) = d.placeOfFile (folder.child name) := by
  have hsame := h.follow_child hname
  cases hfollow : d.follow (folder.child name) with
  | error error =>
      rw [placeOfFile, placeOfFile, hsame, hfollow]
      rfl
  | ok ended =>
      obtain ⟨-, -, rfl⟩ := follow_child_eq_ok hname hfollow
      rw [hfollow] at hsame
      rw [placeOfFile_of_follow hfollow, placeOfFile_of_follow hsame, hfolder]

/-- Appending nothing only needs agreement on a folder in the place and on the bytes there. -/
theorem AgreesOn.append_empty_child (h : d.AgreesOn folder e) (hname : Path.IsName name)
    (hfolder : hasFolder e.look (d.placeOf folder ++ [name]) =
      hasFolder d.look (d.placeOf folder ++ [name]))
    (hbytes : bytesIn (e.look (d.placeOf folder ++ [name])) =
      bytesIn (d.look (d.placeOf folder ++ [name]))) :
    SetsAlike d e (d.placeOf folder ++ [name])
      (some (.file (bytesIn (d.look (d.placeOf folder ++ [name])))))
      (d.append (folder.child name) ByteArray.empty)
      (e.append (folder.child name) ByteArray.empty) := by
  have hsame := h.placeOfFile_child hname hfolder
  cases hplace : d.placeOfFile (folder.child name) with
  | error error =>
      rw [hplace] at hsame
      rw [append, append, hplace, hsame]
      exact .failed error
  | ok q =>
      rw [hplace] at hsame
      obtain ⟨d', hd, hsets⟩ :=
        Disk.append_empty_child hname (placeOfFile_child_eq_ok hname hplace).1
      obtain ⟨e', he, hsets'⟩ :=
        Disk.append_empty_child hname (placeOfFile_child_eq_ok hname hsame).1
      rw [h.placeOf_eq, hbytes] at hsets'
      rw [hd, he]
      exact .done hsets hsets'

theorem AgreesOn.write_child (h : d.AgreesOn (folder.child name) e) (hname : Path.IsName name)
    (content : ByteArray) :
    SetsAlike d e (d.placeOf folder ++ [name]) (some (.file content))
      (d.write (folder.child name) content) (e.write (folder.child name) content) := by
  obtain ⟨hfolder, hlook⟩ := (agreesOn_child_iff hname).mp h
  have hsame := hfolder.placeOfFile_child hname (by rw [hasFolder, hasFolder, hlook])
  cases hplace : d.placeOfFile (folder.child name) with
  | error error =>
      rw [hplace] at hsame
      rw [write, write, hplace, hsame]
      exact .failed error
  | ok q =>
      have hadmits := (placeOfFile_child_eq_ok hname hplace).1
      rw [hplace] at hsame
      have hadmits' := (placeOfFile_child_eq_ok hname hsame).1
      obtain ⟨d', hd, hsets⟩ := Disk.write_child hname hadmits content
      obtain ⟨e', he, hsets'⟩ := Disk.write_child hname hadmits' content
      rw [hfolder.placeOf_eq] at hsets'
      rw [hd, he]
      exact .done hsets hsets'

/-- An operation on a name fails where the name cannot be followed, and else only what stands at its
place is left to compare. -/
theorem AgreesOn.setsAlike_child (h : d.AgreesOn (folder.child name) e) (hname : Path.IsName name)
    {node : Option Node} (operation : Disk → Except FileError Disk)
    (hfailed : ∀ (c : Disk) (error : FileError),
      c.follow (folder.child name) = .error error → operation c = .error error)
    (hfollowed : d.follow (folder.child name) = .ok (d.placeOf folder, .name name false) →
      e.follow (folder.child name) = .ok (d.placeOf folder, .name name false) →
      e.look (d.placeOf folder ++ [name]) = d.look (d.placeOf folder ++ [name]) →
      SetsAlike d e (d.placeOf folder ++ [name]) node (operation d) (operation e)) :
    SetsAlike d e (d.placeOf folder ++ [name]) node (operation d) (operation e) := by
  have hsame := h.follow_eq
  cases hfollow : d.follow (folder.child name) with
  | error error =>
      rw [hfollow] at hsame
      rw [hfailed d error hfollow, hfailed e error hsame]
      exact .failed error
  | ok ended =>
      obtain ⟨-, -, rfl⟩ := follow_child_eq_ok hname hfollow
      exact hfollowed hfollow (hsame.trans hfollow) ((agreesOn_child_iff hname).mp h).2

theorem AgreesOn.makeFolder_child (h : d.AgreesOn (folder.child name) e)
    (hname : Path.IsName name) :
    SetsAlike d e (d.placeOf folder ++ [name]) (some .folder) (d.makeFolder (folder.child name))
      (e.makeFolder (folder.child name)) := by
  refine h.setsAlike_child hname (fun c => c.makeFolder (folder.child name)) ?_ ?_
  · intro c error hfollow
    rw [makeFolder, hfollow]
    rfl
  · intro hfollow hfollow' hlook
    rw [makeFolder_of_follow hfollow, makeFolder_of_follow hfollow', hlook]
    split
    · exact .failed .nameTooLong
    · split
      · exact .failed .alreadyExists
      next hsome =>
        have hnone : d.look (d.placeOf folder ++ [name]) = none := by simpa using hsome
        exact .done ⟨rfl, FileTree.look_putFolder (look_of_follow hfollow) hnone⟩
          ⟨rfl, FileTree.look_putFolder (look_of_follow hfollow') (hlook.trans hnone)⟩

theorem AgreesOn.removeFile_child (h : d.AgreesOn (folder.child name) e)
    (hname : Path.IsName name) :
    SetsAlike d e (d.placeOf folder ++ [name]) none (d.removeFile (folder.child name))
      (e.removeFile (folder.child name)) := by
  refine h.setsAlike_child hname (fun c => c.removeFile (folder.child name)) ?_ ?_
  · intro c error hfollow
    rw [removeFile, hfollow]
    rfl
  · intro hfollow hfollow' hlook
    rw [removeFile_of_follow hfollow, removeFile_of_follow hfollow', hlook]
    split
    · exact .failed .nameTooLong
    · cases hplace : d.look (d.placeOf folder ++ [name]) with
      | none => exact .failed .notFound
      | some node =>
          cases node with
          | folder => exact .failed .isFolder
          | file content =>
              have hne : d.look (d.placeOf folder ++ [name]) ≠ some .folder := by simp [hplace]
              exact .done (sets_clear hne) (sets_clear (hlook ▸ hne))

/-- A file moves alike to another name of its folder. -/
theorem AgreesOn.moveFile_child {target : String} (h : d.AgreesOn (folder.child name) e)
    (h' : d.AgreesOn (folder.child target) e) (hname : Path.IsName name)
    (htarget : Path.IsName target) (hne : target ≠ name) (hopens : d.Opens folder name)
    {content : ByteArray} (hfile : d.look (d.placeOf folder ++ [name]) = some (.file content)) :
    SetsAlike (d.clear (d.placeOf folder ++ [name])) (e.clear (d.placeOf folder ++ [name]))
      (d.placeOf folder ++ [target]) (some (.file content))
      (d.moveFile (folder.child name) (folder.child target))
      (e.moveFile (folder.child name) (folder.child target)) := by
  obtain ⟨hfolder, hlook⟩ := (agreesOn_child_iff hname).mp h
  obtain ⟨-, hlook'⟩ := (agreesOn_child_iff htarget).mp h'
  have hopens' := hfolder.opens hopens
  have hfile' : e.look (e.placeOf folder ++ [name]) = some (.file content) := by
    rw [hfolder.placeOf_eq, hlook]
    exact hfile
  have hsame := hfolder.placeOfFile_child htarget (by rw [hasFolder, hasFolder, hlook'])
  cases hplace : d.placeOfFile (folder.child target) with
  | error error =>
      rw [hplace] at hsame
      rw [moveFile_of_file hname hopens hfile, moveFile_of_file hname hopens' hfile', hplace, hsame]
      exact .failed error
  | ok q =>
      rw [hplace] at hsame
      obtain ⟨d', hmoved, hd⟩ := Disk.moveFile_child hname htarget hopens
        (placeOfFile_child_eq_ok htarget hplace).1 hne hfile
      obtain ⟨e', hmoved', he⟩ := Disk.moveFile_child hname htarget hopens'
        (placeOfFile_child_eq_ok htarget hsame).1 hne hfile'
      rw [hfolder.placeOf_eq] at he
      rw [hmoved, hmoved']
      exact .done hd he

/-! ## Changes with an answer -/

/-- Whether a relation of disks lasts when the same place is set alike on both. -/
def IsStable (R : Disk → Disk → Prop) : Prop :=
  ∀ {d e d' e' : Disk} {q : List String} {node : Option Node},
    R d e → d.Sets q node d' → e.Sets q node e' → R d' e'

theorem IsStable.and_agreesOn {R : Disk → Disk → Prop} (hR : IsStable R) (p : Path) :
    IsStable fun d e => R d e ∧ d.AgreesOn p e :=
  fun h hd he => ⟨hR h.1 hd he, h.2.sets hd he⟩

/-- Whether a change gave the same answer on two disks, and left them related. -/
structure Alike {α : Type} (R : Disk → Disk → Prop) (x y : Disk × α) : Prop where
  answer_eq : y.2 = x.2
  related : R x.1 y.1

theorem Alike.exists_eq {α : Type} {R : Disk → Disk → Prop} {x y : Disk × α} (h : Alike R x y) :
    ∃ d e answer, x = (d, answer) ∧ y = (e, answer) ∧ R d e :=
  ⟨x.1, y.1, x.2, rfl, Prod.ext rfl h.answer_eq, h.related⟩

variable {R : Disk → Disk → Prop} (hR : IsStable R)
include hR

theorem AgreesOn.replace_child {stem : String} (hrelated : R d e)
    (h : d.AgreesOn (folder.child (stem ++ ".toml")) e)
    (hdraft : d.AgreesOn (folder.child (stem ++ ".toml.tmp")) e) (hstem : Path.IsPiece stem)
    (content : String) :
    Alike R (d.replace (folder.child (stem ++ ".toml")) content)
      (e.replace (folder.child (stem ++ ".toml")) content) := by
  have hwritten := hdraft.write_child (isName_draft hstem) content.toUTF8
  unfold replace
  rw [Path.draftPath_child folder hstem.ne_empty hstem.no_slash]
  generalize hwrite : d.write (folder.child (stem ++ ".toml.tmp")) content.toUTF8 = first
    at hwritten ⊢
  generalize e.write (folder.child (stem ++ ".toml.tmp")) content.toUTF8 = second at hwritten ⊢
  cases hwritten with
  | failed error => exact ⟨rfl, hrelated⟩
  | @done drafted drafted' hd he =>
      have hadmits := (write_child_eq_ok (isName_draft hstem) hwrite).1
      have hkeeps := hd.keeps hadmits.ne_folder
      have hdrafted : R drafted drafted' := hR hrelated hd he
      have hfile : drafted.look (d.placeOf folder ++ [stem ++ ".toml.tmp"]) =
          some (.file content.toUTF8) := by rw [hd.look_eq, View.set_self]
      have hmoved := (hdraft.sets hd he).moveFile_child (h.sets hd he) (isName_draft hstem)
        (isName_document hstem) (draft_ne_document stem).symm (hkeeps.opens hadmits.toOpens)
        (by rwa [hkeeps.placeOf_eq folder])
      rw [hkeeps.placeOf_eq folder] at hmoved
      dsimp only
      generalize drafted.moveFile (folder.child (stem ++ ".toml.tmp"))
        (folder.child (stem ++ ".toml")) = first at hmoved ⊢
      generalize drafted'.moveFile (folder.child (stem ++ ".toml.tmp"))
        (folder.child (stem ++ ".toml")) = second at hmoved ⊢
      cases hmoved with
      | failed error => exact ⟨rfl, hdrafted⟩
      | done hd' he' => exact ⟨rfl, hR (hR hdrafted hd.clears he.clears) hd' he'⟩

/-- A folder is made on both disks, or it is there on both, or it cannot be made on either. -/
theorem AgreesOn.settle_child (hrelated : R d e) (h : d.AgreesOn (folder.child name) e)
    (hname : Path.IsName name) :
    Alike R (makeFolderVia.settle (folder.child name) d)
      (makeFolderVia.settle (folder.child name) e) := by
  have hmade := h.makeFolder_child hname
  have hsame := h.isFolder_eq
  unfold makeFolderVia.settle
  generalize d.makeFolder (folder.child name) = first at hmade ⊢
  generalize e.makeFolder (folder.child name) = second at hmade ⊢
  cases hmade with
  | failed error =>
      refine ⟨?_, hrelated⟩
      dsimp only
      rw [hsame]
  | done hd he => exact ⟨rfl, hR hrelated hd he⟩

theorem AgreesOn.makeFolders_child_child {inner : String} (hrelated : R d e)
    (h : d.AgreesOn ((folder.child name).child inner) e) (hname : Path.IsName name)
    (hinner : Path.IsName inner) (hpasses : Passes d.look (d.start folder) folder.steps) :
    Alike R (d.makeFolders ((folder.child name).child inner))
      (e.makeFolders ((folder.child name).child inner)) := by
  obtain ⟨houter, -⟩ := (agreesOn_child_iff hinner).mp h
  obtain ⟨hfolder, hlook⟩ := (agreesOn_child_iff hname).mp houter
  have hpasses' : Passes e.look (e.start folder) folder.steps := by
    rw [start, hfolder.current_eq]
    exact hpasses.congr hfolder.look_eq
  have hplain : d.AgreesOn (folder.plain.child name) e := by
    rw [← placeOf_plain] at hlook
    exact (agreesOn_child_iff hname).mpr ⟨hfolder.plain, hlook⟩
  have hsettled := hplain.settle_child (hR.and_agreesOn ((folder.child name).child inner))
    ⟨hrelated, h⟩ hname
  have hmade := h.makeFolder_child hinner
  have hdirect := h.settle_child hR hrelated hinner
  rw [Disk.makeFolders_child_child_eq hname hinner hpasses,
    Disk.makeFolders_child_child_eq hname hinner hpasses']
  generalize d.makeFolder ((folder.child name).child inner) = first at hmade ⊢
  generalize e.makeFolder ((folder.child name).child inner) = second at hmade ⊢
  cases hmade with
  | done hd he => exact hdirect
  | failed error =>
      by_cases hmissing : error = .notFound
      · subst hmissing
        dsimp only
        obtain ⟨made, made', answer, hfirst, hsecond, hrelated', hagrees⟩ := hsettled.exists_eq
        rw [hfirst, hsecond]
        cases answer with
        | error error => exact ⟨rfl, hrelated'⟩
        | ok _ => exact hagrees.settle_child hR hrelated' hinner
      · cases error <;> first | exact absurd rfl hmissing | exact hdirect

end Changing

end Courier.Disk
