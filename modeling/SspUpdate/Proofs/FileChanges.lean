import SspUpdate.Proofs.FileTree

/-!
# Changing files again and again

What one change to the files does not put in the way of the next: a path that
leads to a file still does when other files are written, a directory that has
been made is there and need not be made again, and what a file holds is not
changed by making directories.
-/

namespace SspUpdate

namespace Files

theorem eq_ok_of_toOption {ε α : Type} {r : Except ε α} {a : α} (h : r.toOption = some a) :
    r = .ok a := by
  cases r with
  | error e => cases h
  | ok b => exact congrArg _ (Option.some.inj h)

/-- Where a path leads is not changed by what is put where no directory is. -/
theorem place_put_of_ok {f : Files} {place there : List String} {path : String}
    (hplace : f.node? place ≠ some .directory) (node : FileNode) (h : f.place path = .ok there) :
    (f.put place node).place path = .ok there := by
  have hthere := place_toOption f path
  rw [h] at hthere
  refine eq_ok_of_toOption ?_
  rw [place_toOption]
  split at hthere
  · next hsound =>
    rw [if_pos hsound]
    exact walk_put_of_ok hplace node hthere.symm
  · cases hthere

theorem held?_put_self (f : Files) {place : List String} (data : Bytes) (h : place ≠ []) :
    (f.put place (.file data)).held? place = some data := by
  rw [held?, node?_put_self f _ h]

theorem held?_put_of_ne (f : Files) {place other : List String} (node : FileNode)
    (h : other ≠ place) : (f.put place node).held? other = f.held? other := by
  rw [held?, node?_put_of_ne f _ h, held?]

/-- The path leads to a place for a file. -/
structure Opens (f : Files) (path : String) (place : List String) : Prop where
  leads : f.place path = .ok place
  free : f.node? place ≠ some .directory

namespace Opens

variable {f : Files} {path : String} {place : List String}

theorem data? (h : f.Opens path place) : f.data? path = f.held? place := by
  rw [data?_eq, h.leads]
  rfl

/-- A file that is not there is changed as an empty one. -/
theorem update (h : f.Opens path place) (change : Bytes → Bytes) :
    f.update path change = .ok (f.put place (.file (change ((f.held? place).getD [])))) := by
  rw [Files.update, h.leads, held?]
  dsimp only
  cases hnode : f.node? place with
  | none => rfl
  | some node =>
    cases node with
    | directory => exact absurd hnode h.free
    | file data => rfl

/-- A file that is written elsewhere, or here, does not stand in the way. -/
theorem put_file (h : f.Opens path place) {other : List String}
    (hother : f.node? other ≠ some .directory) (data : Bytes) :
    (f.put other (.file data)).Opens path place := by
  refine ⟨place_put_of_ok hother _ h.leads, ?_⟩
  by_cases heq : place = other
  · rw [heq, node?_put_self f _ (ne_nil_of_node? hother)]
    simp
  · rw [node?_put_of_ne f _ heq]
    exact h.free

end Opens

/-- A new directory is put over no file. -/
theorem data?_makeDirectory {f g : Files} {path other : String} {data : Bytes}
    (h : f.data? path = some data) (hmake : f.makeDirectory other = .ok g) :
    g.data? path = some data := by
  obtain ⟨place, -, hnode, rfl⟩ := makeDirectory_eq_ok hmake
  rw [data?_eq] at h
  obtain ⟨there, hthere, hheld⟩ := Option.bind_eq_some_iff.mp h
  have hne : there ≠ place := by
    rintro rfl
    simp [held?, hnode] at hheld
  rw [data?_eq, place_put_of_ok (by simp [hnode]) _ (eq_ok_of_toOption hthere)]
  exact (held?_put_of_ne f _ hne).trans hheld

theorem data?_ensureDirectory {f g : Files} {path dir : String} {data : Bytes}
    (h : f.data? path = some data) (hmake : f.ensureDirectory dir = .ok g) :
    g.data? path = some data :=
  makeDirectories_keeps data?_makeDirectory h hmake

theorem isDirectory_iff {f : Files} {path : String} : f.isDirectory path = true ↔
    ∃ place, f.place path = .ok place ∧ f.node? place = some .directory := by
  unfold isDirectory find
  cases f.place path with
  | error e => simp [Except.toOption]
  | ok place => cases hnode : f.node? place <;> simp [hnode, Except.toOption]

theorem isDirectory_makeDirectory {f g : Files} {path : String} (h : f.makeDirectory path = .ok g) :
    g.isDirectory path = true := by
  obtain ⟨place, hplace, hnode, rfl⟩ := makeDirectory_eq_ok h
  have hfree : f.node? place ≠ some .directory := by simp [hnode]
  exact isDirectory_iff.mpr ⟨place, place_put_of_ok hfree _ hplace,
    node?_put_self f _ (ne_nil_of_node? hfree)⟩

/-- A directory that has been made is there. -/
theorem isDirectory_ensureDirectory {f g : Files} {path : String} (hne : path ≠ "")
    (h : f.ensureDirectory path = .ok g) : g.isDirectory path = true := by
  obtain ⟨depth, hdepth⟩ := Nat.exists_eq_succ_of_ne_zero fun hzero =>
    hne (String.length_eq_zero_iff.mp hzero)
  rw [ensureDirectory, hdepth, makeDirectories, if_neg (by simpa using hne)] at h
  split at h
  · next made hmade =>
    cases h
    exact isDirectory_makeDirectory hmade
  · split at h
    · cases h
    · split at h
      · cases h
      · split at h
        · next made hmade =>
          cases h
          exact isDirectory_makeDirectory hmade
        · split at h
          · next hthere =>
            cases h
            exact hthere
          · cases h
  · split at h
    · next hthere =>
      cases h
      exact hthere
    · cases h

/-- A directory that is there need not be made. -/
theorem ensureDirectory_self {f : Files} {path : String} (h : f.isDirectory path = true) :
    f.ensureDirectory path = .ok f := by
  obtain ⟨place, hplace, hnode⟩ := isDirectory_iff.mp h
  have hmake : f.makeDirectory path = .error .alreadyThere := by
    rw [makeDirectory, hplace]
    simp [hnode]
  rw [ensureDirectory]
  cases path.length with
  | zero => rfl
  | succ depth =>
    rw [makeDirectories, hmake]
    dsimp only
    rw [h, if_pos rfl, ite_self]

theorem isDirectory_put_file {f : Files} {path : String} {place : List String}
    (h : f.isDirectory path = true) (hplace : f.node? place ≠ some .directory) (data : Bytes) :
    (f.put place (.file data)).isDirectory path = true := by
  obtain ⟨there, hthere, hnode⟩ := isDirectory_iff.mp h
  have hne : there ≠ place := fun heq => hplace (heq ▸ hnode)
  exact isDirectory_iff.mpr ⟨there, place_put_of_ok hplace _ hthere, by
    rw [node?_put_of_ne f _ hne, hnode]⟩

end Files

end SspUpdate
