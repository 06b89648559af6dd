import EstimateCompiler.Command.Files
import EstimateCompiler.Proofs.OrderedMap

/-!
# Reading what was written

A path leads to the name of a file, or to a name that is still free. The walk to it passes through
directories only. Putting a file under the name takes none of these directories away, because a
directory on the way is neither a file nor free, so the same path leads to the file afterwards and
its bytes are read back. No other file is touched.
-/
namespace EstimateCompiler.Files

/-- A part of a path that is the name of a file or of a directory. -/
structure IsName (part : Text) : Prop where
  ne_here : ¬ (part = "" ∨ part = ".")
  ne_parent : part ≠ ".."
  size_le : ¬ maxPartSize < part.size

/-- The parts of a path lead to a name at which a file is, or can be made. -/
inductive LeadsTo (files : Files) (name : Text) : List Text → List Text → Prop where
  | stay {here rest : List Text} {part : Text} (same : part = "" ∨ part = ".")
      (later : LeadsTo files name here rest) : LeadsTo files name here (part :: rest)
  | leave {here rest : List Text} (later : LeadsTo files name here.dropLast rest) :
      LeadsTo files name here (".." :: rest)
  | enter {here rest : List Text} {part : Text} (isName : IsName part)
      (noFile : files.contents.get? (nameOf (here ++ [part])) = none)
      (directory : files.hasDirectory (nameOf (here ++ [part])) = true)
      (later : LeadsTo files name (here ++ [part]) rest) : LeadsTo files name here (part :: rest)
  | arrive {here : List Text} {part : Text} (isName : IsName part)
      (there : nameOf (here ++ [part]) = name)
      (free : (files.contents.get? name).isSome = true ∨ files.hasDirectory name = false) :
      LeadsTo files name here [part]

/-- What stands at a path has the name: a file that is there or can be made. -/
def Names (files : Files) (path name : Text) : Prop :=
  files.locate path = .ok (.file name) ∨ files.locate path = .ok (.absent name)

def deadEnd (rest : List Text) (reason : FileError) : Except FileError Spot :=
  if !rest.isEmpty && rest.all (· = "") then .ok (.slashed reason) else .error reason

variable {files : Files} {name part path : Text} {here rest parts : List Text}

theorem walk_stay (h : part = "" ∨ part = ".") :
    walk files here (part :: rest) = walk files here rest := by
  rw [walk, if_pos h]

theorem walk_leave : walk files here (".." :: rest) = walk files here.dropLast rest := by
  rw [walk, if_neg (by decide), if_pos rfl]

theorem walk_isName (h : IsName part) :
    walk files here (part :: rest) =
      if (files.contents.get? (nameOf (here ++ [part]))).isSome then
        if rest.isEmpty then .ok (.file (nameOf (here ++ [part]))) else deadEnd rest .notDirectory
      else if files.hasDirectory (nameOf (here ++ [part])) then walk files (here ++ [part]) rest
      else if rest.isEmpty then .ok (.absent (nameOf (here ++ [part])))
      else deadEnd rest .notFound := by
  rw [walk, if_neg h.ne_here, if_neg h.ne_parent]
  simp only [if_neg h.size_le]
  rfl

theorem deadEnd_ne {spot : Spot} {reason : FileError}
    (h : spot = .file name ∨ spot = .absent name) : deadEnd rest reason ≠ .ok spot := by
  unfold deadEnd
  rcases h with rfl | rfl <;> split <;> simp

/-- A walk to a file or to a free name is one that leads there. -/
theorem leadsTo_of_walk {spot : Spot} (hspot : spot = .file name ∨ spot = .absent name)
    (h : walk files here parts = .ok spot) : LeadsTo files name here parts := by
  induction parts generalizing here with
  | nil =>
      cases h
      simp at hspot
  | cons part rest ih =>
      by_cases hsame : part = "" ∨ part = "."
      · rw [walk_stay hsame] at h
        exact .stay hsame (ih h)
      by_cases hparent : part = ".."
      · subst hparent
        rw [walk_leave] at h
        exact .leave (ih h)
      by_cases hsize : maxPartSize < part.size
      · rw [walk, if_neg hsame, if_neg hparent] at h
        simp only [if_pos hsize] at h
        exact absurd h (deadEnd_ne hspot)
      have hname : IsName part := ⟨hsame, hparent, hsize⟩
      rw [walk_isName hname] at h
      split at h
      next hfile =>
        split at h
        next hlast =>
          obtain rfl := List.isEmpty_iff.1 hlast
          cases h
          obtain rfl : nameOf (here ++ [part]) = name := by simpa using hspot
          exact .arrive hname rfl (.inl hfile)
        next => exact absurd h (deadEnd_ne hspot)
      next hfile =>
        split at h
        next hdirectory => exact .enter hname (by simpa using hfile) hdirectory (ih h)
        next hdirectory =>
          split at h
          next hlast =>
            obtain rfl := List.isEmpty_iff.1 hlast
            cases h
            obtain rfl : nameOf (here ++ [part]) = name := by simpa using hspot
            exact .arrive hname rfl (.inr (by simpa using hdirectory))
          next => exact absurd h (deadEnd_ne hspot)

theorem LeadsTo.free (h : LeadsTo files name here parts) :
    (files.contents.get? name).isSome = true ∨ files.hasDirectory name = false := by
  induction h with
  | stay _ _ ih => exact ih
  | leave _ ih => exact ih
  | enter _ _ _ _ ih => exact ih
  | arrive _ _ free => exact free

theorem hasDirectory_put {directory : Text} (h : files.hasDirectory directory = true)
    (name : Text) (bytes : List UInt8) :
    (files.put name bytes).hasDirectory directory = true := by
  rw [hasDirectory, List.any_eq_true] at h ⊢
  obtain ⟨other, hother, hin⟩ := h
  refine ⟨other, ?_, hin⟩
  rcases List.mem_append.1 hother with hgiven | hkey
  · exact List.mem_append_left _ hgiven
  · refine List.mem_append_right _ ?_
    rw [put, OrderedMap.keys_put]
    split
    · exact hkey
    · exact List.mem_append_left _ hkey

theorem get?_put (name : Text) (bytes : List UInt8) (other : Text) :
    (files.put name bytes).contents.get? other =
      if other = name then some bytes else files.contents.get? other :=
  OrderedMap.get?_put files.contents name bytes other

theorem put_put (name : Text) (bytes later : List UInt8) :
    (files.put name bytes).put name later = files.put name later := by
  simp only [put, OrderedMap.put_put]

/-- The same parts lead to the file once it is there. -/
theorem LeadsTo.walk_put (h : LeadsTo files name here parts) (bytes : List UInt8) :
    walk (files.put name bytes) here parts = .ok (.file name) := by
  have hfree := h.free
  induction h with
  | stay same _ ih =>
      rw [walk_stay same]
      exact ih
  | leave _ ih =>
      rw [walk_leave]
      exact ih
  | @enter here rest part isName noFile directory _ ih =>
      have hne : nameOf (here ++ [part]) ≠ name := by
        rintro rfl
        simp [noFile, directory] at hfree
      rw [walk_isName isName, get?_put, if_neg hne, noFile, if_neg (by simp),
        if_pos (hasDirectory_put directory name bytes)]
      exact ih
  | @arrive here part isName there _ =>
      rw [walk_isName isName, get?_put, if_pos there, there]
      rfl

theorem Names.locate_put (h : files.Names path name) (bytes : List UInt8) :
    (files.put name bytes).locate path = .ok (.file name) := by
  obtain ⟨spot, hspot, hlocate⟩ : ∃ spot, (spot = .file name ∨ spot = .absent name) ∧
      files.locate path = .ok spot := by
    rcases h with h | h
    · exact ⟨_, .inl rfl, h⟩
    · exact ⟨_, .inr rfl, h⟩
  unfold locate at hlocate ⊢
  split at hlocate
  next => cases hlocate
  next hpath =>
    split at hlocate
    next => cases hlocate
    next hsize =>
      rw [if_neg hpath, if_neg hsize]
      exact (leadsTo_of_walk hspot hlocate).walk_put bytes

/-- A file is opened for writing where the path leads, if this is not forbidden. -/
theorem of_create_eq_ok {emptied : Files} (h : files.create path = .ok (name, emptied)) :
    files.Names path name ∧ name ∉ files.forbidden ∧ emptied = files.put name [] := by
  unfold create at h
  split at h
  · cases h
  next hlocate =>
    split at h <;> cases h
    exact ⟨.inl hlocate, ‹_›, rfl⟩
  next hlocate =>
    split at h <;> cases h
    exact ⟨.inr hlocate, ‹_›, rfl⟩
  · cases h

/-- What was put under the name of a path is read back. -/
theorem Names.read_put (h : files.Names path name) (hallowed : name ∉ files.forbidden)
    (bytes : List UInt8) : (files.put name bytes).read path = .ok bytes := by
  have hforbidden : name ∉ (files.put name bytes).forbidden := hallowed
  simp only [read, h.locate_put, if_neg hforbidden, get?_put, if_pos, Option.getD_some]

end EstimateCompiler.Files
