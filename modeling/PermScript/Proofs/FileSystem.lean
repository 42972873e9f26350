/-
Files by path: what stands where once an ordinary file is written, and that
the same path reads it back.

A path is followed through directories only, so putting a file where no
directory stands leads no path elsewhere (`locate_set`).
-/
import Mathlib.Data.List.Basic
import PermScript.FileSystem

namespace PermScript.FileSystem

open PermScript.Config (FileError)

variable {fs : FileSystem} {path : String} {place : Path}

/-- An ordinary file can be written under the path: the directories on the
way are there, and a file or nothing stands in the place it leads to. -/
structure Writable (fs : FileSystem) (path : String) (place : Path) : Prop where
  /-- A slash at the end would ask for a directory. -/
  names_file : path.toList.getLast? ≠ some '/'
  locate_eq : fs.locate path = .ok place
  ordinary : ∀ entry, fs.entry? place = some entry → ∃ content, entry = .file content

theorem dropEndSlashes_of_getLast? (h : path.toList.getLast? ≠ some '/') :
    dropEndSlashes path = path := by
  have hhead : path.toList.reverse.dropWhile (· == '/') = path.toList.reverse := by
    rw [← List.head?_reverse] at h
    cases hr : path.toList.reverse with
    | nil => rfl
    | cons c cs =>
      have hc : c ≠ '/' := by simpa [hr] using h
      rw [List.dropWhile_cons_of_neg (by simpa using hc)]
  rw [dropEndSlashes, hhead, List.reverse_reverse, String.ofList_toList]

theorem write_of_writable (h : fs.Writable path place) (text : String) :
    fs.write path text = .ok (fs.set place (.file (.text text))) := by
  have hslash : (path.toList.getLast? == some '/') = false := by simpa using h.names_file
  rw [write, dropEndSlashes_of_getLast? h.names_file, h.locate_eq]
  simp only [bind, Except.bind, hslash]
  cases hentry : fs.entry? place with
  | none => rfl
  | some entry =>
    obtain ⟨content, rfl⟩ := h.ordinary entry hentry
    rfl

/-! ## Setting an entry -/

@[simp] theorem entry?_set_self (fs : FileSystem) (place : Path) (entry : Entry) :
    entry? (fs.set place entry) place = some entry := if_pos rfl

theorem entry?_set_of_ne (fs : FileSystem) {place p : Path} (entry : Entry) (h : p ≠ place) :
    entry? (fs.set place entry) p = fs.entry? p := if_neg h

theorem descend_set {entry : Entry} (hplace : fs.entry? place ≠ some .directory)
    {here there : Path} {names : List String} (h : fs.descend here names = .ok there) :
    (fs.set place entry).descend here names = .ok there := by
  induction names generalizing here with
  | nil => exact h
  | cons name names ih =>
    rw [descend] at h
    split at h
    · rename_i hdir
      have hne : step here name ≠ place := by
        rintro rfl
        exact hplace hdir
      rw [descend, entry?_set_of_ne fs entry hne, hdir]
      exact ih h
    · cases h
    · cases h

/-- Where a path leads does not change if no directory is replaced. -/
theorem locate_set {entry : Entry} (hplace : fs.entry? place ≠ some .directory) {p : Path}
    (h : fs.locate path = .ok p) : (fs.set place entry).locate path = .ok p := by
  rw [locate] at h ⊢
  split at h
  · cases h
  · rename_i hnull
    rw [if_neg hnull]
    simp only at h ⊢
    cases hdir : fs.descend (if path.toList.head? == some '/' then root else [])
        (splitPath path.toList).dropLast with
    | error e =>
      rw [hdir] at h
      cases h
    | ok directory =>
      rw [hdir] at h
      rw [descend_set hplace hdir]
      exact h

/-- What is written to an ordinary file is read back. -/
theorem read_set (h : fs.Writable path place) (content : Content) :
    (fs.set place (.file content)).read path = content.read := by
  have hplace : fs.entry? place ≠ some .directory := by
    intro hdir
    obtain ⟨content, hfile⟩ := h.ordinary _ hdir
    cases hfile
  rw [read, locate_set hplace h.locate_eq]
  simp [bind, Except.bind]

end PermScript.FileSystem
