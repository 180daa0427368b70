import GameArchive.Proofs.Listing.Files

/-!
# Directories of files

In a directory that has nothing but files in it a listing passes no other directory. It always comes
to its end, and finds the files with the endings that are asked for.
-/

namespace GameArchive
namespace Listing

open FileSystem

variable {options : Options} {fs : FileSystem} {base : Path} {location : Location}
  {names : List Text}

/-- A directory at a location with nothing but files in it. -/
structure IsFlat (fs : FileSystem) (base : Path) (location : Location) : Prop where
  takes : nameFailure? base.text = none
  lookup : fs.lookup true base = .ok (.found location .directory)
  isFile : ∀ name ∈ fs.children location, fs.isFile (base.child name) = .ok true

namespace IsFlat

theorem isDirectory (h : IsFlat fs base location) : fs.isDirectory base = .ok true :=
  isDirectory_eq_ok_true.mpr ⟨h.takes, location, h.lookup⟩

/-- The directory is the only one that a listing of it passes. -/
theorem eq_nil_of_passes (h : IsFlat fs base location) (hpasses : Passes options fs base names) :
    names = [] := by
  cases names with
  | nil => rfl
  | cons name rest =>
    have hdirectory : fs.isDirectory (base.child name) = .ok true :=
      hpasses.isDirectory [name] (by simp)
    obtain ⟨-, place, hlookup⟩ := isDirectory_eq_ok_true.mp hdirectory
    have hname := mem_children_of_lookup (hpasses.proper name List.mem_cons_self) h.lookup hlookup
    rw [isDirectory_of_isFile (h.isFile name hname)] at hdirectory
    contradiction

theorem answers (h : IsFlat fs base location) : Answers options fs base where
  start := by simp [h.isDirectory]
  below before known name hpasses hlist hname failure := by
    obtain rfl := h.eq_nil_of_passes hpasses
    rw [Path.descend_nil, list_eq h.takes h.lookup] at hlist
    obtain rfl := Except.ok.inj hlist
    have hfile : fs.isDirectory (base.child name) = .ok false :=
      isDirectory_of_isFile (h.isFile name hname)
    intro hfails
    have hsame := hfile.symm.trans hfails
    contradiction

theorem isListed_iff (h : IsFlat fs base location) (htree : fs.IsTree) :
    IsListed options fs base names ↔ ∃ name ∈ fs.children location, names = [name] ∧
      ∀ endings, options.extensions = some endings → extensionOf (base.child name) ∈ endings := by
  constructor
  · rintro ⟨before, name, rfl, hname, hpasses, hfile, hendings⟩
    obtain rfl := h.eq_nil_of_passes hpasses
    obtain ⟨content, hread⟩ := isFile_eq_ok_true.mp hfile
    obtain ⟨-, place, number, hlookup⟩ := read_eq_ok.mp hread
    exact ⟨name, mem_children_of_lookup hname h.lookup hlookup, rfl, hendings⟩
  · rintro ⟨name, hname, rfl, hendings⟩
    exact ⟨[], name, rfl, isProper_of_mem_children htree hname, passes_nil h.isDirectory,
      h.isFile name hname, hendings⟩

end IsFlat

end Listing
end GameArchive
