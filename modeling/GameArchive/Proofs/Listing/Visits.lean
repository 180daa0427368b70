import GameArchive.Proofs.Listing.Files

/-!
# Visits to listed files

Whoever goes through a listing and only logs on the way meets the files that the listing finds, one
after the other: the listing does not depend on what the visits do.
-/

namespace GameArchive
namespace Listing

open Operation

variable {α : Type} {visit : Entry → α → Operation α} {comes : FileSystem → Prop}
  {between : Session → Prop} {t : Traversal} {course : Course} {s after : Session}

/-- The sessions that come between two visits. Logging leads from one to another. -/
structure Keeps (comes : FileSystem → Prop) (between : Session → Prop) : Prop where
  files : ∀ s, between s → comes s.files
  quiet : ∀ s after, between s → Quiet s after → after.settings = s.settings → between after

theorem Keeps.remark (h : Keeps comes between) (r : Remark) (hs : between s) :
    ∃ after, logRemark r s = .ok () after ∧ between after := by
  obtain ⟨after, hlog, hquiet, hsettings⟩ := exists_logRemark r s
  exact ⟨after, hlog, h.quiet s after hs hquiet hsettings⟩

/-- What each visit adds to the files that have been visited is there for all of them at the end. -/
theorem Takes.reached (h : Takes comes t course) (hkeeps : Keeps comes between)
    {reached : List Path → α → Prop}
    (hvisit : ∀ e before memory result s after, e.path ∈ course.1 → between s →
      reached before memory → visit e memory s = .ok result after →
        between after ∧ reached (before ++ [e.path]) result)
    {before : List Path} {memory result : α} (hs : between s) (hmemory : reached before memory)
    (hok : overEntries visit t memory s = .ok result after) :
    reached (before ++ course.1) result := by
  -- The visits do not change the course: whatever they leave, the traversal goes on as it would have.
  induction h generalizing before memory s with
  | done =>
    cases hok
    rwa [List.append_nil]
  | fail => cases hok
  | remark _ ih =>
    obtain ⟨middle, hlog, hmiddle⟩ := hkeeps.remark _ hs
    rw [overEntries, bind_of_ok hlog] at hok
    exact ih hvisit hmiddle hmemory hok
  | @entry e rest course fs content _ _ _ _ ih =>
    obtain ⟨next, middle, hfirst, hok⟩ := exists_of_bind_ok hok
    obtain ⟨hmiddle, hnext⟩ :=
      hvisit e before memory next s middle List.mem_cons_self hs hmemory hfirst
    rw [get_bind] at hok
    rw [List.append_cons]
    refine ih middle.files (hkeeps.files middle hmiddle) (fun e before memory result s after he => ?_)
      hmiddle hnext hok
    exact hvisit e before memory result s after (List.mem_cons_of_mem _ he)

/-- All files are visited if no visit fails. -/
theorem Takes.exists_overEntries (h : Takes comes t course) (hkeeps : Keeps comes between)
    (hend : course.2 = none)
    (hvisit : ∀ e memory s, e.path ∈ course.1 → between s →
      ∃ result after, visit e memory s = .ok result after ∧ between after)
    (memory : α) (hs : between s) :
    ∃ result after, overEntries visit t memory s = .ok result after := by
  induction h generalizing memory s with
  | done => exact ⟨memory, s, rfl⟩
  | fail => contradiction
  | remark _ ih =>
    obtain ⟨middle, hlog, hmiddle⟩ := hkeeps.remark _ hs
    rw [overEntries, bind_of_ok hlog]
    exact ih hend hvisit memory hmiddle
  | @entry e rest course fs content _ _ _ _ ih =>
    obtain ⟨next, middle, hfirst, hmiddle⟩ := hvisit e memory s List.mem_cons_self hs
    rw [overEntries, bind_of_ok hfirst, get_bind]
    refine ih middle.files (hkeeps.files middle hmiddle) hend (fun e memory s he => ?_) next hmiddle
    exact hvisit e memory s (List.mem_cons_of_mem _ he)

end Listing
end GameArchive
