import GameArchive.Proofs.Manifest.Store

/-!
# Layers of defaults

Members put over others keep the order of what they are put over, and what is new comes behind it.
So the names and the value under each of them decide the result, and layers can be put over each
other in any grouping: the members, their values and their order are the same.
-/

namespace GameArchive

namespace Members

variable {members later first second third : Members}

/-- Members are known by their names in order and the value under each of them. -/
theorem ext_of_names {other : Members} (h : members.names.Nodup)
    (hnames : members.names = other.names)
    (hvalues : ∀ name, members.get? name = other.get? name) : members = other := by
  induction members generalizing other with
  | nil => exact (List.map_eq_nil_iff.mp hnames.symm).symm
  | cons entry members ih =>
    obtain ⟨name, value⟩ := entry
    obtain ⟨hname, hrest⟩ := List.nodup_cons.mp h
    cases other with
    | nil => contradiction
    | cons entry other =>
      obtain ⟨head, given⟩ := entry
      obtain ⟨rfl, htail⟩ : name = head ∧ names members = names other := List.cons.inj hnames
      have hvalue : value = given := by simpa [get?] using hvalues name
      have hsame : members = other := by
        apply ih hrest htail
        intro wanted
        by_cases hwanted : name = wanted
        · subst hwanted
          rw [get?_eq_none.mpr hname, get?_eq_none.mpr (htail ▸ hname)]
        · simpa [get?, hwanted] using hvalues wanted
      rw [hvalue, hsame]

/-- What is put again keeps its place, and new names come last in their own order. -/
theorem names_putAll (h : later.names.Nodup) (members : Members) :
    (members.putAll later).names = members.names ++ later.names.filter (· ∉ members.names) := by
  induction later generalizing members with
  | nil => simp [putAll, names]
  | cons entry later ih =>
    obtain ⟨name, value⟩ := entry
    obtain ⟨hname, hlater⟩ := List.nodup_cons.mp h
    rw [putAll, List.foldl_cons, ← putAll, ih hlater, names_cons]
    by_cases hmem : name ∈ members.names
    · rw [names_put_of_contains value (isSome_get?.mpr hmem), List.filter_cons_of_neg]
      simpa using hmem
    · have hnew : members.contains name = false := by
        rw [← Bool.not_eq_true]
        exact mt isSome_get?.mp hmem
      have hfilter : (names later).filter (· ∉ members.names ++ [name]) =
          (names later).filter (· ∉ members.names) := by
        apply List.filter_congr
        intro other hother
        have hne : other ≠ name := by
          rintro rfl
          exact hname hother
        simp [hne]
      rw [names_put_of_not_contains value hnew, hfilter, List.filter_cons_of_pos,
        List.append_assoc, List.singleton_append]
      simpa using hmem

theorem putAll_self (h : members.names.Nodup) : members.putAll members = members := by
  apply ext_of_names (nodup_putAll h members)
  · rw [names_putAll h, List.filter_eq_nil_iff.mpr, List.append_nil]
    intro name hname
    simpa using hname
  · intro name
    rw [get?_putAll h, Option.or_self]

/-- Members that are put over others one after another can be put over each other first. -/
theorem putAll_putAll (hfirst : first.names.Nodup) (hsecond : second.names.Nodup)
    (hthird : third.names.Nodup) :
    third.putAll (second.putAll first) = (third.putAll second).putAll first := by
  have hlayered := nodup_putAll hsecond first
  apply ext_of_names (nodup_putAll hthird _)
  · rw [names_putAll hlayered, names_putAll hfirst, names_putAll hfirst, names_putAll hsecond,
      List.filter_append, List.filter_filter, List.append_assoc]
    congr 2
    apply List.filter_congr
    intro name _
    by_cases hmem : name ∈ third.names <;> simp [hmem]
  · intro name
    rw [get?_putAll hlayered, get?_putAll hfirst, get?_putAll hfirst, get?_putAll hsecond,
      Option.or_assoc]

end Members

namespace Manifest

/-- Two objects are merged to the table of one of them over the other. -/
theorem mergeDefaults_object {existing defaults : Members} (hdefaults : defaults.names.Nodup) :
    mergeDefaults (.object existing) (.object defaults) =
      .ok (Table.ofMembers (applyDefaults existing defaults)) := by
  have htable : Table.ofJson (.object defaults) = .ok (Table.ofMembers defaults) :=
    congrArg Except.ok (Table.putAll_nil hdefaults)
  rw [mergeDefaults, htable]
  exact congrArg Except.ok (Table.putAll_ofMembers defaults existing)

/-- Merged members have the names of the defaults in their order and then the names that only the
existing members have, in theirs; an existing value wins. Layers can be merged in any grouping, and
what is merged with nothing, with itself or with defaults it was merged with stays as it is. -/
theorem applyDefaults_layered {first second third : Members} (hfirst : first.names.Nodup)
    (hsecond : second.names.Nodup) (hthird : third.names.Nodup) :
    mergeDefaults (.object first) (.object second) =
        .ok (Table.ofMembers (applyDefaults first second)) ∧
      (applyDefaults first second).names =
        second.names ++ first.names.filter (· ∉ second.names) ∧
      (∀ name, (applyDefaults first second).get? name =
        if name ∈ first.names then first.get? name else second.get? name) ∧
      applyDefaults first (applyDefaults second third) =
        applyDefaults (applyDefaults first second) third ∧
      applyDefaults [] first = first ∧ applyDefaults first [] = first ∧
      applyDefaults first first = first ∧
      applyDefaults (applyDefaults first second) second = applyDefaults first second := by
  refine ⟨mergeDefaults_object hsecond, Members.names_putAll hfirst second, ?_,
    (Members.putAll_putAll hfirst hsecond hthird).symm, rfl, Members.ofList_eq_self hfirst,
    Members.putAll_self hfirst, ?_⟩
  · intro name
    rw [applyDefaults, Members.get?_putAll hfirst]
    split
    · next hmem =>
      obtain ⟨value, hvalue⟩ := Option.isSome_iff_exists.mp (Members.isSome_get?.mpr hmem)
      rw [hvalue, Option.some_or]
    · next hmem => rw [Members.get?_eq_none.mpr hmem, Option.none_or]
  · calc applyDefaults (applyDefaults first second) second
        = applyDefaults first (applyDefaults second second) :=
          Members.putAll_putAll hfirst hsecond hsecond
      _ = applyDefaults first second :=
          congrArg (Members.putAll · first) (Members.putAll_self hsecond)

def archiveLayer : Members := [("title", string "X"), ("ttf", .null)]

def studioLayer : Members := [("studio", string "S"), ("title", string "")]

def commonLayer : Members := [("addons", .array []), ("ttf", string "arial"), ("studio", .null)]

/-- Three layers put over each other, two by two; `null` is a value like others. -/
theorem applyDefaults_layered_three :
    archiveLayer.names.Nodup ∧ studioLayer.names.Nodup ∧ commonLayer.names.Nodup ∧
      (applyDefaults archiveLayer studioLayer).names =
        [Text.ofString "studio", Text.ofString "title", Text.ofString "ttf"] ∧
      applyDefaults (applyDefaults archiveLayer studioLayer) commonLayer =
        ([("addons", .array []), ("ttf", .null), ("studio", string "S"),
          ("title", string "X")] : Members) := by
  have harchive : archiveLayer.names.Nodup := by decide
  have hstudio : studioLayer.names.Nodup := by decide
  have hcommon : commonLayer.names.Nodup := by decide
  obtain ⟨-, hnames, -, hgrouping, -⟩ := applyDefaults_layered harchive hstudio hcommon
  refine ⟨harchive, hstudio, hcommon, hnames.trans (by decide), ?_⟩
  rw [← hgrouping]
  rfl

end Manifest
end GameArchive
