import GameArchive.Proofs.Json.Basic
import GameArchive.Proofs.Json.Number
import GameArchive.Proofs.Json.Quoted

/-!
# Values that are written and read back

A value is read back from its text if no name comes twice in an object, no integer has too many
digits, and each number that is no integer is read back from its own text. The first two hold of
every value that is read.
-/

namespace GameArchive
namespace Json

open Reader

/-- An integer has no more digits than an integer may have. -/
def IsShort : Json → Prop
  | int n => (Text.ofNat n.natAbs).length ≤ digitLimit
  | _ => True

/-- A finite number is read back from its text. -/
def ReadsBack : Json → Prop
  | float x => x.isFinite = true → number (Binary64.write Binary64.json x) = .ok (float x, [])
  | _ => True

/-- What is asked of all values inside one that is to be read back. -/
structure IsReadable (j : Json) : Prop where
  names : HasDistinctNames j
  short : IsShort j
  float : ReadsBack j

/-- A layout breaks lines by blanks, and has nothing but blanks behind the colon. -/
structure Layout.IsBlank (layout : Layout) : Prop where
  lineBreak : ∀ depth, ∀ c ∈ layout.lineBreak depth, isSpace c = true
  colon : ∃ blank, layout.colon = CodePoint.ofChar ':' :: blank ∧ ∀ c ∈ blank, isSpace c = true

theorem isBlank_indentedLayout : indentedLayout.IsBlank where
  lineBreak depth c h := by
    rcases List.mem_append.mp h with h | h
    · obtain rfl : c = CodePoint.ofChar '\n' := by simpa [Text.ofString] using h
      decide
    · obtain rfl := List.eq_of_mem_replicate h
      decide
  colon := ⟨[CodePoint.ofChar ' '], rfl, by decide⟩

namespace Reader

theorem skipSpace_of_not_space {c : CodePoint} (h : isSpace c = false) (t : Text) :
    skipSpace (c :: t) = c :: t := by
  rw [skipSpace, List.dropWhile_cons_of_neg (by simp [h])]

theorem skipSpace_blank_append {blank : Text} (hblank : ∀ c ∈ blank, isSpace c = true) (t : Text) :
    skipSpace (blank ++ t) = skipSpace t :=
  List.dropWhile_append_of_pos hblank

theorem delimited_blank_append {blank : Text} (hblank : ∀ c ∈ blank, isSpace c = true)
    {c : CodePoint} (hc : isDelimiter c = true) (t : Text) : Delimited (blank ++ c :: t) := by
  cases blank with
  | nil => exact delimited_cons.mpr hc
  | cons b blank =>
    have hb := hblank b List.mem_cons_self
    exact delimited_cons.mpr (by simp [isDelimiter, hb])

theorem skipSpace_quote (t rest : Text) : skipSpace (quote t ++ rest) = quote t ++ rest := by
  rw [quote_append, skipSpace_of_not_space (by decide)]

theorem isSpace_of_not_delimiter {c : CodePoint} (h : isDelimiter c = false) :
    isSpace c = false := by
  simp only [isDelimiter, Bool.or_eq_false_iff] at h
  exact h.2

theorem isDelimiter_of_digit {c : CodePoint} (h : c.isDigit = true) : isDelimiter c = false := by
  rw [← Bool.not_eq_true]
  intro hc
  rw [(isDelimiter_spec hc).1] at h
  contradiction

end Reader

/-- A text that starts like a value: with a character of ASCII that is no delimiter. -/
def StartsValue (t : Text) : Prop :=
  ∃ c rest, t = c :: rest ∧ isDelimiter c = false ∧ c.val < 0x80

theorem startsValue_of_number {t rest : Text} {v : Json} (h : number t = .ok (v, rest)) :
    StartsValue t := by
  obtain ⟨d, more, hd, hcons⟩ := exists_digit_of_number h
  rcases hcons with rfl | rfl
  · refine ⟨d, more, rfl, isDelimiter_of_digit hd, ?_⟩
    have hbounds : 0x30 ≤ d.val ∧ d.val ≤ 0x39 := by
      simpa [CodePoint.isDigit, CodePoint.between] using hd
    omega
  · exact ⟨_, _, rfl, by decide, by decide⟩

namespace StartsValue

variable {t : Text}

theorem append (h : StartsValue t) (more : Text) : StartsValue (t ++ more) := by
  obtain ⟨c, rest, rfl, hc⟩ := h
  exact ⟨c, rest ++ more, rfl, hc⟩

theorem skipSpace_eq (h : StartsValue t) : skipSpace t = t := by
  obtain ⟨c, rest, rfl, hc, -⟩ := h
  exact skipSpace_of_not_space (isSpace_of_not_delimiter hc) rest

theorem head?_ne (h : StartsValue t) {c : CodePoint} (hc : isDelimiter c = true) :
    t.head? ≠ some c := by
  obtain ⟨d, rest, rfl, hd, -⟩ := h
  rintro ⟨⟩
  rw [hc] at hd
  contradiction

end StartsValue

section Write

variable {layout : Layout}

theorem write_array_cons (layout : Layout) (depth : Nat) (item : Json) (items : List Json)
    (more : Text) :
    write layout depth (array (item :: items)) ++ more =
      CodePoint.ofChar '[' :: (layout.lineBreak (depth + 1) ++ (write layout (depth + 1) item ++
        (writeItems layout (depth + 1) items ++
          (layout.lineBreak depth ++ CodePoint.ofChar ']' :: more)))) := by
  simp [write, Text.ofString]

theorem write_object_cons (layout : Layout) (depth : Nat) (name : Text) (v : Json)
    (members : Members) (more : Text) :
    write layout depth (object ((name, v) :: members)) ++ more =
      CodePoint.ofChar '\x7b' :: (layout.lineBreak (depth + 1) ++ (quote name ++ (layout.colon ++
        (write layout (depth + 1) v ++ (writeMembers layout (depth + 1) members ++
          (layout.lineBreak depth ++ CodePoint.ofChar '\x7d' :: more)))))) := by
  simp [write, Text.ofString]

/-- Every value is written with a start of its own. -/
theorem startsValue_write (layout : Layout) (depth : Nat) {j : Json} (h : IsReadable j) :
    StartsValue (write layout depth j) := by
  cases j with
  | null => exact ⟨_, _, rfl, by decide, by decide⟩
  | bool b => cases b <;> exact ⟨_, _, rfl, by decide, by decide⟩
  | int n => exact startsValue_of_number (number_ofInt h.short)
  | float x =>
    cases x with
    | nan => exact ⟨_, _, rfl, by decide, by decide⟩
    | infinite negative => cases negative <;> exact ⟨_, _, rfl, by decide, by decide⟩
    | finite negative m e => exact startsValue_of_number (h.float rfl)
  | string t =>
    exact ⟨CodePoint.ofChar '"', _, by simpa [write] using quote_append t [], by decide, by decide⟩
  | array items =>
    cases items with
    | nil => exact ⟨_, _, rfl, by decide, by decide⟩
    | cons item items =>
      exact ⟨CodePoint.ofChar '[', _,
        by simpa using write_array_cons layout depth item items [], by decide, by decide⟩
  | object members =>
    cases members with
    | nil => exact ⟨_, _, rfl, by decide, by decide⟩
    | cons entry members =>
      exact ⟨CodePoint.ofChar '\x7b', _,
        by simpa using write_object_cons layout depth entry.1 entry.2 members [], by decide,
        by decide⟩

theorem length_le_length_writeItems (layout : Layout) (depth : Nat) (items : List Json) :
    items.length ≤ (writeItems layout depth items).length := by
  induction items with
  | nil => exact Nat.le_refl _
  | cons item items ih =>
    have hcomma : 0 < (Text.ofString ",").length := by decide
    simp only [writeItems, List.length_append, List.length_cons]
    omega

theorem length_le_length_writeMembers (layout : Layout) (depth : Nat) (members : Members) :
    members.length ≤ (writeMembers layout depth members).length := by
  induction members with
  | nil => exact Nat.le_refl _
  | cons entry members ih =>
    have hcomma : 0 < (Text.ofString ",").length := by decide
    simp only [writeMembers, List.length_append, List.length_cons]
    omega

theorem length_write_le_of_mem_items (layout : Layout) (depth : Nat) {v : Json} {items : List Json}
    (h : v ∈ items) :
    (write layout depth v).length ≤ (writeItems layout depth items).length := by
  induction items with
  | nil => exact absurd h List.not_mem_nil
  | cons item items ih =>
    simp only [writeItems, List.length_append]
    rcases List.mem_cons.mp h with rfl | h
    · omega
    · have := ih h
      omega

theorem length_write_le_of_mem_members (layout : Layout) (depth : Nat) {entry : Text × Json}
    {members : Members} (h : entry ∈ members) :
    (write layout depth entry.2).length ≤ (writeMembers layout depth members).length := by
  induction members with
  | nil => exact absurd h List.not_mem_nil
  | cons first members ih =>
    simp only [writeMembers, List.length_append]
    rcases List.mem_cons.mp h with rfl | h
    · omega
    · have := ih h
      omega

/-- The text of a value is read as the value, if something follows that ends every value. -/
def IsReadAs (read : Text → Reading Json) (t : Text) (v : Json) : Prop :=
  ∀ more, Delimited more → read (t ++ more) = .ok (v, more)

variable {read : Text → Reading Json} {depth : Nat} {blank : Text}

theorem items_write (hlayout : layout.IsBlank) (hblank : ∀ c ∈ blank, isSpace c = true)
    {item : Json} {items : List Json} {fuel : Nat} (hfuel : items.length < fuel)
    (hread : ∀ v ∈ item :: items, IsReadAs read (write layout depth v) v)
    (hstart : ∀ v ∈ items, StartsValue (write layout depth v)) (more : Text) :
    Reader.items read fuel (write layout depth item ++
        (writeItems layout depth items ++ (blank ++ CodePoint.ofChar ']' :: more))) =
      .ok (item :: items, more) := by
  induction items generalizing item fuel with
  | nil =>
    obtain ⟨fuel, rfl⟩ := Nat.exists_eq_succ_of_ne_zero (Nat.ne_of_gt hfuel)
    have hitem := hread item List.mem_cons_self _
      (delimited_blank_append hblank (c := CodePoint.ofChar ']') (by decide) more)
    have hskip : skipSpace (blank ++ CodePoint.ofChar ']' :: more) =
        CodePoint.ofChar ']' :: more := by
      rw [skipSpace_blank_append hblank, skipSpace_of_not_space (by decide)]
    rw [writeItems, List.nil_append, Reader.items, hitem]
    simp only [hskip]
    rfl
  | cons next items ih =>
    rw [List.length_cons] at hfuel
    obtain ⟨fuel, rfl⟩ := Nat.exists_eq_succ_of_ne_zero (Nat.ne_of_gt (Nat.zero_lt_of_lt hfuel))
    have hnext := ih (Nat.lt_of_succ_lt_succ hfuel)
      (fun v hv => hread v (List.mem_cons_of_mem _ hv))
      (fun v hv => hstart v (List.mem_cons_of_mem _ hv))
    have hcomma : writeItems layout depth (next :: items) ++
        (blank ++ CodePoint.ofChar ']' :: more) =
          CodePoint.ofChar ',' :: (layout.lineBreak depth ++ (write layout depth next ++
            (writeItems layout depth items ++ (blank ++ CodePoint.ofChar ']' :: more)))) := by
      simp [writeItems, Text.ofString]
    rw [hcomma, Reader.items, hread item List.mem_cons_self _ (delimited_cons.mpr (by decide))]
    simp only [skipSpace_of_not_space (show isSpace (CodePoint.ofChar ',') = false by decide),
      skipSpace_blank_append (hlayout.lineBreak depth),
      ((hstart next List.mem_cons_self).append _).skipSpace_eq, hnext]
    rw [if_neg (by decide)]
    rfl

/-- A name in quotes, a colon and a value are read, and what follows says whether more comes. -/
theorem members_entry (hlayout : layout.IsBlank) (name : Text) {v : Json} (fuel : Nat) {rest : Text}
    (hread : IsReadAs read (write layout depth v) v) (hstart : StartsValue (write layout depth v))
    (hrest : Delimited rest) :
    Reader.members read (fuel + 1)
        (quote name ++ (layout.colon ++ (write layout depth v ++ rest))) =
      match skipSpace rest with
      | c :: rest =>
        if c = '\x7d' then .ok ([(name, v)], rest)
        else if c = ',' then
          (Reader.members read fuel (skipSpace rest)).map fun (more, rest) =>
            ((name, v) :: more, rest)
        else .error ⟨.comma, c :: rest⟩
      | [] => .error ⟨.comma, []⟩ := by
  obtain ⟨colonBlank, hcolon, hcolonBlank⟩ := hlayout.colon
  have hquote : (quote name ++ (layout.colon ++ (write layout depth v ++ rest))).head? =
      some (CodePoint.ofChar '"') := by
    rw [quote_append]
    rfl
  rw [Reader.members, if_neg (not_not.mpr hquote), string_quote, hcolon, List.cons_append]
  simp only [skipSpace_of_not_space (show isSpace (CodePoint.ofChar ':') = false by decide),
    skipSpace_blank_append hcolonBlank, (hstart.append rest).skipSpace_eq, hread rest hrest]
  exact if_neg (not_not.mpr rfl)

theorem members_write (hlayout : layout.IsBlank) (hblank : ∀ c ∈ blank, isSpace c = true)
    {name : Text} {v : Json} {members : Members} {fuel : Nat} (hfuel : members.length < fuel)
    (hread : ∀ entry ∈ (name, v) :: members, IsReadAs read (write layout depth entry.2) entry.2)
    (hstart : ∀ entry ∈ (name, v) :: members, StartsValue (write layout depth entry.2))
    (more : Text) :
    Reader.members read fuel (quote name ++ (layout.colon ++ (write layout depth v ++
        (writeMembers layout depth members ++ (blank ++ CodePoint.ofChar '\x7d' :: more))))) =
      .ok ((name, v) :: members, more) := by
  have hself := hread _ List.mem_cons_self
  have hselfStart := hstart _ List.mem_cons_self
  induction members generalizing name v fuel with
  | nil =>
    obtain ⟨fuel, rfl⟩ := Nat.exists_eq_succ_of_ne_zero (Nat.ne_of_gt hfuel)
    rw [writeMembers, List.nil_append, members_entry hlayout name fuel hself hselfStart
      (delimited_blank_append hblank (by decide) more), skipSpace_blank_append hblank,
      skipSpace_of_not_space (by decide)]
    rfl
  | cons next members ih =>
    rw [List.length_cons] at hfuel
    obtain ⟨fuel, rfl⟩ := Nat.exists_eq_succ_of_ne_zero (Nat.ne_of_gt (Nat.zero_lt_of_lt hfuel))
    have hnext := ih (Nat.lt_of_succ_lt_succ hfuel)
      (fun entry (hentry : entry ∈ (next.1, next.2) :: members) =>
        hread entry (List.mem_cons_of_mem _ hentry))
      (fun entry hentry => hstart entry (List.mem_cons_of_mem _ hentry))
      (hread next (by simp)) (hstart next (by simp))
    have hcomma : writeMembers layout depth (next :: members) ++
        (blank ++ CodePoint.ofChar '\x7d' :: more) =
          CodePoint.ofChar ',' :: (layout.lineBreak depth ++ (quote next.1 ++ (layout.colon ++
            (write layout depth next.2 ++ (writeMembers layout depth members ++
              (blank ++ CodePoint.ofChar '\x7d' :: more)))))) := by
      simp [writeMembers, Text.ofString]
    rw [hcomma, members_entry hlayout name fuel hself hselfStart (delimited_cons.mpr (by decide)),
      skipSpace_of_not_space (by decide)]
    dsimp only
    rw [if_neg (by decide), if_pos rfl, skipSpace_blank_append (hlayout.lineBreak depth),
      skipSpace_quote, hnext]
    rfl

theorem length_write_lt_of_mem_array (layout : Layout) (depth : Nat) {v : Json} {items : List Json}
    (h : v ∈ items) :
    (write layout (depth + 1) v).length < (write layout depth (array items)).length := by
  cases items with
  | nil => exact absurd h List.not_mem_nil
  | cons item items =>
    have hlength := congrArg List.length (write_array_cons layout depth item items [])
    simp only [List.append_nil, List.length_cons, List.length_append] at hlength
    rcases List.mem_cons.mp h with rfl | h
    · omega
    · have hitems := length_write_le_of_mem_items layout (depth + 1) h
      omega

theorem length_write_lt_of_mem_object (layout : Layout) (depth : Nat) {entry : Text × Json}
    {members : Members} (h : entry ∈ members) :
    (write layout (depth + 1) entry.2).length < (write layout depth (object members)).length := by
  cases members with
  | nil => exact absurd h List.not_mem_nil
  | cons first members =>
    obtain ⟨name, v⟩ := first
    have hlength := congrArg List.length (write_object_cons layout depth name v members [])
    simp only [List.append_nil, List.length_cons, List.length_append] at hlength
    rcases List.mem_cons.mp h with rfl | h
    · dsimp only
      omega
    · have hmembers := length_write_le_of_mem_members layout (depth + 1) h
      omega

theorem value_array (hlayout : layout.IsBlank) {items : List Json} {fuel : Nat}
    (hread : ∀ v ∈ items, IsReadAs (value fuel) (write layout (depth + 1) v) v)
    (hstart : ∀ v ∈ items, StartsValue (write layout (depth + 1) v)) :
    IsReadAs (value (fuel + 1)) (write layout depth (array items)) (array items) := by
  intro more _
  cases items with
  | nil => rfl
  | cons item items =>
    have hfirst := hstart item List.mem_cons_self
    have hfuel : items.length < (write layout (depth + 1) item ++
        (writeItems layout (depth + 1) items ++
          (layout.lineBreak depth ++ CodePoint.ofChar ']' :: more))).length.succ := by
      have hlength := length_le_length_writeItems layout (depth + 1) items
      simp only [List.length_append]
      omega
    rw [write_array_cons, value, if_neg (by decide), if_pos rfl]
    simp only [skipSpace_blank_append (hlayout.lineBreak (depth + 1)),
      (hfirst.append _).skipSpace_eq]
    rw [if_neg ((hfirst.append _).head?_ne (by decide)),
      items_write hlayout (hlayout.lineBreak depth) hfuel hread
        (fun v hv => hstart v (List.mem_cons_of_mem _ hv))]
    rfl

theorem value_object (hlayout : layout.IsBlank) {members : Members} {fuel : Nat}
    (hnames : (Members.names members).Nodup)
    (hread : ∀ entry ∈ members, IsReadAs (value fuel) (write layout (depth + 1) entry.2) entry.2)
    (hstart : ∀ entry ∈ members, StartsValue (write layout (depth + 1) entry.2)) :
    IsReadAs (value (fuel + 1)) (write layout depth (object members)) (object members) := by
  intro more _
  cases members with
  | nil => rfl
  | cons entry members =>
    obtain ⟨name, v⟩ := entry
    have hfuel : members.length < (quote name ++ (layout.colon ++
        (write layout (depth + 1) v ++ (writeMembers layout (depth + 1) members ++
          (layout.lineBreak depth ++ CodePoint.ofChar '\x7d' :: more))))).length.succ := by
      have hlength := length_le_length_writeMembers layout (depth + 1) members
      simp only [List.length_append]
      omega
    have hquote : ∀ rest, (quote name ++ rest).head? ≠ some (CodePoint.ofChar '\x7d') := by
      intro rest
      rw [quote_append]
      exact fun h => absurd (Option.some.inj h) (by decide)
    rw [write_object_cons, value, if_neg (by decide), if_neg (by decide), if_pos rfl]
    simp only [skipSpace_blank_append (hlayout.lineBreak (depth + 1)), skipSpace_quote]
    rw [if_neg (hquote _),
      members_write hlayout (hlayout.lineBreak depth) hfuel hread hstart more]
    simp only [Except.map, Members.ofList_eq_self hnames]

/-- A value is read from its text, with no more fuel than the text has characters. -/
theorem value_write (hlayout : layout.IsBlank) {j : Json} (h : Everywhere IsReadable j)
    {fuel : Nat} (hfuel : (write layout depth j).length ≤ fuel) :
    IsReadAs (value (fuel + 1)) (write layout depth j) j := by
  induction j using Json.induction generalizing fuel depth with
  | null => exact fun more _ => rfl
  | bool b => cases b <;> exact fun more _ => rfl
  | int n => exact fun more hmore => value_of_number (number_ofInt h.self.short) hmore fuel
  | float x =>
    cases x with
    | nan => exact fun more _ => rfl
    | infinite negative => cases negative <;> exact fun more _ => rfl
    | finite negative m e => exact fun more hmore => value_of_number (h.self.float rfl) hmore fuel
  | string t =>
    intro more _
    have hread := string_quote t more
    rw [quote_append] at hread
    rw [write, quote_append, value, if_pos rfl, hread]
    rfl
  | array items ih =>
    have hitems := (everywhere_array.mp h).2
    refine value_array hlayout (fun v hv => ?_) fun v hv => startsValue_write _ _ (hitems v hv).self
    have hshort := length_write_lt_of_mem_array layout depth hv
    obtain ⟨fuel, rfl⟩ := Nat.exists_eq_succ_of_ne_zero (n := fuel) (by omega)
    exact ih v hv (hitems v hv) (by omega)
  | object members ih =>
    have hmembers := (everywhere_object.mp h).2
    refine value_object hlayout h.self.names (fun entry hentry => ?_)
      fun entry hentry => startsValue_write _ _ (hmembers entry hentry).self
    have hshort := length_write_lt_of_mem_object layout depth hentry
    obtain ⟨fuel, rfl⟩ := Nat.exists_eq_succ_of_ne_zero (n := fuel) (by omega)
    exact ih entry hentry (hmembers entry hentry) (by omega)

/-- The text of a value in a layout with blank line breaks is the text of nothing else. -/
theorem parse_write (hlayout : layout.IsBlank) {j : Json} (h : Everywhere IsReadable j) :
    parse (write layout depth j) = .ok j := by
  have hstart := startsValue_write layout depth h.self
  have hread := value_write hlayout h (Nat.le_refl (write layout depth j).length) [] delimited_nil
  have hmark : ¬(write layout depth j).head?.any (·.val = 0xfeff) = true := by
    obtain ⟨c, rest, hcons, -, hc⟩ := hstart
    rw [hcons, List.head?_cons, Option.any_some, decide_eq_true_eq]
    omega
  rw [List.append_nil] at hread
  rw [parse, Json.read, if_neg hmark]
  simp only [hstart.skipSpace_eq, Nat.succ_eq_add_one, hread]
  rfl

/-- A value is what the text that files hold of it is read as. -/
theorem parse_indented {j : Json} (h : Everywhere IsReadable j) : parse j.indented = .ok j :=
  parse_write isBlank_indentedLayout h

end Write

/-! ## Values that are read -/

namespace Reader

variable {read : Text → Reading Json}

/-- The value is read from some text. -/
def IsReadBy (read : Text → Reading Json) (v : Json) : Prop := ∃ t rest, read t = .ok (v, rest)

theorem isReadBy_of_items {fuel : Nat} {t rest : Text} {items : List Json}
    (h : Reader.items read fuel t = .ok (items, rest)) : ∀ v ∈ items, IsReadBy read v := by
  induction fuel generalizing t rest items with
  | zero => contradiction
  | succ fuel ih =>
    rw [Reader.items] at h
    split at h
    · contradiction
    next item more hitem =>
    split at h
    · split at h
      · cases h
        exact fun v hv => List.mem_singleton.mp hv ▸ ⟨t, more, hitem⟩
      split at h
      · next next _ _ _ =>
        obtain ⟨result, hrest, heq⟩ := map_eq_ok.mp h
        cases heq
        rintro v (_ | ⟨_, hv⟩)
        · exact ⟨t, more, hitem⟩
        · exact ih hrest v hv
      · contradiction
    · contradiction

theorem isReadBy_of_members {fuel : Nat} {t rest : Text} {members : Members}
    (h : Reader.members read fuel t = .ok (members, rest)) :
    ∀ entry ∈ members, IsReadBy read entry.2 := by
  induction fuel generalizing t rest members with
  | zero => contradiction
  | succ fuel ih =>
    rw [Reader.members] at h
    split at h
    · contradiction
    split at h
    · contradiction
    split at h
    · contradiction
    split at h
    · contradiction
    split at h
    · contradiction
    next v more hv =>
    split at h
    · split at h
      · cases h
        exact fun entry hentry => List.mem_singleton.mp hentry ▸ ⟨_, more, hv⟩
      split at h
      · next next _ _ _ =>
        obtain ⟨result, hrest, heq⟩ := map_eq_ok.mp h
        cases heq
        rintro entry (_ | ⟨_, hentry⟩)
        · exact ⟨_, more, hv⟩
        · exact ih hrest entry hentry
      · contradiction
    · contradiction

theorem isNumber_of_numberFrom {start whole t rest : Text} {negative : Bool} {v : Json}
    (h : numberFrom start negative whole t = .ok (v, rest)) :
    (∃ n, v = .int n) ∨ ∃ x, v = .float x := by
  rw [numberFrom_eq] at h
  split at h
  · split at h
    · contradiction
    · cases h
      exact .inl ⟨_, rfl⟩
  · cases h
    exact .inr ⟨_, rfl⟩

theorem isNumber_of_number {t rest : Text} {v : Json} (h : number t = .ok (v, rest)) :
    (∃ n, v = .int n) ∨ ∃ x, v = .float x := by
  have hunsigned : ∀ {start t : Text} {negative : Bool},
      unsigned start negative t = .ok (v, rest) → (∃ n, v = .int n) ∨ ∃ x, v = .float x := by
    intro start t negative h
    cases t with
    | nil => contradiction
    | cons d t =>
      rw [unsigned] at h
      split at h
      · exact isNumber_of_numberFrom h
      split at h
      · exact isNumber_of_numberFrom h
      · contradiction
  cases t with
  | nil => contradiction
  | cons c t =>
    rw [number] at h
    split at h <;> exact hunsigned h

/-- A value without items and members, whose number of digits is not too great. -/
theorem everywhere_of_short {v : Json} (harray : ∀ items, v ≠ array items)
    (hobject : ∀ members, v ≠ object members) (hshort : IsShort v) :
    Everywhere (fun v => HasDistinctNames v ∧ IsShort v) v := by
  refine (everywhere_of_scalar harray hobject).mpr ⟨?_, hshort⟩
  cases v with
  | object members => exact absurd rfl (hobject members)
  | _ => trivial

theorem everywhere_of_named {t rest : Text} {v : Json} (h : named? t = some (v, rest)) :
    Everywhere (fun v => HasDistinctNames v ∧ IsShort v) v := by
  obtain ⟨⟨name, w⟩, hentry, hfound⟩ := List.exists_of_findSome?_eq_some h
  obtain ⟨after, -, hv⟩ := Option.map_eq_some_iff.mp hfound
  obtain rfl : w = v := congrArg Prod.fst hv
  simp only [named, List.mem_cons, Prod.mk.injEq, List.not_mem_nil, or_false] at hentry
  obtain ⟨-, rfl⟩ | ⟨-, rfl⟩ | ⟨-, rfl⟩ | ⟨-, rfl⟩ | ⟨-, rfl⟩ | ⟨-, rfl⟩ := hentry <;>
    exact everywhere_of_short (by simp) (by simp) trivial

theorem everywhere_of_value {fuel : Nat} {t rest : Text} {v : Json}
    (h : value fuel t = .ok (v, rest)) :
    Everywhere (fun v => HasDistinctNames v ∧ IsShort v) v := by
  induction fuel generalizing t rest v with
  | zero => contradiction
  | succ fuel ih =>
    cases t with
    | nil => contradiction
    | cons c t =>
    rw [value] at h
    split at h
    · obtain ⟨result, -, heq⟩ := map_eq_ok.mp h
      cases heq
      exact everywhere_of_short (by simp) (by simp) trivial
    split at h
    · dsimp only at h
      split at h
      · cases h
        exact everywhere_array.mpr ⟨⟨trivial, trivial⟩, by simp⟩
      · obtain ⟨result, hitems, heq⟩ := map_eq_ok.mp h
        cases heq
        refine everywhere_array.mpr ⟨⟨trivial, trivial⟩, fun item hitem => ?_⟩
        obtain ⟨t', rest', hread⟩ := isReadBy_of_items hitems item hitem
        exact ih hread
    split at h
    · dsimp only at h
      split at h
      · cases h
        exact everywhere_object.mpr ⟨⟨List.nodup_nil, trivial⟩, by simp⟩
      · obtain ⟨result, hmembers, heq⟩ := map_eq_ok.mp h
        cases heq
        refine everywhere_object.mpr ⟨⟨Members.nodup_ofList _, trivial⟩, fun entry hentry => ?_⟩
        have hmem := (Members.mem_putAll hentry).resolve_left List.not_mem_nil
        obtain ⟨t', rest', hread⟩ := isReadBy_of_members hmembers entry hmem
        exact ih hread
    split at h
    · next found hnamed =>
      cases h
      exact everywhere_of_named hnamed
    · obtain ⟨n, rfl⟩ | ⟨x, rfl⟩ := isNumber_of_number h
      · exact everywhere_of_short (by simp) (by simp) (length_of_number h)
      · exact everywhere_of_short (by simp) (by simp) trivial

end Reader

/-- In a value that is read, no name comes twice in an object and no integer has too many digits. -/
theorem everywhere_of_parse {t : Text} {j : Json} (h : parse t = .ok j) :
    Everywhere (fun v => HasDistinctNames v ∧ IsShort v) j := by
  have hread : Json.read t = .ok j := by
    rw [parse] at h
    cases hread : Json.read t with
    | error stop =>
      rw [hread] at h
      contradiction
    | ok v =>
      rw [hread] at h
      cases h
      rfl
  rw [Json.read] at hread
  split at hread
  · contradiction
  dsimp only at hread
  split at hread
  · contradiction
  next v rest hvalue =>
  split at hread
  · cases hread
    exact everywhere_of_value hvalue
  · contradiction

theorem hasLongIntegerItems_eq_false {items : List Json} :
    hasLongIntegerItems items = false ↔ ∀ v ∈ items, hasLongInteger v = false := by
  induction items with
  | nil => simp [hasLongIntegerItems]
  | cons item items ih => simp [hasLongIntegerItems, ih]

theorem hasLongIntegerMembers_eq_false {members : Members} :
    hasLongIntegerMembers members = false ↔ ∀ entry ∈ members, hasLongInteger entry.2 = false := by
  induction members with
  | nil => simp [hasLongIntegerMembers]
  | cons entry members ih =>
    obtain ⟨name, v⟩ := entry
    simp [hasLongIntegerMembers, ih]

theorem hasLongInteger_eq_false {j : Json} : hasLongInteger j = false ↔ Everywhere IsShort j := by
  induction j using Json.induction with
  | null | bool | float | string =>
    rw [everywhere_of_scalar (by simp) (by simp)]
    simp [hasLongInteger, IsShort]
  | int n =>
    rw [everywhere_of_scalar (by simp) (by simp)]
    simp [hasLongInteger, isLongInteger, IsShort]
  | array items ih =>
    rw [hasLongInteger, hasLongIntegerItems_eq_false, everywhere_array]
    simp only [IsShort, true_and]
    exact forall₂_congr ih
  | object members ih =>
    rw [hasLongInteger, hasLongIntegerMembers_eq_false, everywhere_object]
    simp only [IsShort, true_and]
    exact forall₂_congr ih

end Json
end GameArchive
