import GameArchive.Proofs.Text.Utf8

/-!
# Names that are bytes

A name that is read back from its bytes has the same bytes, so texts are spelled alike exactly if
their bytes are the same. A text without surrogates is spelled as it is, and no other text has the
bytes of a plain one, as those of two dots.
-/

namespace GameArchive
namespace Utf8

/-! ## Bytes of names -/

@[simp] theorem encodeName_append (s t : Text) :
    encodeName (s ++ t) = encodeName s ++ encodeName t := List.flatMap_append

theorem encodeName_cons (c : CodePoint) (t : Text) :
    encodeName (c :: t) = encodeNameChar c ++ encodeName t := List.flatMap_cons

theorem encodeNameChar_eq {c : CodePoint} (h : c.isSurrogate = false) :
    encodeNameChar c = encodeChar c := by
  have hnot : standsForByte c = false := by
    simp only [CodePoint.isSurrogate, Bool.and_eq_false_iff, decide_eq_false_iff_not] at h
    simp only [standsForByte, Bool.and_eq_false_iff, decide_eq_false_iff_not]
    omega
  rw [encodeNameChar, hnot]
  rfl

theorem standsForByte_ofByte {b : UInt8} (h : 0x80 ≤ b.toNat) :
    standsForByte (CodePoint.ofNat (0xdc00 + b.toNat)) = true := by
  have hlt := b.toNat_lt
  rw [standsForByte, CodePoint.val_ofNat (by omega), Bool.and_eq_true, decide_eq_true_eq,
    decide_eq_true_eq]
  omega

theorem encodeNameChar_ofByte {b : UInt8} (h : 0x80 ≤ b.toNat) :
    encodeNameChar (CodePoint.ofNat (0xdc00 + b.toNat)) = [b] := by
  have hlt := b.toNat_lt
  rw [encodeNameChar, if_pos (standsForByte_ofByte h), CodePoint.val_ofNat (by omega),
    Nat.add_sub_cancel_left, UInt8.ofNat_toNat]

/-- The bytes of a plain character are its own, and those of another are all greater. -/
theorem encodeNameChar_cases (c : CodePoint) :
    c.val < 0x80 ∧ encodeNameChar c = [UInt8.ofNat c.val] ∨
      encodeNameChar c ≠ [] ∧ ∀ b ∈ encodeNameChar c, 0x80 ≤ b.toNat := by
  have hc := c.val_lt
  unfold encodeNameChar
  split
  · next hstands =>
    simp only [standsForByte, Bool.and_eq_true, decide_eq_true_eq] at hstands
    refine .inr ⟨List.cons_ne_nil _ _, ?_⟩
    simp only [List.forall_mem_cons, List.not_mem_nil, false_implies, implies_true, and_true]
    rw [toNat_ofNat (by omega)]
    omega
  unfold encodeChar
  dsimp only
  split
  · next h => exact .inl ⟨h, rfl⟩
  split
  · refine .inr ⟨List.cons_ne_nil _ _, ?_⟩
    simp only [List.forall_mem_cons, List.not_mem_nil, false_implies, implies_true, and_true]
    rw [toNat_ofNat (by omega), toNat_ofNat (by omega)]
    omega
  split
  · refine .inr ⟨List.cons_ne_nil _ _, ?_⟩
    simp only [List.forall_mem_cons, List.not_mem_nil, false_implies, implies_true, and_true]
    rw [toNat_ofNat (by omega), toNat_ofNat (by omega), toNat_ofNat (by omega)]
    omega
  · refine .inr ⟨List.cons_ne_nil _ _, ?_⟩
    simp only [List.forall_mem_cons, List.not_mem_nil, false_implies, implies_true, and_true]
    rw [toNat_ofNat (by omega), toNat_ofNat (by omega), toNat_ofNat (by omega),
      toNat_ofNat (by omega)]
    omega

theorem encodeNameChar_ne_nil (c : CodePoint) : encodeNameChar c ≠ [] := by
  obtain ⟨-, hbytes⟩ | ⟨hne, -⟩ := encodeNameChar_cases c
  · simp [hbytes]
  · exact hne

/-- Only the character with number zero has the byte zero in it. -/
theorem zero_mem_encodeNameChar {c : CodePoint} : 0 ∈ encodeNameChar c ↔ c.val = 0 := by
  obtain ⟨hlt, hbytes⟩ | ⟨-, hbytes⟩ := encodeNameChar_cases c
  · rw [hbytes, List.mem_singleton, ← UInt8.toNat_inj, toNat_ofNat (by omega)]
    exact eq_comm
  · constructor
    · intro hzero
      exact absurd (hbytes 0 hzero) (by decide)
    · intro hzero
      rw [show encodeNameChar c = [0] by simp [encodeNameChar, standsForByte, encodeChar, hzero]]
      exact List.mem_singleton_self 0

theorem zero_mem_encodeName {t : Text} : 0 ∈ encodeName t ↔ ∃ c ∈ t, c.val = 0 := by
  rw [encodeName, List.mem_flatMap]
  exact exists_congr fun c => and_congr_right fun _ => zero_mem_encodeNameChar

theorem length_le_encodeName (t : Text) : t.length ≤ (encodeName t).length := by
  induction t with
  | nil => exact Nat.zero_le _
  | cons c t ih =>
    have hpos : 0 < (encodeNameChar c).length :=
      List.length_pos_iff.mpr (encodeNameChar_ne_nil c)
    rw [encodeName_cons, List.length_append, List.length_cons]
    omega

/-! ## Plain texts -/

/-- All characters of the text are below the first one that takes more than a byte. -/
def IsPlain (t : Text) : Prop := ∀ c ∈ t, c.val < 0x80

instance (t : Text) : Decidable (IsPlain t) := inferInstanceAs (Decidable (∀ c ∈ t, c.val < 0x80))

theorem IsPlain.isEncodable {t : Text} (h : IsPlain t) : IsEncodable t := by
  intro c hc
  have hlt := h c hc
  simp only [CodePoint.isSurrogate, Bool.and_eq_false_iff, decide_eq_false_iff_not]
  omega

theorem ofNat_val_inj {c d : CodePoint} (hc : c.val < 0x80) (hd : d.val < 0x80)
    (h : UInt8.ofNat c.val = UInt8.ofNat d.val) : c = d := by
  have hval := congrArg UInt8.toNat h
  rw [toNat_ofNat (by omega), toNat_ofNat (by omega)] at hval
  cases c
  cases d
  simpa using hval

/-- No other text has the bytes of a plain one. -/
theorem encodeName_eq_plain {s t : Text} (ht : IsPlain t) :
    encodeName s = encodeName t ↔ s = t := by
  refine ⟨fun h => ?_, fun h => h ▸ rfl⟩
  induction t generalizing s with
  | nil =>
    cases s with
    | nil => rfl
    | cons c s =>
      rw [encodeName_cons] at h
      exact absurd (List.append_eq_nil_iff.mp h).1 (encodeNameChar_ne_nil c)
  | cons d t ih =>
    have hd := ht d List.mem_cons_self
    have hrest : IsPlain t := fun c hc => ht c (List.mem_cons_of_mem d hc)
    have hown : encodeNameChar d = [UInt8.ofNat d.val] := by
      rw [encodeNameChar_eq (ht.isEncodable d List.mem_cons_self), encodeChar, if_pos hd]
    cases s with
    | nil => simp [encodeName, hown] at h
    | cons c s =>
      rw [encodeName_cons, encodeName_cons, hown] at h
      obtain ⟨hc, hbytes⟩ | ⟨hne, hbytes⟩ := encodeNameChar_cases c
      · rw [hbytes, List.cons_append, List.cons_append, List.cons.injEq] at h
        rw [ofNat_val_inj hc hd h.1, ih hrest h.2]
      · obtain ⟨b, tail, hfirst⟩ := List.exists_cons_of_ne_nil hne
        have hb := hbytes b (hfirst ▸ List.mem_cons_self)
        rw [hfirst, List.cons_append, List.cons_append, List.cons.injEq] at h
        rw [h.1, toNat_ofNat (by omega)] at hb
        omega

/-! ## Names from bytes -/

theorem ge_of_next_eq_error {b : UInt8} {rest : Bytes} {fault : Reason × Nat}
    (h : next b rest = .error fault) : 0x80 ≤ b.toNat := by
  by_cases hlt : b.toNat < 0x80
  · unfold next at h
    dsimp only at h
    rw [if_pos hlt] at h
    cases h
  · omega

theorem encodeName_decodeNameFrom (skip : Nat) (bytes : Bytes) :
    encodeName (decodeNameFrom skip bytes) = bytes.drop skip := by
  induction bytes generalizing skip with
  | nil => simp [decodeNameFrom, encodeName]
  | cons b rest ih =>
    cases skip with
    | succ skip => exact ih skip
    | zero =>
      rw [decodeNameFrom, List.drop_zero]
      split
      · next c more hnext =>
        obtain ⟨hsurrogate, hbytes⟩ := next_spec hnext
        rw [encodeName_cons, encodeNameChar_eq hsurrogate, ih, hbytes]
      · next hnext =>
        rw [encodeName_cons, encodeNameChar_ofByte (ge_of_next_eq_error hnext), ih]
        rfl

/-- The name of bytes has these bytes. -/
theorem encodeName_decodeName (bytes : Bytes) : encodeName (decodeName bytes) = bytes :=
  encodeName_decodeNameFrom 0 bytes

theorem decodeName_injective : Function.Injective decodeName :=
  Function.LeftInverse.injective encodeName_decodeName

@[simp] theorem encodeName_entryName (t : Text) : encodeName (entryName t) = encodeName t :=
  encodeName_decodeName (encodeName t)

/-- Texts are spelled alike exactly if they have the same bytes. -/
theorem entryName_eq_iff {s t : Text} :
    entryName s = entryName t ↔ encodeName s = encodeName t := by
  constructor
  · intro h
    rw [← encodeName_entryName s, h, encodeName_entryName]
  · intro h
    rw [entryName, h, ← entryName]

/-! ## Texts that are names -/

/-- A text is a name if no surrogate is in it but those that stand for bytes. -/
theorem nameFaultFrom_eq_none {position : Nat} {t : Text} :
    nameFaultFrom position t = none ↔ ∀ c ∈ t, c.isSurrogate = true → standsForByte c = true := by
  induction t generalizing position with
  | nil => simp [nameFaultFrom]
  | cons c t ih =>
    rw [nameFaultFrom, List.forall_mem_cons, ← @ih (position + 1)]
    cases c.isSurrogate <;> cases standsForByte c <;> simp

theorem nameFault?_eq_none {t : Text} :
    nameFault? t = none ↔ ∀ c ∈ t, c.isSurrogate = true → standsForByte c = true :=
  nameFaultFrom_eq_none

theorem nameFault?_append {s t : Text} :
    nameFault? (s ++ t) = none ↔ nameFault? s = none ∧ nameFault? t = none := by
  simp only [nameFault?_eq_none, List.forall_mem_append]

/-- What is read from bytes is a name. -/
theorem nameFault?_decodeName (bytes : Bytes) : nameFault? (decodeName bytes) = none := by
  have hfrom : ∀ skip, ∀ c ∈ decodeNameFrom skip bytes, c.isSurrogate = true →
      standsForByte c = true := by
    induction bytes with
    | nil => simp [decodeNameFrom]
    | cons b rest ih =>
      intro skip
      cases skip with
      | succ skip => exact ih skip
      | zero =>
        rw [decodeNameFrom]
        split
        · next c more hnext =>
          obtain ⟨hsurrogate, -⟩ := next_spec hnext
          simp only [List.forall_mem_cons, hsurrogate, Bool.false_eq_true, false_implies, true_and]
          exact ih more
        · next hnext =>
          rw [List.forall_mem_cons]
          exact ⟨fun _ => standsForByte_ofByte (ge_of_next_eq_error hnext), ih 0⟩
  exact nameFault?_eq_none.mpr (hfrom 0)

/-! ## Names that are put together -/

/-- Bytes at which a character that has begun before does not go on. -/
def StartsAnew (bytes : Bytes) : Prop := ∀ b ∈ bytes.head?, isContinuation b = false

theorem allowsSecond_eq_false {lead b : UInt8} (h : isContinuation b = false) :
    allowsSecond lead b = false := by
  rw [allowsSecond, h, Bool.false_and]

/-- The same is read whatever follows, if that starts anew. -/
inductive ReadsAlike (rest : Bytes) :
    (alone before : Except (Reason × Nat) (CodePoint × Nat)) → Prop where
  | ok {c : CodePoint} {more : Nat} :
      more ≤ rest.length → ReadsAlike rest (.ok (c, more)) (.ok (c, more))
  | error {fault other : Reason × Nat} : ReadsAlike rest (.error fault) (.error other)

theorem ReadsAlike.ite {rest : Bytes} {P : Prop} [Decidable P]
    {a a' b b' : Except (Reason × Nat) (CodePoint × Nat)} (ha : ReadsAlike rest a a')
    (hb : ReadsAlike rest b b') : ReadsAlike rest (if P then a else b) (if P then a' else b') := by
  split
  · exact ha
  · exact hb

/-- What is read at a byte does not depend on what follows, if that starts anew. -/
theorem next_append (b : UInt8) (rest : Bytes) {more : Bytes} (hmore : StartsAnew more) :
    ReadsAlike rest (next b rest) (next b (rest ++ more)) := by
  have hsecond : ∀ m ∈ more.head?, allowsSecond b m = false := fun m hm =>
    allowsSecond_eq_false (hmore m hm)
  unfold next
  dsimp only
  refine .ite (.ok (Nat.zero_le _)) (.ite .error (.ite ?_ (.ite ?_ (.ite ?_ .error))))
  · obtain _ | ⟨b1, rest⟩ := rest
    · obtain _ | ⟨m, more⟩ := more
      · exact .error
      · simp only [List.nil_append, hmore m rfl, Bool.false_eq_true, if_false]
        exact .error
    · exact .ite (.ok (by simp)) .error
  · obtain _ | ⟨b1, _ | ⟨b2, rest⟩⟩ := rest
    · obtain _ | ⟨m, more⟩ := more
      · exact .error
      · simp only [List.nil_append, hsecond m rfl, Bool.not_false, if_true]
        exact .error
    · obtain _ | ⟨m, more⟩ := more
      · exact .ite .error .error
      · simp only [List.cons_append, List.nil_append, hmore m rfl, Bool.false_eq_true, if_false]
        exact .ite .error .error
    · exact .ite .error (.ite (.ok (by simp)) .error)
  · obtain _ | ⟨b1, _ | ⟨b2, _ | ⟨b3, rest⟩⟩⟩ := rest
    · obtain _ | ⟨m, more⟩ := more
      · exact .error
      · simp only [List.nil_append, hsecond m rfl, Bool.not_false, if_true]
        exact .error
    · obtain _ | ⟨m, more⟩ := more
      · exact .ite .error .error
      · simp only [List.cons_append, List.nil_append, hmore m rfl, Bool.not_false, if_true]
        exact .ite .error .error
    · obtain _ | ⟨m, more⟩ := more
      · exact .ite .error (.ite .error .error)
      · simp only [List.cons_append, List.nil_append, hmore m rfl, Bool.false_eq_true, if_false]
        exact .ite .error (.ite .error .error)
    · exact .ite .error (.ite .error (.ite (.ok (by simp)) .error))

theorem decodeNameFrom_append {bytes more : Bytes} {skip : Nat} (hskip : skip ≤ bytes.length)
    (hmore : StartsAnew more) :
    decodeNameFrom skip (bytes ++ more) = decodeNameFrom skip bytes ++ decodeNameFrom 0 more := by
  induction bytes generalizing skip with
  | nil =>
    obtain rfl := Nat.le_zero.mp hskip
    rfl
  | cons b rest ih =>
    cases skip with
    | succ skip => exact ih (Nat.le_of_succ_le_succ hskip)
    | zero =>
      have halike := next_append b rest hmore
      rw [List.cons_append, decodeNameFrom, decodeNameFrom]
      generalize next b rest = alone at *
      generalize next b (rest ++ more) = before at *
      cases halike with
      | ok hle =>
        dsimp only
        rw [ih hle, List.cons_append]
      | error =>
        dsimp only
        rw [ih (Nat.zero_le _), List.cons_append]

theorem startsAnew_encodeName {t : Text} (h : IsPlain t) : StartsAnew (encodeName t) := by
  intro b hb
  cases t with
  | nil => simp [encodeName] at hb
  | cons c t =>
    have hc := h c List.mem_cons_self
    rw [encodeName_cons, encodeNameChar_eq (h.isEncodable c List.mem_cons_self), encodeChar,
      if_pos hc] at hb
    obtain rfl : UInt8.ofNat c.val = b := by simpa using hb
    rw [isContinuation, toNat_ofNat (by omega)]
    simp
    omega

theorem decodeName_encodeChar_append {c : CodePoint} (h : c.isSurrogate = false) (more : Bytes) :
    decodeName (encodeChar c ++ more) = c :: decodeName more := by
  obtain ⟨b, tail, hbytes, hnext⟩ := next_encodeChar h more
  have hskip : ∀ bytes : Bytes, decodeNameFrom bytes.length (bytes ++ more) = decodeName more := by
    intro bytes
    induction bytes with
    | nil => rfl
    | cons b bytes ih => exact ih
  rw [hbytes, decodeName, List.cons_append, decodeNameFrom, hnext]
  dsimp only
  rw [hskip]

/-- What starts a name and has no surrogates is spelled as it is. -/
theorem entryName_append_left {s : Text} (h : IsEncodable s) (t : Text) :
    entryName (s ++ t) = s ++ entryName t := by
  induction s with
  | nil => rfl
  | cons c s ih =>
    obtain ⟨hc, hs⟩ := isEncodable_cons.mp h
    rw [List.cons_append, entryName, encodeName_cons, encodeNameChar_eq hc,
      decodeName_encodeChar_append hc, ← entryName, ih hs, List.cons_append]

/-- A plain ending is spelled as it is. -/
theorem entryName_append_right (s : Text) {t : Text} (h : IsPlain t) :
    entryName (s ++ t) = entryName s ++ t := by
  have hown : decodeNameFrom 0 (encodeName t) = t := by
    have hleft := entryName_append_left h.isEncodable []
    rwa [List.append_nil, show entryName [] = [] from rfl, List.append_nil] at hleft
  rw [entryName, encodeName_append, decodeName,
    decodeNameFrom_append (Nat.zero_le _) (startsAnew_encodeName h), hown]
  rfl

/-- A text without surrogates is spelled as it is. -/
theorem entryName_eq_self {t : Text} (h : IsEncodable t) : entryName t = t := by
  have hleft := entryName_append_left h []
  rwa [List.append_nil, show entryName [] = [] from rfl, List.append_nil] at hleft

/-- Only a plain text is spelled like it. -/
theorem entryName_eq_plain {s t : Text} (ht : IsPlain t) : entryName s = t ↔ s = t := by
  rw [← encodeName_eq_plain ht (s := s), ← entryName_eq_iff, entryName_eq_self ht.isEncodable]

@[simp] theorem entryName_eq_nil {t : Text} : entryName t = [] ↔ t = [] :=
  entryName_eq_plain (by decide)

end Utf8
end GameArchive
