import GameArchive.Proofs.Text.Lines
import GameArchive.Text.Utf8

/-!
# What decoding keeps

Decoded bytes are the encoding of the text, so a file that is decoded and encoded again is the same
file. A byte of a carriage return is a carriage return of the text and nothing else, for all other
characters have greater bytes or one other byte.
-/

namespace GameArchive

theorem map_eq_ok {ε α β : Type} {f : α → β} {x : Except ε α} {b : β} :
    x.map f = .ok b ↔ ∃ a, x = .ok a ∧ f a = b := by
  cases x <;> simp [Except.map]

theorem CodePoint.val_ofNat {n : Nat} (h : n < 0x110000) : (CodePoint.ofNat n).val = n := by
  simp [CodePoint.ofNat, h]

namespace Utf8

/-! ## Encoding -/

theorem encodeFrom_eq {t : Text} (h : ∀ c ∈ t, c.isSurrogate = false) (position : Nat) :
    encodeFrom position t = .ok (encodeAny t) := by
  induction t generalizing position with
  | nil => rfl
  | cons c rest ih =>
    have hc := h c List.mem_cons_self
    have hrest := ih (fun d hd => h d (List.mem_cons_of_mem c hd)) (position + 1)
    simp [encodeFrom, hc, hrest, encodeAny, Except.map]

/-- A text without surrogates is encoded character by character. -/
theorem encode_eq {t : Text} (h : ∀ c ∈ t, c.isSurrogate = false) :
    encode t = .ok (encodeAny t) := encodeFrom_eq h 0

/-- No surrogate keeps the text from being encoded. -/
def IsEncodable (t : Text) : Prop := ∀ c ∈ t, c.isSurrogate = false

instance (t : Text) : Decidable (IsEncodable t) :=
  inferInstanceAs (Decidable (∀ c ∈ t, c.isSurrogate = false))

@[simp] theorem isEncodable_nil : IsEncodable [] := fun _ h => absurd h List.not_mem_nil

@[simp] theorem isEncodable_cons {c : CodePoint} {t : Text} :
    IsEncodable (c :: t) ↔ c.isSurrogate = false ∧ IsEncodable t := List.forall_mem_cons

@[simp] theorem isEncodable_append {s t : Text} :
    IsEncodable (s ++ t) ↔ IsEncodable s ∧ IsEncodable t := List.forall_mem_append

theorem isEncodable_of_encodeFrom {t : Text} {position : Nat} {bytes : Bytes}
    (h : encodeFrom position t = .ok bytes) : IsEncodable t := by
  induction t generalizing position bytes with
  | nil => exact isEncodable_nil
  | cons c rest ih =>
    rw [encodeFrom] at h
    split at h
    · contradiction
    · next hc =>
      obtain ⟨more, hrest, -⟩ := map_eq_ok.mp h
      exact isEncodable_cons.mpr ⟨by simpa using hc, ih hrest⟩

theorem encode_eq_ok {t : Text} {bytes : Bytes} :
    encode t = .ok bytes ↔ IsEncodable t ∧ encodeAny t = bytes := by
  constructor
  · intro h
    have ht := isEncodable_of_encodeFrom h
    rw [encode_eq ht, Except.ok.injEq] at h
    exact ⟨ht, h⟩
  · rintro ⟨ht, rfl⟩
    exact encode_eq ht

theorem not_isEncodable_of_encode {t : Text} {fault : EncodeFault} (h : encode t = .error fault) :
    ¬IsEncodable t := by
  intro ht
  rw [encode_eq ht] at h
  contradiction

theorem isSurrogate_ofChar (c : Char) : (CodePoint.ofChar c).isSurrogate = false := by
  have hval : (CodePoint.ofChar c).val = c.val.toNat := rfl
  simp only [CodePoint.isSurrogate, hval, Bool.and_eq_false_iff, decide_eq_false_iff_not]
  rcases c.valid with hlow | ⟨hhigh, -⟩
  · have hlow : c.val.toNat < 0xd800 := hlow
    exact .inl (by omega)
  · have hhigh : 0xdfff < c.val.toNat := hhigh
    exact .inr (by omega)

/-- A text of characters. -/
theorem isEncodable_map_ofChar (chars : List Char) : IsEncodable (chars.map CodePoint.ofChar) := by
  intro c hc
  obtain ⟨d, -, rfl⟩ := List.mem_map.mp hc
  exact isSurrogate_ofChar d

@[simp] theorem isEncodable_ofString (s : String) : IsEncodable (Text.ofString s) :=
  isEncodable_map_ofChar s.toList

@[simp] theorem isEncodable_ofNat (n : Nat) : IsEncodable (Text.ofNat n) :=
  isEncodable_map_ofChar (Nat.toDigits 10 n)

theorem isEncodable_ofHex (width n : Nat) : IsEncodable (Text.ofHex width n) := by
  have hdigits : ∀ n < 16, (CodePoint.ofHexValue n).isSurrogate = false := by decide +kernel
  induction width generalizing n with
  | zero => exact isEncodable_nil
  | succ width ih =>
    rw [Text.ofHex, isEncodable_append, isEncodable_cons]
    exact ⟨ih (n / 16), hdigits _ (Nat.mod_lt n (by decide)), isEncodable_nil⟩

theorem mem_encodeChar {c : CodePoint} {n : Nat} (h : n < 0x80) :
    UInt8.ofNat n ∈ encodeChar c ↔ c.val = n := by
  have hc := c.val_lt
  have hbyte : ∀ m, m < 0x100 → (UInt8.ofNat n = UInt8.ofNat m ↔ n = m) := by
    intro m hm
    rw [← UInt8.toNat_inj, UInt8.toNat_ofNat_of_lt' (by simp [UInt8.size]; omega),
      UInt8.toNat_ofNat_of_lt' (by simp [UInt8.size]; omega)]
  unfold encodeChar
  dsimp only
  split
  · rw [List.mem_singleton, hbyte _ (by omega)]
    exact eq_comm
  split
  · rw [List.mem_cons, List.mem_singleton, hbyte _ (by omega), hbyte _ (by omega)]
    omega
  split
  · simp only [List.mem_cons, List.not_mem_nil, or_false]
    rw [hbyte _ (by omega), hbyte _ (by omega), hbyte _ (by omega)]
    omega
  · simp only [List.mem_cons, List.not_mem_nil, or_false]
    rw [hbyte _ (by omega), hbyte _ (by omega), hbyte _ (by omega), hbyte _ (by omega)]
    omega

/-! ## Decoding -/

theorem isContinuation_iff {b : UInt8} :
    isContinuation b = true ↔ 0x80 ≤ b.toNat ∧ b.toNat < 0xc0 := by
  simp [isContinuation]

theorem allowsSecond_bounds {lead second : UInt8} (h : allowsSecond lead second = true) :
    (0x80 ≤ second.toNat ∧ second.toNat < 0xc0) ∧ (lead.toNat = 0xe0 → 0xa0 ≤ second.toNat) ∧
      (lead.toNat = 0xed → second.toNat < 0xa0) ∧ (lead.toNat = 0xf0 → 0x90 ≤ second.toNat) ∧
      (lead.toNat = 0xf4 → second.toNat < 0x90) := by
  rw [allowsSecond, Bool.and_eq_true, isContinuation_iff] at h
  obtain ⟨hbounds, h⟩ := h
  refine ⟨hbounds, ?_⟩
  split at h <;> simp only [decide_eq_true_eq] at h
  case h_5 he0 hed hf0 hf4 =>
    exact ⟨fun h => (he0 h).elim, fun h => (hed h).elim, fun h => (hf0 h).elim,
      fun h => (hf4 h).elim⟩
  all_goals omega

theorem ofNat_eq {n : Nat} {b : UInt8} (h : n = b.toNat) : UInt8.ofNat n = b := by
  rw [h, UInt8.ofNat_toNat]

theorem encodeChar_one {b : UInt8} (h : b.toNat < 0x80) :
    (CodePoint.ofNat b.toNat).isSurrogate = false ∧
      encodeChar (CodePoint.ofNat b.toNat) = [b] := by
  have hval := CodePoint.val_ofNat (n := b.toNat) (by omega)
  simp only [CodePoint.isSurrogate, encodeChar, hval]
  rw [if_pos h, UInt8.ofNat_toNat]
  constructor
  · simp; omega
  · rfl

theorem encodeChar_two {b b1 : UInt8} (hb : 0xc2 ≤ b.toNat ∧ b.toNat < 0xe0)
    (h1 : isContinuation b1 = true) :
    (CodePoint.ofNat ((b.toNat - 0xc0) * 0x40 + payload b1)).isSurrogate = false ∧
      encodeChar (CodePoint.ofNat ((b.toNat - 0xc0) * 0x40 + payload b1)) = [b, b1] := by
  rw [isContinuation_iff] at h1
  unfold payload
  generalize hn : (b.toNat - 0xc0) * 0x40 + (b1.toNat - 0x80) = n
  have hval := CodePoint.val_ofNat (n := n) (by omega)
  simp only [CodePoint.isSurrogate, encodeChar, hval]
  rw [if_neg (by omega), if_pos (by omega), ofNat_eq (b := b) (by omega),
    ofNat_eq (b := b1) (by omega)]
  constructor
  · simp; omega
  · rfl

theorem encodeChar_three {b b1 b2 : UInt8} (hb : 0xe0 ≤ b.toNat ∧ b.toNat < 0xf0)
    (h1 : allowsSecond b b1 = true) (h2 : isContinuation b2 = true) :
    (CodePoint.ofNat ((b.toNat - 0xe0) * 0x1000 + payload b1 * 0x40 + payload b2)).isSurrogate =
        false ∧
      encodeChar (CodePoint.ofNat ((b.toNat - 0xe0) * 0x1000 + payload b1 * 0x40 + payload b2)) =
        [b, b1, b2] := by
  have h1 := allowsSecond_bounds h1
  rw [isContinuation_iff] at h2
  unfold payload
  generalize hn : (b.toNat - 0xe0) * 0x1000 + (b1.toNat - 0x80) * 0x40 + (b2.toNat - 0x80) = n
  have hval := CodePoint.val_ofNat (n := n) (by omega)
  simp only [CodePoint.isSurrogate, encodeChar, hval]
  rw [if_neg (by omega), if_neg (by omega), if_pos (by omega), ofNat_eq (b := b) (by omega),
    ofNat_eq (b := b1) (by omega), ofNat_eq (b := b2) (by omega)]
  constructor
  · simp; omega
  · rfl

theorem encodeChar_four {b b1 b2 b3 : UInt8} (hb : 0xf0 ≤ b.toNat ∧ b.toNat < 0xf5)
    (h1 : allowsSecond b b1 = true) (h2 : isContinuation b2 = true)
    (h3 : isContinuation b3 = true) :
    (CodePoint.ofNat ((b.toNat - 0xf0) * 0x40000 + payload b1 * 0x1000 + payload b2 * 0x40 +
        payload b3)).isSurrogate = false ∧
      encodeChar (CodePoint.ofNat ((b.toNat - 0xf0) * 0x40000 + payload b1 * 0x1000 +
        payload b2 * 0x40 + payload b3)) = [b, b1, b2, b3] := by
  have h1 := allowsSecond_bounds h1
  rw [isContinuation_iff] at h2 h3
  unfold payload
  generalize hn : (b.toNat - 0xf0) * 0x40000 + (b1.toNat - 0x80) * 0x1000 +
    (b2.toNat - 0x80) * 0x40 + (b3.toNat - 0x80) = n
  have hval := CodePoint.val_ofNat (n := n) (by omega)
  simp only [CodePoint.isSurrogate, encodeChar, hval]
  rw [if_neg (by omega), if_neg (by omega), if_neg (by omega), ofNat_eq (b := b) (by omega),
    ofNat_eq (b := b1) (by omega), ofNat_eq (b := b2) (by omega), ofNat_eq (b := b3) (by omega)]
  constructor
  · simp; omega
  · rfl

/-- A character that is read is no surrogate, and its bytes are the ones that were read. -/
theorem next_spec {b : UInt8} {rest : Bytes} {c : CodePoint} {more : Nat}
    (h : next b rest = .ok (c, more)) :
    c.isSurrogate = false ∧ encodeChar c ++ rest.drop more = b :: rest := by
  unfold next at h
  dsimp only at h
  split at h
  · next hb =>
    cases h
    obtain ⟨hsurrogate, hbytes⟩ := encodeChar_one hb
    exact ⟨hsurrogate, by rw [hbytes]; rfl⟩
  split at h
  · cases h
  split at h
  · cases rest with
    | nil => cases h
    | cons b1 rest =>
      dsimp only at h
      split at h
      · next h1 =>
        rw [Except.ok.injEq, Prod.mk.injEq] at h
        obtain ⟨rfl, rfl⟩ := h
        obtain ⟨hsurrogate, hbytes⟩ := encodeChar_two (b := b) (by omega) h1
        exact ⟨hsurrogate, by rw [hbytes]; rfl⟩
      · cases h
  split at h
  · obtain _ | ⟨b1, _ | ⟨b2, rest⟩⟩ := rest <;> dsimp only at h
    · cases h
    · split at h <;> cases h
    · split at h
      · cases h
      next h1 =>
      rw [Bool.not_eq_true', Bool.not_eq_false] at h1
      split at h
      · next h2 =>
        rw [Except.ok.injEq, Prod.mk.injEq] at h
        obtain ⟨rfl, rfl⟩ := h
        obtain ⟨hsurrogate, hbytes⟩ := encodeChar_three ⟨by omega, by omega⟩ h1 h2
        exact ⟨hsurrogate, by rw [hbytes]; rfl⟩
      · cases h
  split at h
  · obtain _ | ⟨b1, _ | ⟨b2, _ | ⟨b3, rest⟩⟩⟩ := rest <;> dsimp only at h
    · cases h
    · split at h <;> cases h
    · split at h
      · cases h
      · split at h <;> cases h
    · split at h
      · cases h
      next h1 =>
      split at h
      · cases h
      next h2 =>
      rw [Bool.not_eq_true', Bool.not_eq_false] at h1 h2
      split at h
      · next h3 =>
        rw [Except.ok.injEq, Prod.mk.injEq] at h
        obtain ⟨rfl, rfl⟩ := h
        obtain ⟨hsurrogate, hbytes⟩ := encodeChar_four ⟨by omega, by omega⟩ h1 h2 h3
        exact ⟨hsurrogate, by rw [hbytes]; rfl⟩
      · cases h
  · cases h

theorem decodeFrom_spec {bytes : Bytes} {skip position : Nat} {t : Text}
    (h : decodeFrom skip position bytes = .ok t) :
    (∀ c ∈ t, c.isSurrogate = false) ∧ encodeAny t = bytes.drop skip := by
  induction bytes generalizing skip position t with
  | nil =>
    cases h
    simp [encodeAny]
  | cons b rest ih =>
    cases skip with
    | succ skip => exact ih h
    | zero =>
      rw [decodeFrom] at h
      split at h
      · next c more hnext =>
        obtain ⟨hsurrogate, hbytes⟩ := next_spec hnext
        cases hrest : decodeFrom more (position + 1) rest with
        | error fault =>
          rw [hrest] at h
          cases h
        | ok tail =>
          rw [hrest] at h
          cases h
          obtain ⟨htail, hencoded⟩ := ih hrest
          constructor
          · intro d hd
            rcases List.mem_cons.mp hd with rfl | hd
            · exact hsurrogate
            · exact htail d hd
          · rw [encodeAny, List.flatMap_cons, ← encodeAny, hencoded, hbytes, List.drop_zero]
      · cases h

/-- A decoded text has no surrogates, and its encoding are the bytes. -/
theorem decode_spec {bytes : Bytes} {t : Text} (h : decode bytes = .ok t) :
    (∀ c ∈ t, c.isSurrogate = false) ∧ encodeAny t = bytes := decodeFrom_spec h

/-! ## Texts that are encoded and decoded -/

theorem toNat_ofNat {n : Nat} (h : n < 0x100) : (UInt8.ofNat n).toNat = n :=
  UInt8.toNat_ofNat_of_lt' h

theorem isContinuation_ofNat {n : Nat} (h : n < 0x40) :
    isContinuation (UInt8.ofNat (0x80 + n)) = true := by
  rw [isContinuation_iff, toNat_ofNat (by omega)]
  omega

theorem payload_ofNat {n : Nat} (h : n < 0x40) : payload (UInt8.ofNat (0x80 + n)) = n := by
  have hbyte : (UInt8.ofNat (0x80 + n)).toNat = 0x80 + n := toNat_ofNat (by omega)
  unfold payload
  omega

theorem allowsSecond_ofNat (lead : UInt8) {n : Nat} (h : n < 0x40)
    (he0 : lead.toNat = 0xe0 → 0x20 ≤ n) (hed : lead.toNat = 0xed → n < 0x20)
    (hf0 : lead.toNat = 0xf0 → 0x10 ≤ n) (hf4 : lead.toNat = 0xf4 → n < 0x10) :
    allowsSecond lead (UInt8.ofNat (0x80 + n)) = true := by
  rw [allowsSecond, isContinuation_ofNat h, Bool.true_and, toNat_ofNat (by omega)]
  split <;> simp only [decide_eq_true_eq] <;> omega

/-- The first byte of a character tells how many more it takes. -/
theorem next_encodeChar {c : CodePoint} (h : c.isSurrogate = false) (more : Bytes) :
    ∃ b tail, encodeChar c = b :: tail ∧ next b (tail ++ more) = .ok (c, tail.length) := by
  have hlt := c.val_lt
  have hc : c.val < 0xd800 ∨ 0xe000 ≤ c.val := by
    simp only [CodePoint.isSurrogate, Bool.and_eq_false_iff, decide_eq_false_iff_not] at h
    omega
  have hself : ∀ n, n = c.val → CodePoint.ofNat n = c := by
    rintro n rfl
    exact c.ofNat_val
  unfold encodeChar
  dsimp only
  split
  · next h1 =>
    refine ⟨_, _, rfl, ?_⟩
    simp only [next, toNat_ofNat (show c.val < 0x100 by omega), if_pos h1, CodePoint.ofNat_val]
    rfl
  split
  · next h1 h2 =>
    refine ⟨_, _, rfl, ?_⟩
    have hlead := toNat_ofNat (show 0xc0 + c.val / 0x40 < 0x100 by omega)
    have hrest : c.val % 0x40 < 0x40 := Nat.mod_lt _ (by decide)
    simp only [next, hlead, List.cons_append, List.nil_append, isContinuation_ofNat hrest,
      payload_ofNat hrest, if_true]
    rw [if_neg (by omega), if_neg (by omega), if_pos (by omega), hself _ (by omega)]
    rfl
  split
  · next h1 h2 h3 =>
    refine ⟨_, _, rfl, ?_⟩
    have hlead := toNat_ofNat (show 0xe0 + c.val / 0x1000 < 0x100 by omega)
    have hsecond : c.val / 0x40 % 0x40 < 0x40 := Nat.mod_lt _ (by decide)
    have hthird : c.val % 0x40 < 0x40 := Nat.mod_lt _ (by decide)
    have hallows := allowsSecond_ofNat (UInt8.ofNat (0xe0 + c.val / 0x1000)) hsecond
      (by omega) (by omega) (by omega) (by omega)
    simp only [next, hlead, List.cons_append, List.nil_append, hallows, Bool.not_true,
      isContinuation_ofNat hthird, payload_ofNat hsecond, payload_ofNat hthird, if_true,
      Bool.false_eq_true, if_false]
    rw [if_neg (by omega), if_neg (by omega), if_neg (by omega), if_pos (by omega),
      hself _ (by omega)]
    rfl
  · next h1 h2 h3 =>
    refine ⟨_, _, rfl, ?_⟩
    have hlead := toNat_ofNat (show 0xf0 + c.val / 0x40000 < 0x100 by omega)
    have hsecond : c.val / 0x1000 % 0x40 < 0x40 := Nat.mod_lt _ (by decide)
    have hthird : c.val / 0x40 % 0x40 < 0x40 := Nat.mod_lt _ (by decide)
    have hfourth : c.val % 0x40 < 0x40 := Nat.mod_lt _ (by decide)
    have hallows := allowsSecond_ofNat (UInt8.ofNat (0xf0 + c.val / 0x40000)) hsecond
      (by omega) (by omega) (by omega) (by omega)
    simp only [next, hlead, List.cons_append, List.nil_append, hallows, Bool.not_true,
      isContinuation_ofNat hthird, isContinuation_ofNat hfourth, payload_ofNat hsecond,
      payload_ofNat hthird, payload_ofNat hfourth, if_true, Bool.false_eq_true, if_false]
    rw [if_neg (by omega), if_neg (by omega), if_neg (by omega), if_neg (by omega),
      if_pos (by omega), hself _ (by omega)]
    rfl

theorem decodeFrom_append {tail : Bytes} (position : Nat) (more : Bytes) :
    decodeFrom tail.length position (tail ++ more) =
      decodeFrom 0 (position + tail.length) more := by
  induction tail generalizing position with
  | nil => rfl
  | cons b tail ih =>
    rw [List.length_cons, List.cons_append, decodeFrom, ih, Nat.succ_add_eq_add_succ]

theorem decodeFrom_encodeAny {t : Text} (h : IsEncodable t) (position : Nat) :
    decodeFrom 0 position (encodeAny t) = .ok t := by
  induction t generalizing position with
  | nil => rfl
  | cons c t ih =>
    obtain ⟨hc, ht⟩ := isEncodable_cons.mp h
    obtain ⟨b, tail, hbytes, hnext⟩ := next_encodeChar hc (encodeAny t)
    rw [encodeAny, List.flatMap_cons, ← encodeAny, hbytes, List.cons_append, decodeFrom, hnext]
    simp only [decodeFrom_append, ih ht]
    rfl

/-- The bytes of a text are decoded to it. -/
theorem decode_encodeAny {t : Text} (h : IsEncodable t) : decode (encodeAny t) = .ok t :=
  decodeFrom_encodeAny h 0

/-! ## Line ends -/

theorem mem_encodeAny {t : Text} {c : CodePoint} (h : c.val < 0x80) :
    UInt8.ofNat c.val ∈ encodeAny t ↔ c ∈ t := by
  rw [encodeAny, List.mem_flatMap]
  constructor
  · rintro ⟨d, hd, hbyte⟩
    have hval : d = c := by
      cases c
      cases d
      simpa using (mem_encodeChar h).mp hbyte
    exact hval ▸ hd
  · intro hc
    exact ⟨c, hc, (mem_encodeChar h).mpr rfl⟩

/-- Line feeds for all line ends change the bytes of a text unless they have no carriage return. -/
theorem encode_unifyNewlines {bytes : Bytes} {t : Text} (h : decode bytes = .ok t) :
    ∃ unified, encode t.unifyNewlines = .ok unified ∧ (unified = bytes ↔ 0x0d ∉ bytes) := by
  obtain ⟨hsurrogates, hbytes⟩ := decode_spec h
  have hreturn : ∀ u : Text, 0x0d ∈ encodeAny u ↔ CodePoint.ofChar '\r' ∈ u := fun u =>
    mem_encodeAny (c := CodePoint.ofChar '\r') (by decide)
  refine ⟨encodeAny t.unifyNewlines, encode_eq ?_, ?_⟩
  · intro c hc
    rcases Text.mem_unifyNewlines hc with rfl | hc
    · decide
    · exact hsurrogates c hc.1
  · rw [← hbytes]
    constructor
    · intro heq
      rw [← heq, hreturn]
      exact Text.carriageReturn_not_mem_unifyNewlines t
    · intro hnone
      rw [hreturn] at hnone
      rw [Text.unifyNewlines_eq_self hnone]

end Utf8
end GameArchive
