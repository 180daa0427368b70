import GameArchive.Proofs.Json.Layout
import GameArchive.Proofs.Number.Shortest

/-!
# The grammar of JSON

The texts that a strict reader takes for a value. Numbers have no leading zeros and no names, texts
are in quotes and hold no control characters, and blanks stand around values and names only. What
is written without line breaks is such a text if all numbers in it are finite.
-/

namespace GameArchive
namespace Json

open Text (HoldsNoControl)

/-! ## Numbers -/

/-- One digit or more. -/
def IsDigits (t : Text) : Prop := t ≠ [] ∧ ∀ c ∈ t, c.isDigit = true

/-- Digits that start with a zero only if there are no others. -/
def IsWhole (t : Text) : Prop :=
  IsDigits t ∧ (t.head? = some (CodePoint.ofChar '0') → t = [CodePoint.ofChar '0'])

/-- Nothing, or a point with digits behind it. -/
def IsFraction (t : Text) : Prop :=
  t = [] ∨ ∃ digits, t = CodePoint.ofChar '.' :: digits ∧ IsDigits digits

/-- Nothing, or a letter with digits behind it that may have a sign. -/
def IsExponent (t : Text) : Prop :=
  t = [] ∨ ∃ letter ∈ Text.ofString "eE", ∃ sign ∈ ["", "+", "-"], ∃ digits,
    t = letter :: (Text.ofString sign ++ digits) ∧ IsDigits digits

/-- A number without a sign. -/
def IsUnsigned (t : Text) : Prop :=
  ∃ whole fraction exponent, t = whole ++ fraction ++ exponent ∧
    IsWhole whole ∧ IsFraction fraction ∧ IsExponent exponent

def IsNumber (t : Text) : Prop :=
  IsUnsigned t ∨ ∃ u, t = CodePoint.ofChar '-' :: u ∧ IsUnsigned u

theorem IsDigits.append {s t : Text} (h : IsDigits s) (ht : ∀ c ∈ t, c.isDigit = true) :
    IsDigits (s ++ t) :=
  ⟨List.append_ne_nil_of_left_ne_nil h.1 t, List.forall_mem_append.mpr ⟨h.2, ht⟩⟩

theorem isDigits_append_of_right {s t : Text} (hs : ∀ c ∈ s, c.isDigit = true) (h : IsDigits t) :
    IsDigits (s ++ t) :=
  ⟨List.append_ne_nil_of_right_ne_nil s h.1, List.forall_mem_append.mpr ⟨hs, h.2⟩⟩

theorem isDigits_ofNat (n : Nat) : IsDigits (Text.ofNat n) :=
  ⟨Text.ofNat_ne_nil n, fun _ => Text.isDigit_of_mem_ofNat⟩

/-- What starts with a digit other than zero goes on with any digits. -/
theorem isWhole_of_head {t : Text} (h : IsDigits t)
    (hhead : t.head? ≠ some (CodePoint.ofChar '0')) : IsWhole t :=
  ⟨h, fun hzero => absurd hzero hhead⟩

theorem isWhole_ofNat (n : Nat) : IsWhole (Text.ofNat n) := by
  refine ⟨isDigits_ofNat n, fun h => ?_⟩
  rw [Text.eq_zero_of_head_ofNat h]
  decide

theorem IsWhole.isUnsigned {t : Text} (h : IsWhole t) : IsUnsigned t :=
  ⟨t, [], [], by simp, h, .inl rfl, .inl rfl⟩

theorem isNumber_ofInt (n : Int) : IsNumber (Text.ofInt n) := by
  cases n with
  | ofNat n => exact .inl (isWhole_ofNat n).isUnsigned
  | negSucc n => exact .inr ⟨_, rfl, (isWhole_ofNat (n + 1)).isUnsigned⟩

section Float

open Binary64 (zeros IsStorable)

theorem isDigit_of_mem_zeros {n : Nat} {c : CodePoint} (h : c ∈ zeros n) : c.isDigit = true := by
  rw [List.eq_of_mem_replicate h]
  decide

theorem isExponent_signed (negative : Prop) [Decidable negative] {digits : Text}
    (h : IsDigits digits) :
    IsExponent (Text.ofString (if negative then "e-" else "e+") ++ digits) := by
  split
  · exact .inr ⟨CodePoint.ofChar 'e', by decide, "-", by decide, digits, rfl, h⟩
  · exact .inr ⟨CodePoint.ofChar 'e', by decide, "+", by decide, digits, rfl, h⟩

/-- Digits that start with no zero are laid out as a number, wherever the point stands. -/
theorem isUnsigned_layOut {digits : Text} (h : IsDigits digits)
    (hhead : digits.head? ≠ some (CodePoint.ofChar '0')) (point : Int) :
    IsUnsigned (Binary64.json.layOut digits point) := by
  unfold Binary64.Notation.layOut
  split
  · split
    · refine ⟨[CodePoint.ofChar '0'], CodePoint.ofChar '.' :: (zeros (-point).toNat ++ digits), [],
        by simp [Text.ofString], ⟨⟨by simp, by decide⟩, fun _ => rfl⟩, .inr ⟨_, rfl, ?_⟩, .inl rfl⟩
      exact isDigits_append_of_right (fun _ => isDigit_of_mem_zeros) h
    split
    · refine ⟨digits ++ zeros (point.toNat - digits.length), Text.ofString ".0", [],
        by simp [Binary64.json, Binary64.plain], ?_, .inr ⟨_, rfl, by simp, by decide⟩, .inl rfl⟩
      refine isWhole_of_head (h.append fun _ => isDigit_of_mem_zeros) ?_
      rwa [List.head?_append_of_ne_nil _ h.1]
    · next hpoint hlength =>
      have htake : digits.take point.toNat ≠ [] := by simp [h.1]; omega
      refine ⟨digits.take point.toNat, CodePoint.ofChar '.' :: digits.drop point.toNat, [],
        by simp [Text.ofString], isWhole_of_head ⟨htake, ?_⟩ ?_, .inr ⟨_, rfl, ?_, ?_⟩, .inl rfl⟩
      · exact fun c hc => h.2 c (List.take_subset _ _ hc)
      · rwa [List.head?_take, if_neg (by omega)]
      · simpa using hlength
      · exact fun c hc => h.2 c (List.drop_subset _ _ hc)
  · obtain ⟨d, more, rfl⟩ := List.exists_cons_of_ne_nil h.1
    have hd : d.isDigit = true := h.2 d List.mem_cons_self
    have hwhole : IsWhole [d] :=
      isWhole_of_head ⟨by simp, by simpa using hd⟩ (by simpa using hhead)
    have hexponent := isExponent_signed (point - 1 < 0)
      (isDigits_append_of_right (s := zeros (2 - (Text.ofNat (point - 1).natAbs).length))
        (fun _ => isDigit_of_mem_zeros) (isDigits_ofNat (point - 1).natAbs))
    cases more with
    | nil => exact ⟨[d], [], _, by simp [Binary64.json, Binary64.plain], hwhole, .inl rfl, hexponent⟩
    | cons d' more =>
      refine ⟨[d], CodePoint.ofChar '.' :: d' :: more, _,
        by simp [Binary64.json, Binary64.plain], hwhole, .inr ⟨_, rfl, by simp, ?_⟩, hexponent⟩
      exact fun c hc => h.2 c (List.mem_cons_of_mem _ hc)

theorem isUnsigned_zero : IsUnsigned (Binary64.json.layOut (Text.ofString "0") 1) :=
  ⟨Text.ofString "0", Text.ofString ".0", [], by decide, ⟨⟨by decide, by decide⟩, fun _ => rfl⟩,
    .inr ⟨Text.ofString "0", rfl, by decide, by decide⟩, .inl rfl⟩

/-- Zeros at the end do not make up all digits of a number that is not zero. -/
theorem trimmed_spec {n : Nat} (h : n ≠ 0) :
    IsDigits (Text.trimEnd (· = CodePoint.ofChar '0') (Text.ofNat n)) ∧
      (Text.trimEnd (· = CodePoint.ofChar '0') (Text.ofNat n)).head? ≠
        some (CodePoint.ofChar '0') := by
  obtain ⟨zeros, heq, hzeros⟩ :=
    Text.exists_trimEnd_append (· = CodePoint.ofChar '0') (Text.ofNat n)
  have hhead : (Text.ofNat n).head? ≠ some (CodePoint.ofChar '0') :=
    mt Text.eq_zero_of_head_ofNat h
  have hne : Text.trimEnd (· = CodePoint.ofChar '0') (Text.ofNat n) ≠ [] := by
    intro hnil
    rw [hnil, List.nil_append] at heq
    obtain ⟨c, rest, hcons⟩ := List.exists_cons_of_ne_nil (Text.ofNat_ne_nil n)
    rw [← heq, hcons] at hzeros
    refine hhead ?_
    rw [hcons, List.head?_cons, of_decide_eq_true (hzeros c List.mem_cons_self)]
  refine ⟨⟨hne, fun c hc => Text.isDigit_of_mem_ofNat (n := n) ?_⟩, ?_⟩
  · rw [heq]
    exact List.mem_append_left _ hc
  · rwa [heq, List.head?_append_of_ne_nil _ hne] at hhead

/-- A finite number is written as a number. -/
theorem isNumber_write {x : Binary64} (h : x.isFinite = true) (hstorable : x.IsStorable) :
    IsNumber (Binary64.write Binary64.json x) := by
  cases x with
  | nan => contradiction
  | infinite => contradiction
  | finite negative m e =>
    have hbody : IsUnsigned (if m = 0 then Binary64.json.layOut (Text.ofString "0") 1
        else Binary64.json.layOut
          (Text.trimEnd (· = CodePoint.ofChar '0') (Text.ofNat (Binary64.shortest m e).1))
          (Binary64.decimalLength (Binary64.shortest m e).1 + (Binary64.shortest m e).2)) := by
      split
      · exact isUnsigned_zero
      · next hm =>
        have hdigits := Binary64.shortest_ne_zero (Nat.pos_of_ne_zero hm) hstorable.1 e
        exact isUnsigned_layOut (trimmed_spec hdigits).1 (trimmed_spec hdigits).2 _
    cases negative with
    | false => exact .inl hbody
    | true => exact .inr ⟨_, rfl, hbody⟩

end Float

/-! ## Texts in quotes -/

/-- What stands for one character in quotes. -/
inductive IsCharacter : Text → Prop where
  | plain {c : CodePoint} : 0x20 ≤ c.val → c ≠ CodePoint.ofChar '"' → c ≠ CodePoint.ofChar '\\' →
      IsCharacter [c]
  | short {letter : CodePoint} : letter ∈ Text.ofString "\"\\/bfnrt" →
      IsCharacter [CodePoint.ofChar '\\', letter]
  | numbered {digits : Text} : digits.length = 4 → (∀ c ∈ digits, c.isHexDigit = true) →
      IsCharacter (Text.ofString "\\u" ++ digits)

def IsQuoted (t : Text) : Prop :=
  ∃ pieces : List Text, t = Text.ofString "\"" ++ pieces.flatten ++ Text.ofString "\"" ∧
    ∀ piece ∈ pieces, IsCharacter piece

theorem length_ofHex (width n : Nat) : (Text.ofHex width n).length = width := by
  induction width generalizing n with
  | zero => rfl
  | succ width ih => rw [Text.ofHex, List.length_append, ih, List.length_singleton]

theorem isHexDigit_of_mem_ofHex {width n : Nat} {c : CodePoint} (h : c ∈ Text.ofHex width n) :
    c.isHexDigit = true := by
  have hdigits : ∀ n < 16, (CodePoint.ofHexValue n).isHexDigit = true := by decide +kernel
  induction width generalizing n with
  | zero => exact absurd h List.not_mem_nil
  | succ width ih =>
    rw [Text.ofHex] at h
    rcases List.mem_append.mp h with h | h
    · exact ih h
    · rw [List.mem_singleton.mp h]
      exact hdigits _ (Nat.mod_lt n (by decide))

theorem shortEscape_mem {c : CodePoint} {letter : Char} (h : shortEscape? c = some letter) :
    CodePoint.ofChar letter ∈ Text.ofString "\"\\/bfnrt" := by
  unfold shortEscape? at h
  repeat
    split at h
    · cases h
      decide
  cases h

theorem isCharacter_escapeChar (c : CodePoint) : IsCharacter (escapeChar c) := by
  unfold escapeChar
  obtain ⟨letter, hletter, -⟩ | ⟨hnone, hquote, hbackslash⟩ := printable_cases c
  · rw [hletter]
    exact .short (shortEscape_mem hletter)
  · rw [hnone]
    dsimp only
    split
    · exact .numbered (length_ofHex 4 c.val) fun _ => isHexDigit_of_mem_ofHex
    · next hcontrol => exact .plain (Nat.not_lt.mp hcontrol) hquote hbackslash

theorem isQuoted_quote (t : Text) : IsQuoted (quote t) := by
  refine ⟨t.map escapeChar, by rw [quote, List.flatMap_def], fun piece hpiece => ?_⟩
  obtain ⟨c, -, rfl⟩ := List.mem_map.mp hpiece
  exact isCharacter_escapeChar c

/-! ## Values -/

/-- Blanks may stand here. -/
def IsBlank (t : Text) : Prop := ∀ c ∈ t, Reader.isSpace c = true

/-- A name: a text in quotes between blanks. -/
def IsName (t : Text) : Prop :=
  ∃ before name after, t = before ++ name ++ after ∧ IsBlank before ∧ IsQuoted name ∧ IsBlank after

/-- The texts of values. -/
inductive IsText : Text → Prop where
  | null : IsText "null"
  | true : IsText "true"
  | false : IsText "false"
  | number {t : Text} : IsNumber t → IsText t
  | string {t : Text} : IsQuoted t → IsText t
  | between {before t after : Text} : IsBlank before → IsText t → IsBlank after →
      IsText (before ++ t ++ after)
  | noItems {blank : Text} : IsBlank blank → IsText ("[" ++ blank ++ "]")
  | array {items : List Text} : items ≠ [] → (∀ item ∈ items, IsText item) →
      IsText ("[" ++ Text.join "," items ++ "]")
  | noMembers {blank : Text} : IsBlank blank → IsText ("\x7b" ++ blank ++ "\x7d")
  | object {members : List (Text × Text)} : members ≠ [] → (∀ m ∈ members, IsName m.1) →
      (∀ m ∈ members, IsText m.2) →
      IsText ("\x7b" ++ Text.join "," (members.map fun m => m.1 ++ ":" ++ m.2) ++ "\x7d")

theorem isBlank_nil : IsBlank [] := fun _ h => absurd h List.not_mem_nil

theorem isName_quote (t : Text) : IsName (quote t) :=
  ⟨[], quote t, [], by simp, isBlank_nil, isQuoted_quote t, isBlank_nil⟩

/-- Without line breaks, items stand one after another with commas between them. -/
theorem join_items (depth : Nat) (item : Json) (items : List Json) :
    Text.join "," ((item :: items).map (write compactLayout depth)) =
      write compactLayout depth item ++ writeItems compactLayout depth items := by
  induction items generalizing item with
  | nil => simp [Text.join, writeItems]
  | cons next items ih =>
    have hnext := ih next
    rw [List.map_cons] at hnext
    rw [List.map_cons, List.map_cons, Text.join, hnext, writeItems]
    · simp [compactLayout]
    · simp

/-- A member without blanks. -/
def writeMember (depth : Nat) (m : Text × Json) : Text × Text :=
  (quote m.1, write compactLayout depth m.2)

theorem join_members (depth : Nat) (m : Text × Json) (members : Members) :
    Text.join "," (((m :: members).map (writeMember depth)).map fun m => m.1 ++ ":" ++ m.2) =
      quote m.1 ++ ":" ++ write compactLayout depth m.2 ++
        writeMembers compactLayout depth members := by
  induction members generalizing m with
  | nil => simp [Text.join, writeMembers, writeMember]
  | cons next members ih =>
    have hnext := ih next
    rw [List.map_cons, List.map_cons] at hnext
    rw [List.map_cons, List.map_cons, List.map_cons, List.map_cons, Text.join, hnext, writeMembers]
    · simp [compactLayout, writeMember]
    · simp

/-- Numbers in a value are such that a strict reader takes their texts. -/
def HasNumber : Json → Prop
  | float x => x.isFinite = true ∧ x.IsStorable
  | _ => True

/-- What is written without line breaks is the text of a value if all numbers in it are finite. -/
theorem isText_write {j : Json} (h : Everywhere HasNumber j) (depth : Nat) :
    IsText (write compactLayout depth j) := by
  induction j using Json.induction generalizing depth with
  | null => exact .null
  | bool b =>
    cases b with
    | false => exact .false
    | true => exact .true
  | int n => exact .number (isNumber_ofInt n)
  | float x => exact .number (isNumber_write h.self.1 h.self.2)
  | string t => exact .string (isQuoted_quote t)
  | array items ih =>
    cases items with
    | nil => exact .noItems isBlank_nil
    | cons item items =>
      have hitems : IsText ("[" ++ Text.join ","
          ((item :: items).map (write compactLayout (depth + 1))) ++ "]") := by
        refine .array (by simp) fun t ht => ?_
        obtain ⟨v, hv, rfl⟩ := List.mem_map.mp ht
        exact ih v hv ((everywhere_array.mp h).2 v hv) (depth + 1)
      rw [join_items] at hitems
      simpa [write, compactLayout] using hitems
  | object members ih =>
    cases members with
    | nil => exact .noMembers isBlank_nil
    | cons m members =>
      have hmembers : IsText ("\x7b" ++ Text.join "," (((m :: members).map
          (writeMember (depth + 1))).map fun m => m.1 ++ ":" ++ m.2) ++ "\x7d") := by
        refine .object (by simp) (fun t ht => ?_) fun t ht => ?_
        all_goals obtain ⟨entry, hentry, rfl⟩ := List.mem_map.mp ht
        · exact isName_quote entry.1
        · exact ih entry hentry ((everywhere_object.mp h).2 entry hentry) (depth + 1)
      rw [join_members] at hmembers
      simpa [write, compactLayout] using hmembers

theorem isText_compact {j : Json} (h : Everywhere HasNumber j) : IsText j.compact :=
  isText_write h 0

theorem holdsNoControl_compact (j : Json) : HoldsNoControl j.compact :=
  holdsNoControl_write isOneLine_compactLayout j 0

end Json
end GameArchive
