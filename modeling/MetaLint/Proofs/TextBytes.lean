import Mathlib.Data.List.Basic
import MetaLint.Text.Utf8

/-!
# Texts in bytes

The bytes of a text are read back as the text. A byte of ASCII is read as its character wherever it
stands, so bytes can be cut there before they are read.
-/

set_option autoImplicit false

namespace MetaLint.Text

theorem encode_append (a b : String) : encode (a ++ b) = encode a ++ encode b := by
  rw [encode, encode, encode, String.toList_append, List.flatMap_append]

section Sequences
variable {lead b c d : UInt8} {rest : Bytes}

theorem isContinuation_iff : isContinuation b = true ↔ 0x80 ≤ b.toNat ∧ b.toNat ≤ 0xBF := by
  simp [isContinuation, UInt8.le_iff_toNat_le]

theorem isSecond_iff : isSecond lead b = true ↔ isContinuation b = true ∧
    (lead.toNat = 0xE0 → 0xA0 ≤ b.toNat) ∧ (lead.toNat = 0xED → b.toNat ≤ 0x9F) ∧
    (lead.toNat = 0xF0 → 0x90 ≤ b.toNat) ∧ (lead.toNat = 0xF4 → b.toNat ≤ 0x8F) := by
  simp only [isSecond, isContinuation, beq_iff_eq, ← UInt8.toNat_inj, UInt8.le_iff_toNat_le,
    UInt8.reduceToNat]
  repeat' split
  all_goals simp
  all_goals omega

theorem readSequence_one (h : lead.toNat < 0x80) :
    readSequence lead rest = (some (Char.ofNat lead.toNat), 0) := by
  simp [readSequence, UInt8.lt_iff_toNat_lt, h]

theorem readSequence_two (h : 0xC2 ≤ lead.toNat ∧ lead.toNat ≤ 0xDF)
    (hb : isContinuation b = true) : readSequence lead (b :: rest) =
      (some (Char.ofNat (lead.toNat % 32 * 64 + payload b)), 1) := by
  have hone : ¬ lead.toNat < 0x80 := by omega
  simp [readSequence, UInt8.lt_iff_toNat_lt, UInt8.le_iff_toNat_le, hone, h, hb]

theorem readSequence_three (h : 0xE0 ≤ lead.toNat ∧ lead.toNat ≤ 0xEF)
    (hb : isSecond lead b = true) (hc : isContinuation c = true) :
    readSequence lead (b :: c :: rest) =
      (some (Char.ofNat ((lead.toNat % 16 * 64 + payload b) * 64 + payload c)), 2) := by
  have hone : ¬ lead.toNat < 0x80 := by omega
  have htwo : ¬ lead.toNat ≤ 0xDF := by omega
  simp [readSequence, UInt8.lt_iff_toNat_lt, UInt8.le_iff_toNat_le, hone, htwo, h, hb, hc]

theorem readSequence_four (h : 0xF0 ≤ lead.toNat ∧ lead.toNat ≤ 0xF4)
    (hb : isSecond lead b = true) (hc : isContinuation c = true) (hd : isContinuation d = true) :
    readSequence lead (b :: c :: d :: rest) = (some (Char.ofNat
      (((lead.toNat % 8 * 64 + payload b) * 64 + payload c) * 64 + payload d)), 3) := by
  have hone : ¬ lead.toNat < 0x80 := by omega
  have htwo : ¬ lead.toNat ≤ 0xDF := by omega
  have hthree : ¬ lead.toNat ≤ 0xEF := by omega
  simp [readSequence, UInt8.lt_iff_toNat_lt, UInt8.le_iff_toNat_le, hone, htwo, hthree, h, hb, hc,
    hd]

end Sequences

theorem toNat_ofNat_of_lt {n : Nat} (h : n < 256) : (UInt8.ofNat n).toNat = n := by
  rw [UInt8.toNat_ofNat']
  exact Nat.mod_eq_of_lt h

theorem isContinuation_low (n : Nat) : isContinuation (UInt8.ofNat (n % 64 + 128)) = true := by
  rw [isContinuation_iff, toNat_ofNat_of_lt (by omega)]
  omega

theorem payload_low (n : Nat) : payload (UInt8.ofNat (n % 64 + 128)) = n % 64 := by
  rw [payload, toNat_ofNat_of_lt (by omega)]
  omega

section Encoded
variable {n : Nat} (rest : Bytes)

theorem readSequence_encoded_one (h : n ≤ 0x7F) :
    readSequence (UInt8.ofNat n) rest = (some (Char.ofNat n), 0) := by
  have hlead := toNat_ofNat_of_lt (n := n) (by omega)
  rw [readSequence_one (by omega), hlead]

theorem readSequence_encoded_two (h : 0x7F < n ∧ n ≤ 0x7FF) :
    readSequence (UInt8.ofNat (n / 64 % 32 + 192)) (UInt8.ofNat (n % 64 + 128) :: rest) =
      (some (Char.ofNat n), 1) := by
  have hlead := toNat_ofNat_of_lt (n := n / 64 % 32 + 192) (by omega)
  rw [readSequence_two (by omega) (isContinuation_low n), hlead, payload_low]
  congr 3
  omega

theorem readSequence_encoded_three (h : 0x7FF < n ∧ n ≤ 0xFFFF)
    (hvalid : n < 0xD800 ∨ 0xDFFF < n) :
    readSequence (UInt8.ofNat (n / 4096 % 16 + 224))
      (UInt8.ofNat (n / 64 % 64 + 128) :: UInt8.ofNat (n % 64 + 128) :: rest) =
      (some (Char.ofNat n), 2) := by
  have hlead := toNat_ofNat_of_lt (n := n / 4096 % 16 + 224) (by omega)
  have hsecond := toNat_ofNat_of_lt (n := n / 64 % 64 + 128) (by omega)
  rw [readSequence_three (by omega)
    (isSecond_iff.mpr ⟨isContinuation_low _, by omega, by omega, by omega, by omega⟩)
    (isContinuation_low n), hlead, payload_low, payload_low]
  congr 3
  omega

theorem readSequence_encoded_four (h : 0xFFFF < n ∧ n < 0x110000) :
    readSequence (UInt8.ofNat (n / 262144 % 8 + 240)) (UInt8.ofNat (n / 4096 % 64 + 128) ::
      UInt8.ofNat (n / 64 % 64 + 128) :: UInt8.ofNat (n % 64 + 128) :: rest) =
      (some (Char.ofNat n), 3) := by
  have hlead := toNat_ofNat_of_lt (n := n / 262144 % 8 + 240) (by omega)
  have hsecond := toNat_ofNat_of_lt (n := n / 4096 % 64 + 128) (by omega)
  rw [readSequence_four (by omega)
    (isSecond_iff.mpr ⟨isContinuation_low _, by omega, by omega, by omega, by omega⟩)
    (isContinuation_low _) (isContinuation_low n), hlead, payload_low, payload_low, payload_low]
  congr 3
  omega

end Encoded

/-- A character is read from its own bytes, whatever comes behind them. -/
theorem exists_readSequence_encodeChar (c : Char) (rest : Bytes) : ∃ lead more,
    String.utf8EncodeChar c = lead :: more ∧
      readSequence lead (more ++ rest) = (some c, more.length) := by
  have hvalid : c.toNat < 0xD800 ∨ (0xDFFF < c.toNat ∧ c.toNat < 0x110000) := c.valid
  have hchar : Char.ofNat c.toNat = c := Char.ofNat_toNat c
  have hval : c.val.toNat = c.toNat := rfl
  rw [String.utf8EncodeChar, hval]
  generalize c.toNat = n at hvalid hchar
  rw [← hchar]
  split
  next h1 => exact ⟨_, _, rfl, readSequence_encoded_one rest h1⟩
  split
  next h1 h2 => exact ⟨_, _, rfl, readSequence_encoded_two rest (by omega)⟩
  split
  next h1 h2 h3 => exact ⟨_, _, rfl, readSequence_encoded_three rest (by omega) (by omega)⟩
  next h1 h2 h3 => exact ⟨_, _, rfl, readSequence_encoded_four rest (by omega)⟩

theorem readLossy_eq (done : List Char) (passed : Nat) (bytes : Bytes) :
    readLossy done passed bytes = done.reverse ++ readLossy [] passed bytes := by
  induction bytes generalizing done passed with
  | nil => simp [readLossy]
  | cons b rest ih =>
    cases passed with
    | succ n => exact ih done n
    | zero =>
      simp only [readLossy]
      rw [ih, ih [_], List.reverse_cons, List.append_assoc]
      rfl

theorem readLossy_passed (passed rest : Bytes) :
    readLossy [] passed.length (passed ++ rest) = decodeLossy rest := by
  induction passed with
  | nil => rfl
  | cons b passed ih => exact ih

theorem decodeLossy_cons (lead : UInt8) (rest : Bytes) : decodeLossy (lead :: rest) =
    (readSequence lead rest).1.getD replacement ::
      readLossy [] (readSequence lead rest).2 rest := by
  simp only [decodeLossy, readLossy]
  rw [readLossy_eq]
  rfl

theorem decodeLossy_encodeChar (c : Char) (rest : Bytes) :
    decodeLossy (String.utf8EncodeChar c ++ rest) = c :: decodeLossy rest := by
  obtain ⟨lead, more, he, hread⟩ := exists_readSequence_encodeChar c rest
  rw [he, List.cons_append, decodeLossy_cons, hread, readLossy_passed]
  rfl

theorem decodeLossy_flatMap (cs : List Char) :
    decodeLossy (cs.flatMap String.utf8EncodeChar) = cs := by
  induction cs with
  | nil => rfl
  | cons c cs ih => rw [List.flatMap_cons, decodeLossy_encodeChar, ih]

theorem le_toNat_ofNat {n : Nat} (h : 0x80 ≤ n)
    (hv : n < 0xD800 ∨ (0xDFFF < n ∧ n < 0x110000)) : 0x80 ≤ (Char.ofNat n).toNat := by
  have hvalid : n.isValidChar := hv
  rw [Char.ofNat, dif_pos hvalid]
  exact h

theorem readSequence_ascii {lead : UInt8} {rest : Bytes} {c : Char} {used : Nat}
    (h : readSequence lead rest = (some c, used)) (hc : c.toNat < 0x80) :
    lead.toNat = c.toNat ∧ used = 0 := by
  have hlong : ∀ n, c = Char.ofNat n → 0x80 ≤ n →
      (n < 0xD800 ∨ (0xDFFF < n ∧ n < 0x110000)) → False := by
    rintro n rfl hn hv
    exact absurd (le_toNat_ofNat hn hv) (Nat.not_le.mpr hc)
  simp only [readSequence, UInt8.lt_iff_toNat_lt, UInt8.le_iff_toNat_le, Bool.and_eq_true,
    decide_eq_true_eq, UInt8.reduceToNat, Bool.not_eq_eq_eq_not, Bool.not_true] at h
  repeat' split at h
  all_goals simp only [Prod.mk.injEq, Option.some.injEq, reduceCtorEq, false_and] at h
  -- One byte is its character, and longer sequences are those of later characters.
  case isTrue =>
    obtain ⟨rfl, rfl⟩ := h
    have hvalid : lead.toNat.isValidChar := Or.inl (by omega)
    rw [Char.ofNat, dif_pos hvalid]
    exact ⟨rfl, rfl⟩
  case h_1.isTrue htwo _ b _ _ =>
    exact (hlong _ h.1.symm (by omega) (by simp only [payload]; omega)).elim
  case h_1.isFalse.isFalse _ _ _ b d _ hb _ =>
    obtain ⟨hcont, hE0, hED, -⟩ := isSecond_iff.mp (Bool.not_eq_false _ ▸ hb)
    have hrange := isContinuation_iff.mp hcont
    simp only [payload] at h
    exact (hlong _ h.1.symm (by omega) (by omega)).elim
  case h_1.isFalse.isFalse _ _ _ _ _ b hb _ d e _ _ _ =>
    obtain ⟨hcont, -, -, hF0, hF4⟩ := isSecond_iff.mp (Bool.not_eq_false _ ▸ hb)
    have hrange := isContinuation_iff.mp hcont
    simp only [payload] at h
    exact (hlong _ h.1.symm (by omega) (by omega)).elim

theorem readSequence_before {lead b : UInt8} (hb : b.toNat < 0x80) (passed rest : Bytes) :
    readSequence lead (passed ++ b :: rest) = readSequence lead passed ∧
      (readSequence lead passed).2 ≤ passed.length := by
  have hnot : isContinuation b = false := by
    rw [Bool.eq_false_iff, ne_eq, isContinuation_iff]
    omega
  have hsecond : isSecond lead b = false := by
    rw [Bool.eq_false_iff, ne_eq, isSecond_iff, hnot]
    simp
  rcases passed with _ | ⟨x, _ | ⟨y, _ | ⟨z, passed⟩⟩⟩
  · cases rest <;> simp only [readSequence, hnot, hsecond, List.nil_append] <;> grind
  · cases rest <;> simp only [readSequence, hnot, List.nil_append, List.cons_append] <;> grind
  · simp only [readSequence, hnot, List.nil_append, List.cons_append]
    grind
  · simp only [readSequence, List.cons_append]
    grind

theorem readLossy_append_ascii {b : UInt8} (hb : b.toNat < 0x80) {passed : Nat} {front : Bytes}
    (h : passed ≤ front.length) (rest : Bytes) : readLossy [] passed (front ++ b :: rest) =
      readLossy [] passed front ++ Char.ofNat b.toNat :: decodeLossy rest := by
  induction front generalizing passed with
  | nil =>
    obtain rfl := Nat.le_zero.mp h
    rw [List.nil_append, ← decodeLossy, decodeLossy_cons, readSequence_one hb]
    rfl
  | cons lead front ih =>
    cases passed with
    | succ n => exact ih (Nat.le_of_succ_le_succ h)
    | zero =>
      obtain ⟨hsame, hused⟩ :
          readSequence lead (front ++ b :: rest) = readSequence lead front ∧ _ :=
        readSequence_before hb front rest
      rw [List.cons_append, ← decodeLossy, ← decodeLossy, decodeLossy_cons, decodeLossy_cons, hsame,
        ih hused, List.cons_append]

/-- Bytes can be cut at a byte of ASCII before they are read. -/
theorem decodeLossy_append_ascii {b : UInt8} (hb : b.toNat < 0x80) (front rest : Bytes) :
    decodeLossy (front ++ b :: rest) =
      decodeLossy front ++ Char.ofNat b.toNat :: decodeLossy rest :=
  readLossy_append_ascii hb (Nat.zero_le _) rest

theorem readLossy_ascii {passed : Nat} {bytes : Bytes} {c : Char}
    (h : c ∈ readLossy [] passed bytes) (hc : c.toNat < 0x80) : UInt8.ofNat c.toNat ∈ bytes := by
  induction bytes generalizing passed with
  | nil => simp [readLossy] at h
  | cons lead rest ih =>
    cases passed with
    | succ n => exact List.mem_cons_of_mem _ (ih h)
    | zero =>
      rw [← decodeLossy, decodeLossy_cons] at h
      rcases List.mem_cons.mp h with rfl | h
      · cases hr : readSequence lead rest with
        | mk read? used =>
          cases read? with
          | none => simp [hr, replacement] at hc
          | some d =>
            simp only [hr, Option.getD_some] at hc ⊢
            rw [← (readSequence_ascii hr hc).1, UInt8.ofNat_toNat]
            exact List.mem_cons_self
      · exact List.mem_cons_of_mem _ (ih h)

theorem mem_of_mem_decodeLossy {bytes : Bytes} {c : Char} (h : c ∈ decodeLossy bytes)
    (hc : c.toNat < 0x80) : UInt8.ofNat c.toNat ∈ bytes :=
  readLossy_ascii h hc

end MetaLint.Text

namespace MetaLint.OsText

open Text

theorem bytes_ofText (text : String) : (ofText text).bytes = encode text := rfl

@[simp] theorem shown_ofText (text : String) : (ofText text).shown = text := by
  rw [shown, bytes_ofText, encode, decodeLossy_flatMap, String.ofList_toList]

@[simp] theorem ofText_inj {a b : String} : ofText a = ofText b ↔ a = b := by
  constructor
  · intro h
    rw [← shown_ofText a, h, shown_ofText]
  · rintro rfl
    rfl

theorem isText_ofText (text : String) : (ofText text).IsText := ⟨text, rfl⟩

theorem IsText.ofText_shown {name : OsText} (h : name.IsText) : ofText name.shown = name := by
  obtain ⟨text, rfl⟩ := h
  rw [shown_ofText]

instance (name : OsText) : Decidable name.IsText :=
  decidable_of_iff (ofText name.shown = name)
    ⟨fun h => ⟨name.shown, h.symm⟩, IsText.ofText_shown⟩

/-- Names that are texts can be told apart by what is shown. -/
theorem IsText.eq_of_shown {a b : OsText} (ha : a.IsText) (hb : b.IsText)
    (h : a.shown = b.shown) : a = b := by
  rw [← ha.ofText_shown, h, hb.ofText_shown]

theorem toList_shown (name : OsText) : name.shown.toList = decodeLossy name.bytes :=
  String.toList_ofList

end MetaLint.OsText
