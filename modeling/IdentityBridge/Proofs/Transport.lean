import IdentityBridge.Assertion

/-! Values in transport. A layer that passes bytes on as characters turns a text into the characters that carry
its bytes in UTF-8. Every list of bytes is carried by one text, and it means a text in UTF-8 exactly if it is the
list of the bytes of that text, so a field that is read in UTF-8 has the value that was sent, and one that does
not carry such bytes stays as it is. Carried texts of blanks alone are not read again, and need not be: every
character outside of ASCII begins with a byte that is no blank. -/

namespace IdentityBridge

namespace Text.Charset

variable {bytes : List UInt8} {s text raw : String} {c : Char}

/-! ### Bytes and their carriers -/

theorem toNat_carrierChar (b : UInt8) : (Char.ofNat b.toNat).toNat = b.toNat := by
  have hb : b.toNat < 256 := b.toNat_lt
  have hv : b.toNat.isValidChar := .inl (by omega)
  rw [Char.ofNat, dif_pos hv]
  rfl

theorem carried?_carrier (bytes : List UInt8) : carried? (carrier bytes) = some bytes := by
  rw [carried?, carrier, String.toList_ofList]
  induction bytes with
  | nil => rfl
  | cons b rest ih =>
    rw [List.map_cons, List.mapM_cons, toNat_carrierChar, if_pos b.toNat_lt, ih, UInt8.ofNat_toNat]
    rfl

/-- A text carries bytes if it is their carrier. -/
theorem carried?_eq_some_iff : carried? s = some bytes ↔ s = carrier bytes := by
  refine ⟨fun h => ?_, fun h => h ▸ carried?_carrier bytes⟩
  apply String.toList_inj.1
  rw [carrier, String.toList_ofList]
  unfold carried? at h
  generalize s.toList = cs at h
  induction cs generalizing bytes with
  | nil =>
    cases h
    rfl
  | cons c rest ih =>
    rw [List.mapM_cons] at h
    obtain ⟨b, hb, h⟩ := Option.bind_eq_some_iff.1 h
    obtain ⟨later, hlater, h⟩ := Option.bind_eq_some_iff.1 h
    cases h
    obtain ⟨hc, hb⟩ := Option.ite_none_right_eq_some.1 hb
    cases hb
    rw [List.map_cons, ← ih hlater, UInt8.toNat_ofNat', Nat.mod_eq_of_lt hc, Char.ofNat_toNat]

/-! ### Bytes in UTF-8 -/

/-- The bytes of a text in UTF-8. -/
def utf8Bytes (text : String) : List UInt8 := text.toList.flatMap String.utf8EncodeChar

theorem toByteArray_utf8Bytes (text : String) : (utf8Bytes text).toByteArray = text.toByteArray := by
  rw [← String.utf8Encode_toList, List.utf8Encode]
  rfl

theorem fromUTF8?_eq_some_iff {a : ByteArray} : String.fromUTF8? a = some text ↔ a = text.toByteArray := by
  rw [String.fromUTF8?]
  split
  · next h =>
    rw [Option.some.injEq, ← String.toByteArray_inj]
    exact Iff.rfl
  · next h =>
    refine iff_of_false nofun fun he => h ?_
    rw [he]
    exact text.isValidUTF8

/-- Bytes mean a text in UTF-8 if they are the bytes of that text. -/
theorem decode?_utf8_eq_some_iff : utf8.decode? bytes = some text ↔ bytes = utf8Bytes text := by
  have hbytes : (⟨bytes.toArray⟩ : ByteArray) = bytes.toByteArray :=
    ByteArray.ext List.data_toByteArray.symm
  rw [decode?, decodeUtf8?, fromUTF8?_eq_some_iff, hbytes, ← toByteArray_utf8Bytes, List.toByteArray_inj]

theorem reread_utf8_carrier (text : String) : utf8.reread (carrier (utf8Bytes text)) = text := by
  rw [reread, carried?_carrier, Option.bind_some, decode?_utf8_eq_some_iff.2 rfl, Option.getD_some]

theorem reread_utf8_of_ne (h : ∀ text, raw ≠ carrier (utf8Bytes text)) : utf8.reread raw = raw := by
  have hnone : (carried? raw).bind utf8.decode? = none := by
    refine Option.eq_none_iff_forall_ne_some.2 fun text htext => h text ?_
    obtain ⟨bytes, hbytes, htext⟩ := Option.bind_eq_some_iff.1 htext
    rw [carried?_eq_some_iff.1 hbytes, decode?_utf8_eq_some_iff.1 htext]
  rw [reread, hnone, Option.getD_none]

/-! ### Blanks -/

theorem not_isBlank_lead : ∀ n < 0x100, 0xC0 ≤ n → isBlank (Char.ofNat n) = false := by
  decide +kernel

/-- A character is one byte of its own number, or begins with one from the upper quarter of the bytes. -/
theorem utf8EncodeChar_cases (c : Char) :
    (c.toNat < 0x80 ∧ String.utf8EncodeChar c = [UInt8.ofNat c.toNat]) ∨
      ∃ lead rest, String.utf8EncodeChar c = lead :: rest ∧ 0xC0 ≤ lead.toNat := by
  rw [String.utf8EncodeChar]
  split
  · next h => exact .inl ⟨Nat.lt_succ_of_le h, rfl⟩
  · refine .inr ?_
    split
    · exact ⟨_, _, rfl, by rw [UInt8.toNat_ofNat']; omega⟩
    · split
      · exact ⟨_, _, rfl, by rw [UInt8.toNat_ofNat']; omega⟩
      · exact ⟨_, _, rfl, by rw [UInt8.toNat_ofNat']; omega⟩

/-- A carrier of blanks alone is the text whose bytes it carries. -/
theorem carrier_of_blank (h : blank (carrier (utf8Bytes text)) = true) : carrier (utf8Bytes text) = text := by
  apply String.toList_inj.1
  rw [blank, carrier, String.toList_ofList, utf8Bytes] at h
  rw [carrier, String.toList_ofList, utf8Bytes]
  generalize text.toList = cs at h
  induction cs with
  | nil => rfl
  | cons c rest ih =>
    rw [List.flatMap_cons, List.map_append, List.all_append, Bool.and_eq_true] at h
    rw [List.flatMap_cons, List.map_append, ih h.2]
    rcases utf8EncodeChar_cases c with ⟨hc, hbytes⟩ | ⟨lead, later, hbytes, hlead⟩
    · rw [hbytes, List.map_singleton, UInt8.toNat_ofNat', Nat.mod_eq_of_lt (by omega), Char.ofNat_toNat,
        List.singleton_append]
    · rw [hbytes, List.map_cons, List.all_cons, not_isBlank_lead _ lead.toNat_lt hlead] at h
      exact absurd h.1 Bool.false_ne_true

end Text.Charset

namespace Assertion.Source

open Text Charset

variable {s : Source} {p : Properties} {r : Request} {name raw charset : String}

theorem not_blank_of_ofName? {meaning : Charset.Meaning} (h : Charset.ofName? (Text.trim charset) = some meaning) :
    Text.blank charset = false := by
  refine Bool.eq_false_iff.2 fun hb => ?_
  rw [Text.trim, Text.trimBy_of_all hb] at h
  cases h

theorem not_isNulled_of_ofName? {meaning : Charset.Meaning}
    (h : Charset.ofName? charset = some meaning) : Charset.isNulled charset = false := by
  refine Bool.eq_false_iff.2 fun hn => ?_
  rw [Charset.ofName?, if_pos hn] at h
  cases h

/-- A field that is read in UTF-8 has its raw value read again, if that is more than blanks. -/
theorem field_of_utf8 (hn : Text.blank name = false) (hp : p.get? s.charsetProperty = some charset)
    (hc : Charset.ofName? (Text.trim charset) = some (.charset .utf8)) (hr : s.raw r name = .ok (some raw)) :
    s.field p r name = .ok (some (if Text.blank raw then raw else utf8.reread raw)) := by
  simp only [field, hn, hr, hp, not_blank_of_ofName? hc, decode, not_isNulled_of_ofName? hc, hc,
    Bool.false_eq_true, if_false]
  split <;> rfl

/-- A field that is read in UTF-8 has the text whose bytes in UTF-8 its raw value carries, and the raw value
where that carries the bytes of no text. -/
theorem field_undoes_transport (hn : Text.blank name = false)
    (hp : p.get? s.charsetProperty = some charset)
    (hc : Charset.ofName? (Text.trim charset) = some (.charset .utf8)) (hr : s.raw r name = .ok (some raw)) :
    (∀ text, raw = carrier (utf8Bytes text) → s.field p r name = .ok (some text)) ∧
      ((∀ text, raw ≠ carrier (utf8Bytes text)) → s.field p r name = .ok (some raw)) := by
  rw [field_of_utf8 hn hp hc hr]
  constructor
  · rintro text rfl
    by_cases hb : Text.blank (carrier (utf8Bytes text)) = true
    · rw [if_pos hb, carrier_of_blank hb]
    · rw [if_neg hb, reread_utf8_carrier]
  · intro h
    rw [reread_utf8_of_ne h, ite_self]

/-! ### An example -/

/-- Headers are read in UTF-8. -/
def inUtf8 : Properties := { configuration := .ofList [("header_encoding", " UTF-8 ")] }

/-- A visitor whose name has been sent as bytes, and a price that has not. -/
def visit : Request := { headers := Request.foldHeaders [("X-Name", "josÃ©"), ("X-Price", "5 €")] }

theorem visit_undone : inUtf8.get? headers.charsetProperty = some " UTF-8 " ∧
    Charset.ofName? (Text.trim " UTF-8 ") = some (.charset .utf8) ∧
    headers.raw visit "X-Name" = .ok (some "josÃ©") ∧ "josÃ©" = carrier (utf8Bytes "josé") ∧
    headers.field inUtf8 visit "X-Name" = .ok (some "josé") ∧
    headers.raw visit "x-price" = .ok (some "5 €") ∧
    headers.field inUtf8 visit "x-price" = .ok (some "5 €") := by
  have hp : inUtf8.get? headers.charsetProperty = some " UTF-8 " := by decide +kernel
  have hc : Charset.ofName? (Text.trim " UTF-8 ") = some (.charset .utf8) := by decide +kernel
  have hname : headers.raw visit "X-Name" = .ok (some "josÃ©") := by
    rw [raw, show visit.header? "X-Name" = some "josÃ©" by decide +kernel]
  have hbytes : "josÃ©" = carrier (utf8Bytes "josé") := by decide +kernel
  have hprice : headers.raw visit "x-price" = .ok (some "5 €") := by
    rw [raw, show visit.header? "x-price" = some "5 €" by decide +kernel]
  -- the sign of the currency is no byte
  have hne (text : String) : "5 €" ≠ carrier (utf8Bytes text) := fun h => by
    have hcarried : carried? "5 €" = some (utf8Bytes text) := carried?_eq_some_iff.2 h
    rw [show carried? "5 €" = none by decide +kernel] at hcarried
    cases hcarried
  exact ⟨hp, hc, hname, hbytes, (field_undoes_transport (by decide) hp hc hname).1 "josé" hbytes, hprice,
    (field_undoes_transport (by decide) hp hc hprice).2 hne⟩

end Assertion.Source

end IdentityBridge
