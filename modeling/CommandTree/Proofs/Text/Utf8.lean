import CommandTree.Proofs.Text.Lines

/-!
# Texts as bytes

A text stands in an input as its bytes in UTF-8, and no other bytes are read as that text.
Line ends stand for themselves in that encoding, so the lines of a text are texts again.
-/

namespace CommandTree.Text

variable {bytes : List UInt8} {text : List Char}

/-- The bytes of a text. -/
def utf8 (text : List Char) : List UInt8 := text.flatMap String.utf8EncodeChar

/-- The bytes are those of a text. -/
def IsUtf8 (bytes : List UInt8) : Prop := ∃ text : String, bytes = utf8 text.toList

theorem utf8_append (text later : List Char) : utf8 (text ++ later) = utf8 text ++ utf8 later :=
  List.flatMap_append

theorem toByteArray_eq_iff {text : String} :
    text.toByteArray = ⟨bytes.toArray⟩ ↔ bytes = utf8 text.toList := by
  rw [← String.utf8Encode_toList, List.utf8Encode, ByteArray.ext_iff]
  rw [List.data_toByteArray]
  constructor
  · intro h
    exact (congrArg Array.toList h).symm
  · rintro rfl
    rfl

theorem decode?_eq_some_iff {text : String} :
    decode? bytes = some text ↔ bytes = utf8 text.toList := by
  rw [decode?, String.fromUTF8?, ← toByteArray_eq_iff]
  constructor
  · intro h
    split at h
    · obtain rfl := Option.some.inj h
      rfl
    · cases h
  · intro h
    rw [dif_pos (h ▸ text.isValidUTF8)]
    exact congrArg some (String.toByteArray_inj.mp h.symm)

theorem decode?_eq_none_iff : decode? bytes = none ↔ ¬ IsUtf8 bytes := by
  rw [Option.eq_none_iff_forall_ne_some, IsUtf8, not_exists]
  exact forall_congr' fun text => not_congr decode?_eq_some_iff

/-! ## Line ends -/

/-- Below 128 a byte only stands for the character with its number. -/
theorem mem_utf8EncodeChar_iff {byte : UInt8} {c : Char} (hbyte : byte.toNat < 128) :
    byte ∈ String.utf8EncodeChar c ↔ c.toNat = byte.toNat := by
  have hnumber : c.val.toNat = c.toNat := rfl
  simp only [String.utf8EncodeChar, hnumber]
  split
  · simp only [List.mem_singleton, ← UInt8.toNat_inj, UInt8.toNat_ofNat']
    omega
  -- All bytes of a longer encoding are at least 128.
  · refine iff_of_false ?_ (by omega)
    split
    · simp only [List.mem_cons, List.not_mem_nil, or_false, ← UInt8.toNat_inj,
        UInt8.toNat_ofNat']
      omega
    · split <;>
      · simp only [List.mem_cons, List.not_mem_nil, or_false, ← UInt8.toNat_inj,
          UInt8.toNat_ofNat']
        omega

theorem lineFeed_mem_utf8_iff : lineFeed ∈ utf8 text ↔ '\n' ∈ text := by
  have hchar : ∀ c, lineFeed ∈ String.utf8EncodeChar c ↔ c = '\n' := by
    intro c
    rw [mem_utf8EncodeChar_iff (by decide), Char.ext_iff, ← UInt32.toNat_inj]
    rfl
  simp [utf8, hchar]

theorem getLast?_utf8 (text : List Char) :
    (utf8 text).getLast? = text.getLast?.bind fun c => (String.utf8EncodeChar c).getLast? := by
  induction text using List.reverseRecOn with
  | nil => rfl
  | append_singleton text c _ =>
      rw [utf8_append, List.getLast?_append_of_ne_nil _ (by simp [utf8])]
      simp [utf8]

theorem getLast?_utf8_eq_carriageReturn_iff :
    (utf8 text).getLast? = some carriageReturn ↔ text.getLast? = some '\r' := by
  rw [getLast?_utf8, Option.bind_eq_some_iff]
  constructor
  · rintro ⟨c, hlast, hbyte⟩
    have hnumber := (mem_utf8EncodeChar_iff (by decide)).mp (List.mem_of_getLast? hbyte)
    have hc : c = '\r' := Char.ext (UInt32.toNat_inj.mp hnumber)
    rwa [hc] at hlast
  · intro hlast
    exact ⟨'\r', hlast, rfl⟩

theorem isUtf8_utf8 (text : List Char) : IsUtf8 (utf8 text) :=
  ⟨String.ofList text, by rw [String.toList_ofList]⟩

theorem isUtf8_chomp_utf8 (text : List Char) : IsUtf8 (chomp (utf8 text)) := by
  by_cases hlast : text.getLast? = some '\r'
  · have htext : text.dropLast ++ ['\r'] = text := List.dropLast_append_getLast? _ hlast
    have hbytes : utf8 text = utf8 text.dropLast ++ [carriageReturn] := by
      rw [← congrArg utf8 htext, utf8_append]
      rfl
    rw [hbytes, chomp, List.getLast?_concat, if_pos rfl, List.dropLast_concat]
    exact isUtf8_utf8 text.dropLast
  · rw [chomp, if_neg (mt getLast?_utf8_eq_carriageReturn_iff.mp hlast)]
    exact isUtf8_utf8 text

theorem isUtf8_of_mem_lines_utf8 (text : List Char) :
    ∀ line ∈ lines (utf8 text), IsUtf8 line := by
  by_cases hfeed : '\n' ∈ text
  · obtain ⟨front, back, htext, hfront⟩ := List.eq_append_cons_of_mem hfeed
    have hshorter : back.length < text.length := by
      rw [htext, List.length_append, List.length_cons]
      omega
    have hbytes : utf8 text = utf8 front ++ lineFeed :: utf8 back := by
      rw [htext, utf8_append]
      rfl
    rw [hbytes, lines_append_lineFeed (mt lineFeed_mem_utf8_iff.mp hfront)]
    exact List.forall_mem_cons.mpr ⟨isUtf8_chomp_utf8 front, isUtf8_of_mem_lines_utf8 back⟩
  · intro line hmem
    by_cases hempty : utf8 text = []
    · rw [hempty] at hmem
      exact absurd hmem List.not_mem_nil
    · rw [lines_of_not_mem hempty (mt lineFeed_mem_utf8_iff.mp hfeed)] at hmem
      rw [List.mem_singleton.mp hmem]
      exact isUtf8_utf8 text
termination_by text.length

/-- The lines of a text are texts. -/
theorem isUtf8_of_mem_lines {line : List UInt8} (hbytes : IsUtf8 bytes)
    (hmem : line ∈ lines bytes) : IsUtf8 line := by
  obtain ⟨text, rfl⟩ := hbytes
  exact isUtf8_of_mem_lines_utf8 text.toList line hmem

/-! ## Reading an input -/

/-- An input is read as texts, one for each line, up to a line that is no text. -/
def ReadsAs (input : List UInt8) (texts : List String) (unread : List (List UInt8)) : Prop :=
  CutsInto input (texts.map (fun text => utf8 text.toList) ++ unread) ∧
    ∀ line ∈ unread.head?, ¬ IsUtf8 line

theorem exists_texts_append (lines : List (List UInt8)) :
    ∃ (texts : List String) (unread : List (List UInt8)),
      lines = texts.map (fun text => utf8 text.toList) ++ unread ∧
        ∀ line ∈ unread.head?, ¬ IsUtf8 line := by
  induction lines with
  | nil => exact ⟨[], [], rfl, by simp⟩
  | cons line later ih =>
      by_cases hline : IsUtf8 line
      · obtain ⟨text, rfl⟩ := hline
        obtain ⟨texts, unread, rfl, hunread⟩ := ih
        exact ⟨text :: texts, unread, rfl, hunread⟩
      · exact ⟨[], line :: later, rfl, by simpa using hline⟩

theorem exists_readsAs (input : List UInt8) : ∃ texts unread, ReadsAs input texts unread := by
  obtain ⟨texts, unread, hlines, hunread⟩ := exists_texts_append (lines input)
  exact ⟨texts, unread, cutsInto_iff.mpr hlines, hunread⟩

/-- An input of text is read to its end. -/
theorem ReadsAs.unread_eq_nil {input : List UInt8} {texts : List String}
    {unread : List (List UInt8)} (hread : ReadsAs input texts unread)
    (hinput : IsUtf8 input) : unread = [] := by
  obtain ⟨hcut, hunread⟩ := hread
  cases unread with
  | nil => rfl
  | cons line later =>
      have hmem : line ∈ lines input := by
        rw [cutsInto_iff.mp hcut]
        simp
      exact absurd (isUtf8_of_mem_lines hinput hmem) (hunread line rfl)

/-- What follows the end of a line is read as if it stood by itself. -/
theorem ReadsAs.append {first later : List UInt8} {texts more : List String}
    {unread : List (List UInt8)} (hfirst : ReadsAs first texts []) (hends : EndsLine first)
    (hlater : ReadsAs later more unread) :
    ReadsAs (first ++ later) (texts ++ more) unread := by
  refine ⟨?_, hlater.2⟩
  have hcut := hfirst.1.append hends hlater.1
  simpa using hcut

/-- A text without line ends is read as it stands. -/
theorem ReadsAs.cons {text : String} {later : List UInt8} {texts : List String}
    {unread : List (List UInt8)} (hfeed : '\n' ∉ text.toList)
    (hreturn : text.toList.getLast? ≠ some '\r') (hlater : ReadsAs later texts unread) :
    ReadsAs (utf8 text.toList ++ lineFeed :: later) (text :: texts) unread := by
  refine ⟨?_, hlater.2⟩
  have hline := CutsInto.line (mt lineFeed_mem_utf8_iff.mp hfeed) hlater.1
  rwa [chomp, if_neg (mt getLast?_utf8_eq_carriageReturn_iff.mp hreturn)] at hline

end CommandTree.Text
