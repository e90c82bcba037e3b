import TapeMachine.File.Program
import TapeMachine.Proofs.Encoding.Utf16
import TapeMachine.Proofs.Program.LineEnds

/-!
# Programs from files

A file that is there is read in three steps: its bytes are decoded, the line ends of the text are
unified, and the text is loaded under the path.  Only the first step can refuse a file as such, and
it refuses just the bytes in which no text is written.

Main statements: a file is loaded as the text that is written in it, or refused for its bytes; a
file whose lines end in pairs of characters gives the places of the text as it was written.
-/

set_option autoImplicit false

namespace TapeMachine

structure StoredAt (files : FileReader) (path : String) (bytes : List UInt8) : Prop where
  noNull : Program.hasNull path = false
  found : files (Path.ofString path) = .ok bytes

/-! ## Encodings for all texts -/

/-- The encodings in which every text can be written, and from which it is read back. -/
inductive UnicodeForm where
  | utf8
  | utf16 (order : Encoding.Utf16.ByteOrder)
  deriving DecidableEq, Repr

theorem mapError_eq_ok_iff {α ε ε' : Type} {report : ε → ε'} {result : Except ε α} {value : α} :
    result.mapError report = .ok value ↔ result = .ok value := by
  cases result with
  | ok value' =>
      constructor
      · rintro ⟨⟩
        rfl
      · rintro ⟨⟩
        rfl
  | error fault => exact ⟨nofun, nofun⟩

theorem exists_of_mapError_eq_error {α ε ε' : Type} {report : ε → ε'} {result : Except ε α}
    {fault : ε'} (failed : result.mapError report = .error fault) :
    ∃ cause, fault = report cause := by
  cases result with
  | ok value => cases failed
  | error cause => exact ⟨cause, (Except.error.inj failed).symm⟩

namespace UnicodeForm

def name : UnicodeForm → String
  | utf8 => Program.usualEncoding
  | utf16 order => order.codec

def encoding : UnicodeForm → Encoding
  | utf8 => .utf8
  | utf16 order => .utf16 order

def encode : UnicodeForm → List Char → List UInt8
  | utf8 => Encoding.Utf8.encode
  | utf16 order => Encoding.Utf16.encode order

variable {form : UnicodeForm}

theorem hasNull_name (form : UnicodeForm) : Program.hasNull form.name = false := by
  cases form with
  | utf8 => rfl
  | utf16 order =>
      cases order with
      | little => rfl
      | big => rfl

theorem ofName?_name (form : UnicodeForm) : Encoding.ofName? form.name = some form.encoding := by
  cases form with
  | utf8 => decide +kernel
  | utf16 order =>
      cases order with
      | little => decide +kernel
      | big => decide +kernel

/-- Bytes are read as a text exactly when they are what the text is written in. -/
theorem decode_eq_ok_iff {bytes : List UInt8} {text : List Char} :
    form.encoding.decode bytes = .ok text ↔ bytes = form.encode text := by
  cases form with
  | utf8 => exact mapError_eq_ok_iff.trans Encoding.Utf8.decode_eq_ok_iff
  | utf16 order => exact mapError_eq_ok_iff.trans Encoding.Utf16.decode_eq_ok_iff

theorem undecodable {bytes : List UInt8} {fault : Encoding.TextFault}
    (refused : form.encoding.decode bytes = .error fault) :
    ∃ cause, fault = .undecodable cause := by
  cases form with
  | utf8 => exact exists_of_mapError_eq_error refused
  | utf16 order => exact exists_of_mapError_eq_error refused

theorem encode_injective {first second : List Char}
    (same : form.encode first = form.encode second) : first = second := by
  have read := decode_eq_ok_iff.mpr same
  rw [decode_eq_ok_iff.mpr rfl] at read
  exact Except.ok.inj read

end UnicodeForm

/-! ## Loading -/

namespace Program

section Stored

variable {files : FileReader} {path : String} {bytes : List UInt8} {form : UnicodeForm}
  (stored : StoredAt files path bytes)
include stored

theorem readSource_of_stored (form : UnicodeForm) :
    readSource files path form.name = sourceText path form.encoding bytes := by
  simp only [readSource, form.hasNull_name, stored.noNull, stored.found, form.ofName?_name,
    Bool.false_eq_true, if_false]

theorem ofFile_of_written {text : List Char} (written : bytes = form.encode text) :
    ofFile files path form.name =
      (ofSource (String.ofList (Text.unifyLineEnds text)) path).mapError SourceFault.unmatched := by
  have read := UnicodeForm.decode_eq_ok_iff.mpr written
  rw [ofFile, readSource_of_stored stored, sourceText, read]

theorem exists_ofFile_of_not_written (nothing : ∀ text, bytes ≠ form.encode text) :
    ∃ fault, ofFile files path form.name = .error (.unreadable ⟨path, .decoding fault⟩) := by
  cases read : form.encoding.decode bytes with
  | ok text => exact (nothing text (UnicodeForm.decode_eq_ok_iff.mp read)).elim
  | error fault =>
      obtain ⟨cause, rfl⟩ := UnicodeForm.undecodable read
      refine ⟨cause, ?_⟩
      rw [ofFile, readSource_of_stored stored, sourceText, read]

end Stored

end Program

/-- A file in one of the three encodings is loaded if and only if some text is written in it.  There
is one such text at most.  It is loaded under the path as it was given, after each carriage return
and line feed in a row, and then each carriage return that is left, has become a line feed; so the
file gives the program of this text, or the loop mark of it that has no partner.  Bytes in which no
text is written are reported as undecodable, for the path. -/
theorem files_are_loaded_as_what_is_written {files : FileReader} {path : String}
    {bytes : List UInt8} (stored : StoredAt files path bytes) (form : UnicodeForm) :
    (∀ text : String, bytes = form.encode text.toList →
      (∀ other : String, bytes = form.encode other.toList → other = text) ∧
      Program.ofFile files path form.name =
        (Program.ofSource (String.ofList (Text.feedReturns (Text.joinLineEnds text.toList)))
          path).mapError SourceFault.unmatched) ∧
    ((¬ ∃ text : String, bytes = form.encode text.toList) →
      ∃ fault, Program.ofFile files path form.name =
        .error (.unreadable ⟨path, .decoding fault⟩)) := by
  refine ⟨fun text written => ⟨?_, ?_⟩, fun nothing => ?_⟩
  · intro other written'
    exact String.toList_injective (UnicodeForm.encode_injective (written'.symm.trans written))
  · rw [Program.ofFile_of_written stored written, Text.unifyLineEnds_eq]
  · apply Program.exists_ofFile_of_not_written stored
    intro text written
    apply nothing ⟨String.ofList text, ?_⟩
    rw [String.toList_ofList]
    exact written

/-- Line ends of both kinds in UTF-16 become line feeds, and an overlong form is no text. -/
theorem two_returns_and_an_overlong_form :
    let files := ((FileTree.empty.add "ends" (some [13, 0, 13, 0, 10, 0, 43, 0])).add "long"
      (some [0xC0, 0x80])).read
    StoredAt files "ends" [13, 0, 13, 0, 10, 0, 43, 0] ∧ StoredAt files "long" [0xC0, 0x80] ∧
    (Program.ofFile files "ends" "utf-16-le" =
      (Program.ofSource "\n\n+" "ends").mapError SourceFault.unmatched) ∧
    ∃ fault, Program.ofFile files "long" "utf-8" =
      .error (.unreadable ⟨"long", .decoding fault⟩) := by
  intro files
  have ends : StoredAt files "ends" [13, 0, 13, 0, 10, 0, 43, 0] := ⟨rfl, rfl⟩
  have long : StoredAt files "long" [0xC0, 0x80] := ⟨rfl, rfl⟩
  obtain ⟨loaded, _⟩ := files_are_loaded_as_what_is_written ends (.utf16 .little)
  obtain ⟨_, refused⟩ := files_are_loaded_as_what_is_written long .utf8
  refine ⟨ends, long, (loaded "\r\r\n+" rfl).2, refused ?_⟩
  rintro ⟨text, written⟩
  have read := UnicodeForm.decode_eq_ok_iff.mpr written
  cases read

/-- A file in UTF-8 whose carriage returns all belong to line feeds is loaded with the instructions,
the places, the name and the tables that its text gives as it was written, or with the same loop
mark without a partner.  Only the source that is kept is the text with unified line ends. -/
theorem paired_returns_leave_places {files : FileReader} {path text : String}
    (stored : StoredAt files path text.toUTF8.data.toList)
    (paired : Text.ReturnsPaired text.toList) :
    let source := String.ofList (Text.unifyLineEnds text.toList)
    Program.ofFile files path Program.usualEncoding =
      match Program.ofSource text path with
      | .ok program => .ok { program with source := source }
      | .error fault => .error (.unmatched { fault with source := source }) := by
  intro source
  have written : text.toUTF8.data.toList = UnicodeForm.utf8.encode text.toList :=
    (Encoding.Utf8.encode_toList text).symm
  have scanned : Instruction.scan source.toList = Instruction.scan text.toList := by
    rw [String.toList_ofList, Instruction.scan_unifyLineEnds paired]
  have loaded := Program.ofFile_of_written stored written
  rw [Program.ofSource_of_scan_eq scanned] at loaded
  refine loaded.trans ?_
  cases Program.ofSource text path with
  | ok program => rfl
  | error fault => rfl

/-- The empty line and the line of the loop end count as in the text that was written. -/
theorem places_of_a_file_with_pairs :
    ∃ text program, text = "+\r\n\r\n[-\r\n ]" ∧ Program.ofSource text "pairs" = .ok program ∧
      program.instructions.toList.map Instruction.place = [⟨1, 1⟩, ⟨3, 1⟩, ⟨3, 2⟩, ⟨4, 2⟩] ∧
      let files := (FileTree.empty.add "pairs" (some text.toUTF8.data.toList)).read
      StoredAt files "pairs" text.toUTF8.data.toList ∧ Text.ReturnsPaired text.toList ∧
      Program.ofFile files "pairs" "utf-8" = .ok { program with source := "+\n\n[-\n ]" } := by
  let program := Program.assemble (Instruction.scan "+\r\n\r\n[-\r\n ]".toList) [(1, 3)] "pairs"
    "+\r\n\r\n[-\r\n ]"
  have parsed : Program.ofSource "+\r\n\r\n[-\r\n ]" "pairs" = .ok program := rfl
  have stored : StoredAt
      (FileTree.empty.add "pairs" (some "+\r\n\r\n[-\r\n ]".toUTF8.data.toList)).read "pairs"
      "+\r\n\r\n[-\r\n ]".toUTF8.data.toList := ⟨rfl, rfl⟩
  have paired : Text.ReturnsPaired "+\r\n\r\n[-\r\n ]".toList := by decide
  have loaded := paired_returns_leave_places stored paired
  rw [parsed] at loaded
  exact ⟨_, program, rfl, parsed, rfl, stored, paired, loaded⟩

end TapeMachine
