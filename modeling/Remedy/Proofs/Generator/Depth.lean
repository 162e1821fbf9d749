import Remedy.Generator.Body
import Remedy.Proofs.Json.RoundTrip
import Remedy.Proofs.Text.Utf8

/-!
# Bodies that are nested too deep

A body holds an object, or it is a failure of the service that carries the status of the response,
or its containers are nested deeper than the program has room for. The last is found out at the
bracket for which no room is left, before anything behind it is read.
-/

set_option autoImplicit false

namespace Remedy

open Text

namespace Text

theorem decodeDetected_of_ascii {bytes : List UInt8} (ascii : ∀ b ∈ bytes, 0 < b ∧ b < 0x80) :
    decodeDetected bytes = decodeUtf8 bytes := by
  have unmarked : decodeUnmarked bytes = decodeUtf8 bytes := by
    have low : (0 : UInt8) ∉ bytes := fun member => absurd (ascii 0 member).1 (by decide)
    unfold decodeUnmarked
    split <;> first | rfl | simp at low
  unfold decodeDetected
  split
  · simp at ascii
  · simp at ascii
  · exact absurd (ascii 0xFE (List.mem_cons_self ..)).2 (by decide)
  · exact absurd (ascii 0xFF (List.mem_cons_self ..)).2 (by decide)
  · exact absurd (ascii 0xEF (List.mem_cons_self ..)).2 (by decide)
  · exact unmarked

theorem decodeUtf8_encodeChars (text : List Char) :
    decodeUtf8 (Utf8.encodeChars text) = .ok (text.map .char) := by
  rw [decodeUtf8, Utf8.decodeFrom_encodeChars]
  rfl

end Text

namespace Json

def nestedArrays : Nat → Json
  | 0 => arr []
  | depth + 1 => arr [nestedArrays depth]

def nestedText (depth : Nat) : List Char :=
  List.replicate depth '[' ++ List.replicate depth ']'

theorem print_nestedArrays (depth level : Nat) :
    print .oneLine level (nestedArrays depth) = nestedText (depth + 1) := by
  induction depth generalizing level with
  | zero => rfl
  | succ depth ih =>
    have closing : List.replicate (depth + 2) ']' = List.replicate (depth + 1) ']' ++ [']'] :=
      List.replicate_succ'
    rw [nestedArrays, print, ih, nestedText, nestedText, closing]
    simp [openBreak, closeBreak, printItems, List.replicate_succ]

theorem readable_nestedArrays (depth : Nat) : Readable (nestedArrays depth) := by
  induction depth with
  | zero => exact .arr (List.forall_mem_nil _)
  | succ depth ih => exact .arr (List.forall_mem_singleton.mpr ih)

theorem nesting_nestedArrays (depth : Nat) : (nestedArrays depth).nesting = depth + 1 := by
  induction depth with
  | zero => rfl
  | succ depth ih => rw [nestedArrays, nesting, nestingOfItems, nestingOfItems, ih, Nat.max_zero]

theorem ofPoints_nestedText {depth room : Nat} (roomy : depth + 1 ≤ room) :
    ofPoints room ((nestedText (depth + 1)).map .char) = .ok ((nestedArrays depth).map points) := by
  have readable := readable_nestedArrays depth
  rw [← print_nestedArrays depth 0, ← read_of_starts (readable.starts .oneLine 0)]
  exact read_render readable .oneLine (nesting_nestedArrays depth ▸ roomy)

theorem skipGap_replicate (count : Nat) (rest : List Point) :
    skipGap (List.replicate (count + 1) (.char '[') ++ rest) =
      List.replicate (count + 1) (.char '[') ++ rest := rfl

theorem readValue_nested {room depth fuel : Nat} (beyond : room < depth) (enough : 2 * depth ≤ fuel)
    (rest : List Point) :
    readValue fuel room (List.replicate depth (.char '[') ++ rest) = .error (.tooDeep .array) := by
  induction room generalizing depth fuel with
  | zero =>
    obtain ⟨depth, rfl⟩ := Nat.exists_eq_add_of_lt beyond
    obtain ⟨fuel, rfl⟩ := Nat.exists_eq_succ_of_ne_zero (show fuel ≠ 0 by omega)
    rfl
  | succ room ih =>
    obtain ⟨depth, rfl⟩ := Nat.exists_eq_add_of_le' (show 2 ≤ depth by omega)
    obtain ⟨fuel, rfl⟩ := Nat.exists_eq_add_of_le' (show 2 ≤ fuel by omega)
    have inner := @ih (depth + 1) fuel (by omega) (by omega)
    have starts : Starts ['['] := ⟨'[', [], rfl, rfl, by decide, by decide⟩
    have stops : readItems (fuel + 1) room (List.replicate (depth + 1) (.char '[') ++ rest) =
        .error (.tooDeep .array) := by
      rw [readItems, inner]
    exact (readValue_items starts (skipGap_replicate depth rest)).trans
      (congrArg (Except.map _) stops)

theorem ofPoints_nested {room depth : Nat} (beyond : room < depth) :
    ofPoints room ((nestedText depth).map .char) = .error (.tooDeep .array) := by
  obtain ⟨depth, rfl⟩ := Nat.exists_eq_succ_of_ne_zero (Nat.ne_zero_of_lt beyond)
  have text : (nestedText (depth + 1)).map Point.char =
      List.replicate (depth + 1) (.char '[') ++ List.replicate (depth + 1) (.char ']') := by
    rw [nestedText, List.map_append, List.map_replicate, List.map_replicate]
  have stops := readValue_nested beyond (show 2 * (depth + 1) ≤ 2 * ((depth + 1) + (depth + 1)) + 2
    by omega) (List.replicate (depth + 1) (.char ']'))
  rw [ofPoints, readDocument, text, skipGap_replicate]
  simp only [List.length_append, List.length_replicate, stops]

end Json

namespace Body

def nested (depth : Nat) : List UInt8 :=
  Utf8.encodeChars (Json.nestedText depth)

theorem ascii_nested (depth : Nat) : ∀ b ∈ nested depth, 0 < b ∧ b < 0x80 := by
  intro b member
  obtain ⟨c, among, inside⟩ := List.mem_flatMap.mp member
  have bracket : c = '[' ∨ c = ']' :=
    (List.mem_append.mp among).imp List.eq_of_mem_replicate List.eq_of_mem_replicate
  rcases bracket with rfl | rfl <;>
    · obtain rfl := List.mem_singleton.mp inside
      decide

variable [Interpreter]

/-- A body is the document that was written to it, if there is room for it. -/
theorem document_render {j : Json} (readable : j.Readable) (layout : Json.Layout)
    (roomy : j.nesting ≤ Interpreter.bodyRoom)
    (ascii : (Utf8.encodeChars (j.print layout 0)).all (fun b => 0 < b && b < 0x80) = true) :
    document (Utf8.encode (j.render layout)) = .ok (j.map points) := by
  have plain : ∀ b ∈ Utf8.encodeChars (j.print layout 0), 0 < b ∧ b < 0x80 := by
    simpa using ascii
  have read := Json.read_render readable layout roomy
  rw [Json.render, Json.read_of_starts (readable.starts layout 0)] at read
  rw [Json.render, Utf8.encode, String.toList_ofList, document, decodeDetected_of_ascii plain,
    decodeUtf8_encodeChars]
  simp only [read]
  rfl

theorem document_nested {depth : Nat} (beyond : Interpreter.bodyRoom < depth) :
    document (nested depth) = .error (.unreadable (.tooDeep .array)) := by
  rw [document, decodeDetected_of_ascii (ascii_nested depth), nested, decodeUtf8_encodeChars]
  simp only [Json.ofPoints_nested beyond]
  rfl

/-- A body holds an object, it is a failure with the status of its response, or it is nested too
deep. -/
theorem members_cases (provider : String) (status : Nat) (body : List UInt8) :
    (∃ entries, document body = .ok (.obj entries) ∧
      members provider status body = .ok entries) ∨
    (∃ error : GeneratorError, (∀ entries, document body ≠ .ok (.obj entries)) ∧
      (∀ container, document body ≠ .error (.unreadable (.tooDeep container))) ∧
      members provider status body = .error (.generator error) ∧ error.statusCode = status) ∨
    ∃ container, document body = .error (.unreadable (.tooDeep container)) ∧
      members provider status body = .error (.tooDeep container) := by
  rw [members]
  split
  · next entries read => exact Or.inl ⟨entries, read, rfl⟩
  · next json noObject read =>
    refine Or.inr (Or.inl ⟨_, fun entries same => ?_, fun container same => ?_, rfl, rfl⟩)
    · exact noObject entries (Except.ok.inj (read.symm.trans same))
    · cases read.symm.trans same
  · next container read => exact Or.inr (Or.inr ⟨container, read, rfl⟩)
  · next fault other read =>
    refine Or.inr (Or.inl ⟨_, fun entries same => ?_, fun container same => ?_, rfl, rfl⟩)
    · cases read.symm.trans same
    · exact other container (Except.error.inj (read.symm.trans same))

end Body

end Remedy
