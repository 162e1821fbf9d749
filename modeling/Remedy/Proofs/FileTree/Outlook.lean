import Remedy.Proofs.FileTree.Nesting
import Remedy.Proofs.FileTree.Replacement

/-!
# What a replacement hangs on

Whether a file that was read can be replaced, and what it fails of if it cannot, does not hang on
what the tree holds elsewhere: only the way to the temporary file, whether its name is taken, and
the failures that are held ready play a part.
-/

set_option autoImplicit false

namespace Remedy.Replacement

open FileTree

/-- What a replacement ends with once the temporary file is made. -/
def outlookOnceMade (r : Replacement) : Except ReplaceError Unit := do
  r.check .write
  r.check .sync
  r.check .copyMode
  r.check .rename
  if Path.endsInDots r.target then
    .error (.file (.system (.between .busy (Path.spell r.temporary) r.target)))
  else return ()

/-- What a replacement of a file that was read ends with, by where the steps to the temporary file
lead and whether there is something already. -/
def outlook (r : Replacement) (beside : Except SystemCause Path) (taken : Bool) :
    Except ReplaceError Unit := do
  r.check .create
  if (Path.spell r.temporary).toList.contains '\x00' then .error (.file .nulCharacter)
  else
    match beside with
    | .error cause => .error (.file (.system (.at cause (Path.spell r.temporary))))
    | .ok _ => if taken then .error nameTaken else r.outlookOnceMade

variable {r : Replacement} {tree : FileTree} {bytes : List UInt8} {content : String}

theorem create_cases (r : Replacement) (tree : FileTree) :
    (∃ error, r.create tree = .error error ∧
      r.outlook (tree.reach r.temporary) (tree.find? r.temporary).isSome = .error error) ∨
    (tree.find? r.temporary = none ∧
      r.create tree = .ok (tree.put r.temporary (.file [] privateMode)) ∧
      r.outlook (tree.reach r.temporary) (tree.find? r.temporary).isSome =
        r.outlookOnceMade) := by
  simp only [create, outlook]
  cases r.check .create with
  | error error => exact Or.inl ⟨error, rfl, rfl⟩
  | ok =>
    cases (Path.spell r.temporary).toList.contains '\x00' with
    | true => exact Or.inl ⟨_, rfl, rfl⟩
    | false =>
      cases tree.reach r.temporary with
      | error cause => exact Or.inl ⟨_, rfl, rfl⟩
      | ok reached =>
        cases found : tree.find? r.temporary with
        | some entry => exact Or.inl ⟨_, rfl, rfl⟩
        | none => exact Or.inr ⟨rfl, rfl, rfl⟩

/-! ## The later steps, with the temporary file in its place -/

theorem write_eq (utf8 : r.encoding = "utf-8") (entry : Entry) :
    r.write content (tree.put r.temporary entry) = (r.check .write).map fun _ =>
      tree.put r.temporary (.file (Text.Utf8.encode content) privateMode) := by
  simp only [write, utf8, Text.Encoding.codec?_ofName_utf8, Text.Charset.codec_stream,
    Text.Charset.encode_utf8, put_put]
  cases r.check .write <;> rfl

theorem sync_eq (tree : FileTree) : r.sync tree = (r.check .sync).map fun _ => tree := by
  simp only [sync]
  cases r.check .sync <;> rfl

section Readable

variable (read : tree.readBytes r.directory r.target = .ok bytes)
  (free : tree.find? r.temporary = none)

include read free

theorem place_ne_temporary : r.place ≠ r.temporary := by
  intro same
  obtain ⟨-, -, mode, held⟩ := located_of_readBytes read
  rw [← same] at free
  rw [show tree.find? (Path.denoted r.directory r.target) = none from free] at held
  cases held

theorem located_staged (entry : Entry) :
    (tree.put r.temporary entry).locate r.directory r.target = .ok r.place ∧
      (tree.put r.temporary entry).find? r.place = tree.find? r.place := by
  obtain ⟨-, leads, -⟩ := located_of_readBytes read
  refine ⟨locate_mono ?_ leads, find?_put_of_ne tree (place_ne_temporary read free) entry⟩
  intro place directory
  rw [find?_put_of_ne tree, directory]
  rintro rfl
  rw [free] at directory
  cases directory

theorem copyMode_eq (content : List UInt8) (former : Nat) :
    ∃ mode, r.copyMode (tree.put r.temporary (.file content former)) =
      (r.check .copyMode).map fun _ => tree.put r.temporary (.file content mode) := by
  obtain ⟨noNul, -, mode, held⟩ := located_of_readBytes read
  obtain ⟨leads, still⟩ := located_staged read free (.file content former)
  rw [show tree.find? r.place = some (.file bytes mode) from held] at still
  refine ⟨mode, ?_⟩
  simp only [copyMode, lookAt, noNul, leads, still, Bool.false_eq_true, if_false,
    find?_put_self tree (ne_root_of_find?_eq_none free), put_put]
  cases r.check .copyMode <;> rfl

theorem rename_eq (content : List UInt8) (mode : Nat) :
    ∃ after, r.rename (tree.put r.temporary (.file content mode)) =
      (r.check .rename >>= fun _ =>
        if Path.endsInDots r.target then
          .error (.file (.system (.between .busy (Path.spell r.temporary) r.target)))
        else .ok after) := by
  obtain ⟨noNul, -, former, held⟩ := located_of_readBytes read
  obtain ⟨leads, still⟩ := located_staged read free (.file content mode)
  rw [show tree.find? r.place = some (.file bytes former) from held] at still
  have noSlash := not_endsInSlash_of_readBytes read
  refine ⟨((tree.put r.temporary (.file content mode)).remove r.temporary).put r.place
    (.file content mode), ?_⟩
  simp only [rename, destination, locateTarget, noNul, leads, noSlash, Bool.false_eq_true, if_false]
  cases r.check .rename with
  | error error => rfl
  | ok =>
    cases Path.endsInDots r.target with
    | true => rfl
    | false =>
      simp only [Bool.false_eq_true, if_false, still,
        find?_put_self tree (ne_root_of_find?_eq_none free)]
      rfl

end Readable

theorem run_eq_outlook (utf8 : r.encoding = "utf-8")
    (read : tree.readBytes r.directory r.target = .ok bytes) (content : String) :
    (r.run content tree).2 =
      r.outlook (tree.reach r.temporary) (tree.find? r.temporary).isSome := by
  rcases create_cases r tree with ⟨error, failed, ends⟩ | ⟨free, made, ends⟩
  · simp only [run, failed, ends]
  · obtain ⟨mode, copied⟩ :=
      copyMode_eq read free (Text.Utf8.encode content) privateMode
    obtain ⟨after, renamed⟩ := rename_eq read free (Text.Utf8.encode content) mode
    rw [ends]
    simp only [run, made, laterStages, outlookOnceMade, carryOut, write_eq utf8, sync_eq]
    cases r.check .write with
    | error error => rfl
    | ok =>
      cases r.check .sync with
      | error error => rfl
      | ok =>
        simp only [Except.map, copied]
        cases r.check .copyMode with
        | error error => rfl
        | ok =>
          simp only [renamed]
          cases r.check .rename with
          | error error => rfl
          | ok => cases Path.endsInDots r.target <;> rfl

end Remedy.Replacement
