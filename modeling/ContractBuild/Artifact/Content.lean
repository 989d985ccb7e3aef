import ContractBuild.Archive.Zip
import ContractBuild.Document.Octets
import ContractBuild.Layout

/-!
# Contents of artifacts

The bytes of an artifact's file, made from the value that its producer returns: the executable as
it is, the manifest as compact JSON (`serialize_document` of the program), the debug information
as compact JSON in an archive with a single entry, the assembly listing as text.

What goes wrong with a value shows at different times, and the type of contents keeps these apart:

* most values that do not fit fail before any file is opened, and `content` is an error then;
* an archive is written into an open file, and an entry that does not fit the format is found
  there (`Content.archive`);
* a listing is given to the open file as a text, and its encoding is left to the file. A text with
  lone halves of surrogate pairs fails there, when the file has been emptied (`Content.loose`).

A manifest or debug document that is a loose text has a JSON form, but that form has no bytes, and
it fails before a file is opened (`documentBytes`).
-/

namespace ContractBuild.Artifact

/-- The compact JSON of a document, in bytes. A document without a JSON form is a misuse of whoever
produced it. -/
def jsonBytes (d : Document) : Except Failure Bytes :=
  match d.toJson with
  | .ok s => .ok (Text.encode s)
  | .error r => .error (.misuse (.unwritable r))

theorem jsonBytes_eq_ok_iff {d : Document} {b : Bytes} :
    jsonBytes d = .ok b ↔
      ∃ cs, Document.Json.write d = .ok cs ∧ Text.encode (String.ofList cs) = b := by
  unfold jsonBytes Document.toJson
  cases Document.Json.write d <;> simp [Except.map]

/-- The failure of a text whose first lone half stands at `start`, where its bytes are asked for. -/
def unencodable (start : Nat) (t : Text.Loose) : Failure :=
  .foreign { kind := "UnicodeEncodeError", message := t.message start }

/-- The bytes of a value as a document. A loose text has a JSON form, which has no bytes. -/
def documentBytes : Value → Except Failure Bytes
  | .document d => jsonBytes d
  | .loose t => .error (unencodable ((Document.Json.string t.before).length - 1) t)

/-- What a file is to hold: bytes, an entry of an archive, or a text that is given to the open file
and cannot be encoded. -/
inductive Content where
  | plain (b : Bytes)
  | archive (e : Archive.Entry)
  | loose (t : Text.Loose)
  deriving DecidableEq

/-- The bytes of a content that get into its file. -/
def Content.bytes : Content → Bytes
  | plain b => b
  | archive e => Archive.ofEntry e
  | loose _ => []

/-- The content of an artifact's file. All but the listing become bytes before the file is opened;
the listing is handed to the file as a text, and only that it is one is looked at before. -/
def content (l : Layout) (a : Artifact) (v : Value) : Except Failure Content :=
  match a with
  | executable => (v.shown.octets.mapError .misuse).map .plain
  | manifest => (documentBytes v).map .plain
  | debugInfo => (documentBytes v).map fun b => .archive ⟨l.debugEntryName, b⟩
  | assembly =>
    match v with
    | .document (.str s) => .ok (.plain (Text.encode s))
    | .loose t => .ok (.loose t)
    | .document d => .error (.misuse (.notText d.kindName))

end ContractBuild.Artifact
