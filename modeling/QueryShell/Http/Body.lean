import QueryShell.Json.Reader
import QueryShell.Query
import QueryShell.Text.Utf8

/-
The bodies of answers. A record is an object, or an array of its fields in their order; a field
that is missing is empty, a field that is there twice makes the body unreadable, and fields that
nobody asked for are not looked into: they have to keep to the grammar, but need not have a value.
Bytes that are not UTF-8 do no harm inside such a field either.
-/
namespace QueryShell.Http

/-! ## Records -/

/-- Reads a part of a body in which arrays and objects may nest to a depth, where `broken` holds for
characters that stand for bytes that are no text. -/
abbrev Decoder (α : Type) := (broken : Char → Bool) → (depth : Nat) → Json.Tree → Option α

namespace Decoder

variable {α : Type}

/-- Any value. -/
def value : Decoder Json := fun broken depth t => t.value? broken depth

/-- A string. -/
def string : Decoder String := fun broken _ t =>
  match t with
  | .string pieces => (Json.stringValue? broken pieces).map String.ofList
  | _ => none

/-- `null`, or something else. -/
def nullable (d : Decoder α) : Decoder (Option α) := fun broken depth t =>
  match t with
  | .null => some none
  | t => (d broken depth t).map some

/-- An array. -/
def list (d : Decoder α) : Decoder (List α) := fun broken depth t =>
  match t, depth with
  | .array items, depth + 1 => items.mapM (d broken depth)
  | _, _ => none

/-- Puts the members of an object into the places of their names. -/
def place (broken : Char → Bool) (names : List String) (fields : List (Option Json.Tree)) :
    List (List Json.StringPiece × Json.Tree) → Option (List (Option Json.Tree))
  | [] => some fields
  | (key, t) :: rest =>
    (Json.stringValue? broken key).bind fun key =>
      match names.idxOf? (String.ofList key) with
      | none => place broken names fields rest
      | some i =>
        if (fields.getD i none).isSome then none
        else place broken names (fields.set i (some t)) rest

/-- The fields of a record, in the order of their names. -/
def fields (names : List String) : Decoder (List (Option Json.Tree)) := fun broken depth t =>
  if depth = 0 then none
  else
    match t with
    | .object members => place broken names (names.map fun _ => none) members
    | .array items =>
      if items.length ≤ names.length then
        some (items.map some ++ List.replicate (names.length - items.length) none)
      else none
    | _ => none

/-- A field of a record that has a default. -/
def orDefault (default : α) (d : Decoder α) (broken : Char → Bool) (depth : Nat) :
    Option Json.Tree → Option α
  | none => some default
  | some t => d broken depth t

end Decoder

/-! ## Answers -/

/-- What a server says about itself. -/
structure Discovery where
  version? : Option String := none
deriving DecidableEq, Repr

/-- An error of a server. -/
structure ServerError where
  code : String
  message : String
deriving DecidableEq, Repr

/-- The result of one statement. -/
structure Result where
  columns : List String := []
  rows : List (List Json) := []
deriving Repr

/-- The answer to a commit. -/
structure Committed where
  results : List Result := []
  errors : List ServerError := []
  bookmarks : Bookmark := []
deriving Repr

open Decoder in
/-- Reads what a server says about itself. -/
def Discovery.decoder : Decoder Discovery := fun broken depth t => do
  match ← fields ["neo4j_version"] broken depth t with
  | [version] => return ⟨← orDefault none (nullable string) broken (depth - 1) version⟩
  | _ => none

open Decoder in
/-- Reads an error; its code has to be there. -/
def ServerError.decoder : Decoder ServerError := fun broken depth t => do
  match ← fields ["code", "message"] broken depth t with
  | [some code, message] =>
    return ⟨← string broken (depth - 1) code, ← orDefault "" string broken (depth - 1) message⟩
  | _ => none

open Decoder in
/-- Reads a row. -/
def rowDecoder : Decoder (List Json) := fun broken depth t => do
  match ← fields ["row"] broken depth t with
  | [row] => orDefault [] (list value) broken (depth - 1) row
  | _ => none

open Decoder in
/-- Reads a result. -/
def Result.decoder : Decoder Result := fun broken depth t => do
  match ← fields ["columns", "data"] broken depth t with
  | [columns, data] =>
    return ⟨← orDefault [] (list string) broken (depth - 1) columns,
      ← orDefault [] (list rowDecoder) broken (depth - 1) data⟩
  | _ => none

open Decoder in
/-- Reads the answer to a commit. -/
def Committed.decoder : Decoder Committed := fun broken depth t => do
  match ← fields ["results", "errors", "lastBookmarks"] broken depth t with
  | [results, errors, bookmarks] =>
    return ⟨← orDefault [] (list Result.decoder) broken (depth - 1) results,
      ← orDefault [] (list ServerError.decoder) broken (depth - 1) errors,
      ← orDefault [] (list string) broken (depth - 1) bookmarks⟩
  | _ => none

/-! ## Bytes -/

/-- A character beyond ASCII that does not occur in a text: some of the first `n + 1` candidates is
not among `n` characters. -/
def unusedChar (cs : List Char) : Char :=
  ((List.range (cs.length + 1)).map fun i => Char.ofNat (0xe000 + i)).find? (!cs.contains ·)
    |>.getD '\ufffd'

/-- Reads a body. -/
def Decoder.decode? {α : Type} (d : Decoder α) (bytes : List UInt8) : Option α :=
  let pieces := Text.Utf8.decode bytes
  let mark := if pieces.contains none then unusedChar (pieces.filterMap id) else '\ufffd'
  let cs := pieces.map (·.getD mark)
  (Json.Tree.read? cs).bind
    (d (fun c => pieces.contains none && c == mark) Json.greatestDepth)

end QueryShell.Http
