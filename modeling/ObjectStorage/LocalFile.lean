import ObjectStorage.Session
import ObjectStorage.StorageError
import ObjectStorage.Timestamp
import ObjectStorage.Upload.Layout

/-! What an upload needs of the local machine: files, what their names suggest, and the time of
day. -/

namespace ObjectStorage

/-- A question about a local file. -/
inductive FileCall where
  /-- What is at a path. -/
  | status (path : Word)
  /-- All bytes of a file. -/
  | contents (path : Word)
  /-- Some bytes of a file. -/
  | range (path : Word) (range : Upload.ByteRange)

/-- What is at a path: a regular file or something else, and its size. -/
structure FileStatus where
  regular : Bool
  size : Nat

/-- What a question about a local file gives when it succeeds. -/
def FileCall.Reply : FileCall → Type
  | .status _ => FileStatus
  | .contents _ => ByteArray
  | .range _ _ => ByteArray

/-- A local machine whose condition is a `σ`. -/
structure Machine (σ : Type) where
  files : Answerer FileCall FileCall.Reply FileFault σ
  clock : σ → Timestamp × σ
  /-- The media type that a path suggests for its file, if it suggests any. -/
  mediaType? : Word → Option String

/-- What stands at a place of a file system. -/
inductive FileNode where
  | directory
  | file (contents : ByteArray)
  /-- Something that is read like an empty file but is no regular one. -/
  | device

/-- What every path leads to at one moment. -/
abbrev Snapshot := Word → Except FileFault FileNode

namespace Snapshot

/-- The bytes of a file. A directory can be looked up but not read. -/
def contents (files : Snapshot) (path : Word) : Except FileFault ByteArray :=
  match files path with
  | .error fault => .error fault
  | .ok .directory => .error .isDirectory
  | .ok (.file bytes) => .ok bytes
  | .ok .device => .ok ByteArray.empty

/-- The answers of files that nobody changes. -/
def answer (files : Snapshot) : (call : FileCall) → Except FileFault call.Reply
  | .status path =>
    (files path).map fun
      | .directory => ⟨false, 0⟩
      | .file bytes => ⟨true, bytes.size⟩
      | .device => ⟨false, 0⟩
  | .contents path => files.contents path
  | .range path range => (files.contents path).map fun bytes => bytes.extract range.start range.stop

/-- The machine that has these files and a clock that stands still. It takes no part in whatever
else changes outside. Where nothing is said about media types, no path suggests one. -/
def machine {σ : Type} (files : Snapshot) (now : Timestamp)
    (mediaType? : Word → Option String := fun _ => none) : Machine σ where
  files := ⟨fun call outside => (files.answer call, outside)⟩
  clock outside := (now, outside)
  mediaType? := mediaType?

end Snapshot

end ObjectStorage
