import ObjectStorage.Store

/-! An object storage that gives prepared answers, for running commands without a service. -/

namespace ObjectStorage

/-- The answers still to be given, by operation. -/
structure ScriptedStore where
  pages : List (Except StorageError ListPage) := []
  /-- Answers to uploads; one without an entry tells of the target, with size zero. -/
  uploads : List (Except StorageError (Option ObjectEntry)) := []
  deletions : List (Except StorageError Unit) := []

namespace ScriptedStore

/-- Gives the next answer of a list, or the usual one when the list is used up. -/
def next {α : Type} (usual : α) : List α → α × List α
  | [] => (usual, [])
  | answer :: rest => (answer, rest)

/-- The entry of an upload for which none was prepared. -/
def plainEntry (target : ObjectRef) : ObjectEntry := ObjectEntry.ofSize target.key 0

/-- The script as an object storage. -/
def store : Store ScriptedStore where
  answer
    | .putFile _ target, script =>
      let (answer, rest) := next (.ok none) script.uploads
      (answer.map (·.getD (plainEntry target)), { script with uploads := rest })
    | .listPage _ _ _, script =>
      let (answer, rest) := next (.ok ⟨[], false, none⟩) script.pages
      (answer, { script with pages := rest })
    | .delete _, script =>
      let (answer, rest) := next (.ok ()) script.deletions
      (answer, { script with deletions := rest })

end ScriptedStore

end ObjectStorage
