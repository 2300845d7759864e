import ObjectStorage.ObjectEntry
import ObjectStorage.ObjectRef
import ObjectStorage.Session
import ObjectStorage.StorageError

/-! The operations that an object storage offers, as calls to a party that may answer anything. -/

namespace ObjectStorage

/-- A call to an object storage. -/
inductive StoreCall where
  /-- Upload a local file. -/
  | putFile (source : Word) (target : ObjectRef)
  /-- Fetch one page of the keys in a bucket that start with a prefix; the first without a token. -/
  | listPage (bucket keyPrefix : String) (token : Option String)
  /-- Delete one object. -/
  | delete (target : ObjectRef)
  deriving DecidableEq

/-- What a call gives when it succeeds. -/
def StoreCall.Reply : StoreCall → Type
  | .putFile _ _ => ObjectEntry
  | .listPage _ _ _ => ListPage
  | .delete _ => Unit

/-- An object storage whose condition is a `σ`. -/
abbrev Store (σ : Type) := Answerer StoreCall StoreCall.Reply StorageError σ

/-- A call that was made, with its answer. -/
structure Exchange where
  call : StoreCall
  answer : Except StorageError call.Reply

namespace Store

variable {σ : Type}

/-- Uploads a local file. -/
def putFile (store : Store σ) (source : Word) (target : ObjectRef) :
    Session Exchange σ (Except StorageError ObjectEntry) :=
  store.ask Exchange.mk (.putFile source target)

/-- Fetches one page of a listing. -/
def listPage (store : Store σ) (bucket keyPrefix : String) (token : Option String) :
    Session Exchange σ (Except StorageError ListPage) :=
  store.ask Exchange.mk (.listPage bucket keyPrefix token)

/-- Deletes one object. -/
def delete (store : Store σ) (target : ObjectRef) :
    Session Exchange σ (Except StorageError Unit) :=
  store.ask Exchange.mk (.delete target)

end Store

end ObjectStorage
