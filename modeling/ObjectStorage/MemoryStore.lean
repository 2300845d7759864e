import ObjectStorage.LocalFile
import ObjectStorage.Store
import Std.Data.TreeMap

/-! An object storage in memory, which keeps its objects in order and pages its listings. -/

namespace ObjectStorage

/-- Orders objects by bucket and then by key, each by code points. -/
def ObjectRef.order : ObjectRef → ObjectRef → Ordering :=
  compareLex (compareOn ObjectRef.bucket) (compareOn ObjectRef.key)

instance : Std.TransCmp ObjectRef.order :=
  inferInstanceAs
    (Std.TransCmp (compareLex (compareOn ObjectRef.bucket) (compareOn ObjectRef.key)))

instance : Std.LawfulEqCmp ObjectRef.order where
  eq_of_compare {first second} same := by
    -- Two objects compare as equal only if both their buckets and their keys do.
    have parts : compare first.bucket second.bucket = .eq ∧ compare first.key second.key = .eq := by
      simpa [ObjectRef.order, compareLex, compareOn, Ordering.then_eq_eq] using same
    have buckets := Std.LawfulEqCmp.eq_of_compare parts.1
    have keys := Std.LawfulEqCmp.eq_of_compare parts.2
    cases first
    cases second
    simp_all

/-- Objects in memory. -/
structure MemoryStore where
  objects : Std.TreeMap ObjectRef ByteArray ObjectRef.order
  /-- The greatest number of keys on one page of a listing. -/
  pageSize : Nat

namespace MemoryStore

/-- The page size of a store for which none was chosen. -/
def defaultPageSize : Nat := 1000

/-- A store without objects. A page holds one key at least. -/
def empty (pageSize : Nat := defaultPageSize) : MemoryStore := ⟨∅, max pageSize 1⟩

/-- Stores an object in place of any with the same name. -/
def insert (store : MemoryStore) (target : ObjectRef) (data : ByteArray) : MemoryStore :=
  { store with objects := store.objects.insert target data }

/-- Removes an object, if it is there. -/
def erase (store : MemoryStore) (target : ObjectRef) : MemoryStore :=
  { store with objects := store.objects.erase target }

/-- The bytes of an object, if it is there. -/
def get? (store : MemoryStore) (target : ObjectRef) : Option ByteArray := store.objects[target]?

@[simp] theorem get?_empty (pageSize : Nat) (target : ObjectRef) :
    (empty pageSize).get? target = none := by
  simp [empty, get?]

/-- An insertion is seen under its own name only. -/
@[simp] theorem get?_insert (store : MemoryStore) (target asked : ObjectRef) (data : ByteArray) :
    (store.insert target data).get? asked =
      if target = asked then some data else store.get? asked := by
  simp [insert, get?, Std.TreeMap.getElem?_insert, Std.LawfulEqCmp.compare_eq_iff_eq]

/-- A removal is seen under its own name only. -/
@[simp] theorem get?_erase (store : MemoryStore) (target asked : ObjectRef) :
    (store.erase target).get? asked =
      if target = asked then none else store.get? asked := by
  simp [erase, get?, Std.TreeMap.getElem?_erase, Std.LawfulEqCmp.compare_eq_iff_eq]

/-- The number of objects in all buckets. -/
def size (store : MemoryStore) : Nat := store.objects.size

/-- Whether no object is stored. -/
def isEmpty (store : MemoryStore) : Bool := store.size == 0

/-- Whether a key is listed behind a token. The empty token stands before the first key. -/
def follows (token key : String) : Bool := token.isEmpty || decide (token < key)

/-- The entries of a bucket whose keys start with a prefix and follow a token, in order. -/
def matching (store : MemoryStore) (bucket keyPrefix token : String) : List ObjectEntry :=
  (store.objects.toList.filter fun (target, _) =>
    target.bucket == bucket && keyPrefix.toList.isPrefixOf target.key.toList
      && follows token target.key).map
    fun (target, data) => ObjectEntry.ofSize target.key data.size

/-- One page of a listing. Its token is its last key, and it has one only if keys are left. -/
def page (store : MemoryStore) (bucket keyPrefix : String) (token : Option String) : ListPage :=
  let found := store.matching bucket keyPrefix (token.getD "")
  let items := found.take store.pageSize
  -- A page that holds exactly what is left is the last.
  let truncated := decide (store.pageSize < found.length)
  { items, truncated
    token := if truncated then items.getLast?.map (·.key) else none }

/-- What an upload says of the object that it stored. -/
def uploaded (target : ObjectRef) (data : ByteArray) (now : Timestamp) : ObjectEntry :=
  { ObjectEntry.ofSize target.key data.size with lastModified := some now }

/-- Objects in memory as an object storage on a machine. A file that cannot be read changes nothing,
and deleting an object that is not there succeeds. -/
def store {σ : Type} (machine : Machine σ) : Store (MemoryStore × σ) where
  answer
    | .putFile source target, (objects, outside) =>
      match machine.files.answer (.contents source) outside with
      | (.error fault, outside) => (.error (.file fault), objects, outside)
      | (.ok data, outside) =>
        -- The time is looked at once the bytes are there.
        let (now, outside) := machine.clock outside
        (.ok (uploaded target data now), objects.insert target data, outside)
    | .listPage bucket keyPrefix token, (objects, outside) =>
      (.ok (objects.page bucket keyPrefix token), objects, outside)
    | .delete target, (objects, outside) => (.ok (), objects.erase target, outside)

section Answers

variable {σ : Type} {machine : Machine σ} {source : Word} {outside next : σ}

/-- A file that can be read is stored. -/
theorem answer_putFile_ok {data : ByteArray}
    (read : machine.files.answer (.contents source) outside = (.ok data, next))
    (objects : MemoryStore) (target : ObjectRef) :
    (store machine).answer (.putFile source target) (objects, outside) =
      (.ok (uploaded target data (machine.clock next).1), objects.insert target data,
        (machine.clock next).2) := by
  simp only [store, read]

/-- A file that cannot be read changes nothing. -/
theorem answer_putFile_error {fault : FileFault}
    (refused : machine.files.answer (.contents source) outside = (.error fault, next))
    (objects : MemoryStore) (target : ObjectRef) :
    (store machine).answer (.putFile source target) (objects, outside) =
      (.error (.file fault), objects, next) := by
  simp only [store, refused]

end Answers

end MemoryStore

end ObjectStorage
