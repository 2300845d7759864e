import ObjectStorage.HumanSize
import ObjectStorage.Json.Value
import ObjectStorage.Timestamp

/-! What is known of a stored object, and the pages that listings come in. -/

namespace ObjectStorage

/-- What a listing or an upload says of an object. -/
structure ObjectEntry where
  key : String
  sizeBytes : Option Int := none
  sizeHuman : Option String := none
  lastModified : Option Timestamp := none
  /-- The entity tag, without quotes around it. -/
  etag : Option String := none
  deriving DecidableEq

namespace ObjectEntry

/-- The entry of an object of known size. A negative size is shown as zero. -/
def ofSize (key : String) (size : Int) : ObjectEntry where
  key
  sizeBytes := some size
  sizeHuman := some (HumanSize.text size.toNat)

/-- A member of a JSON object, unless its value is absent. -/
def member {α : Type} (name : String) (toJson : α → Json) (value : Option α) :
    List (String × Json) :=
  (value.map fun present => (name, toJson present)).toList

/-- The JSON form of an entry. Absent fields are left out. -/
def toJson (entry : ObjectEntry) : Json :=
  .object <|
    ("key", .string entry.key)
      -- The order is the one that the fields are declared in.
      :: member "size_bytes" .number entry.sizeBytes
      ++ member "size_human" .string entry.sizeHuman
      ++ member "last_modified" (fun time => .string time.text) entry.lastModified
      ++ member "etag" .string entry.etag

end ObjectEntry

/-- One page of a listing. -/
structure ListPage where
  items : List ObjectEntry
  /-- Whether the service holds more keys behind this page. -/
  truncated : Bool
  /-- What the next page has to be asked for with. -/
  token : Option String
  deriving DecidableEq

end ObjectStorage
