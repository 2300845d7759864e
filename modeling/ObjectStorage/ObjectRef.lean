/-! The name of an object: its bucket and its key. -/

namespace ObjectStorage

/-- An object in a bucket. -/
structure ObjectRef where
  bucket : String
  key : String
  deriving DecidableEq, Repr, Ord

/-- The bucket and the key with a slash between them. -/
def ObjectRef.display (target : ObjectRef) : String := target.bucket ++ "/" ++ target.key

end ObjectStorage
