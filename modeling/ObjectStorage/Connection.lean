import ObjectStorage.StorageError
import ObjectStorage.Text.Escaped

/-! The settings that a client connects with: where the cluster is, the region that its requests are
signed for, and the key pair. -/

namespace ObjectStorage

/-- The settings for one cluster. -/
structure Connection where
  /-- The address of the cluster, scheme included. -/
  endpoint : String
  /-- The region that requests are signed for. -/
  region : String
  accessKey : String
  secretKey : String
  deriving DecidableEq

namespace Connection

/-- The scheme of an encrypted address. -/
def secureScheme : List Char := "https://".toList

/-- The scheme of an unencrypted address. -/
def plainScheme : List Char := "http://".toList

/-- The region of a cluster whose host names none. -/
def defaultRegion : List Char := "us-east-1".toList

/-- Whether an address names its scheme. -/
def hasScheme (address : List Char) : Bool :=
  secureScheme.isPrefixOf address || plainScheme.isPrefixOf address

/-- The address of a cluster: its own if it names a scheme, else its name behind `https://`. -/
def address (cluster : List Char) : List Char :=
  if hasScheme cluster then cluster else secureScheme ++ cluster

/-- Removes every copy of a stem from the front of a text. -/
def dropCopies (stem text : List Char) : List Char :=
  if stem ≠ [] ∧ stem <+: text then dropCopies stem (text.drop stem.length) else text
  termination_by text.length
  decreasing_by
    -- A stem that is not empty shortens the text.
    rename_i copy
    have stemLength := List.length_pos_iff.mpr copy.1
    have textLength := copy.2.length_le
    rw [List.length_drop]
    omega

/-- The host of a cluster: what stands between the schemes and the first slash or colon. -/
def host (cluster : List Char) : List Char :=
  (dropCopies plainScheme (dropCopies secureScheme cluster)).takeWhile
    fun c => c != '/' && c != ':'

/-- The first label of a host, if a dot ends it and it is not empty. -/
def firstLabel? (host : List Char) : Option (List Char) :=
  -- A host without a dot is a name by itself, not a region.
  let label := host.takeWhile (· != '.')
  if host.contains '.' && !label.isEmpty then some label else none

/-- The region of a cluster: the first label of its host. -/
def regionOf (cluster : List Char) : List Char :=
  (firstLabel? (host cluster)).getD defaultRegion

/-- The settings for a cluster, given by a host name or an address, and a key pair. -/
def ofCluster (cluster accessKey secretKey : String) : Connection where
  endpoint := String.ofList (address cluster.toList)
  region := String.ofList (regionOf cluster.toList)
  accessKey
  secretKey

/-- The variable that names the cluster. -/
def clusterVariable : String := "LINODE_CLUSTER"

/-- The variable that holds the access key. -/
def accessKeyVariable : String := "LINODE_CLI_OBJ_ACCESS_KEY"

/-- The variable that holds the secret key. -/
def secretKeyVariable : String := "LINODE_CLI_OBJ_SECRET_KEY"

/-- The error for a variable that is not set. -/
def notSet (variableName : String) : StorageError :=
  .configuration (variableName ++ " is not set")

/-- An attempt to read the settings: the variables asked for, in order, and what came of it. -/
structure Reading where
  asked : List String
  result : Except StorageError Connection

/-- Reads the settings from the environment. Only presence counts, and the first variable that is
missing is reported, without asking for those after it. -/
def fromEnvironment (lookup : String → Option String) : Reading :=
  match lookup clusterVariable with
  | none => ⟨[clusterVariable], .error (notSet clusterVariable)⟩
  | some cluster =>
    match lookup accessKeyVariable with
    | none => ⟨[clusterVariable, accessKeyVariable], .error (notSet accessKeyVariable)⟩
    | some accessKey =>
      -- Only the last variable is asked for in both outcomes.
      let asked := [clusterVariable, accessKeyVariable, secretKeyVariable]
      match lookup secretKeyVariable with
      | none => ⟨asked, .error (notSet secretKeyVariable)⟩
      | some secretKey => ⟨asked, .ok (ofCluster cluster accessKey secretKey)⟩

/-- The settings for a diagnostic, without the secret. -/
def diagnostic (connection : Connection) : String :=
  "StorageConfig \x7b endpoint: " ++ Text.quoted connection.endpoint
    ++ ", region: " ++ Text.quoted connection.region
    ++ ", access_key: " ++ Text.quoted connection.accessKey
    ++ ", secret_key: " ++ Text.quoted "<redacted>" ++ " \x7d"

end Connection

end ObjectStorage
