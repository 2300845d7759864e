import ObjectStorage.Proofs.Connection.Region

/-! The endpoint of a cluster names its scheme, and leads back to the same endpoint and region when
it is given as a cluster itself. -/

namespace ObjectStorage.Connection

/-- An address names its scheme if it begins with one of the two that there are. -/
def NamesScheme (address : String) : Prop :=
  (∃ rest, address = "http://" ++ rest) ∨ ∃ rest, address = "https://" ++ rest

section Address

variable {cluster : List Char}

/-- A scheme is looked for at the front, in both forms. -/
theorem hasScheme_iff :
    hasScheme cluster = true ↔ plainScheme <+: cluster ∨ secureScheme <+: cluster := by
  -- The two tests are made in the other order.
  rw [hasScheme, Bool.or_eq_true, List.isPrefixOf_iff_prefix, List.isPrefixOf_iff_prefix]
  exact Or.comm

/-- A cluster that names a scheme is its own address. -/
theorem address_of_hasScheme (schemed : hasScheme cluster = true) : address cluster = cluster :=
  -- The scheme that is there is kept.
  if_pos schemed

/-- A cluster that names no scheme gets the one of an encrypted address. -/
theorem address_of_not_hasScheme (bare : ¬ hasScheme cluster = true) :
    address cluster = secureScheme ++ cluster :=
  -- One scheme is put in front, and nothing else changes.
  if_neg bare

variable (cluster)

/-- Every address names a scheme. -/
theorem hasScheme_address : hasScheme (address cluster) = true := by
  by_cases schemed : hasScheme cluster = true
  · -- The scheme of the cluster was kept.
    rw [address_of_hasScheme schemed]
    exact schemed
  · -- A scheme was put in front.
    rw [address_of_not_hasScheme schemed]
    exact hasScheme_iff.mpr (.inr (List.prefix_append secureScheme cluster))

/-- The address of an address is that address. -/
theorem address_address : address (address cluster) = address cluster :=
  -- An address names a scheme, so it is taken as it is.
  address_of_hasScheme (hasScheme_address cluster)

/-- Only a cluster that names a scheme is its own address. -/
theorem address_eq_self_iff : address cluster = cluster ↔ hasScheme cluster = true := by
  -- One direction looks at the address, which names a scheme; the other keeps what is there.
  constructor
  · intro same
    -- Addresses name a scheme, and this cluster is one.
    have named := hasScheme_address cluster
    rw [same] at named
    exact named
  · exact address_of_hasScheme

/-- The host of a cluster is that of its address. -/
theorem host_address : host (address cluster) = host cluster := by
  -- A scheme is removed before the host is read, so one more in front makes no difference.
  by_cases schemed : hasScheme cluster = true
  · rw [address_of_hasScheme schemed]
  · -- The address has one scheme in front of a cluster that has none, so just that one is removed.
    have bare : ¬ (plainScheme <+: cluster ∨ secureScheme <+: cluster) :=
      fun begins => schemed (hasScheme_iff.mpr begins)
    obtain ⟨plain, secure⟩ := not_or.mp bare
    have among : "https://" ∈ ["", "http://", "https://"] := by simp
    have removed : dropCopies plainScheme (dropCopies secureScheme (secureScheme ++ cluster)) =
        cluster :=
      dropSchemes_of_one among plain secure
    rw [address_of_not_hasScheme schemed, host, removed, host, dropSchemes_of_none plain secure]

/-- The region of a cluster is that of its address. -/
theorem regionOf_address : regionOf (address cluster) = regionOf cluster := by
  -- The region is read from the host alone.
  rw [regionOf, host_address, regionOf]

end Address

/-- An address names a scheme if one is found at its front. -/
theorem namesScheme_iff {address : String} :
    NamesScheme address ↔ hasScheme address.toList = true := by
  -- What is behind the scheme is the rest of the text.
  have begins : ∀ scheme : String,
      (∃ rest, address = scheme ++ rest) ↔ scheme.toList <+: address.toList := by
    intro scheme
    constructor
    · rintro ⟨rest, rfl⟩
      rw [String.toList_append]
      exact List.prefix_append scheme.toList rest.toList
    · rintro ⟨rest, split⟩
      refine ⟨String.ofList rest, ?_⟩
      rw [← String.toList_inj, String.toList_append, String.toList_ofList, split]
  -- Both forms of a scheme are looked for, on either side.
  rw [NamesScheme, begins, begins, hasScheme_iff]
  rfl

section Endpoint

variable (cluster accessKey secretKey : String)

/-- The endpoint of a cluster is its address. -/
theorem toList_endpoint :
    (ofCluster cluster accessKey secretKey).endpoint.toList = address cluster.toList :=
  -- The endpoint is made of the characters of the address.
  String.toList_ofList

/-- The endpoint of a cluster is the cluster, or the cluster behind the scheme of an encrypted
address. -/
theorem endpoint_eq_or :
    (ofCluster cluster accessKey secretKey).endpoint = cluster ∨
      (ofCluster cluster accessKey secretKey).endpoint = "https://" ++ cluster := by
  -- Both sides are compared as characters, of which the address is made.
  rw [← String.toList_inj, ← String.toList_inj, String.toList_append, toList_endpoint]
  by_cases schemed : hasScheme cluster.toList = true
  · exact .inl (address_of_hasScheme schemed)
  · exact .inr (address_of_not_hasScheme schemed)

end Endpoint

/-- The endpoint of a cluster is settled: given as a cluster it has the same endpoint and the same
region again. It names a scheme always, and it is the cluster itself just if that names one;
otherwise it is the cluster behind the scheme of an encrypted address. -/
theorem endpoint_is_settled (cluster accessKey secretKey : String) :
    ofCluster (ofCluster cluster accessKey secretKey).endpoint accessKey secretKey =
        ofCluster cluster accessKey secretKey ∧
      let endpoint := (ofCluster cluster accessKey secretKey).endpoint
      NamesScheme endpoint ∧ (endpoint = cluster ↔ NamesScheme cluster) ∧
        (endpoint = cluster ∨ endpoint = "https://" ++ cluster) := by
  -- All four parts are about the address, which the endpoint is.
  have resolved := toList_endpoint cluster accessKey secretKey
  refine ⟨?_, ?_, ?_, endpoint_eq_or cluster accessKey secretKey⟩
  · -- Address and region are read from the endpoint as they are from the cluster.
    rw [ofCluster, resolved, address_address, regionOf_address]
    rfl
  · -- Every address names a scheme, whatever was given.
    rw [namesScheme_iff, resolved]
    exact hasScheme_address cluster.toList
  · -- Texts are equal if their characters are, and those of the endpoint are the address.
    rw [namesScheme_iff, ← String.toList_inj, resolved]
    exact address_eq_self_iff cluster.toList

end ObjectStorage.Connection
