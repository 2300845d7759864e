import Mathlib.Data.List.TakeWhile
import ObjectStorage.Connection

/-! The region of a cluster is the first label of its host, whatever stands around the host. -/

namespace ObjectStorage.Connection

/-- A label is the first of a host if it is not empty and the first dot of the host ends it. -/
def IsFirstLabel (label host : String) : Prop :=
  label ≠ "" ∧ '.' ∉ label.toList ∧ ∃ rest, host = label ++ "." ++ rest

/-- A cluster as it may be given: a host with at most one scheme in front of it, and perhaps a port
or a path behind it. -/
structure Location where
  scheme : String
  host : String
  tail : String
  schemed : scheme ∈ ["", "http://", "https://"]
  bare : ∀ c ∈ host.toList, c ≠ '/' ∧ c ≠ ':'
  parted : ∀ c ∈ tail.toList.head?, c = '/' ∨ c = ':'
  once : ∀ other ∈ ["http://", "https://"], ¬ other.toList <+: (host ++ tail).toList

/-- A location as it is written. -/
def Location.text (location : Location) : String :=
  location.scheme ++ location.host ++ location.tail

section Schemes

variable {stem text : List Char}

/-- A text that does not begin with a stem keeps all that it has. -/
theorem dropCopies_of_absent (absent : ¬ stem <+: text) : dropCopies stem text = text := by
  -- Copies are removed only while one stands in front.
  rw [dropCopies, if_neg fun copy => absent copy.2]

/-- A copy of a stem is removed from the front of a text, and those behind it as well. -/
theorem dropCopies_append (present : stem ≠ []) (text : List Char) :
    dropCopies stem (stem ++ text) = dropCopies stem text := by
  -- The stem is not empty, so this copy is removed and the search goes on behind it.
  have copy : stem ≠ [] ∧ stem <+: stem ++ text := ⟨present, List.prefix_append stem text⟩
  rw [dropCopies, if_pos copy, List.drop_left]

/-- The two schemes differ in their fifth letter, so no text begins with both. -/
theorem not_secure_prefix_plain (text : List Char) : ¬ secureScheme <+: plainScheme ++ text := by
  -- Written out as characters, the two differ where one has a colon and the other a letter.
  have secure : secureScheme = ['h', 't', 't', 'p', 's', ':', '/', '/'] := rfl
  have plain : plainScheme = ['h', 't', 't', 'p', ':', '/', '/'] := rfl
  simp [secure, plain]

/-- Where no scheme stands in front of a text, nothing is removed from it. -/
theorem dropSchemes_of_none (plain : ¬ plainScheme <+: text) (secure : ¬ secureScheme <+: text) :
    dropCopies plainScheme (dropCopies secureScheme text) = text := by
  -- Neither search finds anything to remove.
  rw [dropCopies_of_absent secure, dropCopies_of_absent plain]

/-- A single scheme in front of a text is removed, and nothing else. -/
theorem dropSchemes_of_one {scheme : String} (schemed : scheme ∈ ["", "http://", "https://"])
    (plain : ¬ plainScheme <+: text) (secure : ¬ secureScheme <+: text) :
    dropCopies plainScheme (dropCopies secureScheme (scheme.toList ++ text)) = text := by
  -- There may be no scheme, the plain one or the secure one.
  simp only [List.mem_cons, List.not_mem_nil, or_false] at schemed
  rcases schemed with rfl | rfl | rfl
  · exact dropSchemes_of_none plain secure
  · -- The copies of the other scheme are looked for first, and there are none.
    change dropCopies plainScheme (dropCopies secureScheme (plainScheme ++ text)) = text
    rw [dropCopies_of_absent (not_secure_prefix_plain text),
      dropCopies_append (by decide), dropCopies_of_absent plain]
  · -- The first search removes the one scheme, and behind it there is none.
    change dropCopies plainScheme (dropCopies secureScheme (secureScheme ++ text)) = text
    rw [dropCopies_append (by decide), dropSchemes_of_none plain secure]

end Schemes

/-- A text that ends where a stretch does is taken whole, if what is behind it does not belong to
the stretch. -/
theorem takeWhile_append_of_head? {inside : Char → Bool} {text rest : List Char}
    (all : ∀ c ∈ text, inside c = true) (ends : ∀ c ∈ rest.head?, inside c = false) :
    (text ++ rest).takeWhile inside = text := by
  -- The stretch goes through the whole text, and the first character behind it ends it.
  rw [List.takeWhile_append_of_pos all]
  cases rest with
  | nil => simp
  | cons c rest => simp [ends c rfl]

section Host

variable (location : Location)

/-- The host of a location is found in its text. -/
theorem host_text : host location.text.toList = location.host.toList := by
  -- At most one scheme stands in front of the host, and it is removed.
  have plain := location.once "http://" (by simp)
  have secure := location.once "https://" (by simp)
  rw [Location.text, String.append_assoc, String.toList_append, host,
    dropSchemes_of_one location.schemed plain secure, String.toList_append]
  -- The host has none of the two marks, and what is behind it begins with one.
  refine takeWhile_append_of_head? (fun c member => ?_) fun c first => ?_
  · simpa using location.bare c member
  · rcases location.parted c first with rfl | rfl <;> rfl

/-- The location of a host without anything around it. -/
def Location.alone : Location where
  scheme := ""
  host := location.host
  tail := ""
  schemed := by simp
  bare := location.bare
  parted := by simp
  once other among begins := by
    -- Every scheme has a slash, and the host has none.
    have slash : '/' ∈ other.toList := by
      simp only [List.mem_cons, List.not_mem_nil, or_false] at among
      rcases among with rfl | rfl <;> decide
    have within : '/' ∈ location.host.toList := by simpa using begins.subset slash
    exact (location.bare '/' within).1 rfl

end Host

section Label

/-- A host with a dot has what stands in front of the dot as its first label, unless nothing does.
-/
theorem firstLabel?_append {front : List Char} (absent : '.' ∉ front) (rest : List Char) :
    firstLabel? (front ++ '.' :: rest) = if front = [] then none else some front := by
  -- The stretch without a dot is just the front, and there is a dot behind it.
  have label : (front ++ '.' :: rest).takeWhile (· != '.') = front := by
    refine takeWhile_append_of_head? (fun c member => ?_) (by simp)
    have differ : c ≠ '.' := fun same => absent (same ▸ member)
    simpa using differ
  have dotted : (front ++ '.' :: rest).contains '.' = true := by simp
  simp only [firstLabel?, label, dotted, Bool.true_and]
  -- Only an empty front is no label.
  cases front <;> rfl

/-- A host without a dot has no first label. -/
theorem firstLabel?_of_notMem {host : List Char} (absent : '.' ∉ host) :
    firstLabel? host = none := by
  -- A label has to be ended by a dot.
  have undotted : host.contains '.' = false := by simpa using absent
  rw [firstLabel?, undotted, Bool.false_and, if_neg Bool.false_ne_true]

/-- What is found as the first label of a host is just that. -/
theorem firstLabel?_eq_some_iff {label host : String} :
    firstLabel? host.toList = some label.toList ↔ IsFirstLabel label host := by
  -- Read one way the host is cut at its first dot; the other way the cut is given.
  constructor
  · intro found
    by_cases dotted : '.' ∈ host.toList
    · -- The host is cut at its first dot, and the label is what stands in front of it.
      obtain ⟨front, rest, split, absent⟩ := List.eq_append_cons_of_mem dotted
      rw [split, firstLabel?_append absent] at found
      split at found
      case isTrue empty => exact nomatch found
      case isFalse present =>
        obtain rfl : front = label.toList := Option.some.inj found
        refine ⟨fun empty => present (by simp [empty]), absent, String.ofList rest, ?_⟩
        rw [← String.toList_inj, split]
        simp
    · rw [firstLabel?_of_notMem dotted] at found
      exact nomatch found
  · rintro ⟨present, absent, rest, rfl⟩
    have split : (label ++ "." ++ rest).toList = label.toList ++ '.' :: rest.toList := by simp
    rw [split, firstLabel?_append absent, if_neg (by simpa using present)]

/-- A region is the first label of a host if there is one. -/
theorem regionOf_of_isFirstLabel {cluster : List Char} {label : String}
    (first : IsFirstLabel label (String.ofList (host cluster))) :
    String.ofList (regionOf cluster) = label := by
  -- The label that is there is the one that is found.
  have found := firstLabel?_eq_some_iff.mpr first
  rw [String.toList_ofList] at found
  rw [regionOf, found, Option.getD_some, String.ofList_toList]

/-- Of a host without a first label the region is the default. -/
theorem regionOf_of_unlabelled {cluster : List Char}
    (none : ∀ label, ¬ IsFirstLabel label (String.ofList (host cluster))) :
    String.ofList (regionOf cluster) = "us-east-1" := by
  -- Where nothing is found the default is taken.
  cases found : firstLabel? (host cluster) with
  | none =>
    rw [regionOf, found]
    rfl
  | some label =>
    -- What was found would be a first label.
    refine absurd (firstLabel?_eq_some_iff.mp ?_) (none (String.ofList label))
    rw [String.toList_ofList, String.toList_ofList, found]

end Label

/-- The first label of a host has no mark in it that a host does not have. -/
theorem not_mem_of_isFirstLabel {cluster : List Char} {label : String}
    (first : IsFirstLabel label (String.ofList (host cluster))) :
    ∀ c ∈ label.toList, c ≠ '.' ∧ c ≠ '/' ∧ c ≠ ':' := by
  obtain ⟨-, absent, rest, split⟩ := first
  intro c member
  -- The label is a part of the host, which stops at the first slash or colon.
  have within : c ∈ host cluster := by
    rw [← String.toList_ofList (l := host cluster), split]
    simp [member]
  -- The label has no dot because the first dot ends it.
  have inside := List.mem_takeWhile_imp within
  exact ⟨fun same => absent (same ▸ member), by simpa using inside⟩

/-- The region of a cluster is the first label of its host, or the default if the host has none;
what stands around the host has no part in it. The region of any text is a label: it is not empty,
and has no dot, slash or colon in it. -/
theorem region_is_first_label (accessKey secretKey : String) :
    (∀ location : Location,
      let region := (ofCluster location.text accessKey secretKey).region
      region = (ofCluster location.host accessKey secretKey).region ∧
      (∀ label, IsFirstLabel label location.host → region = label) ∧
      ((∀ label, ¬ IsFirstLabel label location.host) → region = "us-east-1")) ∧
    ∀ cluster : String,
      let region := (ofCluster cluster accessKey secretKey).region
      region ≠ "" ∧ ∀ c ∈ region.toList, c ≠ '.' ∧ c ≠ '/' ∧ c ≠ ':' := by
  -- A location is about its host alone; any other text is about the host that is read from it.
  refine ⟨fun location => ?_, fun cluster => ?_⟩
  · have found : String.ofList (host location.text.toList) = location.host := by
      rw [host_text, String.ofList_toList]
    -- Without anything around it the host is read as it stands.
    have alone : host location.host.toList = location.host.toList := by
      have same := host_text location.alone
      simpa [Location.text, Location.alone] using same
    refine ⟨?_, fun label first => ?_, fun none => ?_⟩
    · simp only [ofCluster, regionOf, host_text, alone]
    · exact regionOf_of_isFirstLabel (found.symm ▸ first)
    · exact regionOf_of_unlabelled (found.symm ▸ none)
  · -- The region is a label of the host, or it is the default, which is a label too.
    by_cases labelled : ∃ label, IsFirstLabel label (String.ofList (host cluster.toList))
    · obtain ⟨label, first⟩ := labelled
      simp only [ofCluster, regionOf_of_isFirstLabel first]
      exact ⟨first.1, not_mem_of_isFirstLabel first⟩
    · simp [ofCluster, regionOf_of_unlabelled (not_exists.mp labelled)]

/-- A cluster with a scheme in front of its host, and a port and a path with a dot behind it. -/
def Location.ported : Location where
  scheme := "https://"
  host := "se-sto-1.linodeobjects.com"
  tail := ":8080/v1.0"
  schemed := by simp
  bare := by simp
  parted := by simp
  once := by simp

/-- A cluster whose host has no dot, in front of a path that has one. -/
def Location.dotless : Location where
  scheme := "http://"
  host := "localhost"
  tail := "/v1.0"
  schemed := by simp
  bare := by simp
  parted := by simp
  once := by simp

/-- The region of a host with a label and that of one without. -/
theorem region_is_first_label_dotted_path :
    (IsFirstLabel "se-sto-1" "se-sto-1.linodeobjects.com" ∧
      (ofCluster "https://se-sto-1.linodeobjects.com:8080/v1.0" "AKID" "SECRET").region =
        "se-sto-1") ∧
    (∀ label, ¬ IsFirstLabel label "localhost") ∧
      (ofCluster "http://localhost/v1.0" "AKID" "SECRET").region = "us-east-1" := by
  -- Both hosts are checked against what a first label is; the law does the rest.
  have labelled : IsFirstLabel "se-sto-1" "se-sto-1.linodeobjects.com" :=
    ⟨by decide, by decide, "linodeobjects.com", rfl⟩
  have unlabelled : ∀ label, ¬ IsFirstLabel label "localhost" := by
    rintro label ⟨-, -, rest, split⟩
    have dotted : '.' ∈ "localhost".toList := by
      rw [split]
      simp
    exact absurd dotted (by decide)
  have regions := (region_is_first_label "AKID" "SECRET").1
  exact ⟨⟨labelled, (regions .ported).2.1 _ labelled⟩, unlabelled,
    (regions .dotless).2.2 unlabelled⟩

end ObjectStorage.Connection
