import ObjectStorage.MemoryStore

/-! The store in memory holds for each object what was last written to it, unless it was removed
since. -/

namespace ObjectStorage.MemoryStore

/-- Something that is done to the objects. -/
inductive Change where
  /-- Store bytes under a name. -/
  | insert (target : ObjectRef) (data : ByteArray)
  /-- Upload a local file. -/
  | put (source : Word) (target : ObjectRef)
  /-- Delete an object, which may not be there. -/
  | delete (target : ObjectRef)

/-- What came of something that was done to the objects. -/
inductive Deed where
  | wrote (target : ObjectRef) (data : ByteArray)
  | removed (target : ObjectRef)
  /-- The local file could not be read. -/
  | refused (fault : FileFault)

namespace Deed

/-- What a deed makes of an object: its bytes or their absence, if it is about this object. -/
def about? (asked : ObjectRef) : Deed → Option (Option ByteArray)
  | .wrote target data => if target = asked then some (some data) else none
  | .removed target => if target = asked then some none else none
  | .refused _ => none

end Deed

/-- What is held of an object after deeds on an empty store: the last that is about it decides. -/
def lastWritten (done : List Deed) (asked : ObjectRef) : Option ByteArray :=
  (done.reverse.findSome? (Deed.about? asked)).join

variable {σ : Type} (machine : Machine σ)

namespace Change

/-- The object that a change is about. -/
def target : Change → ObjectRef
  | .insert target _ => target
  | .put _ target => target
  | .delete target => target

/-- What comes of a change, as far as the machine decides it. -/
def deed : Change → σ → Deed × σ
  | .insert target data, outside => (.wrote target data, outside)
  | .put source target, outside =>
    match machine.files.answer (.contents source) outside with
    | (.error fault, next) => (.refused fault, next)
    | (.ok data, next) => (.wrote target data, (machine.clock next).2)
  | .delete target, outside => (.removed target, outside)

/-- Makes a change in the store, and gives the answer to it. -/
def carryOut : Change → MemoryStore × σ → Except StorageError Unit × MemoryStore × σ
  | .insert target data, (objects, outside) => (.ok (), objects.insert target data, outside)
  | .put source target, condition =>
    let answered := (store machine).answer (.putFile source target) condition
    (answered.1.map fun _ => (), answered.2)
  | .delete target, condition => (store machine).answer (.delete target) condition

end Change

/-- What comes of changes, one after another. -/
def deeds : List Change → σ → List Deed
  | [], _ => []
  | change :: rest, outside =>
    (change.deed machine outside).1 :: deeds rest (change.deed machine outside).2

/-- Makes changes in the store, one after another. -/
def carryOutAll (changes : List Change) (condition : MemoryStore × σ) : MemoryStore × σ :=
  changes.foldl (fun condition change => (change.carryOut machine condition).2) condition

section Step

variable {machine} {objects : MemoryStore} {outside : σ}

/-- A file that cannot be read leaves the store as it was. -/
theorem carryOut_put_refused {source : Word} {fault : FileFault} {next : σ}
    (refused : machine.files.answer (.contents source) outside = (.error fault, next))
    (target : ObjectRef) :
    (Change.put source target).carryOut machine (objects, outside) =
      (.error (.file fault), objects, next) := by
  -- The answer is the fault, and the objects are handed on.
  simp only [Change.carryOut, answer_putFile_error refused]
  rfl

/-- A file that can be read is stored. -/
theorem carryOut_put_read {source : Word} {data : ByteArray} {next : σ}
    (read : machine.files.answer (.contents source) outside = (.ok data, next))
    (target : ObjectRef) :
    (Change.put source target).carryOut machine (objects, outside) =
      (.ok (), objects.insert target data, (machine.clock next).2) := by
  -- The entry that is answered does not matter here.
  simp only [Change.carryOut, answer_putFile_ok read]
  rfl

variable (machine objects outside)

/-- A change does to the world outside what its deed does, and makes of an object what the deed
makes of it. -/
theorem carryOut_eq_deed (change : Change) :
    (change.carryOut machine (objects, outside)).2.2 = (change.deed machine outside).2 ∧
      ∀ asked, (change.carryOut machine (objects, outside)).2.1.get? asked =
        ((change.deed machine outside).1.about? asked).getD (objects.get? asked) := by
  cases change with
  | insert target data =>
    -- The look-up after an insertion asks the same as the deed: whether this is the object.
    refine ⟨rfl, fun asked => (get?_insert objects target asked data).trans ?_⟩
    rw [Change.deed, Deed.about?]
    split <;> rfl
  | delete target =>
    refine ⟨rfl, fun asked => (get?_erase objects target asked).trans ?_⟩
    rw [Change.deed, Deed.about?]
    split <;> rfl
  | put source target =>
    -- The machine decides whether the upload is an insertion or nothing at all.
    cases read : machine.files.answer (.contents source) outside with
    | mk answer next =>
      cases answer with
      -- A file that could not be read is refused, which is about no object.
      | error fault =>
        rw [carryOut_put_refused read, Change.deed]
        simp only [read]
        exact ⟨trivial, fun asked => rfl⟩
      | ok data =>
        rw [carryOut_put_read read, Change.deed]
        simp only [read]
        refine ⟨trivial, fun asked => (get?_insert objects target asked data).trans ?_⟩
        change _ = (if target = asked then some (some data) else none).getD _
        split <;> rfl

/-- A change makes nothing of other objects. -/
theorem carryOut_other {change : Change} {asked : ObjectRef} (other : asked ≠ change.target) :
    (change.carryOut machine (objects, outside)).2.1.get? asked = objects.get? asked := by
  -- Whatever the change does, it is not about these objects.
  have unconcerned : (change.deed machine outside).1.about? asked = none := by
    cases change with
    | insert target data => exact if_neg (Ne.symm other)
    | delete target => exact if_neg (Ne.symm other)
    -- An upload is about its target, or about nothing if it is refused.
    | put source target =>
      simp only [Change.deed]
      split
      · rfl
      · exact if_neg (Ne.symm other)
  rw [(carryOut_eq_deed machine objects outside change).2 asked, unconcerned]
  rfl

/-- A change leaves the size of pages as it is. -/
theorem pageSize_carryOut (change : Change) :
    (change.carryOut machine (objects, outside)).2.1.pageSize = objects.pageSize := by
  -- Every change works on the objects alone.
  cases change with
  | insert target data => rfl
  | delete target => rfl
  -- An upload that is read inserts an object, and one that is refused does nothing.
  | put source target =>
    cases read : machine.files.answer (.contents source) outside with
    | mk answer next =>
      cases answer with
      | error fault => rw [carryOut_put_refused read]
      | ok data =>
        rw [carryOut_put_read read]
        rfl

end Step

/-- After changes an object is what the last deed about it made of it, or what it was before. -/
theorem get?_carryOutAll (changes : List Change) (objects : MemoryStore) (outside : σ)
    (asked : ObjectRef) :
    (carryOutAll machine changes (objects, outside)).1.get? asked =
      ((deeds machine changes outside).reverse.findSome? (Deed.about? asked)).getD
        (objects.get? asked) := by
  -- The first deed decides only about objects that no later deed is about.
  induction changes generalizing objects outside with
  | nil => rfl
  | cons change changes ih =>
    obtain ⟨same, object⟩ := carryOut_eq_deed machine objects outside change
    have rest := ih (change.carryOut machine (objects, outside)).2.1
      (change.carryOut machine (objects, outside)).2.2
    rw [same, object] at rest
    rw [deeds, List.reverse_cons, List.findSome?_append]
    refine Eq.trans ?_ (rest.trans ?_)
    · rw [← same]
      rfl
    · cases List.findSome? (Deed.about? asked)
          (deeds machine changes (change.deed machine outside).2).reverse with
      | some decided => rfl
      | none =>
        -- No later deed is about the object, so the first one decides.
        rw [Option.none_or, Option.getD_none, List.findSome?_cons]
        cases (change.deed machine outside).1.about? asked <;> rfl

/-- Changes leave the size of pages as it is. -/
theorem pageSize_carryOutAll (changes : List Change) (condition : MemoryStore × σ) :
    (carryOutAll machine changes condition).1.pageSize = condition.1.pageSize := by
  -- One change after another leaves it as it is.
  induction changes generalizing condition with
  | nil => rfl
  | cons change changes ih =>
    exact (ih _).trans (pageSize_carryOut machine condition.1 condition.2 change)

/-- A store holds what a map says, and its size is the number of objects that the map has. -/
structure Refines (objects : MemoryStore) (held : ObjectRef → Option ByteArray) : Prop where
  get : ∀ target, objects.get? target = held target
  size : ∃ live : List ObjectRef, live.Nodup ∧
    (∀ target, target ∈ live ↔ (held target).isSome = true) ∧ objects.size = live.length

/-- A store holds what its look-up says. -/
theorem refines_get? (objects : MemoryStore) : objects.Refines objects.get? where
  get _ := rfl
  -- The objects in order are all that are held, each once.
  size := by
    refine ⟨objects.objects.toList.map Prod.fst, ?_, fun target => ?_, ?_⟩
    · -- Keys that stand apart in the order are not the same.
      rw [List.Nodup, List.pairwise_map]
      refine objects.objects.distinct_keys_toList.imp fun {first second} differ same => differ ?_
      rw [same]
      exact Std.ReflCmp.compare_self
    · -- An object stands in the list just if it is found.
      constructor
      · intro member
        obtain ⟨⟨_, data⟩, stored, rfl⟩ := List.mem_map.mp member
        exact Option.isSome_iff_exists.mpr
          ⟨data, Std.TreeMap.mem_toList_iff_getElem?_eq_some.mp stored⟩
      · intro found
        obtain ⟨data, found⟩ := Option.isSome_iff_exists.mp found
        exact List.mem_map.mpr
          ⟨(target, data), Std.TreeMap.mem_toList_iff_getElem?_eq_some.mpr found, rfl⟩
    · rw [List.length_map, Std.TreeMap.length_toList]
      rfl

/-- After changes to an empty store it holds what was last written. -/
theorem refines_lastWritten (pageSize : Nat) (changes : List Change) (outside : σ) :
    (carryOutAll machine changes (empty pageSize, outside)).1.Refines
      (lastWritten (deeds machine changes outside)) := by
  -- An empty store holds nothing, so only the deeds decide.
  have held : lastWritten (deeds machine changes outside) =
      (carryOutAll machine changes (empty pageSize, outside)).1.get? := by
    funext target
    rw [get?_carryOutAll, get?_empty, lastWritten]
    cases List.findSome? (Deed.about? target) (deeds machine changes outside).reverse <;> rfl
  rw [held]
  exact refines_get? _

/-- What single changes do to a store: one that is refused and the deletion of what is not there
leave it as it was, and no change is seen under another name. -/
structure Steady (objects : MemoryStore) : Prop where
  refused : ∀ source target outside fault next,
    machine.files.answer (.contents source) outside = (.error fault, next) →
    (Change.put source target).carryOut machine (objects, outside) =
      (.error (.file fault), objects, next)
  absent : ∀ target outside, objects.get? target = none →
    ∃ same, (Change.delete target).carryOut machine (objects, outside) = (.ok (), same, outside) ∧
      same.size = objects.size ∧ ∀ asked, same.get? asked = objects.get? asked
  others : ∀ (change : Change) outside asked, asked ≠ change.target →
    (change.carryOut machine (objects, outside)).2.1.get? asked = objects.get? asked

/-- Every store is steady. -/
theorem steady (objects : MemoryStore) : Steady machine objects where
  -- Two of the three were shown for all changes; deleting what is not there is looked at here.
  refused _ target _ _ _ refused := carryOut_put_refused refused target
  absent target outside absent := by
    refine ⟨objects.erase target, rfl, ?_, fun asked => ?_⟩
    · -- The size counts keys, and this one was not there.
      have missing : objects.objects.contains target = false := by
        rw [Std.TreeMap.contains_eq_isSome_getElem?,
          show objects.objects[target]? = none from absent]
        rfl
      rw [size, erase, Std.TreeMap.size_erase, missing]
      rfl
    · -- The look-up differs only for the deleted object, which was not found before either.
      rw [get?_erase]
      split
      · rename_i same
        rw [← same, absent]
      · rfl
  others _ _ _ other := carryOut_other machine objects _ other

end ObjectStorage.MemoryStore
