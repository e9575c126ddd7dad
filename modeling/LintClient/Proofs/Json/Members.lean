import LintClient.Proofs.Json.Texts
import Mathlib.Data.List.Induction
import Mathlib.Data.List.Nodup

/-!
# Members of objects

An object may be written with a key more than once. What counts is the last value of each key; an
object that is written without repetitions is kept as it is.
-/

namespace LintClient.Json

open Text (Source)

/-- The value that is written last for a key. -/
def lastMember? (key : String) (pairs : List (String × Json)) : Option Json :=
  pairs.reverse.lookup key

/-- A key is found in the first pair, or it is looked up in the others. -/
theorem lookup_cons {α : Type} (name other : String) (value : α) (pairs : List (String × α)) :
    ((name, value) :: pairs).lookup other =
      if other = name then some value else pairs.lookup other := by
  by_cases same : other = name
  · simp [same]
  · have different : (other == name) = false := beq_eq_false_iff_ne.mpr same
    simp [List.lookup_cons, different, same]

/-- What is done to all values is done to the value of each key. -/
theorem lookup_map {α β : Type} (change : α → β) (key : String) (pairs : List (String × α)) :
    (pairs.map fun (name, value) => (name, change value)).lookup key =
      (pairs.lookup key).map change := by
  induction pairs with
  | nil => rfl
  | cons pair pairs inductionHypothesis =>
      obtain ⟨name, value⟩ := pair
      rw [List.map_cons, lookup_cons, lookup_cons, inductionHypothesis]
      split <;> rfl

/-- Setting the value of a key leaves the values of all others. -/
theorem lookup_insertMember (members : List (String × Json)) (key other : String) (value : Json) :
    (insertMember members key value).lookup other =
      if other = key then some value else members.lookup other := by
  induction members with
  | nil => exact lookup_cons key other value []
  | cons member members inductionHypothesis =>
      obtain ⟨name, old⟩ := member
      simp only [insertMember]
      split
      · next same =>
        subst same
        simp only [lookup_cons]
        split <;> rfl
      · next different =>
        rw [lookup_cons, lookup_cons, inductionHypothesis]
        by_cases here : other = name
        · simp [here, different]
        · simp [here]

/-- The pair that is written last is set last. -/
theorem membersOf_concat (pairs : List (String × Json)) (pair : String × Json) :
    membersOf (pairs ++ [pair]) = insertMember (membersOf pairs) pair.1 pair.2 := by
  simp [membersOf]

/-- The value of a key is the one that is written last. -/
theorem member?_membersOf (key : String) (pairs : List (String × Json)) :
    member? key (membersOf pairs) = lastMember? key pairs := by
  unfold member? lastMember?
  induction pairs using List.reverseRecOn with
  | nil => rfl
  | append_singleton pairs pair inductionHypothesis =>
      rw [membersOf_concat, lookup_insertMember, inductionHypothesis, List.reverse_append]
      exact (lookup_cons pair.1 key pair.2 pairs.reverse).symm

/-- A key that is not there yet is set at the end. -/
theorem insertMember_of_notMem {members : List (String × Json)} {key : String} (value : Json)
    (new : key ∉ members.map Prod.fst) :
    insertMember members key value = members ++ [(key, value)] := by
  induction members with
  | nil => rfl
  | cons member members inductionHypothesis =>
      rw [List.map_cons, List.mem_cons, not_or] at new
      rw [insertMember, if_neg (Ne.symm new.1), inductionHypothesis new.2, List.cons_append]

/-- Setting the value of a key adds the key at the end, unless it is there already. -/
theorem keys_insertMember (members : List (String × Json)) (key : String) (value : Json) :
    (insertMember members key value).map Prod.fst =
      if key ∈ members.map Prod.fst then members.map Prod.fst else members.map Prod.fst ++
        [key] := by
  induction members with
  | nil => rfl
  | cons member members inductionHypothesis =>
      obtain ⟨name, old⟩ := member
      by_cases same : name = key
      · simp [insertMember, same]
      · rw [insertMember, if_neg same, List.map_cons, inductionHypothesis]
        by_cases there : key ∈ members.map Prod.fst
        · simp [there]
        · simp [there, Ne.symm same]

/-- Every key is there once, in the order in which the keys are written first. -/
theorem keys_membersOf (pairs : List (String × Json)) :
    (membersOf pairs).map Prod.fst = (pairs.map Prod.fst).eraseDups := by
  induction pairs using List.reverseRecOn with
  | nil => rfl
  | append_singleton pairs pair inductionHypothesis =>
      rw [membersOf_concat, keys_insertMember, inductionHypothesis, List.map_append,
        List.eraseDups_append]
      by_cases there : pair.1 ∈ pairs.map Prod.fst
      · simp [there, List.removeAll]
      · simp [there, List.removeAll, List.eraseDups_cons]

/-- No key is there twice. -/
theorem nodup_keys_membersOf (pairs : List (String × Json)) :
    ((membersOf pairs).map Prod.fst).Nodup := by
  induction pairs using List.reverseRecOn with
  | nil => exact List.nodup_nil
  | append_singleton pairs pair inductionHypothesis =>
      rw [membersOf_concat, keys_insertMember]
      split
      · exact inductionHypothesis
      · next new =>
        exact inductionHypothesis.append (List.nodup_singleton _) (List.disjoint_singleton.mpr new)

/-- With different keys, every pair is found by its key. -/
theorem lookup_eq_some_iff_mem {α : Type} {pairs : List (String × α)}
    (different : (pairs.map Prod.fst).Nodup) {key : String} {value : α} :
    pairs.lookup key = some value ↔ (key, value) ∈ pairs := by
  rw [List.lookup_eq_some_iff]
  constructor
  · rintro ⟨before, after, rfl, -⟩
    exact List.mem_append_right _ List.mem_cons_self
  · intro there
    obtain ⟨before, after, rfl⟩ := List.append_of_mem there
    refine ⟨before, after, rfl, fun pair earlier => bne_iff_ne.mpr ?_⟩
    rw [List.map_append, List.nodup_append] at different
    exact (different.2.2 _ (List.mem_map_of_mem earlier) _ List.mem_cons_self).symm

/-- Every member is one of the pairs. -/
theorem mem_of_mem_membersOf {pairs : List (String × Json)} {member : String × Json}
    (there : member ∈ membersOf pairs) : member ∈ pairs := by
  have found : member? member.1 (membersOf pairs) = some member.2 :=
    (lookup_eq_some_iff_mem (nodup_keys_membersOf pairs)).mpr there
  rw [member?_membersOf, lastMember?, List.lookup_eq_some_iff] at found
  obtain ⟨before, after, same, -⟩ := found
  rw [← List.mem_reverse, same]
  exact List.mem_append_right _ List.mem_cons_self

/-- Members with different keys are kept as they are. -/
theorem membersOf_of_nodup {pairs : List (String × Json)} (different : (pairs.map Prod.fst).Nodup) :
    membersOf pairs = pairs := by
  induction pairs using List.reverseRecOn with
  | nil => rfl
  | append_singleton pairs pair inductionHypothesis =>
      rw [List.map_append, List.nodup_append] at different
      rw [membersOf_concat, inductionHypothesis different.1, insertMember_of_notMem]
      intro there
      exact different.2.2 _ there _ (List.mem_singleton_self _) rfl

/-- Pairs with keys that are made of characters make up an object with these keys. -/
theorem objectOf_ofText (pairs : List (String × Json)) :
    objectOf (pairs.map fun pair => (.ofString pair.1, pair.2)) = .object (membersOf pairs) := by
  have plain :
      (pairs.map fun pair => ((.ofString pair.1, pair.2) : Source × Json)).mapM plainMember? =
        some pairs := by
    induction pairs with
    | nil => rfl
    | cons pair pairs inductionHypothesis =>
        rw [List.map_cons, List.mapM_cons, inductionHypothesis]
        simp [plainMember?, Source.ofString]
  rw [objectOf, plain]

end LintClient.Json
