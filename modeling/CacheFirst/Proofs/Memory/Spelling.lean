import CacheFirst.Proofs.Access.Spelling
import CacheFirst.Proofs.Memory.Alike
import CacheFirst.Proofs.Memory.StatusPlace

/-!
# Trees and the spelling of paths

A tree looks at a path through its key, and through the keys of the places above. Spellings of one
place have these in common, so a tree cannot tell them apart, and neither can the tiers in memory.

## Main results

* `Tree.status_matches`, `Tree.createFile_matches`, … : what can be asked and done of a tree.
* `Store.answer_normalized`, `Cache.answer_normalized`: one call to a tier.
* `Pair.ignoresSpelling_tiers`: the tiers in memory do not tell spellings apart.
-/

namespace CacheFirst.Memory

/-! ### Trees -/

namespace Tree

variable {path other : Path} (tree : Tree) (same : path.SamePlace other)

include same

theorem ensureAncestors_congr (recursive : Bool) :
    tree.ensureAncestors recursive path = tree.ensureAncestors recursive other := by
  rw [ensureAncestors, same.ancestors, ensureAncestors]

theorem find_matches : SameAnswer (tree.find path) (tree.find other) := by
  unfold find
  rw [get?_congr same.key]
  cases tree.get? other with
  | some entry => exact .ok HEq.rfl
  | none => exact .error (congrArg TierError.notFound same.normalizedText)

theorem status_matches : SameAnswer (tree.status path) (tree.status other) := by
  refine (tree.find_matches same).bind ?_
  rintro entry _ ⟨⟩
  rw [same.key]
  exact SameAnswer.refl _

theorem listing_matches : SameAnswer (tree.listing path) (tree.listing other) := by
  refine (tree.find_matches same).bind ?_
  rintro entry _ ⟨⟩
  rw [same.key]
  exact SameAnswer.refl _

theorem createFile_matches (options : CreateFileOptions) :
    SameAnswer (tree.createFile path options).1 (tree.createFile other options).1 ∧
      (tree.createFile path options).2 = (tree.createFile other options).2 := by
  unfold createFile
  rw [get?_congr same.key, tree.ensureAncestors_congr same, same.key]
  cases tree.get? other with
  | none => exact ⟨SameAnswer.refl _, rfl⟩
  | some existing =>
    dsimp only
    split
    · exact ⟨.error (congrArg TierError.alreadyExists same.normalizedText), rfl⟩
    · exact ⟨SameAnswer.refl _, rfl⟩

theorem createDirectory_matches (options : CreateDirectoryOptions) :
    SameAnswer (tree.createDirectory path options).1 (tree.createDirectory other options).1 ∧
      (tree.createDirectory path options).2 = (tree.createDirectory other options).2 := by
  unfold createDirectory
  rw [get?_congr same.key, tree.ensureAncestors_congr same, same.key]
  split
  · split
    · exact ⟨SameAnswer.refl _, rfl⟩
    · exact ⟨.error (congrArg TierError.alreadyExists same.normalizedText), rfl⟩
  · exact ⟨SameAnswer.refl _, rfl⟩

theorem rename_matches {target target' : Path} (same' : target.SamePlace target')
    (options : RenameOptions) :
    SameAnswer (tree.rename path target options).1 (tree.rename other target' options).1 ∧
      (tree.rename path target options).2 = (tree.rename other target' options).2 := by
  unfold rename
  rw [get?_congr same.key, get?_congr same'.key, tree.ensureAncestors_congr same', same.key,
    same'.key]
  split
  · exact ⟨.error (congrArg TierError.notFound same.normalizedText), rfl⟩
  · split
    · exact ⟨.error (congrArg TierError.alreadyExists same'.normalizedText), rfl⟩
    · exact ⟨SameAnswer.refl _, rfl⟩

theorem setAttributes_matches (changes : AttributeChanges) :
    SameAnswer (tree.setAttributes path changes).1 (tree.setAttributes other changes).1 ∧
      (tree.setAttributes path changes).2 = (tree.setAttributes other changes).2 := by
  unfold setAttributes
  rw [get?_congr same.key, same.key]
  split
  · exact ⟨SameAnswer.refl _, rfl⟩
  · exact ⟨.error (congrArg TierError.notFound same.normalizedText), rfl⟩

end Tree

/-! ### Tiers -/

/-- A store answers a call as it answers its normal form, and is the same store after it. -/
theorem Store.answer_normalized (store : Store) (call : StoreCall) :
    SameAnswer (store.answer call).1 (store.answer call.normalized).1 ∧
      (store.answer call).2 = (store.answer call.normalized).2 := by
  cases call with
  | getStatus path options => exact ⟨store.tree.status_matches path.samePlace_normalized, rfl⟩
  | listStatus path options => exact ⟨store.tree.listing_matches path.samePlace_normalized, rfl⟩
  | isPresent path options =>
    exact ⟨.ok (heq_of_eq (congrArg Option.isSome
      (Tree.get?_congr path.samePlace_normalized.key))), rfl⟩
  | openStream status options => exact ⟨SameAnswer.refl _, rfl⟩
  | openReader status options => exact ⟨SameAnswer.refl _, rfl⟩
  | createFile path options =>
    obtain ⟨made, tree⟩ := store.tree.createFile_matches path.samePlace_normalized options
    refine ⟨?_, congrArg (fun tree => ({ tree, calls := _ } : Store)) tree⟩
    show SameAnswer (Except.map _ (store.tree.createFile path options).1)
      (Except.map _ (store.tree.createFile path.normalized options).1)
    rw [Path.key_normalized]
    exact made.bind fun _ _ _ => SameAnswer.refl _
  | createDirectory path options =>
    obtain ⟨made, tree⟩ := store.tree.createDirectory_matches path.samePlace_normalized options
    exact ⟨made, congrArg (fun tree => ({ tree, calls := _ } : Store)) tree⟩
  | rename source target options =>
    obtain ⟨moved, tree⟩ :=
      store.tree.rename_matches source.samePlace_normalized target.samePlace_normalized options
    exact ⟨moved, congrArg (fun tree => ({ tree, calls := _ } : Store)) tree⟩
  | setAttributes path changes =>
    obtain ⟨changed, tree⟩ := store.tree.setAttributes_matches path.samePlace_normalized changes
    exact ⟨changed, congrArg (fun tree => ({ tree, calls := _ } : Store)) tree⟩

/-- A cache answers a call as it answers its normal form, and is the same cache after it. -/
theorem Cache.answer_normalized (cache : Cache) (tree : Tree) (call : CacheCall) :
    SameAnswer (cache.answer tree call).1 (cache.answer tree call.normalized).1 ∧
      (cache.answer tree call).2 = (cache.answer tree call.normalized).2 := by
  -- what is remembered is the operation and the options, and the paths play no part in it
  have remembered : (cache.answer tree call).2 = (cache.answer tree call.normalized).2 := by
    cases fault : cache.fault <;> cases call <;>
      simp [answer, fault, CacheCall.normalized, CacheCall.operation]
  refine ⟨?_, remembered⟩
  cases fault : cache.fault with
  | some error =>
    rw [answer_of_fault fault, answer_of_fault fault]
    exact .error rfl
  | none =>
    rw [answer_of_sound fault, answer_of_sound fault]
    cases call with
    | getStatus path options => exact tree.status_matches path.samePlace_normalized
    | listStatus path options => exact tree.listing_matches path.samePlace_normalized
    | resolveWorker path => exact .ok HEq.rfl
    | openStream status spec => exact SameAnswer.refl _
    | openReader status spec => exact SameAnswer.refl _

namespace Pair

/-- The tiers in memory do not tell spellings of one place apart. -/
theorem ignoresSpelling_tiers : IgnoresSpelling tiers where
  cache call pair := by
    obtain ⟨answer, after⟩ := pair.cache.answer_normalized pair.cachedTree call
    exact ⟨answer, congrArg (fun cache => { pair with cache }) after⟩
  store call pair := by
    rw [tiers_store, tiers_store]
    cases pair.storeFault with
    | some error => exact ⟨.error rfl, rfl⟩
    | none =>
      obtain ⟨answer, after⟩ := pair.store.answer_normalized call
      exact ⟨answer, congrArg (fun store => { pair with store }) after⟩

end Pair

end CacheFirst.Memory
