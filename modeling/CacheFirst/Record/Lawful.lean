import CacheFirst.Record.Metadata
import CacheFirst.Record.Settings

/-!
# What is written can be read again

For every type of value that is read from and written as JSON, reading what was written gives the
value back. Nothing but an unset optional value is written as `null`, so an optional value can be
told from the value inside it.

## Main definitions

* `LawfulRecord`: types for which reading undoes writing.

## Main results

* `fieldValues?_ofFields`: an object gives exactly the fields it was made of.
* `LawfulRecord.of_fields`: records made of named fields are lawful if their fields are.
* The instances of `LawfulRecord`, for plain values, option sets, metadata and configured defaults.

A path is not among them: what lies above a relative path of one name is written as nothing, and
nothing is no path.
-/

namespace CacheFirst

open Json (Value)

/-- Types for which reading undoes writing, and that are never written as `null`. -/
class LawfulRecord (α : Type) [Decode α] [Encode α] : Prop where
  decode_encode (value : α) : decode (encode value) = some value
  encode_ne_null (value : α) : encode value ≠ .null

export LawfulRecord (decode_encode encode_ne_null)

attribute [simp] LawfulRecord.decode_encode

/-! ### Plain values -/

instance : LawfulRecord Bool where
  decode_encode _ := rfl
  encode_ne_null _ := nofun

instance : LawfulRecord String where
  decode_encode _ := rfl
  encode_ne_null _ := nofun

theorem boundedNat?_int {bound n : Nat} (below : n < bound) :
    boundedNat? bound (.int n) = some n := by
  have : (n : Int) ≤ (bound : Int) - 1 := by omega
  simp [boundedNat?, boundedInt?, this]

instance : LawfulRecord UInt16 where
  decode_encode value := by
    simp only [decode, encode, boundedNat?_int value.toNat_lt, Option.map_some,
      UInt16.ofNat_toNat]
  encode_ne_null _ := nofun

instance : LawfulRecord UInt32 where
  decode_encode value := by
    simp only [decode, encode, boundedNat?_int value.toNat_lt, Option.map_some,
      UInt32.ofNat_toNat]
  encode_ne_null _ := nofun

instance : LawfulRecord UInt64 where
  decode_encode value := by
    simp only [decode, encode, boundedNat?_int value.toNat_lt, Option.map_some,
      UInt64.ofNat_toNat]
  encode_ne_null _ := nofun

instance : LawfulRecord Int64 where
  decode_encode value := by
    have low := value.minValue_le_toInt
    have high := value.toInt_le
    simp only [decode, encode, boundedInt?, low, high, and_self, ↓reduceIte, Option.map_some,
      Int64.ofInt_toInt]
  encode_ne_null _ := nofun

/-- What each element is written as is read, one after the other. -/
theorem mapM_map_eq_some {α β : Type} {write : α → β} {read : β → Option α} {elements : List α}
    (same : ∀ element ∈ elements, read (write element) = some element) :
    (elements.map write).mapM read = some elements := by
  induction elements with
  | nil => rfl
  | cons first others step =>
    rw [List.forall_mem_cons] at same
    rw [List.map_cons, List.mapM_cons, same.1, step same.2]
    rfl

instance {α : Type} [Decode α] [Encode α] [LawfulRecord α] : LawfulRecord (List α) where
  decode_encode _ := mapM_map_eq_some fun value _ => decode_encode value
  encode_ne_null _ := nofun

@[simp]
theorem decode_encode_option {α : Type} [Decode α] [Encode α] [LawfulRecord α]
    (value : Option α) : decode (encode value) = some value := by
  cases value with
  | none => rfl
  | some value =>
    have notNull := encode_ne_null value
    have same := decode_encode value
    simp [encode, decode, same]

@[simp]
theorem orElse_some_encode_option {α : Type} [Decode α] [Encode α] [LawfulRecord α]
    (default value : Option α) : orElse default (some (encode value)) = some value := by
  simp [orElse]

@[simp]
theorem orElse_some_encode {α : Type} [Decode α] [Encode α] [LawfulRecord α]
    (default value : α) : orElse default (some (encode value)) = some value := by
  simp [orElse]

@[simp]
theorem required_some_encode {α : Type} [Decode α] [Encode α] [LawfulRecord α] (value : α) :
    required (some (encode value)) = some value := by
  simp [required]

/-! ### Fields -/

/-- An object gives each field it was made of. -/
theorem fieldValue?_of_mem {fields : List (String × Value)} {name : String} {value : Value}
    (distinct : (fields.map Prod.fst).Nodup) (member : (name, value) ∈ fields) :
    fieldValue? (fields.map fun (name, value) => (some name, value)) name = some (some value) := by
  induction fields with
  | nil => simp at member
  | cons field others ih =>
    obtain ⟨first, given⟩ := field
    simp only [List.map_cons, List.nodup_cons] at distinct
    unfold fieldValue? at ih ⊢
    rcases List.mem_cons.mp member with same | later
    · cases same
      -- the name does not come again, so there is one member to choose from
      have noOther : (others.map fun (name, value) => (some name, value)).filter
          (fun member => member.1 == some name) = [] := by
        simp only [List.filter_eq_nil_iff, List.mem_map, Prod.exists]
        rintro _ ⟨other, value, mem, rfl⟩ equal
        have : other = name := by simpa using equal
        exact distinct.1 (this ▸ List.mem_map_of_mem mem)
      simp [noOther]
    · have : first ≠ name := fun equal => distinct.1 (equal ▸ List.mem_map_of_mem later)
      simpa [this] using ih distinct.2 later

/-- An object gives exactly the fields it was made of. -/
theorem fieldValues?_ofFields {names : List String} {fields : List (String × Value)}
    (named : fields.map Prod.fst = names) (distinct : names.Nodup) :
    fieldValues? names (.ofFields fields) = some (fields.map fun field => some field.2) := by
  subst named
  have readable : (fields.map fun (name, value) => (some name, value)).all (·.1.isSome) = true := by
    simp
  -- the names are gone through one by one, but each is looked up in the whole object
  have read (part : List (String × Value)) (within : ∀ field ∈ part, field ∈ fields) :
      (part.map Prod.fst).mapM
          (fieldValue? (fields.map fun (name, value) => (some name, value))) =
        some (part.map fun field => some field.2) := by
    induction part with
    | nil => rfl
    | cons field rest ih =>
      have first := fieldValue?_of_mem distinct (within field (by simp))
      have others := ih fun other member => within other (by simp [member])
      simp [first, others]
  simp only [Value.ofFields, fieldValues?, readable, ↓reduceIte]
  exact read fields fun _ member => member

theorem decode_ofFields {α : Type} [Decode α] {names : List String}
    {fields : List (String × Value)} {build : List (Option Value) → Option α}
    (read : ∀ given, decode given = (fieldValues? names given).bind build)
    (named : fields.map Prod.fst = names) (distinct : names.Nodup) :
    decode (.ofFields fields) = build (fields.map fun field => some field.2) := by
  rw [read, fieldValues?_ofFields named distinct, Option.bind_some]

/-- Records that are written field by field, and put together from these fields again. -/
theorem LawfulRecord.of_fields {α : Type} [Decode α] [Encode α] {names : List String}
    {fields : α → List (String × Value)} {build : List (Option Value) → Option α}
    (written : ∀ record : α, encode record = .ofFields (fields record))
    (read : ∀ given, decode given = (fieldValues? names given).bind build)
    (named : ∀ record, (fields record).map Prod.fst = names) (distinct : names.Nodup)
    (built : ∀ record, build ((fields record).map fun field => some field.2) = some record) :
    LawfulRecord α where
  decode_encode record := by
    rw [written, decode_ofFields read (named record) distinct, built]
  encode_ne_null record := by
    rw [written]
    exact nofun

/-! ### Option sets -/

instance : LawfulRecord ReadType where
  decode_encode value := by cases value <;> decide
  encode_ne_null _ := nofun

instance : LawfulRecord StatusOptions :=
  .of_fields (fun _ => rfl) (fun _ => rfl) (fun _ => rfl) (by decide) fun _ => by simp

instance : LawfulRecord ListOptions :=
  .of_fields (fun _ => rfl) (fun _ => rfl) (fun _ => rfl) (by decide) fun _ => by simp

instance : LawfulRecord ExistsOptions :=
  .of_fields (fun _ => rfl) (fun _ => rfl) (fun _ => rfl) (by decide) fun _ => by simp

instance : LawfulRecord OpenOptions :=
  .of_fields (fun _ => rfl) (fun _ => rfl) (fun _ => rfl) (by decide) fun _ => by simp

instance : LawfulRecord CreateFileOptions :=
  .of_fields (fun _ => rfl) (fun _ => rfl) (fun _ => rfl) (by decide) fun _ => by simp

instance : LawfulRecord CreateDirectoryOptions :=
  .of_fields (fun _ => rfl) (fun _ => rfl) (fun _ => rfl) (by decide) fun _ => by simp

instance : LawfulRecord RenameOptions :=
  .of_fields (fun _ => rfl) (fun _ => rfl) (fun _ => rfl) (by decide) fun _ => by simp

instance : LawfulRecord AttributeChanges :=
  .of_fields (fun _ => rfl) (fun _ => rfl) (fun _ => rfl) (by decide) fun _ => by simp

instance : LawfulRecord Defaults :=
  .of_fields (fun _ => rfl) (fun _ => rfl) (fun _ => rfl) (by decide) fun _ => by simp

/-! ### Metadata -/

instance : LawfulRecord Status :=
  .of_fields (fun _ => rfl) (fun _ => rfl) (fun _ => rfl) (by decide) fun _ => by simp

instance : LawfulRecord Worker :=
  .of_fields (fun _ => rfl) (fun _ => rfl) (fun _ => rfl) (by decide) fun _ => by simp

instance : LawfulRecord BlockSpec :=
  .of_fields (fun _ => rfl) (fun _ => rfl) (fun _ => rfl) (by decide) fun _ => by simp

instance : LawfulRecord Block :=
  .of_fields (fun _ => rfl) (fun _ => rfl) (fun _ => rfl) (by decide) fun _ => by simp

end CacheFirst
