import CacheFirst.Settings

/-!
# Option sets field by field

All option sets are layered alike: of two layers, the upper one has the say in every field that it
sets, and the lower one in the rest. What has to be known of a record for this is which fields it has
and how they are read.

## Main definitions

* `OptionFields`: an option set told by its fields, with the laws of layering for each of them.

## Main results

* Instances for the options of each operation, and for those that can be configured together.
-/

namespace CacheFirst

/-- An option set that is told by its fields, each of which may be left unset. -/
class OptionFields (α : Type) [OptionSet α] where
  /-- The names of the fields. -/
  Field : Type
  /-- What a field holds if it is set. -/
  Value : Field → Type
  field? (options : α) (field : Field) : Option (Value field)
  /-- There are no other fields. -/
  ext {options other : α} (same : ∀ field, field? options field = field? other field) :
    options = other
  field?_unset (field : Field) : field? OptionSet.unset field = none
  /-- In each field the upper layer has the say, if it sets it. -/
  field?_override (base top : α) (field : Field) :
    field? (OptionSet.override base top) field = (field? top field).or (field? base field)

/-- The fields of `StatusOptions`. -/
inductive StatusOptions.Field
  | syncInterval
  | updateTimestamps

/-- What a field of `StatusOptions` holds. -/
abbrev StatusOptions.Field.Value : Field → Type
  | .syncInterval => Int64
  | .updateTimestamps => Bool

instance : OptionFields StatusOptions where
  Field := StatusOptions.Field
  Value := StatusOptions.Field.Value
  field? options
    | .syncInterval => options.syncIntervalMs
    | .updateTimestamps => options.updateTimestamps
  ext {options other} same := by
    obtain ⟨_, _⟩ := options
    obtain ⟨_, _⟩ := other
    congr
    · exact same .syncInterval
    · exact same .updateTimestamps
  field?_unset field := by cases field <;> rfl
  field?_override base top field := by cases field <;> rfl

/-- The fields of `ListOptions`. -/
inductive ListOptions.Field
  | recursive
  | syncInterval

/-- What a field of `ListOptions` holds. -/
abbrev ListOptions.Field.Value : Field → Type
  | .recursive => Bool
  | .syncInterval => Int64

instance : OptionFields ListOptions where
  Field := ListOptions.Field
  Value := ListOptions.Field.Value
  field? options
    | .recursive => options.recursive
    | .syncInterval => options.syncIntervalMs
  ext {options other} same := by
    obtain ⟨_, _⟩ := options
    obtain ⟨_, _⟩ := other
    congr
    · exact same .recursive
    · exact same .syncInterval
  field?_unset field := by cases field <;> rfl
  field?_override base top field := by cases field <;> rfl

/-- The fields of `OpenOptions`. -/
inductive OpenOptions.Field
  | readType
  | maxConcurrency

/-- What a field of `OpenOptions` holds. -/
abbrev OpenOptions.Field.Value : Field → Type
  | .readType => ReadType
  | .maxConcurrency => UInt32

instance : OptionFields OpenOptions where
  Field := OpenOptions.Field
  Value := OpenOptions.Field.Value
  field? options
    | .readType => options.readType
    | .maxConcurrency => options.maxConcurrency
  ext {options other} same := by
    obtain ⟨_, _⟩ := options
    obtain ⟨_, _⟩ := other
    congr
    · exact same .readType
    · exact same .maxConcurrency
  field?_unset field := by cases field <;> rfl
  field?_override base top field := by cases field <;> rfl

/-- The only field of `ExistsOptions`. -/
inductive ExistsOptions.Field
  | syncInterval

instance : OptionFields ExistsOptions where
  Field := ExistsOptions.Field
  Value _ := Int64
  field? options
    | .syncInterval => options.syncIntervalMs
  ext {options other} same := by
    obtain ⟨_⟩ := options
    obtain ⟨_⟩ := other
    congr
    exact same .syncInterval
  field?_unset field := by cases field; rfl
  field?_override base top field := by cases field; rfl

/-- The fields of `CreateFileOptions`. -/
inductive CreateFileOptions.Field
  | recursive
  | overwrite
  | mode

/-- What a field of `CreateFileOptions` holds. -/
abbrev CreateFileOptions.Field.Value : Field → Type
  | .recursive => Bool
  | .overwrite => Bool
  | .mode => UInt32

instance : OptionFields CreateFileOptions where
  Field := CreateFileOptions.Field
  Value := CreateFileOptions.Field.Value
  field? options
    | .recursive => options.recursive
    | .overwrite => options.overwrite
    | .mode => options.mode
  ext {options other} same := by
    obtain ⟨_, _, _⟩ := options
    obtain ⟨_, _, _⟩ := other
    congr
    · exact same .recursive
    · exact same .overwrite
    · exact same .mode
  field?_unset field := by cases field <;> rfl
  field?_override base top field := by cases field <;> rfl

/-- The fields of `CreateDirectoryOptions`. -/
inductive CreateDirectoryOptions.Field
  | recursive
  | allowExists
  | mode

/-- What a field of `CreateDirectoryOptions` holds. -/
abbrev CreateDirectoryOptions.Field.Value : Field → Type
  | .recursive => Bool
  | .allowExists => Bool
  | .mode => UInt32

instance : OptionFields CreateDirectoryOptions where
  Field := CreateDirectoryOptions.Field
  Value := CreateDirectoryOptions.Field.Value
  field? options
    | .recursive => options.recursive
    | .allowExists => options.allowExists
    | .mode => options.mode
  ext {options other} same := by
    obtain ⟨_, _, _⟩ := options
    obtain ⟨_, _, _⟩ := other
    congr
    · exact same .recursive
    · exact same .allowExists
    · exact same .mode
  field?_unset field := by cases field <;> rfl
  field?_override base top field := by cases field <;> rfl

/-- The only field of `RenameOptions`. -/
inductive RenameOptions.Field
  | overwrite

instance : OptionFields RenameOptions where
  Field := RenameOptions.Field
  Value _ := Bool
  field? options
    | .overwrite => options.overwrite
  ext {options other} same := by
    obtain ⟨_⟩ := options
    obtain ⟨_⟩ := other
    congr
    exact same .overwrite
  field?_unset field := by cases field; rfl
  field?_override base top field := by cases field; rfl

/-- The fields of `AttributeChanges`. -/
inductive AttributeChanges.Field
  | mode
  | owner
  | group
  | pinned

/-- What a field of `AttributeChanges` holds. -/
abbrev AttributeChanges.Field.Value : Field → Type
  | .mode => UInt32
  | .owner => String
  | .group => String
  | .pinned => Bool

instance : OptionFields AttributeChanges where
  Field := AttributeChanges.Field
  Value := AttributeChanges.Field.Value
  field? changes
    | .mode => changes.mode
    | .owner => changes.owner
    | .group => changes.group
    | .pinned => changes.pinned
  ext {changes other} same := by
    obtain ⟨_, _, _, _⟩ := changes
    obtain ⟨_, _, _, _⟩ := other
    congr
    · exact same .mode
    · exact same .owner
    · exact same .group
    · exact same .pinned
  field?_unset field := by cases field <;> rfl
  field?_override base top field := by cases field <;> rfl

/-- The fields of `Defaults`, by operation. -/
inductive Defaults.Field
  | getStatus (field : StatusOptions.Field)
  | listStatus (field : ListOptions.Field)
  | openFile (field : OpenOptions.Field)

/-- What a field of `Defaults` holds. -/
abbrev Defaults.Field.Value : Field → Type
  | .getStatus field => field.Value
  | .listStatus field => field.Value
  | .openFile field => field.Value

open OptionFields in
instance : OptionFields Defaults where
  Field := Defaults.Field
  Value := Defaults.Field.Value
  field? defaults
    | .getStatus field => field? defaults.getStatus field
    | .listStatus field => field? defaults.listStatus field
    | .openFile field => field? defaults.openFile field
  ext {defaults other} same := by
    obtain ⟨_, _, _⟩ := defaults
    obtain ⟨_, _, _⟩ := other
    congr
    · exact ext fun field => same (.getStatus field)
    · exact ext fun field => same (.listStatus field)
    · exact ext fun field => same (.openFile field)
  field?_unset field := by
    -- every option of every operation is unset
    cases field with
    | getStatus field => exact @field?_unset StatusOptions _ _ field
    | listStatus field => exact @field?_unset ListOptions _ _ field
    | openFile field => exact @field?_unset OpenOptions _ _ field
  field?_override base top field := by
    cases field with
    | getStatus field => exact field?_override base.getStatus top.getStatus field
    | listStatus field => exact field?_override base.listStatus top.listStatus field
    | openFile field => exact field?_override base.openFile top.openFile field

end CacheFirst
