import CacheFirst.Proofs.Json.RoundTrip
import CacheFirst.Proofs.Path.RoundTrip
import CacheFirst.Proofs.Record.LastWins
import CacheFirst.Record.Lawful

/-!
# What was loaded can be stored and loaded again

All records are written as legible JSON, so their text is read back as the value that was written.
For most types this value gives the record back, whatever the record is. Mounts and configurations
hold paths, and a path made up somewhere may have no text; but a path that was read has one, and so
what was loaded can be loaded again.

The overrides of a configuration are written as members of an object, in the order of their paths.
Different paths have different texts, so none takes the place of another when they are read.

## Main definitions

* `WritesLegibly`: types that are written as legible values.
* `Reloads`: types for which loading, storing and loading again comes to the same.

## Main results

* `ofText?_toText`: a text that was written is read as the value it was written from.
* `decode_encode_overrides`: overrides of paths with text are read back.
* `records_reload`: all types that can be loaded.
-/

namespace CacheFirst

open Json (Value)

/-! ### Written legibly -/

/-- Types that are written as legible values. -/
class WritesLegibly (α : Type) [Encode α] : Prop where
  legible (value : α) : (encode value).Legible

export WritesLegibly (legible)

attribute [simp] WritesLegibly.legible

instance : WritesLegibly Bool where
  legible := .bool

instance : WritesLegibly String where
  legible := .str

instance : WritesLegibly UInt16 where
  legible value := .int value.toNat

instance : WritesLegibly UInt32 where
  legible value := .int value.toNat

instance : WritesLegibly UInt64 where
  legible value := .int value.toNat

instance : WritesLegibly Int64 where
  legible value := .int value.toInt

instance : WritesLegibly BlockSize where
  legible size := legible size.bytes

instance : WritesLegibly Path where
  legible path := .str path.toString

instance : WritesLegibly ReadType where
  legible readType := .str readType.name

instance {α : Type} [Encode α] [WritesLegibly α] : WritesLegibly (Option α) where
  legible
    | none => .null
    | some value => legible value

instance {α : Type} [Encode α] [WritesLegibly α] : WritesLegibly (List α) where
  legible values := by
    refine .arr fun element member => ?_
    obtain ⟨value, -, rfl⟩ := List.mem_map.mp member
    exact legible value

theorem legible_ofFields {fields : List (String × Value)}
    (each : ∀ field ∈ fields, field.2.Legible) : (Value.ofFields fields).Legible := by
  refine .obj (fun member there => ?_) fun member there => ?_
  all_goals obtain ⟨field, among, rfl⟩ := List.mem_map.mp there
  · rfl
  · exact each field among

instance : WritesLegibly StatusOptions where
  legible _ := legible_ofFields (by simp)

instance : WritesLegibly ListOptions where
  legible _ := legible_ofFields (by simp)

instance : WritesLegibly ExistsOptions where
  legible _ := legible_ofFields (by simp)

instance : WritesLegibly OpenOptions where
  legible _ := legible_ofFields (by simp)

instance : WritesLegibly CreateFileOptions where
  legible _ := legible_ofFields (by simp)

instance : WritesLegibly CreateDirectoryOptions where
  legible _ := legible_ofFields (by simp)

instance : WritesLegibly RenameOptions where
  legible _ := legible_ofFields (by simp)

instance : WritesLegibly AttributeChanges where
  legible _ := legible_ofFields (by simp)

instance : WritesLegibly Defaults where
  legible _ := legible_ofFields (by simp)

instance : WritesLegibly Status where
  legible _ := legible_ofFields (by simp)

instance : WritesLegibly Worker where
  legible _ := legible_ofFields (by simp)

instance : WritesLegibly BlockSpec where
  legible _ := legible_ofFields (by simp)

instance : WritesLegibly Block where
  legible _ := legible_ofFields (by simp)

instance : WritesLegibly Mount where
  legible _ := legible_ofFields (by simp)

instance : WritesLegibly Overrides where
  legible overrides := by
    refine legible_ofFields fun field member => ?_
    obtain ⟨_, -, rfl⟩ := List.mem_map.mp member
    exact legible _

instance : WritesLegibly Settings where
  legible settings := legible_ofFields (by simp)

/-- A text that was written is read as the value it was written from. -/
theorem ofText?_toText {α : Type} [Decode α] [Encode α] [WritesLegibly α] {value : α}
    (same : decode (encode value) = some value) :
    Decode.ofText? α (Encode.toText value) = some value := by
  rw [Decode.ofText?, Encode.toText, Json.parse_render (legible value), Option.bind_some, same]

/-! ### Paths -/

/-- A path that is named by a text has text. -/
theorem text_ne_nil_of_named {text : String} {path : Path}
    (named : (Path.ofString text).toOption = some path) : path.text ≠ [] := by
  cases read : Path.ofString text with
  | ok other =>
    rw [read] at named
    obtain rfl := Option.some.inj named
    exact Path.text_ne_nil_of_ofString read
  | error cause =>
    rw [read] at named
    cases named

theorem text_ne_nil_of_decode {value : Value} {path : Path} (read : decode value = some path) :
    path.text ≠ [] := by
  obtain ⟨text, -, named⟩ := Option.bind_eq_some_iff.mp read
  exact text_ne_nil_of_named named

theorem decode_encode_path {path : Path} (written : path.text ≠ []) :
    decode (encode path) = some path := by
  show (Path.ofString path.toString).toOption = some path
  rw [Path.ofString_text written]
  rfl

/-! ### Lists -/

/-- Whatever a list is mapped to, each of its results comes from one element. -/
theorem exists_of_mem_mapM {α β : Type} {f : α → Option β} {elements : List α} {results : List β}
    (mapped : elements.mapM f = some results) {result : β} (member : result ∈ results) :
    ∃ element ∈ elements, f element = some result := by
  induction elements generalizing results with
  | nil =>
    cases mapped
    cases member
  | cons first others step =>
    rw [List.mapM_cons] at mapped
    simp only [Option.bind_eq_bind, Option.pure_def, Option.bind_eq_some_iff, Option.some.injEq]
      at mapped
    obtain ⟨head, same, tail, rest, rfl⟩ := mapped
    rcases List.mem_cons.mp member with rfl | later
    · exact ⟨first, List.mem_cons_self, same⟩
    · obtain ⟨element, among, found⟩ := step rest later
      exact ⟨element, List.mem_cons_of_mem _ among, found⟩

/-! ### Overrides -/

/-- An override that is read is for a path with text. -/
theorem text_ne_nil_of_decodeOverride {member : Option String × Value} {entry : Path × Defaults}
    (decoded : decodeOverride member = some entry) : entry.1.text ≠ [] := by
  obtain ⟨name, given⟩ := member
  cases name with
  | none => cases decoded
  | some text =>
    obtain ⟨path, named, rest⟩ := Option.bind_eq_some_iff.mp decoded
    obtain ⟨_, -, made⟩ := Option.bind_eq_some_iff.mp rest
    obtain rfl := Option.some.inj made
    exact text_ne_nil_of_named named

theorem decodeOverride_encode {entry : Path × Defaults} (written : entry.1.text ≠ []) :
    decodeOverride (some entry.1.toString, encode entry.2) = some entry := by
  rw [decodeOverride, Path.ofString_text written, decode_encode]
  rfl

/-- All overrides that are read are for paths with text. -/
theorem text_ne_nil_of_mem_overrides {value : Value} {overrides : Overrides}
    (read : decode value = some overrides) {path : Path} (there : path ∈ overrides) :
    path.text ≠ [] := by
  cases value with
  | obj members =>
    obtain ⟨entries, mapped, inserted⟩ := Option.bind_eq_some_iff.mp read
    obtain rfl := Option.some.inj inserted
    -- a later override for the same path may have taken the place of an earlier one
    rcases mem_foldl_insert entries ∅ there with ⟨entry, member, rfl⟩ | before
    · obtain ⟨_, -, decoded⟩ := exists_of_mem_mapM mapped member
      exact text_ne_nil_of_decodeOverride decoded
    · simp at before
  | _ => cases read

/-- Overrides of paths with text are read back. -/
theorem decode_encode_overrides {overrides : Overrides}
    (written : ∀ path ∈ overrides, path.text ≠ []) :
    decode (encode overrides) = some overrides := by
  have each : ∀ entry ∈ overrides.toList, entry.1.text ≠ [] := by
    intro entry member
    have found := Std.ExtTreeMap.mem_toList_iff_getElem?_eq_some.mp member
    exact written entry.1 (of_getElem?_eq_some found)
  have members : ((overrides.toList.map fun entry => (entry.1.toString, encode entry.2)).map
      fun field => (some field.1, field.2)).mapM decodeOverride = some overrides.toList := by
    rw [List.map_map]
    exact mapM_map_eq_some fun entry member => decodeOverride_encode (each entry member)
  show (List.mapM decodeOverride _).bind _ = _
  rw [members]
  -- the paths are all different, so every entry is inserted anew
  exact congrArg some (foldl_insert_toList overrides)

/-! ### Mounts and configurations -/

instance : LawfulRecord BlockSize where
  decode_encode size := by
    show (decode (encode size.bytes)).bind BlockSize.ofBytes? = _
    rw [decode_encode, Option.bind_some, BlockSize.ofBytes?_bytes]
  encode_ne_null _ := nofun

theorem decode_of_decode_option {α : Type} [Decode α] {value : Value} {inner : α}
    (read : decode value = some (some inner)) : decode value = some inner := by
  cases value with
  | null => cases read
  | _ =>
    obtain ⟨other, found, same⟩ := Option.map_eq_some_iff.mp read
    obtain rfl := Option.some.inj same
    exact found

/-- The root of a mount that was read has text. -/
theorem text_ne_nil_of_root {value : Value} {mount : Mount} (read : decode value = some mount)
    {root : Path} (rooted : mount.root = some root) : root.text ≠ [] := by
  obtain ⟨given, -, read⟩ := Option.bind_eq_some_iff.mp read
  split at read
  · -- the fields are read one after the other, and the root is the first
    next root' _ _ =>
    obtain ⟨first, found, read⟩ := Option.bind_eq_some_iff.mp read
    obtain ⟨_, -, read⟩ := Option.bind_eq_some_iff.mp read
    obtain ⟨_, -, made⟩ := Option.bind_eq_some_iff.mp read
    obtain rfl := Option.some.inj made
    obtain rfl : first = some root := rooted
    cases root' with
    | none => cases found
    | some value => exact text_ne_nil_of_decode (decode_of_decode_option found)
  · cases read

/-- A mount is read back if its root has text. -/
theorem decode_encode_mount {mount : Mount} (written : ∀ root ∈ mount.root, root.text ≠ []) :
    decode (encode mount) = some mount := by
  have root : orElse none (some (encode mount.root)) = some mount.root := by
    show decode (encode mount.root) = _
    cases rooted : mount.root with
    | none => rfl
    | some root =>
      show (decode (encode root)).map some = _
      rw [decode_encode_path (written root rooted), Option.map_some]
  refine (decode_ofFields (α := Mount) (fun _ => rfl) rfl (by decide)).trans ?_
  simp [root]

/-- The overrides of a configuration that was read are for paths with text. -/
theorem text_ne_nil_of_overrides {value : Value} {settings : Settings}
    (read : decode value = some settings) {path : Path} (there : path ∈ settings.overrides) :
    path.text ≠ [] := by
  obtain ⟨given, -, read⟩ := Option.bind_eq_some_iff.mp read
  split at read
  · -- the overrides are read after the defaults
    next overrides =>
    obtain ⟨_, -, read⟩ := Option.bind_eq_some_iff.mp read
    obtain ⟨map, found, made⟩ := Option.bind_eq_some_iff.mp read
    obtain rfl := Option.some.inj made
    cases overrides with
    | none =>
      obtain rfl := Option.some.inj found
      simp at there
    | some value => exact text_ne_nil_of_mem_overrides found there
  · cases read

theorem decode_encode_settings {settings : Settings}
    (written : ∀ path ∈ settings.overrides, path.text ≠ []) :
    decode (encode settings) = some settings := by
  have overrides : orElse (∅ : Overrides) (some (encode (α := Overrides) settings.overrides)) =
      some settings.overrides := decode_encode_overrides written
  refine (decode_ofFields (α := Settings) (fun _ => rfl) rfl (by decide)).trans ?_
  simp [overrides]

/-! ### Reloading -/

/-- What is loaded from a text is loaded again from the text that it is stored as. -/
def Reloads (α : Type) [Decode α] [Encode α] : Prop :=
  ∀ (text : List Char) (value : α), Decode.ofText? α text = some value →
    Decode.ofText? α (Encode.toText value) = some value

theorem reloads_of_decode {α : Type} [Decode α] [Encode α] [WritesLegibly α]
    (again : ∀ {value : Value} {loaded : α}, decode value = some loaded →
      decode (encode loaded) = some loaded) : Reloads α := by
  intro text loaded read
  obtain ⟨value, -, decoded⟩ := Option.bind_eq_some_iff.mp read
  exact ofText?_toText (again decoded)

theorem reloads_of_lawful {α : Type} [Decode α] [Encode α] [WritesLegibly α] [LawfulRecord α] :
    Reloads α :=
  reloads_of_decode fun {_} {loaded} _ => decode_encode loaded

theorem loadText_eq_ok_iff {α : Type} [Decode α] {text : String} {value : α} :
    loadText α text = .ok value ↔ Decode.ofText? α text.toList = some value := by
  unfold loadText
  cases Decode.ofText? α text.toList <;> simp

theorem Reloads.loadText {α : Type} [Decode α] [Encode α] (reloads : Reloads α) {text : String}
    {value : α} (loaded : CacheFirst.loadText α text = .ok value) :
    CacheFirst.loadText α (String.ofList (Encode.toText value)) = .ok value := by
  rw [loadText_eq_ok_iff, String.toList_ofList]
  exact reloads _ _ (loadText_eq_ok_iff.mp loaded)

/-- All that can be loaded from a text is loaded again, unchanged, from the text that it is stored as:
mounts, whose blocks are never empty, configurations, and every other record. -/
theorem records_reload :
    (∀ (text : String) (mount : Mount), loadText Mount text = .ok mount →
      loadText Mount (String.ofList (Encode.toText mount)) = .ok mount ∧
        0 < mount.blockSize.bytes) ∧
    (∀ (text : String) (settings : Settings), loadText Settings text = .ok settings →
      loadText Settings (String.ofList (Encode.toText settings)) = .ok settings) ∧
    (Reloads Status ∧ Reloads BlockSpec ∧ Reloads Block ∧ Reloads Worker ∧ Reloads Defaults) ∧
    (Reloads StatusOptions ∧ Reloads ListOptions ∧ Reloads ExistsOptions ∧ Reloads OpenOptions ∧
      Reloads CreateFileOptions ∧ Reloads CreateDirectoryOptions ∧ Reloads RenameOptions ∧
      Reloads AttributeChanges) := by
  have mounts : Reloads Mount := reloads_of_decode fun read =>
    decode_encode_mount fun root rooted => text_ne_nil_of_root read rooted
  have settings : Reloads Settings := reloads_of_decode fun read =>
    decode_encode_settings fun path there => text_ne_nil_of_overrides read there
  refine ⟨fun text mount loaded => ⟨mounts.loadText loaded, ?positive⟩,
    fun text _ loaded => settings.loadText loaded, ⟨?_, ?_, ?_, ?_, ?_⟩, ?_, ?_, ?_, ?_, ?_, ?_, ?_, ?_⟩
  case positive =>
    rw [UInt64.lt_iff_toNat_lt]
    exact Nat.pos_of_ne_zero fun zero => mount.blockSize.positive (UInt64.toNat_inj.mp zero)
  all_goals exact reloads_of_lawful

/-- Two spellings of one prefix are different overrides, and stay so. -/
theorem records_reload_spellings :
    let text := "\x7b\"overrides\":\x7b\"/a\":[],\"\\/a\\u002f\":[[-1]]\x7d\x7d"
    ∃ settings, loadText Settings text = .ok settings ∧
      (settings.overrides.toList.map fun entry => (entry.1.text, entry.2.getStatus.syncIntervalMs)) =
        [(['/', 'a'], none), (['/', 'a', '/'], some (-1))] ∧
      loadText Settings (String.ofList (Encode.toText settings)) = .ok settings := by
  intro text
  have read : (loadText Settings text).toOption.map (fun settings => settings.overrides.toList.map
      fun entry => (entry.1.text, entry.2.getStatus.syncIntervalMs)) =
        some [(['/', 'a'], none), (['/', 'a', '/'], some (-1))] := by decide +kernel
  cases loaded : loadText Settings text with
  | error error =>
    rw [loaded] at read
    cases read
  | ok settings =>
    rw [loaded] at read
    exact ⟨settings, rfl, Option.some.inj read, records_reload.2.1 text settings loaded⟩

end CacheFirst
