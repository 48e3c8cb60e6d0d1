/-!
# Text cut at separators

A path names its components between separators: cut at every separator, the pieces that are not
empty. Cutting is compatible with putting texts next to each other around a separator, so text built
from components gives them back.

## Main definitions

* `components`: the pieces of text between separators that are not empty.
* `trimSeparators`: text without its trailing separators.
* `splitScheme`: the two sides of the first `://`.
* `doubled`: whether two separators stand next to each other.

## Main results

* `components_append_separator`: the components of two texts around a separator.
* `components_joined`, `components_intercalate`, `components_append_led`: the components of text made
  of names with a separator after each of them, between any two, or before each of them.
* `components_trimSeparators`: trailing separators make no difference.
* `joined_eq_intercalate`: names that each end with a separator, and names with one between any two.
* `append_of_splitScheme`: what is split off is put together again around `://`.
* `splitScheme_append_of_none`: text without `://` is split off from what follows it around `://`.
* `splitScheme_eq_none_of_not_doubled`: text without doubled separators has no `://`.
-/

namespace CacheFirst

/-- The pieces of text between separators that are not empty. -/
def components (text : List Char) : List (List Char) :=
  (text.splitOn '/').filter (!·.isEmpty)

/-- Text without its trailing separators. -/
def trimSeparators (text : List Char) : List Char :=
  (text.reverse.dropWhile (· == '/')).reverse

/-- The text before and after the first `://`, if there is one. -/
def splitScheme : List Char → Option (List Char × List Char)
  | ':' :: '/' :: '/' :: rest => some ([], rest)
  | c :: rest => (splitScheme rest).map fun (before, after) => (c :: before, after)
  | [] => none

/-- Whether two separators stand next to each other. -/
def doubled : List Char → Bool
  | '/' :: '/' :: _ => true
  | _ :: rest => doubled rest
  | [] => false

/-! ### Components -/

/-- No piece holds a separator. -/
theorem not_mem_of_mem_splitOn {text piece : List Char} (member : piece ∈ text.splitOn '/') :
    '/' ∉ piece := by
  induction text generalizing piece with
  | nil => simp_all
  | cons c rest ih =>
    rw [List.splitOn_cons_eq_if_modifyHead] at member
    by_cases separator : c = '/'
    · simp only [separator, BEq.rfl, ↓reduceIte, List.mem_cons] at member
      rcases member with rfl | member
      · simp
      · exact ih member
    · obtain ⟨first, others, cut⟩ := List.exists_cons_of_ne_nil (List.splitOn_ne_nil '/' rest)
      simp only [beq_iff_eq, separator, ↓reduceIte, cut, List.modifyHead_cons,
        List.mem_cons] at member
      rcases member with rfl | member
      · have : '/' ∉ first := ih (by simp [cut])
        simp [this, Ne.symm separator]
      · exact ih (by simp [cut, member])

@[simp]
theorem components_nil : components [] = [] := rfl

/-- The components of two texts around a separator. -/
@[simp]
theorem components_append_separator (before after : List Char) :
    components (before ++ '/' :: after) = components before ++ components after := by
  simp [components, List.splitOn_append_cons_self]

@[simp]
theorem components_separator_cons (text : List Char) :
    components ('/' :: text) = components text :=
  components_append_separator [] text

theorem of_mem_components {text name : List Char} (member : name ∈ components text) :
    name ≠ [] ∧ '/' ∉ name := by
  simp only [components, List.mem_filter] at member
  exact ⟨by simpa using member.2, not_mem_of_mem_splitOn member.1⟩

theorem components_of_name {name : List Char} (nonempty : name ≠ []) (plain : '/' ∉ name) :
    components name = [name] := by
  simp [components, List.splitOn_eq_singleton plain, nonempty]

/-- Names that each end with a separator are the components of the text they make. -/
theorem components_joined {names : List (List Char)}
    (proper : ∀ name ∈ names, name ≠ [] ∧ '/' ∉ name) :
    components (names.flatMap (· ++ ['/'])) = names := by
  induction names with
  | nil => rfl
  | cons name others ih =>
    have head := proper name (by simp)
    have tail := ih fun other member => proper other (by simp [member])
    simp only [List.flatMap_cons, List.append_assoc, List.cons_append, List.nil_append,
      components_append_separator, components_of_name head.1 head.2, tail]

/-- Names with a separator between any two of them are the components of the text they make. -/
theorem components_intercalate {names : List (List Char)}
    (proper : ∀ name ∈ names, name ≠ [] ∧ '/' ∉ name) :
    components (['/'].intercalate names) = names := by
  cases names with
  | nil => rfl
  | cons name others =>
    have pieces := List.splitOn_intercalate '/' (fun other member => (proper other member).2)
      (List.cons_ne_nil name others)
    rw [components, pieces, List.filter_eq_self]
    intro other member
    simpa using (proper other member).1

/-- Names with a separator before each of them are the components of the text they make, and they
may be put behind any text. -/
theorem components_append_led (before : List Char) {names : List (List Char)}
    (proper : ∀ name ∈ names, name ≠ [] ∧ '/' ∉ name) :
    components (before ++ names.flatMap ('/' :: ·)) = components before ++ names := by
  induction names generalizing before with
  | nil => simp
  | cons name others ih =>
    have head := proper name (by simp)
    have tail := ih (before ++ '/' :: name) fun other member => proper other (by simp [member])
    rw [List.flatMap_cons, ← List.append_assoc, tail, components_append_separator,
      components_of_name head.1 head.2, List.append_assoc, List.singleton_append]

/-! ### Trailing separators -/

/-- Text is what is left of it without trailing separators, followed by separators. -/
theorem trimSeparators_append (text : List Char) :
    ∃ count, text = trimSeparators text ++ List.replicate count '/' := by
  refine ⟨(text.reverse.takeWhile (· == '/')).length, ?_⟩
  have all : text.reverse.takeWhile (· == '/') =
      List.replicate (text.reverse.takeWhile (· == '/')).length '/' := by
    refine List.eq_replicate_iff.mpr ⟨rfl, fun c member => ?_⟩
    have everywhere := List.all_takeWhile (p := (· == '/')) (l := text.reverse)
    simpa using List.all_eq_true.mp everywhere c member
  have whole := congrArg List.reverse (List.takeWhile_append_dropWhile (p := (· == '/'))
    (l := text.reverse))
  rw [List.reverse_append, List.reverse_reverse, all, List.reverse_replicate] at whole
  simpa [trimSeparators] using whole.symm

/-- Trailing separators make no difference to the components. -/
@[simp]
theorem components_trimSeparators (text : List Char) :
    components (trimSeparators text) = components text := by
  obtain ⟨count, whole⟩ := trimSeparators_append text
  -- a separator at the end names nothing, however many there are
  have silent (before : List Char) (count : Nat) :
      components (before ++ List.replicate count '/') = components before := by
    induction count with
    | zero => simp
    | succ count ih =>
      rw [List.replicate_succ', ← List.append_assoc, components_append_separator, ih]
      simp
  have trimmed := silent (trimSeparators text) count
  rwa [← whole, eq_comm] at trimmed

theorem getLast?_trimSeparators (text : List Char) :
    (trimSeparators text).getLast? ≠ some '/' := by
  intro ends
  rw [trimSeparators, List.getLast?_reverse] at ends
  have stopped := List.head?_dropWhile_not (· == '/') text.reverse
  rw [ends] at stopped
  simp at stopped

@[simp]
theorem trimSeparators_append_separator (text : List Char) :
    trimSeparators (text ++ ['/']) = trimSeparators text := by
  simp [trimSeparators]

theorem trimSeparators_of_getLast? {text : List Char} (ends : text.getLast? ≠ some '/') :
    trimSeparators text = text := by
  obtain ⟨count, whole⟩ := trimSeparators_append text
  cases count with
  | zero => simpa using whole.symm
  | succ count =>
    rw [whole, List.replicate_succ', ← List.append_assoc] at ends
    simp at ends

/-- Names that each end with a separator make the text of the same names with a separator between
any two, and one separator more. -/
theorem joined_eq_intercalate {names : List (List Char)} (nonempty : names ≠ []) :
    names.flatMap (· ++ ['/']) = ['/'].intercalate names ++ ['/'] := by
  induction names with
  | nil => contradiction
  | cons name others ih =>
    cases others with
    | nil => simp
    | cons second rest =>
      rw [List.flatMap_cons, ih (List.cons_ne_nil second rest), List.intercalate_cons_cons,
        List.append_assoc, List.append_assoc, List.append_assoc]

/-- Names with a separator between any two of them make a text that ends with no separator. -/
theorem getLast?_intercalate_ne_separator {names : List (List Char)}
    (proper : ∀ name ∈ names, name ≠ [] ∧ '/' ∉ name) :
    (['/'].intercalate names).getLast? ≠ some '/' := by
  induction names with
  | nil => simp
  | cons name others ih =>
    cases others with
    | nil =>
      intro ends
      have last := List.mem_of_getLast? ends
      exact (proper name (by simp)).2 (by simpa using last)
    | cons second rest =>
      have tail := ih fun other member => proper other (by simp [member])
      rw [List.intercalate_cons_cons, List.getLast?_append]
      cases ends : (['/'].intercalate (second :: rest)).getLast? with
      | some c => simpa [ends] using tail
      | none =>
        -- then there would be no text, and no names in it
        have empty := List.getLast?_eq_none_iff.mp ends
        have none := components_intercalate fun other member =>
          proper other (List.mem_cons_of_mem name member)
        simp [empty] at none

/-- Text that goes on with names, each led by a separator, does not end with one. -/
theorem getLast?_append_led (before : List Char) {names : List (List Char)} (nonempty : names ≠ [])
    (proper : ∀ name ∈ names, name ≠ [] ∧ '/' ∉ name) :
    (before ++ names.flatMap ('/' :: ·)).getLast? ≠ some '/' := by
  induction names generalizing before with
  | nil => contradiction
  | cons name others ih =>
    have tail := fun other member => proper other (List.mem_cons_of_mem name member)
    rw [List.flatMap_cons, ← List.append_assoc]
    cases others with
    | nil =>
      -- the last name is not empty, and holds no separator
      obtain ⟨c, rest, rfl⟩ := List.exists_cons_of_ne_nil (proper name (by simp)).1
      intro ends
      have last := List.mem_of_getLast? (l := c :: rest) (a := '/') (by simpa using ends)
      exact (proper _ (by simp)).2 last
    | cons second rest => exact ih (before ++ '/' :: name) (List.cons_ne_nil second rest) tail

/-! ### Doubled separators -/

/-- A separator is doubled by the text that it stands before, or within that text. -/
theorem doubled_cons (c : Char) (rest : List Char) :
    doubled (c :: rest) = ((c == '/' && rest.head? == some '/') || doubled rest) := by
  by_cases separator : c = '/'
  · subst separator
    cases rest with
    | nil => simp [doubled]
    | cons d others =>
      by_cases second : d = '/'
      · simp [second, doubled]
      · simp [doubled, second]
  · simp [doubled, separator]

theorem doubled_append_of_not_mem {name : List Char} (plain : '/' ∉ name) (rest : List Char) :
    doubled (name ++ rest) = doubled rest := by
  induction name with
  | nil => rfl
  | cons c others ih =>
    simp only [List.mem_cons, not_or] at plain
    rw [List.cons_append, doubled_cons, ih plain.2]
    simp [Ne.symm plain.1]

theorem head?_append_ne_separator {name : List Char} (proper : name ≠ [] ∧ '/' ∉ name)
    (rest : List Char) : (name ++ rest).head? ≠ some '/' := by
  cases name with
  | nil => simp at proper
  | cons c others =>
    intro starts
    simp_all

theorem head?_joined_ne_separator {names : List (List Char)}
    (proper : ∀ name ∈ names, name ≠ [] ∧ '/' ∉ name) :
    (names.flatMap (· ++ ['/'])).head? ≠ some '/' := by
  cases names with
  | nil => simp
  | cons name others =>
    rw [List.flatMap_cons, List.append_assoc]
    exact head?_append_ne_separator (proper name (by simp)) _

/-- Names with a separator between any two of them make a text that starts with no separator. -/
theorem head?_intercalate_ne_separator {names : List (List Char)}
    (proper : ∀ name ∈ names, name ≠ [] ∧ '/' ∉ name) :
    (['/'].intercalate names).head? ≠ some '/' := by
  match names with
  | [] => simp
  | [name] => simpa using head?_append_ne_separator (proper name (by simp)) []
  | name :: second :: rest =>
    rw [List.intercalate_cons_cons, List.append_assoc]
    exact head?_append_ne_separator (proper name (by simp)) _

/-- Names that each end with a separator double none. -/
theorem not_doubled_joined {names : List (List Char)}
    (proper : ∀ name ∈ names, name ≠ [] ∧ '/' ∉ name) :
    doubled (names.flatMap (· ++ ['/'])) = false := by
  induction names with
  | nil => rfl
  | cons name others ih =>
    have tail : ∀ other ∈ others, other ≠ [] ∧ '/' ∉ other :=
      fun other member => proper other (by simp [member])
    rw [List.flatMap_cons, List.append_assoc,
      doubled_append_of_not_mem (proper name (by simp)).2, List.singleton_append, doubled_cons]
    simp [head?_joined_ne_separator tail, ih tail]

/-- Names with a separator between any two of them double none. -/
theorem not_doubled_intercalate {names : List (List Char)}
    (proper : ∀ name ∈ names, name ≠ [] ∧ '/' ∉ name) :
    doubled (['/'].intercalate names) = false := by
  induction names with
  | nil => rfl
  | cons name others ih =>
    have tail : ∀ other ∈ others, other ≠ [] ∧ '/' ∉ other :=
      fun other member => proper other (by simp [member])
    cases others with
    | nil => simpa [doubled] using doubled_append_of_not_mem (proper name (by simp)).2 []
    | cons second rest =>
      -- behind the separator comes a name again
      rw [List.intercalate_cons_cons, List.append_assoc,
        doubled_append_of_not_mem (proper name (by simp)).2, List.singleton_append, doubled_cons]
      simp [head?_intercalate_ne_separator tail, ih tail]

/-- Names with a separator before each of them double none. -/
theorem not_doubled_led {names : List (List Char)}
    (proper : ∀ name ∈ names, name ≠ [] ∧ '/' ∉ name) :
    doubled (names.flatMap ('/' :: ·)) = false := by
  induction names with
  | nil => rfl
  | cons name others ih =>
    have head := proper name (by simp)
    have tail := ih fun other member => proper other (by simp [member])
    have start := head?_append_ne_separator head (others.flatMap ('/' :: ·))
    rw [List.flatMap_cons, List.cons_append, doubled_cons,
      doubled_append_of_not_mem head.2, tail]
    simp only [Bool.or_false, Bool.and_eq_false_iff, beq_eq_false_iff_ne]
    exact Or.inr start

/-! ### Schemes -/

/-- What is split off is put together again around `://`. -/
theorem append_of_splitScheme {text before after : List Char}
    (split : splitScheme text = some (before, after)) :
    before ++ ':' :: '/' :: '/' :: after = text := by
  fun_induction splitScheme text generalizing before with
  | case1 rest => simp_all
  | case2 c rest _ ih =>
    obtain ⟨⟨first, second⟩, found, same⟩ := Option.map_eq_some_iff.mp split
    cases same
    simp [ih found]
  | case3 => simp at split

/-- Text is split at its start if that is `://`, and else where the rest of it is split. -/
theorem splitScheme_cons (c : Char) (rest : List Char) :
    splitScheme (c :: rest) =
      if c = ':' ∧ ['/', '/'] <+: rest then some ([], rest.drop 2)
      else (splitScheme rest).map fun (before, after) => (c :: before, after) := by
  by_cases here : c = ':' ∧ ['/', '/'] <+: rest
  · obtain ⟨rfl, others, rfl⟩ := here
    simp [splitScheme]
  · rw [if_neg here, splitScheme]
    rintro others rfl rfl
    exact here ⟨rfl, others, rfl⟩

/-- Two separators start a text if they start its first part, or if that part has but one or none
and the other part goes on. -/
theorem separators_prefix_append {before after : List Char}
    (start : ['/', '/'] <+: before ++ after) :
    ['/', '/'] <+: before ∨ before = ['/'] ∧ after.head? = some '/' ∨
      before = [] ∧ ['/', '/'] <+: after := by
  obtain ⟨others, whole⟩ := start
  match before, whole with
  | [], whole => exact Or.inr (Or.inr ⟨rfl, others, whole⟩)
  | [c], whole =>
    simp only [List.cons_append, List.nil_append, List.cons.injEq] at whole
    obtain ⟨rfl, rfl⟩ := whole
    exact Or.inr (Or.inl ⟨rfl, rfl⟩)
  | c :: d :: rest, whole =>
    simp only [List.cons_append, List.nil_append, List.cons.injEq] at whole
    obtain ⟨rfl, rfl, -⟩ := whole
    exact Or.inl ⟨rest, rfl⟩

/-- Before the first `://` there is none. -/
theorem splitScheme_before {text before after : List Char}
    (split : splitScheme text = some (before, after)) : splitScheme before = none := by
  induction text generalizing before with
  | nil => simp [splitScheme] at split
  | cons c rest ih =>
    rw [splitScheme_cons] at split
    split at split
    · cases split
      rfl
    · next later =>
      obtain ⟨⟨name, others⟩, found, same⟩ := Option.map_eq_some_iff.mp split
      cases same
      -- a `://` at the start of the first part would be one at the start of the text
      have whole := append_of_splitScheme found
      rw [splitScheme_cons, if_neg fun here => later ⟨here.1, ?_⟩, ih found, Option.map_none]
      rw [← whole]
      exact here.2.trans (List.prefix_append _ _)

/-- Text without `://` is split off from what follows it around `://`. -/
theorem splitScheme_append_of_none {before : List Char} (unsplit : splitScheme before = none)
    (after : List Char) :
    splitScheme (before ++ ':' :: '/' :: '/' :: after) = some (before, after) := by
  induction before with
  | nil => rfl
  | cons c rest ih =>
    rw [splitScheme_cons] at unsplit
    split at unsplit
    · contradiction
    · next later =>
      have tail := ih (by simpa using unsplit)
      rw [List.cons_append, splitScheme_cons, if_neg, tail, Option.map_some]
      rintro ⟨colon, start⟩
      -- the colon of the `://` comes next, so no separator of another one can be there
      rcases separators_prefix_append start with within | ⟨-, next⟩ | ⟨-, others, next⟩
      · exact later ⟨colon, within⟩
      · simp at next
      · simp at next

/-- Where `://` is, separators are doubled. -/
theorem splitScheme_eq_none_of_not_doubled {text : List Char} (single : doubled text = false) :
    splitScheme text = none := by
  induction text with
  | nil => rfl
  | cons c rest ih =>
    rw [doubled_cons, Bool.or_eq_false_iff] at single
    rw [splitScheme_cons, if_neg, ih single.2, Option.map_none]
    rintro ⟨-, others, rfl⟩
    simp [doubled] at single

/-- No `://` comes about where text without one that ends in no separator goes on with text that
doubles none. -/
theorem splitScheme_append_eq_none {before after : List Char} (unsplit : splitScheme before = none)
    (ends : before.getLast? ≠ some '/') (single : doubled after = false) :
    splitScheme (before ++ after) = none := by
  induction before with
  | nil => exact splitScheme_eq_none_of_not_doubled single
  | cons c rest ih =>
    rw [splitScheme_cons] at unsplit
    split at unsplit
    · contradiction
    · next later =>
      have inner : rest.getLast? ≠ some '/' := by
        intro last
        rw [List.getLast?_cons, last] at ends
        simp at ends
      have tail := ih (by simpa using unsplit) inner
      rw [List.cons_append, splitScheme_cons, if_neg, tail, Option.map_none]
      rintro ⟨colon, start⟩
      -- the separators stand before the seam, around it, or behind it
      rcases separators_prefix_append start with within | ⟨rfl, -⟩ | ⟨-, others, rfl⟩
      · exact later ⟨colon, within⟩
      · simp at inner
      · simp [doubled] at single

/-- The start of a text without `://` has none. -/
theorem splitScheme_of_start {before text : List Char} (start : before <+: text)
    (unsplit : splitScheme text = none) : splitScheme before = none := by
  obtain ⟨after, rfl⟩ := start
  induction before with
  | nil => rfl
  | cons c rest ih =>
    rw [List.cons_append, splitScheme_cons] at unsplit
    split at unsplit
    · contradiction
    · next later =>
      rw [splitScheme_cons, if_neg, ih (by simpa using unsplit), Option.map_none]
      exact fun here => later ⟨here.1, here.2.trans (List.prefix_append _ _)⟩

end CacheFirst
